import FleetRollout.Catalog.Entry
import FleetRollout.Document.Codec

set_option autoImplicit false

namespace FleetRollout

def Architecture.codec : Codec Architecture := .named name named?

def PackageKind.codec : Codec PackageKind := .named name named?

def Team.codec : Codec Team where
  encode team := .table
    [("id", .text team.id), ("name", .text team.name), ("created_at", .number team.createdAt)]
  decode format document := do
    let fields ← Fields.of? format ["id", "name", "created_at"] 3 document
    some
      { id := ← fields.required "id" .text
        name := ← fields.required "name" .text
        createdAt := ← fields.required "created_at" .word }

def Application.codec : Codec Application where
  encode application := .table
    [("id", .text application.id),
      ("product_id", .optional .text application.productId),
      ("name", .text application.name),
      ("description", .text application.description),
      ("team_id", .text application.teamId),
      ("created_at", .number application.createdAt)]
  decode format document := do
    let fields ← Fields.of? format
      ["id", "product_id", "name", "description", "team_id", "created_at"] 6 document
    some
      { id := ← fields.required "id" .text
        productId := ← fields.optional "product_id" .text
        name := ← fields.required "name" .text
        description := ← fields.required "description" .text
        teamId := ← fields.required "team_id" .text
        createdAt := ← fields.required "created_at" .word }

def Channel.codec : Codec Channel where
  encode channel := .table
    [("id", .text channel.id),
      ("name", .text channel.name),
      ("color", .text channel.color),
      ("application_id", .text channel.applicationId),
      ("arch", Architecture.codec.encode channel.architecture),
      ("package_id", .optional .text channel.packageId),
      ("created_at", .number channel.createdAt)]
  decode format document := do
    let fields ← Fields.of? format
      ["id", "name", "color", "application_id", "arch", "package_id", "created_at"] 7 document
    some
      { id := ← fields.required "id" .text
        name := ← fields.required "name" .text
        color := ← fields.required "color" .text
        applicationId := ← fields.required "application_id" .text
        architecture := ← fields.required "arch" Architecture.codec
        packageId := ← fields.optional "package_id" .text
        createdAt := ← fields.required "created_at" .word }

def InstallAction.codec : Codec InstallAction where
  encode action := .table
    [("event", .text action.event),
      ("sha256", .text action.sha256),
      ("needs_admin", .boolean action.needsAdmin),
      ("is_delta", .boolean action.isDelta),
      ("disable_payload_backoff", .boolean action.disablePayloadBackoff),
      ("deadline", .optional .text action.deadline)]
  decode format document := do
    let fields ← Fields.of? format
      ["event", "sha256", "needs_admin", "is_delta", "disable_payload_backoff", "deadline"] 6
      document
    some
      { event := ← fields.required "event" .text
        sha256 := ← fields.required "sha256" .text
        needsAdmin := ← fields.required "needs_admin" .boolean
        isDelta := ← fields.required "is_delta" .boolean
        disablePayloadBackoff := ← fields.required "disable_payload_backoff" .boolean
        deadline := ← fields.optional "deadline" .text }

def PackageFile.codec : Codec PackageFile where
  encode file := .table
    [("name", .text file.name),
      ("size", .number file.size),
      ("hash", .text file.hash),
      ("hash256", .optional .text file.hash256)]
  decode format document := do
    let fields ← Fields.of? format ["name", "size", "hash", "hash256"] 4 document
    some
      { name := ← fields.required "name" .text
        size := ← fields.required "size" .word
        hash := ← fields.required "hash" .text
        hash256 := ← fields.optional "hash256" .text }

def Package.codec : Codec Package where
  encode package := .table
    [("id", .text package.id),
      ("application_id", .text package.applicationId),
      ("version", .text package.version),
      ("arch", Architecture.codec.encode package.architecture),
      ("kind", PackageKind.codec.encode package.kind),
      ("url", .text package.url),
      ("filename", .text package.filename),
      ("description", .text package.description),
      ("size", .number package.size),
      ("hash", .text package.hash),
      ("action", .optional InstallAction.codec.encode package.action),
      ("extra_files", PackageFile.codec.list.encode package.extraFiles),
      ("channels_blacklist", .texts package.channelsBlacklist),
      ("created_at", .number package.createdAt)]
  decode format document := do
    let fields ← Fields.of? format
      ["id", "application_id", "version", "arch", "kind", "url", "filename", "description", "size",
        "hash", "action", "extra_files", "channels_blacklist", "created_at"] 14 document
    some
      { id := ← fields.required "id" .text
        applicationId := ← fields.required "application_id" .text
        version := ← fields.required "version" .text
        architecture := ← fields.required "arch" Architecture.codec
        kind := ← fields.required "kind" PackageKind.codec
        url := ← fields.required "url" .text
        filename := ← fields.required "filename" .text
        description := ← fields.required "description" .text
        size := ← fields.required "size" .word
        hash := ← fields.required "hash" .text
        action := ← fields.optional "action" InstallAction.codec
        extraFiles := ← fields.orDefault "extra_files" PackageFile.codec.list []
        channelsBlacklist := ← fields.orDefault "channels_blacklist" Codec.text.list []
        createdAt := ← fields.required "created_at" .word }

def Floor.codec : Codec Floor where
  encode floor := .table
    [("channel_id", .text floor.channelId),
      ("package_id", .text floor.packageId),
      ("reason", .text floor.reason),
      ("created_at", .number floor.createdAt)]
  decode format document := do
    let fields ← Fields.of? format ["channel_id", "package_id", "reason", "created_at"] 4 document
    some
      { channelId := ← fields.required "channel_id" .text
        packageId := ← fields.required "package_id" .text
        reason := ← fields.required "reason" .text
        createdAt := ← fields.required "created_at" .word }

def FloorPackage.codec : Codec FloorPackage where
  encode floor :=
    .table [("package", Package.codec.encode floor.package), ("reason", .text floor.reason)]
  decode format document := do
    let fields ← Fields.of? format ["package", "reason"] 2 document
    some
      { package := ← fields.required "package" Package.codec
        reason := ← fields.required "reason" .text }

-- Every field of a policy has a default.
def Policy.codec : Codec Policy where
  encode policy := .table
    [("updates_enabled", .boolean policy.updatesEnabled),
      ("safe_mode", .boolean policy.safeMode),
      ("office_hours", .boolean policy.officeHours),
      ("timezone", .optional .text policy.timezone),
      ("period_interval_secs", .number policy.periodSeconds),
      ("max_updates_per_period", .number policy.maxUpdatesPerPeriod),
      ("update_timeout_secs", .number policy.timeoutSeconds)]
  decode format document := do
    let fields ← Fields.of? format
      ["updates_enabled", "safe_mode", "office_hours", "timezone", "period_interval_secs",
        "max_updates_per_period", "update_timeout_secs"] 0 document
    let standard : Policy := {}
    some
      { updatesEnabled := ← fields.orDefault "updates_enabled" .boolean standard.updatesEnabled
        safeMode := ← fields.orDefault "safe_mode" .boolean standard.safeMode
        officeHours := ← fields.orDefault "office_hours" .boolean standard.officeHours
        timezone := ← fields.optional "timezone" .text
        periodSeconds := ← fields.orDefault "period_interval_secs" .word standard.periodSeconds
        maxUpdatesPerPeriod :=
          ← fields.orDefault "max_updates_per_period" .word32 standard.maxUpdatesPerPeriod
        timeoutSeconds := ← fields.orDefault "update_timeout_secs" .word standard.timeoutSeconds }

def Group.codec : Codec Group where
  encode group := .table
    [("id", .text group.id),
      ("name", .text group.name),
      ("description", .text group.description),
      ("application_id", .text group.applicationId),
      ("channel_id", .optional .text group.channelId),
      ("policy", Policy.codec.encode group.policy),
      ("rollout_in_progress", .boolean group.rolloutInProgress),
      ("track", .text group.track),
      ("created_at", .number group.createdAt)]
  decode format document := do
    let fields ← Fields.of? format
      ["id", "name", "description", "application_id", "channel_id", "policy",
        "rollout_in_progress", "track", "created_at"] 9 document
    some
      { id := ← fields.required "id" .text
        name := ← fields.required "name" .text
        description := ← fields.required "description" .text
        applicationId := ← fields.required "application_id" .text
        channelId := ← fields.optional "channel_id" .text
        policy := ← fields.required "policy" Policy.codec
        rolloutInProgress := ← fields.required "rollout_in_progress" .boolean
        track := ← fields.required "track" .text
        createdAt := ← fields.required "created_at" .word }

def NewApplication.codec : Codec NewApplication where
  encode new := .table
    [("id", .optional .text new.id),
      ("product_id", .optional .text new.productId),
      ("name", .text new.name),
      ("description", .text new.description),
      ("team_id", .text new.teamId)]
  decode format document := do
    let fields ← Fields.of? format
      ["id", "product_id", "name", "description", "team_id"] 5 document
    some
      { id := ← fields.optional "id" .text
        productId := ← fields.optional "product_id" .text
        name := ← fields.required "name" .text
        description := ← fields.orDefault "description" .text ""
        teamId := ← fields.required "team_id" .text }

def NewChannel.codec : Codec NewChannel where
  encode new := .table
    [("id", .optional .text new.id),
      ("name", .text new.name),
      ("color", .text new.color),
      ("application_id", .text new.applicationId),
      ("arch", Architecture.codec.encode new.architecture),
      ("package_id", .optional .text new.packageId)]
  decode format document := do
    let fields ← Fields.of? format
      ["id", "name", "color", "application_id", "arch", "package_id"] 5 document
    some
      { id := ← fields.optional "id" .text
        name := ← fields.required "name" .text
        color := ← fields.orDefault "color" .text ""
        applicationId := ← fields.required "application_id" .text
        architecture := ← fields.required "arch" Architecture.codec
        packageId := ← fields.optional "package_id" .text }

def NewPackage.codec : Codec NewPackage where
  encode new := .table
    [("id", .optional .text new.id),
      ("application_id", .text new.applicationId),
      ("version", .text new.version),
      ("arch", Architecture.codec.encode new.architecture),
      ("kind", PackageKind.codec.encode new.kind),
      ("url", .text new.url),
      ("filename", .text new.filename),
      ("description", .text new.description),
      ("size", .number new.size),
      ("hash", .text new.hash),
      ("action", .optional InstallAction.codec.encode new.action),
      ("extra_files", PackageFile.codec.list.encode new.extraFiles),
      ("channels_blacklist", .texts new.channelsBlacklist)]
  decode format document := do
    let fields ← Fields.of? format
      ["id", "application_id", "version", "arch", "kind", "url", "filename", "description", "size",
        "hash", "action", "extra_files", "channels_blacklist"] 6 document
    some
      { id := ← fields.optional "id" .text
        applicationId := ← fields.required "application_id" .text
        version := ← fields.required "version" .text
        architecture := ← fields.required "arch" Architecture.codec
        kind := ← fields.required "kind" PackageKind.codec
        url := ← fields.required "url" .text
        filename := ← fields.orDefault "filename" .text ""
        description := ← fields.orDefault "description" .text ""
        size := ← fields.orDefault "size" .word 0
        hash := ← fields.orDefault "hash" .text ""
        action := ← fields.optional "action" InstallAction.codec
        extraFiles := ← fields.orDefault "extra_files" PackageFile.codec.list []
        channelsBlacklist := ← fields.orDefault "channels_blacklist" Codec.text.list [] }

def NewGroup.codec : Codec NewGroup where
  encode new := .table
    [("id", .optional .text new.id),
      ("name", .text new.name),
      ("description", .text new.description),
      ("application_id", .text new.applicationId),
      ("channel_id", .optional .text new.channelId),
      ("policy", Policy.codec.encode new.policy),
      ("track", .optional .text new.track)]
  decode format document := do
    let fields ← Fields.of? format
      ["id", "name", "description", "application_id", "channel_id", "policy", "track"] 4 document
    some
      { id := ← fields.optional "id" .text
        name := ← fields.required "name" .text
        description := ← fields.orDefault "description" .text ""
        applicationId := ← fields.required "application_id" .text
        channelId := ← fields.optional "channel_id" .text
        policy := ← fields.orDefault "policy" Policy.codec {}
        track := ← fields.optional "track" .text }

end FleetRollout
