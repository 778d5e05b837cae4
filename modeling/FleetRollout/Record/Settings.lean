import FleetRollout.Engine.Manifest
import FleetRollout.Engine.Statistics
import FleetRollout.Record.Catalog

set_option autoImplicit false

namespace FleetRollout

def Window.codec : Codec Window := .named name named?

def EngineConfig.codec : Codec EngineConfig where
  encode config := .table
    [("max_floors_per_response", .number config.maxFloorsPerResponse),
      ("activity_dedupe_window_secs", .number config.dedupeSeconds),
      ("request_timeout_secs", .number config.requestTimeoutSeconds)]
  decode format document := do
    let fields ← Fields.of? format
      ["max_floors_per_response", "activity_dedupe_window_secs", "request_timeout_secs"] 0 document
    let standard : EngineConfig := {}
    some
      { maxFloorsPerResponse :=
          ← fields.orDefault "max_floors_per_response" .word standard.maxFloorsPerResponse
        dedupeSeconds :=
          ← fields.orDefault "activity_dedupe_window_secs" .word standard.dedupeSeconds
        requestTimeoutSeconds :=
          ← fields.orDefault "request_timeout_secs" .word standard.requestTimeoutSeconds }

structure StoreSettings where
  path : String := "rollgate.redb"
  deriving Repr, DecidableEq

structure LogSettings where
  filter : Option String := none
  json : Bool := false
  deriving Repr, DecidableEq

structure Settings where
  store : StoreSettings := {}
  engine : EngineConfig := {}
  log : LogSettings := {}
  deriving Repr, DecidableEq

def defaultLogFilter : String := "info,rollgate=debug,rollctl=debug"

def Settings.logFilter (settings : Settings) (environment : Option String) : String :=
  ((environment.filter fun filter => !Text.isBlankText filter) <|> settings.log.filter).getD
    defaultLogFilter

def StoreSettings.codec : Codec StoreSettings where
  encode settings := .table [("path", .text settings.path)]
  decode format document := do
    let fields ← Fields.of? format ["path"] 0 document
    some { path := ← fields.orDefault "path" .text ({} : StoreSettings).path }

def LogSettings.codec : Codec LogSettings where
  encode settings :=
    .table [("filter", .optional .text settings.filter), ("json", .boolean settings.json)]
  decode format document := do
    let fields ← Fields.of? format ["filter", "json"] 0 document
    some
      { filter := ← fields.optional "filter" .text
        json := ← fields.orDefault "json" .boolean false }

def Settings.codec : Codec Settings where
  encode settings := .table
    [("store", StoreSettings.codec.encode settings.store),
      ("engine", EngineConfig.codec.encode settings.engine),
      ("log", LogSettings.codec.encode settings.log)]
  decode format document := do
    let fields ← Fields.of? format ["store", "engine", "log"] 0 document
    some
      { store := ← fields.orDefault "store" StoreSettings.codec {}
        engine := ← fields.orDefault "engine" EngineConfig.codec {}
        log := ← fields.orDefault "log" LogSettings.codec {} }

def TeamSpec.codec : Codec TeamSpec where
  encode spec := .table [("id", .text spec.id), ("name", .text spec.name)]
  decode format document := do
    let fields ← Fields.of? format ["id", "name"] 2 document
    some { id := ← fields.required "id" .text, name := ← fields.required "name" .text }

def FloorSpec.codec : Codec FloorSpec where
  encode spec := .table
    [("channel_id", .text spec.channelId),
      ("package_id", .text spec.packageId),
      ("reason", .text spec.reason)]
  decode format document := do
    let fields ← Fields.of? format ["channel_id", "package_id", "reason"] 2 document
    some
      { channelId := ← fields.required "channel_id" .text
        packageId := ← fields.required "package_id" .text
        reason := ← fields.orDefault "reason" .text "" }

def Manifest.codec : Codec Manifest where
  encode manifest := .table
    [("teams", TeamSpec.codec.list.encode manifest.teams),
      ("applications", NewApplication.codec.list.encode manifest.applications),
      ("channels", NewChannel.codec.list.encode manifest.channels),
      ("packages", NewPackage.codec.list.encode manifest.packages),
      ("groups", NewGroup.codec.list.encode manifest.groups),
      ("floors", FloorSpec.codec.list.encode manifest.floors)]
  decode format document := do
    let fields ← Fields.of? format
      ["teams", "applications", "channels", "packages", "groups", "floors"] 0 document
    some
      { teams := ← fields.orDefault "teams" TeamSpec.codec.list []
        applications := ← fields.orDefault "applications" NewApplication.codec.list []
        channels := ← fields.orDefault "channels" NewChannel.codec.list []
        packages := ← fields.orDefault "packages" NewPackage.codec.list []
        groups := ← fields.orDefault "groups" NewGroup.codec.list []
        floors := ← fields.orDefault "floors" FloorSpec.codec.list [] }

def ApplySummary.document (summary : ApplySummary) : Document :=
  .table [("created", .number summary.created), ("updated", .number summary.updated)]

end FleetRollout
