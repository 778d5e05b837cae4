import FleetRollout.Calendar.Date
import FleetRollout.Document.Codec
import FleetRollout.Fleet.Activity
import FleetRollout.Store.Timeline

set_option autoImplicit false

namespace FleetRollout

def Version.codec : Codec Version where
  encode version := .text version.text
  decode format document := (Codec.text.decode format document).bind Version.parse?

def Status.codec : Codec Status := .named name named?

def ActivityClass.codec : Codec ActivityClass := .named name named?

def Severity.codec : Codec Severity := .named name named?

def Instance.codec : Codec Instance where
  encode machine := .table
    [("id", .text machine.id),
      ("ip", .text machine.ip),
      ("alias", .optional .text machine.nickname),
      ("created_at", .number machine.createdAt)]
  decode format document := do
    let fields ← Fields.of? format ["id", "ip", "alias", "created_at"] 4 document
    some
      { id := ← fields.required "id" .text
        ip := ← fields.required "ip" .text
        nickname := ← fields.optional "alias" .text
        createdAt := ← fields.required "created_at" .word }

def Installation.codec : Codec Installation where
  encode row := .table
    [("instance_id", .text row.instanceId),
      ("application_id", .text row.applicationId),
      ("group_id", .text row.groupId),
      ("version", .text row.version),
      ("last_check_at", .number row.lastCheckAt),
      ("last_update_granted_at", .optional .number row.grantedAt),
      ("last_update_version", .optional .text row.grantedVersion),
      ("last_update_target", .optional .text row.grantedTarget),
      ("status", Status.codec.encode row.status),
      ("update_in_progress", .boolean row.inProgress),
      ("created_at", .number row.createdAt)]
  decode format document := do
    let fields ← Fields.of? format
      ["instance_id", "application_id", "group_id", "version", "last_check_at",
        "last_update_granted_at", "last_update_version", "last_update_target", "status",
        "update_in_progress", "created_at"] 11 document
    some
      { instanceId := ← fields.required "instance_id" .text
        applicationId := ← fields.required "application_id" .text
        groupId := ← fields.required "group_id" .text
        version := ← fields.required "version" .text
        lastCheckAt := ← fields.required "last_check_at" .word
        grantedAt := ← fields.optional "last_update_granted_at" .word
        grantedVersion := ← fields.optional "last_update_version" .text
        grantedTarget := ← fields.optional "last_update_target" .text
        status := ← fields.required "status" Status.codec
        inProgress := ← fields.required "update_in_progress" .boolean
        createdAt := ← fields.required "created_at" .word }

def HistoryEntry.codec : Codec HistoryEntry where
  encode entry := .table
    [("instance_id", .text entry.instanceId),
      ("application_id", .text entry.applicationId),
      ("group_id", .text entry.groupId),
      ("status", Status.codec.encode entry.status),
      ("version", .text entry.version),
      ("created_at", .number entry.createdAt),
      ("error_code", .optional .text entry.errorCode)]
  decode format document := do
    let fields ← Fields.of? format
      ["instance_id", "application_id", "group_id", "status", "version", "created_at",
        "error_code"] 7 document
    some
      { instanceId := ← fields.required "instance_id" .text
        applicationId := ← fields.required "application_id" .text
        groupId := ← fields.required "group_id" .text
        status := ← fields.required "status" Status.codec
        version := ← fields.required "version" .text
        createdAt := ← fields.required "created_at" .word
        errorCode := ← fields.optional "error_code" .text }

def ActivityEntry.codec : Codec ActivityEntry where
  encode entry := .table
    [("application_id", .text entry.applicationId),
      ("group_id", .optional .text entry.groupId),
      ("channel_id", .optional .text entry.channelId),
      ("instance_id", .optional .text entry.instanceId),
      ("class", ActivityClass.codec.encode entry.kind),
      ("severity", Severity.codec.encode entry.severity),
      ("version", .text entry.version),
      ("created_at", .number entry.createdAt)]
  decode format document := do
    let fields ← Fields.of? format
      ["application_id", "group_id", "channel_id", "instance_id", "class", "severity", "version",
        "created_at"] 8 document
    some
      { applicationId := ← fields.required "application_id" .text
        groupId := ← fields.optional "group_id" .text
        channelId := ← fields.optional "channel_id" .text
        instanceId := ← fields.optional "instance_id" .text
        kind := ← fields.required "class" ActivityClass.codec
        severity := ← fields.required "severity" Severity.codec
        version := ← fields.required "version" .text
        createdAt := ← fields.required "created_at" .word }

def UpdateCounters.codec : Codec UpdateCounters where
  encode counters := .table
    [("total_instances", .number counters.total),
      ("updates_to_current_version_granted", .number counters.granted),
      ("updates_to_current_version_attempted", .number counters.attempted),
      ("updates_to_current_version_succeeded", .number counters.succeeded),
      ("updates_to_current_version_failed", .number counters.failed),
      ("updates_granted_in_last_period", .number counters.grantedInPeriod),
      ("updates_in_progress", .number counters.inProgress),
      ("updates_timed_out", .number counters.timedOut)]
  decode format document := do
    let fields ← Fields.of? format
      ["total_instances", "updates_to_current_version_granted",
        "updates_to_current_version_attempted", "updates_to_current_version_succeeded",
        "updates_to_current_version_failed", "updates_granted_in_last_period",
        "updates_in_progress", "updates_timed_out"] 8 document
    some
      { total := ← fields.required "total_instances" .word
        granted := ← fields.required "updates_to_current_version_granted" .word
        attempted := ← fields.required "updates_to_current_version_attempted" .word
        succeeded := ← fields.required "updates_to_current_version_succeeded" .word
        failed := ← fields.required "updates_to_current_version_failed" .word
        grantedInPeriod := ← fields.required "updates_granted_in_last_period" .word
        inProgress := ← fields.required "updates_in_progress" .word
        timedOut := ← fields.required "updates_timed_out" .word }

def StatusCensus.document (census : StatusCensus) : Document :=
  .table (("total", .number census.total) ::
    Status.every.map fun status => (status.name, .number (census.count status)))

def VersionShare.document (share : VersionShare) : Document :=
  .table
    [("version", .text share.version),
      ("instances", .number share.instances),
      ("percentage", .real share.percentage)]

namespace Timeline

def counted (counts : List (String × Nat)) : Document :=
  .table (counts.map fun (version, count) => (version, .number count))

def bucketDocument {α : Type} (counts : Bucket α → Document) (bucket : Bucket α) : Document :=
  .table
    [("start", .number bucket.start),
      ("label", .text (Calendar.label bucket.start)),
      ("counts", counts bucket)]

def versionsDocument (timeline : List (Bucket String)) : Document :=
  .list (timeline.map (bucketDocument fun bucket => counted bucket.counts))

def countsOf (status : Status) (counts : List ((Status × String) × Nat)) : List (String × Nat) :=
  counts.filterMap fun ((counted, version), count) =>
    if counted = status then some (version, count) else none

def statusCounts (counts : List ((Status × String) × Nat)) : Document :=
  .table ((counts.map (·.1.1)).eraseDups.map fun status =>
    (status.name, counted (countsOf status counts)))

def statusesDocument (timeline : List (Bucket (Status × String))) : Document :=
  .list (timeline.map (bucketDocument fun bucket => statusCounts bucket.counts))

end Timeline

end FleetRollout
