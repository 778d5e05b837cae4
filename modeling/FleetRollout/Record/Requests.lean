import FleetRollout.Engine.Requests
import FleetRollout.Record.Catalog
import FleetRollout.Record.Fleet

set_option autoImplicit false

namespace FleetRollout

def EventKind.codec : Codec EventKind := .named name named?

def EventResult.codec : Codec EventResult := .named name named?

def Registration.codec : Codec Registration where
  encode request := .table
    [("instance_id", .text request.instanceId),
      ("alias", .optional .text request.nickname),
      ("ip", .text request.ip),
      ("version", .text request.version),
      ("app_id", .text request.applicationId),
      ("group_id", .text request.groupId)]
  decode format document := do
    let fields ← Fields.of? format
      ["instance_id", "alias", "ip", "version", "app_id", "group_id"] 6 document
    some
      { instanceId := ← fields.required "instance_id" .text
        nickname := ← fields.optional "alias" .text
        ip := ← fields.required "ip" .text
        version := ← fields.required "version" .text
        applicationId := ← fields.required "app_id" .text
        groupId := ← fields.required "group_id" .text }

namespace ProgressEvent

def fieldNames : List String := ["event_type", "event_result", "previous_version", "error_code"]

def encodeFields (event : ProgressEvent) : List (String × Document) :=
  [("event_type", .number event.kind),
    ("event_result", .number event.result),
    ("previous_version", .optional .text event.previousVersion),
    ("error_code", .optional .text event.errorCode)]

def decodeFields (fields : Fields) : Option ProgressEvent := do
  some
    { kind := ← fields.required "event_type" .word32
      result := ← fields.required "event_result" .word32
      previousVersion := ← fields.optional "previous_version" .text
      errorCode := ← fields.optional "error_code" .text }

def codec : Codec ProgressEvent where
  encode event := .table event.encodeFields
  decode format document := do decodeFields (← Fields.of? format fieldNames 2 document)

end ProgressEvent

-- A report holds the fields of its event beside its own, so it is no list of fields.
def EventReport.codec : Codec EventReport where
  encode report := .table
    ([("instance_id", .text report.instanceId),
      ("app_id", .text report.applicationId),
      ("group_id", .text report.groupId)] ++ report.event.encodeFields)
  decode
    | format, .table entries => do
        let fields : Fields := { format, entries }
        some
          { instanceId := ← fields.required "instance_id" .text
            applicationId := ← fields.required "app_id" .text
            groupId := ← fields.required "group_id" .text
            event := ← ProgressEvent.decodeFields fields }
    | _, _ => none

def CheckInRequest.codec : Codec CheckInRequest where
  encode request := .table
    [("instance_id", .text request.instanceId),
      ("alias", .optional .text request.nickname),
      ("ip", .text request.ip),
      ("version", .text request.version),
      ("app_id", .text request.applicationId),
      ("track", .text request.track),
      ("arch", .text request.architecture),
      ("events", ProgressEvent.codec.list.encode request.events),
      ("update_check", .boolean request.updateCheck),
      ("multi_manifest", .boolean request.multiManifest)]
  decode format document := do
    let fields ← Fields.of? format
      ["instance_id", "alias", "ip", "version", "app_id", "track", "arch", "events",
        "update_check", "multi_manifest"] 6 document
    some
      { instanceId := ← fields.required "instance_id" .text
        nickname := ← fields.optional "alias" .text
        ip := ← fields.required "ip" .text
        version := ← fields.required "version" .text
        applicationId := ← fields.required "app_id" .text
        track := ← fields.required "track" .text
        architecture := ← fields.orDefault "arch" .text ""
        events := ← fields.orDefault "events" ProgressEvent.codec.list []
        updateCheck := ← fields.orDefault "update_check" .boolean true
        multiManifest := ← fields.orDefault "multi_manifest" .boolean false }

def InstanceRecord.document (record : InstanceRecord) : Document :=
  .table
    [("instance", Instance.codec.encode record.machine),
      ("application", Installation.codec.encode record.installation)]

def RequiredFloors.document (required : RequiredFloors) : Document :=
  .table
    [("floors", FloorPackage.codec.list.encode required.floors),
      ("has_more", .boolean required.hasMore)]

def Delivery.document (delivery : Delivery) : Document :=
  .table
    [("package", Package.codec.encode delivery.package),
      ("is_floor", .boolean delivery.isFloor),
      ("is_target", .boolean delivery.isTarget),
      ("floor_reason", .optional .text delivery.floorReason)]

def UpdatePlan.document (plan : UpdatePlan) : Document :=
  .table
    [("entries", .list (plan.entries.map Delivery.document)),
      ("has_more_floors", .boolean plan.hasMoreFloors)]

def EventAck.document (ack : EventAck) : Document :=
  .table
    [("event_type", .number ack.kind),
      ("event_result", .number ack.result),
      ("status", .optional Status.codec.encode ack.status),
      ("rejected", .optional .text ack.rejected)]

def UpdateOutcome.document : UpdateOutcome → Document
  | .notRequested => .table [("outcome", .text "not_requested")]
  | .noUpdate reason =>
      .table [("outcome", .text "no_update"), ("reason", .text reason.name)]
  | .update deliveries hasMoreFloors =>
      .table
        [("outcome", .text "update"),
          ("manifest", .list (deliveries.map Delivery.document)),
          ("has_more_floors", .boolean hasMoreFloors)]

def CheckInResponse.document (response : CheckInResponse) : Document :=
  .table
    [("app_id", .text response.applicationId),
      ("group_id", .text response.groupId),
      ("events", .list (response.events.map EventAck.document)),
      ("update", response.update.document),
      ("instance", Installation.codec.encode response.installation)]

end FleetRollout
