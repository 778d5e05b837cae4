import FleetRollout.Record.Catalog
import FleetRollout.Record.Fleet

set_option autoImplicit false

namespace FleetRollout

def Table.ofValues {α : Type} (key : α → String) (values : List α) : Table α :=
  values.foldl (fun table value => table.insert (key value) value) .empty

def Table.codec {α : Type} (key : α → String) (codec : Codec α) : Codec (Table α) where
  encode table := codec.list.encode table.values
  decode format document := (codec.list.decode format document).map (Table.ofValues key)

namespace Store

def teamsCodec : Codec (Table Team) := Table.codec Team.id Team.codec

def applicationsCodec : Codec (Table Application) := Table.codec Application.id Application.codec

def channelsCodec : Codec (Table Channel) := Table.codec Channel.id Channel.codec

def packagesCodec : Codec (Table Package) := Table.codec Package.id Package.codec

def floorsCodec : Codec (Table Floor) := Table.codec Floor.key Floor.codec

def groupsCodec : Codec (Table Group) := Table.codec Group.id Group.codec

def instancesCodec : Codec (Table Instance) := Table.codec Instance.id Instance.codec

def installationsCodec : Codec (Table Installation) :=
  Table.codec Installation.key Installation.codec

def codec : Codec Store where
  encode store := .table
    [("teams", teamsCodec.encode store.teams),
      ("applications", applicationsCodec.encode store.applications),
      ("channels", channelsCodec.encode store.channels),
      ("packages", packagesCodec.encode store.packages),
      ("floors", floorsCodec.encode store.floors),
      ("groups", groupsCodec.encode store.groups),
      ("instances", instancesCodec.encode store.instances),
      ("installations", installationsCodec.encode store.installations),
      ("history", HistoryEntry.codec.list.encode store.history),
      ("activity", ActivityEntry.codec.list.encode store.activity)]
  decode format document := do
    let fields ← Fields.of? format
      ["teams", "applications", "channels", "packages", "floors", "groups", "instances",
        "installations", "history", "activity"] 10 document
    some
      { teams := ← fields.required "teams" teamsCodec
        applications := ← fields.required "applications" applicationsCodec
        channels := ← fields.required "channels" channelsCodec
        packages := ← fields.required "packages" packagesCodec
        floors := ← fields.required "floors" floorsCodec
        groups := ← fields.required "groups" groupsCodec
        instances := ← fields.required "instances" instancesCodec
        installations := ← fields.required "installations" installationsCodec
        history := ← fields.required "history" HistoryEntry.codec.list
        activity := ← fields.required "activity" ActivityEntry.codec.list }

end Store

end FleetRollout
