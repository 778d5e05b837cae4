import FleetRollout.Store.Basic

set_option autoImplicit false

/-!
Changes of installations: check-ins, status transitions and grants. A change that finds no
installation changes nothing. History gets one entry for each change to another status.
-/

namespace FleetRollout.Store

def installation? (store : Store) (instanceId applicationId : String) : Option Installation :=
  store.installations.get? (Installation.keyOf instanceId applicationId)

def installationsOf (store : Store) (groupId : String) : List Installation :=
  store.installations.valuesWhere fun row => row.groupId == groupId

def putInstance (store : Store) (machine : Instance) : Store :=
  { store with instances := store.instances.insert machine.id machine }

def putInstallation (store : Store) (row : Installation) : Store :=
  { store with installations := store.installations.insert row.key row }

def upsertInstance (store : Store) (machine : Option Instance) (row : Option Installation) :
    Store :=
  let written := match machine with
    | some machine => store.putInstance machine
    | none => store
  match row with
  | some row => written.putInstallation row
  | none => written

def sighted (store : Store) (sighting : Sighting) : Installation :=
  match store.installation? sighting.instanceId sighting.applicationId with
  | some row => row.seen sighting
  | none => Installation.firstSeen sighting

def recordCheckIn (store : Store) (machine : Option Instance) (sighting : Sighting) :
    Installation × Store :=
  let row := store.sighted sighting
  let written := store.upsertInstance machine none
  let key := Installation.keyOf sighting.instanceId sighting.applicationId
  (row, { written with installations := written.installations.insert key row })

/-- Replaces an installation in place, with a history entry if its status became another. -/
def changeInstallation (store : Store) (instanceId applicationId : String) (time : Nat)
    (errorCode : Option String) (change : Installation → Installation) :
    Except StoreError (Installation × Store) :=
  let key := Installation.keyOf instanceId applicationId
  match store.installations.get? key with
  | none => .error (.notFound ("instance application " ++ key))
  | some row =>
      let changed := change row
      let history :=
        if row.status = changed.status then store.history
        else store.history ++ [changed.historyEntry time errorCode]
      .ok (changed, { store with installations := store.installations.insert key changed, history })

def transition (store : Store) (transition : Transition) :
    Except StoreError (Installation × Store) :=
  store.changeInstallation transition.instanceId transition.applicationId transition.time
    transition.errorCode fun row => row.moved transition.status

def grant (store : Store) (grant : Grant) : Except StoreError (Installation × Store) :=
  store.changeInstallation grant.instanceId grant.applicationId grant.time none
    fun row => row.granted grant

def historyOf (store : Store) (instanceId applicationId : String) (limit : Nat) :
    List HistoryEntry :=
  (store.history.filter fun entry =>
    entry.instanceId == instanceId && entry.applicationId == applicationId).reverse.take limit

end FleetRollout.Store
