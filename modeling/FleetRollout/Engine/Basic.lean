import FleetRollout.Engine.Directory
import FleetRollout.Rollout.CheckIn

set_option autoImplicit false

namespace FleetRollout

structure Engine where
  store : Store := .empty
  directory : Directory := {}
  config : EngineConfig := {}
  now : Nat := 0
  /-- Number of the next id that is generated. -/
  nextId : Nat := 0

namespace Engine

-- The same data with nothing looked up yet.
def reopen (engine : Engine) : Engine :=
  { engine with directory := {} }

-- Moves the clock, which is a word and runs around.
def advance (engine : Engine) (seconds : Nat) : Engine :=
  { engine with now := (engine.now + seconds) % Text.wordSize }

def setNow (engine : Engine) (now : Nat) : Engine :=
  { engine with now }

def onStore {α : Type} (action : Action Store α) : Action Engine α :=
  ExceptT.mk fun engine =>
    let (answer, store) := action.perform engine.store
    (answer, { engine with store })

def write (change : Store → Store) : Action Engine Unit :=
  modify fun engine => { engine with store := change engine.store }

def readStore : Action Engine Store := do
  pure (← get).store

def forgetApplications : Action Engine Unit :=
  modify fun engine => { engine with directory := engine.directory.forgetApplications }

def forgetTracks : Action Engine Unit :=
  modify fun engine => { engine with directory := engine.directory.forgetTracks }

def findApplication (external : String) : Action Engine (Option String) :=
  ExceptT.mk fun engine =>
    let (found, directory) := engine.directory.findApplication engine.store external
    (.ok found, { engine with directory })

def findGroup (applicationId track : String) (architecture : Architecture) :
    Action Engine (Option String) :=
  ExceptT.mk fun engine =>
    let (found, directory) :=
      engine.directory.findGroup engine.store applicationId track architecture
    (.ok found, { engine with directory })

def idOrNew (given : Option String) : Action Engine String :=
  match given with
  | some id => pure id
  | none => do
      let engine ← get
      set { engine with nextId := engine.nextId + 1 }
      pure (Identifier.numbered engine.nextId)

def requireTeam (id : String) : Action Engine Team := do
  Action.require (.invalidTeam id) ((← readStore).teams.get? id)

def requireApplication (id : String) : Action Engine Application := do
  Action.require (.invalidApplication id) ((← readStore).applications.get? id)

def requireChannel (id : String) : Action Engine Channel := do
  Action.require (.invalidChannel id) ((← readStore).channels.get? id)

def requirePackage (id : String) : Action Engine Package := do
  Action.require (.invalidPackage id) ((← readStore).packages.get? id)

def requireGroup (id : String) : Action Engine Group := do
  Action.require (.invalidGroup id) ((← readStore).groups.get? id)

end Engine

end FleetRollout
