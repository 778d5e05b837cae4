import FleetRollout.Rollout.Error

set_option autoImplicit false

/-!
Actions on a state that may fail. A failed action keeps what it wrote before it failed: a denied
check-in still leaves its record. A single change of the store is all or nothing.
-/

namespace FleetRollout

abbrev Action (σ α : Type) : Type := ExceptT EngineError (StateM σ) α

namespace Action

variable {σ α : Type}

/-- The answer of an action and the state it leaves. -/
def perform (action : Action σ α) (state : σ) : Except EngineError α × σ :=
  (ExceptT.run action).run state

def ofExcept (result : Except EngineError α) : Action σ α :=
  ExceptT.mk (pure result)

def require (error : EngineError) (value : Option α) : Action σ α :=
  match value with
  | some value => pure value
  | none => throw error

def check (condition : Bool) (error : EngineError) : Action σ Unit :=
  if condition then pure () else throw error

def commit (change : Store → Except StoreError (α × Store)) : Action Store α :=
  ExceptT.mk fun store =>
    match change store with
    | .ok (answer, changed) => (.ok answer, changed)
    | .error error => (.error (.store error), store)

def commitOnly (change : Store → Except StoreError Store) : Action Store Unit :=
  commit fun store => (change store).map fun changed => ((), changed)

end Action

end FleetRollout
