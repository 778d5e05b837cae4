import FleetRollout.Engine.Basic
import Mathlib.Order.Defs.Unbundled

set_option autoImplicit false

/-!
Laws of actions: what an action answers and what state it leaves. An answer that was given is
taken apart by the `_ok` lemmas, one for each way an action is built. `Composes` is said of a
property that an action has if its parts have it. `Keeps` is one: a relation holds between the
state before an action and the one after it, however the action ends.
-/

namespace FleetRollout

namespace Action

variable {σ α β : Type}

@[simp]
theorem perform_pure (value : α) (state : σ) :
    perform (pure value : Action σ α) state = (.ok value, state) := rfl

@[simp]
theorem perform_throw (error : EngineError) (state : σ) :
    perform (throw error : Action σ α) state = (.error error, state) := rfl

@[simp]
theorem perform_get (state : σ) : perform (get : Action σ σ) state = (.ok state, state) := rfl

@[simp]
theorem perform_modify (change : σ → σ) (state : σ) :
    perform (modify change : Action σ PUnit) state = (.ok ⟨⟩, change state) := rfl

@[simp]
theorem perform_ofExcept (result : Except EngineError α) (state : σ) :
    perform (ofExcept result : Action σ α) state = (result, state) := rfl

theorem perform_of_answer {action : Action σ α} {state : σ} {result : Except EngineError α}
    (answered : (action.perform state).1 = result) :
    action.perform state = (result, (action.perform state).2) :=
  Prod.ext answered rfl

theorem perform_mk (run : σ → Except EngineError α × σ) (state : σ) :
    perform (ExceptT.mk run : Action σ α) state = run state := rfl

theorem perform_bind (first : Action σ α) (next : α → Action σ β) (state : σ) :
    perform (first >>= next) state =
      match first.perform state with
      | (.ok value, after) => (next value).perform after
      | (.error error, after) => (.error error, after) := by
  simp only [perform, ExceptT.run_bind, StateT.run_bind]
  rcases StateT.run (ExceptT.run first) state with ⟨_ | _, after⟩ <;> rfl

theorem perform_bind_ok {first : Action σ α} {state between : σ} {value : α}
    (answered : first.perform state = (.ok value, between)) (next : α → Action σ β) :
    perform (first >>= next) state = (next value).perform between := by
  rw [perform_bind, answered]

theorem perform_bind_error {first : Action σ α} {state between : σ} {error : EngineError}
    (failed : first.perform state = (.error error, between)) (next : α → Action σ β) :
    perform (first >>= next) state = (.error error, between) := by
  rw [perform_bind, failed]

theorem perform_bind_answer (action : Action σ α) (answer : β) (state : σ) :
    ((action >>= fun _ => pure answer).perform state).2 = (action.perform state).2 := by
  rw [perform_bind]
  rcases action.perform state with ⟨error | _, after⟩ <;> rfl

theorem perform_bind_throw (first : Action σ α) (error : EngineError) (state : σ) :
    ∃ failure, perform (first >>= fun _ => (throw error : Action σ β)) state =
      (.error failure, (first.perform state).2) := by
  rw [perform_bind]
  rcases first.perform state with ⟨failure | _, after⟩
  · exact ⟨failure, rfl⟩
  · exact ⟨error, rfl⟩

-- What an action wrote before it failed is still there when the failure is handled.
theorem perform_tryCatch (action : Action σ α) (handler : EngineError → Action σ α) (state : σ) :
    perform (tryCatch action handler) state =
      match action.perform state with
      | (.ok value, after) => (.ok value, after)
      | (.error error, after) => (handler error).perform after := by
  simp only [perform, tryCatch, tryCatchThe, MonadExceptOf.tryCatch, ExceptT.tryCatch, ExceptT.run,
    ExceptT.mk, StateT.run_bind]
  rcases StateT.run action state with ⟨_ | _, after⟩ <;> rfl

theorem perform_mapM_concat (f : α → Action σ β) (values : List α) (last : α) (state : σ) :
    (((values ++ [last]).mapM f).perform state).2 =
      match (values.mapM f).perform state with
      | (.ok _, after) => ((f last).perform after).2
      | (.error _, after) => after := by
  rw [List.mapM_append, perform_bind]
  rcases (values.mapM f).perform state with ⟨error | answers, after⟩
  · rfl
  · simp only [List.mapM_cons, List.mapM_nil, perform_bind]
    rcases (f last).perform after with ⟨error | answer, final⟩ <;> rfl

theorem perform_commit (change : Store → Except StoreError (α × Store)) (store : Store) :
    (commit change).perform store =
      match change store with
      | .ok (answer, changed) => (.ok answer, changed)
      | .error error => (.error (.store error), store) := rfl

section Answers

variable {state after : σ}

theorem bind_ok {first : Action σ α} {next : α → Action σ β} {answer : β} :
    perform (first >>= next) state = (.ok answer, after) ↔
      ∃ value between, first.perform state = (.ok value, between) ∧
        (next value).perform between = (.ok answer, after) := by
  rw [perform_bind]
  rcases first.perform state with ⟨error | value, between⟩
  · simp
  · constructor
    · intro answered
      exact ⟨value, between, rfl, answered⟩
    · rintro ⟨_, _, same, answered⟩
      cases same
      exact answered

theorem require_ok {error : EngineError} {value : Option α} {answer : α} :
    (require error value).perform state = (.ok answer, after) ↔
      value = some answer ∧ after = state := by
  cases value <;> simp [require, eq_comm]

theorem check_ok {condition : Bool} {error : EngineError} {answer : Unit} :
    (check condition error).perform state = (.ok answer, after) ↔
      condition = true ∧ after = state := by
  cases condition <;> simp [check, eq_comm]

theorem pure_ok {value answer : α} :
    (pure value : Action σ α).perform state = (.ok answer, after) ↔
      answer = value ∧ after = state := by
  simp [eq_comm]

theorem get_ok {answer : σ} :
    (get : Action σ σ).perform state = (.ok answer, after) ↔ answer = state ∧ after = state := by
  simp [eq_comm]

theorem ofExcept_ok {result : Except EngineError α} {answer : α} :
    (ofExcept result : Action σ α).perform state = (.ok answer, after) ↔
      result = .ok answer ∧ after = state := by
  simp [eq_comm]

theorem forM_ok {f : α → Action σ PUnit} {fact : α → Prop}
    (each : ∀ value after, (f value).perform state = (.ok ⟨⟩, after) ↔ fact value ∧ after = state)
    {values : List α} {answer : PUnit} :
    (values.forM f).perform state = (.ok answer, after) ↔
      (∀ value ∈ values, fact value) ∧ after = state := by
  induction values with
  | nil => simp [eq_comm]
  | cons head rest ih =>
    change perform (f head >>= fun _ => rest.forM f) state = (.ok answer, after) ↔ _
    rw [bind_ok]
    constructor
    · rintro ⟨_, _, first, others⟩
      obtain ⟨holds, rfl⟩ := (each head _).mp first
      obtain ⟨rest, rfl⟩ := ih.mp others
      exact ⟨List.forall_mem_cons.mpr ⟨holds, rest⟩, rfl⟩
    · rintro ⟨holds, same⟩
      obtain ⟨first, others⟩ := List.forall_mem_cons.mp holds
      exact ⟨⟨⟩, state, (each head _).mpr ⟨first, rfl⟩, ih.mpr ⟨others, same⟩⟩

end Answers

structure Composes (Q : {α : Type} → Action σ α → Prop) : Prop where
  pure {α : Type} (value : α) : Q (Pure.pure value)
  throw {α : Type} (error : EngineError) : Q (MonadExcept.throw error : Action σ α)
  bind {α β : Type} {first : Action σ α} {next : α → Action σ β} (head : Q first)
    (tail : ∀ value, Q (next value)) : Q (first >>= next)
  tryCatch {α : Type} {action : Action σ α} {handler : EngineError → Action σ α}
    (body : Q action) (handled : ∀ error, Q (handler error)) :
    Q (MonadExcept.tryCatch action handler)

section Composes

variable {Q : {α : Type} → Action σ α → Prop} (composes : Composes Q)
include composes

theorem Composes.ofExcept (result : Except EngineError α) :
    Q (Action.ofExcept result : Action σ α) := by
  cases result with
  | error error => exact composes.throw error
  | ok value => exact composes.pure value

theorem Composes.require (error : EngineError) (value : Option α) :
    Q (Action.require error value) := by
  cases value with
  | none => exact composes.throw error
  | some value => exact composes.pure value

theorem Composes.check (condition : Bool) (error : EngineError) :
    Q (Action.check condition error) := by
  cases condition with
  | false => exact composes.throw error
  | true => exact composes.pure ()

theorem Composes.mapM {f : α → Action σ β} (each : ∀ value, Q (f value)) (values : List α) :
    Q (values.mapM f) := by
  induction values with
  | nil => exact composes.pure []
  | cons head rest ih =>
    rw [List.mapM_cons]
    exact composes.bind (each head) fun _ => composes.bind ih fun _ => composes.pure _

theorem Composes.forM {f : α → Action σ PUnit} (each : ∀ value, Q (f value)) (values : List α) :
    Q (values.forM f) := by
  induction values with
  | nil => exact composes.pure _
  | cons head rest ih => exact composes.bind (each head) fun _ => ih

end Composes

-- However the action ends, the relation holds between the state before and the state after.
def Keeps (R : σ → σ → Prop) (action : Action σ α) : Prop :=
  ∀ state, R state (action.perform state).2

section Keeps

variable {R : σ → σ → Prop} [IsPreorder σ R]

theorem keeps_pure (value : α) : Keeps R (pure value : Action σ α) := fun state => refl_of R state

theorem keeps_throw (error : EngineError) : Keeps R (throw error : Action σ α) :=
  fun state => refl_of R state

theorem keeps_get : Keeps R (get : Action σ σ) := fun state => refl_of R state

theorem keeps_bind {first : Action σ α} {next : α → Action σ β} (head : Keeps R first)
    (tail : ∀ value, Keeps R (next value)) : Keeps R (first >>= next) := by
  intro state
  have step := head state
  rw [perform_bind]
  rcases result : first.perform state with ⟨error | value, between⟩
  · simpa [result] using step
  · rw [result] at step
    exact trans_of R step (tail value between)

theorem keeps_tryCatch {action : Action σ α} {handler : EngineError → Action σ α}
    (body : Keeps R action) (handled : ∀ error, Keeps R (handler error)) :
    Keeps R (tryCatch action handler) := by
  intro state
  have step := body state
  rw [perform_tryCatch]
  rcases result : action.perform state with ⟨error | value, between⟩
  · rw [result] at step
    exact trans_of R step (handled error between)
  · simpa [result] using step

theorem keeps_composes : Composes (fun action : Action σ _ => Keeps R action) :=
  ⟨keeps_pure, keeps_throw, keeps_bind, keeps_tryCatch⟩

theorem keeps_ofExcept (result : Except EngineError α) : Keeps R (ofExcept result : Action σ α) :=
  keeps_composes.ofExcept result

theorem keeps_require (error : EngineError) (value : Option α) :
    Keeps R (require error value : Action σ α) :=
  keeps_composes.require error value

end Keeps

theorem Keeps.imp {R S : σ → σ → Prop} {action : Action σ α} (keeps : Keeps R action)
    (weaker : ∀ before after, R before after → S before after) : Keeps S action :=
  fun state => weaker _ _ (keeps state)

def Carries (P : σ → Prop) (before after : σ) : Prop :=
  P before → P after

instance (P : σ → Prop) : IsPreorder σ (Carries P) where
  refl _ := id
  trans _ _ _ head tail := tail ∘ head

theorem keeps_commit {R : Store → Store → Prop} [IsPreorder Store R]
    {change : Store → Except StoreError (α × Store)}
    (changed : ∀ store answer after, change store = .ok (answer, after) → R store after) :
    Keeps R (commit change) := by
  intro store
  rw [perform_commit]
  cases result : change store with
  | error error => exact refl_of R store
  | ok outcome => exact changed store outcome.1 outcome.2 result

end Action

namespace Action

variable {σ α β : Type}

def Inspects (action : Action σ α) (fact : σ → α → Prop) : Prop :=
  ∀ state, (action.perform state).2 = state ∧
    ∀ answer, (action.perform state).1 = .ok answer → fact state answer

theorem inspects_pure (value : α) :
    Inspects (pure value : Action σ α) fun _ answer => answer = value := by
  intro state
  simp [eq_comm]

theorem inspects_ofExcept (result : Except EngineError α) :
    Inspects (ofExcept result : Action σ α) fun _ answer => result = .ok answer := by
  intro state
  simp

theorem inspects_require (error : EngineError) (value : Option α) :
    Inspects (require error value : Action σ α) fun _ answer => value = some answer := by
  intro state
  cases value <;> simp [require]

theorem inspects_check (condition : Bool) (error : EngineError) :
    Inspects (check condition error : Action σ Unit) fun _ _ => condition = true := by
  intro state
  cases condition <;> simp [check]

theorem inspects_bind {first : Action σ α} {next : α → Action σ β} {fact : σ → α → Prop}
    {further : α → σ → β → Prop} (head : Inspects first fact)
    (tail : ∀ value, Inspects (next value) (further value)) :
    Inspects (first >>= next) fun state answer =>
      ∃ value, fact state value ∧ further value state answer := by
  intro state
  obtain ⟨same, told⟩ := head state
  rw [perform_bind]
  rcases result : first.perform state with ⟨error | value, after⟩
  · rw [result] at same
    exact ⟨same, by simp⟩
  · rw [result] at same told
    obtain rfl : after = state := same
    exact ⟨(tail value after).1, fun answer answered =>
      ⟨value, told value rfl, (tail value after).2 answer answered⟩⟩

theorem inspects_forM {f : α → Action σ PUnit} {fact : α → σ → Prop}
    (each : ∀ value, Inspects (f value) fun state _ => fact value state) (values : List α) :
    Inspects (values.forM f) fun state _ => ∀ value ∈ values, fact value state := by
  induction values with
  | nil =>
    intro state
    exact ⟨rfl, by simp⟩
  | cons head rest ih =>
    intro state
    obtain ⟨same, told⟩ := inspects_bind (each head) (fun _ => ih) state
    refine ⟨same, fun answer answered => ?_⟩
    obtain ⟨_, first, others⟩ := told answer answered
    exact List.forall_mem_cons.mpr ⟨first, others⟩

theorem Inspects.imp {action : Action σ α} {fact weaker : σ → α → Prop}
    (inspects : Inspects action fact) (implies : ∀ state answer, fact state answer →
      weaker state answer) : Inspects action weaker :=
  fun state => ⟨(inspects state).1, fun answer answered =>
    implies state answer ((inspects state).2 answer answered)⟩

theorem Inspects.then_leads {first : Action σ α} {next : α → Action σ β} {fact : σ → α → Prop}
    {leads : σ → Prop} {state : σ} (inspects : Inspects first fact) (refused : leads state)
    (accepted : ∀ value, fact state value → leads ((next value).perform state).2) :
    leads (perform (first >>= next) state).2 := by
  obtain ⟨same, told⟩ := inspects state
  rw [perform_bind]
  rcases result : first.perform state with ⟨error | value, after⟩
  · rw [result] at same
    obtain rfl : after = state := same
    exact refused
  · rw [result] at same told
    obtain rfl : after = state := same
    exact accepted value (told value rfl)

end Action

namespace Action

variable {σ α β : Type} {error : EngineError}

-- The action never fails with the error.
def Spares (error : EngineError) (action : Action σ α) : Prop :=
  ∀ state, (action.perform state).1 ≠ .error error

theorem spares_pure (value : α) : Spares error (pure value : Action σ α) := by
  simp [Spares]

theorem spares_throw {other : EngineError} (differs : other ≠ error) :
    Spares error (throw other : Action σ α) := by
  simp [Spares, differs]

theorem spares_get : Spares error (get : Action σ σ) := by
  simp [Spares]

theorem spares_modify (change : σ → σ) : Spares error (modify change : Action σ PUnit) := by
  simp [Spares]

theorem spares_ofExcept {result : Except EngineError α} (differs : result ≠ .error error) :
    Spares error (ofExcept result : Action σ α) := by
  simp [Spares, differs]

theorem spares_require {other : EngineError} (differs : other ≠ error) (value : Option α) :
    Spares error (require other value : Action σ α) := by
  cases value
  · exact spares_throw differs
  · exact spares_pure _

theorem spares_check (condition : Bool) {other : EngineError} (differs : other ≠ error) :
    Spares error (check condition other : Action σ Unit) := by
  cases condition
  · exact spares_throw differs
  · exact spares_pure ()

theorem bind_ne_error {first : Action σ α} {next : α → Action σ β} {state : σ}
    (head : (first.perform state).1 ≠ .error error)
    (tail : ∀ value after, first.perform state = (.ok value, after) →
      ((next value).perform after).1 ≠ .error error) :
    (perform (first >>= next) state).1 ≠ .error error := by
  rw [perform_bind]
  rcases result : first.perform state with ⟨failure | value, after⟩
  · simpa [result] using head
  · exact tail value after result

theorem spares_bind {first : Action σ α} {next : α → Action σ β} (head : Spares error first)
    (tail : ∀ value, Spares error (next value)) : Spares error (first >>= next) :=
  fun state => bind_ne_error (head state) fun value after _ => tail value after

theorem spares_tryCatch {action : Action σ α} {handler : EngineError → Action σ α}
    (body : Spares error action)
    (handled : ∀ failure, failure ≠ error → Spares error (handler failure)) :
    Spares error (tryCatch action handler) := by
  intro state
  have spared := body state
  rw [perform_tryCatch]
  rcases result : action.perform state with ⟨failure | value, after⟩
  · refine handled failure ?_ after
    simpa [result] using spared
  · simp

theorem spares_mapM {f : α → Action σ β} (each : ∀ value, Spares error (f value))
    (values : List α) : Spares error (values.mapM f) := by
  induction values with
  | nil => exact spares_pure []
  | cons head rest ih =>
    rw [List.mapM_cons]
    exact spares_bind (each head) fun _ => spares_bind ih fun _ => spares_pure _

theorem spares_commit (differs : ∀ failure, .store failure ≠ error)
    (change : Store → Except StoreError (α × Store)) : Spares error (commit change) := by
  intro store
  rw [perform_commit]
  cases change store with
  | error failure => simpa using differs failure
  | ok outcome => simp

end Action

namespace Action

variable {σ α β : Type} {allowed : EngineError → Prop} {state after : σ}

-- From the state on, the action fails with no other errors.
def FailsOnly (allowed : EngineError → Prop) (action : Action σ α) (state : σ) : Prop :=
  ∀ error, (action.perform state).1 = .error error → allowed error

theorem failsOnly_of_ok {action : Action σ α} {answer : α}
    (answered : action.perform state = (.ok answer, after)) : FailsOnly allowed action state := by
  simp [FailsOnly, answered]

theorem failsOnly_pure (value : α) : FailsOnly allowed (pure value : Action σ α) state :=
  failsOnly_of_ok rfl

theorem failsOnly_throw {error : EngineError} (permitted : allowed error) :
    FailsOnly allowed (throw error : Action σ α) state := by
  simpa [FailsOnly] using permitted

theorem failsOnly_require {error : EngineError} (permitted : allowed error) (value : Option α) :
    FailsOnly allowed (require error value : Action σ α) state := by
  cases value with
  | none => exact failsOnly_throw permitted
  | some value => exact failsOnly_pure value

theorem failsOnly_check (condition : Bool) {error : EngineError} (permitted : allowed error) :
    FailsOnly allowed (check condition error : Action σ Unit) state := by
  cases condition with
  | false => exact failsOnly_throw permitted
  | true => exact failsOnly_pure ()

theorem failsOnly_bind {first : Action σ α} {next : α → Action σ β}
    (head : FailsOnly allowed first state)
    (tail : ∀ value after, first.perform state = (.ok value, after) →
      FailsOnly allowed (next value) after) : FailsOnly allowed (first >>= next) state := by
  unfold FailsOnly
  rw [perform_bind]
  rcases result : first.perform state with ⟨failure | value, between⟩
  · intro error failed
    obtain rfl : failure = error := Except.error.inj failed
    exact head failure (by rw [result])
  · exact tail value between result

theorem FailsOnly.answers {action : Action σ α} (fails : FailsOnly (fun _ => False) action state) :
    ∃ answer, action.perform state = (.ok answer, (action.perform state).2) := by
  rcases result : action.perform state with ⟨error | answer, after⟩
  · exact (fails error (by rw [result])).elim
  · exact ⟨answer, rfl⟩

theorem mapM_answers {P : σ → Prop} {fact : β → Prop} {f : α → Action σ β}
    (each : ∀ value state, P state → ∃ answer after,
      (f value).perform state = (.ok answer, after) ∧ fact answer ∧ P after)
    (values : List α) {state : σ} (holds : P state) :
    ∃ answers after, (values.mapM f).perform state = (.ok answers, after) ∧
      (∀ answer ∈ answers, fact answer) ∧ P after := by
  induction values generalizing state with
  | nil => exact ⟨[], state, rfl, by simp, holds⟩
  | cons head rest ih =>
    obtain ⟨answer, between, answered, told, kept⟩ := each head state holds
    obtain ⟨answers, after, others, facts, ends⟩ := ih kept
    refine ⟨answer :: answers, after, ?_, List.forall_mem_cons.mpr ⟨told, facts⟩, ends⟩
    rw [List.mapM_cons, perform_bind_ok answered, perform_bind_ok others, perform_pure]

end Action

namespace Engine

open FleetRollout.Action

variable {α : Type}

theorem perform_onStore (action : Action Store α) (engine : Engine) :
    (onStore action).perform engine =
      ((action.perform engine.store).1, { engine with store := (action.perform engine.store).2 }) :=
  rfl

@[simp]
theorem perform_readStore (engine : Engine) :
    readStore.perform engine = (.ok engine.store, engine) := rfl

@[simp]
theorem perform_write (change : Store → Store) (engine : Engine) :
    (write change).perform engine = (.ok (), { engine with store := change engine.store }) := rfl

theorem perform_requireGroup {engine : Engine} {id : String} {group : Group}
    (stored : engine.store.groups.get? id = some group) :
    (requireGroup id).perform engine = (.ok group, engine) := by
  rw [requireGroup, perform_bind_ok (perform_readStore engine), stored]
  rfl

theorem perform_requireGroup_missing {engine : Engine} {id : String}
    (missing : engine.store.groups.get? id = none) :
    (requireGroup id).perform engine = (.error (.invalidGroup id), engine) := by
  rw [requireGroup, perform_bind_ok (perform_readStore engine), missing]
  rfl

theorem onStore_ok {action : Action Store α} {engine after : Engine} {answer : α} :
    (onStore action).perform engine = (.ok answer, after) ↔
      ∃ store, action.perform engine.store = (.ok answer, store) ∧
        after = { engine with store } := by
  rw [perform_onStore]
  rcases action.perform engine.store with ⟨result, store⟩
  constructor
  · intro answered
    cases answered
    exact ⟨store, rfl, rfl⟩
  · rintro ⟨_, same, rfl⟩
    cases same
    rfl

theorem perform_findApplication (external : String) (engine : Engine) :
    (findApplication external).perform engine =
      (.ok (engine.directory.findApplication engine.store external).1,
        { engine with
          directory := (engine.directory.findApplication engine.store external).2 }) := by
  rw [findApplication, perform_mk]

theorem perform_findGroup (applicationId track : String) (architecture : Architecture)
    (engine : Engine) :
    (findGroup applicationId track architecture).perform engine =
      (.ok (engine.directory.findGroup engine.store applicationId track architecture).1,
        { engine with
          directory :=
            (engine.directory.findGroup engine.store applicationId track architecture).2 }) := by
  rw [findGroup, perform_mk]

-- The stores are related; clock, settings and the supply of ids are left alone.
structure Over (R : Store → Store → Prop) (before after : Engine) : Prop where
  store : R before.store after.store
  config : after.config = before.config
  now : after.now = before.now
  nextId : after.nextId = before.nextId

section Over

variable {R : Store → Store → Prop}

theorem keeps_onStore {action : Action Store α} (keeps : Keeps R action) :
    Keeps (Over R) (onStore action) :=
  fun engine => ⟨keeps engine.store, rfl, rfl, rfl⟩

variable [IsPreorder Store R]

instance : IsPreorder Engine (Over R) where
  refl engine := ⟨refl_of R engine.store, rfl, rfl, rfl⟩
  trans _ _ _ head tail :=
    ⟨trans_of R head.store tail.store, tail.config.trans head.config, tail.now.trans head.now,
      tail.nextId.trans head.nextId⟩

end Over

structure ComposesReading (Q : {α : Type} → Action Engine α → Prop) : Prop extends Composes Q where
  reads {α : Type} {next : Engine → Action Engine α}
    (unseen : ∀ engine directory nextId, next { engine with directory, nextId } = next engine)
    (each : ∀ engine, Q (next engine)) : Q (get >>= next)

theorem keeps_reading {E : Engine → Engine → Prop} [IsPreorder Engine E] :
    ComposesReading (fun action : Action Engine _ => Keeps E action) where
  toComposes := keeps_composes
  reads _ each := keeps_bind keeps_get each

section Reading

variable {Q : {α : Type} → Action Engine α → Prop} (composes : ComposesReading Q)
include composes

theorem ComposesReading.readStore : Q Engine.readStore :=
  composes.reads (fun _ _ _ => rfl) fun _ => composes.pure _

theorem ComposesReading.stored (error : EngineError) (find : Store → Option α) :
    Q (Engine.readStore >>= fun store => Action.require error (find store)) :=
  composes.bind composes.readStore fun _ => composes.require _ _

end Reading

section Inspections

variable {α : Type}

theorem inspects_readStore : Inspects readStore fun engine answer => answer = engine.store := by
  intro engine
  rw [perform_readStore]
  exact ⟨rfl, by simp [eq_comm]⟩

theorem inspects_stored {error : EngineError} (find : Store → Option α) :
    Inspects (do Action.require error (find (← readStore))) fun engine answer =>
      find engine.store = some answer := by
  refine (inspects_bind inspects_readStore fun store =>
    inspects_require error (find store)).imp fun engine answer => ?_
  rintro ⟨_, rfl, found⟩
  exact found

theorem inspects_requireTeam (id : String) :
    Inspects (requireTeam id) fun engine team => engine.store.teams.get? id = some team :=
  inspects_stored fun store => store.teams.get? id

theorem inspects_requireApplication (id : String) :
    Inspects (requireApplication id) fun engine application =>
      engine.store.applications.get? id = some application :=
  inspects_stored fun store => store.applications.get? id

theorem inspects_requireChannel (id : String) :
    Inspects (requireChannel id) fun engine channel =>
      engine.store.channels.get? id = some channel :=
  inspects_stored fun store => store.channels.get? id

theorem inspects_requirePackage (id : String) :
    Inspects (requirePackage id) fun engine package =>
      engine.store.packages.get? id = some package :=
  inspects_stored fun store => store.packages.get? id

theorem inspects_requireGroup (id : String) :
    Inspects (requireGroup id) fun engine group => engine.store.groups.get? id = some group :=
  inspects_stored fun store => store.groups.get? id

end Inspections

section Answers

variable {engine after : Engine}

theorem stored_ok {α : Type} {error : EngineError} (find : Store → Option α) {answer : α} :
    (do require error (find (← readStore))).perform engine = (.ok answer, after) ↔
      find engine.store = some answer ∧ after = engine := by
  rw [perform_bind_ok (perform_readStore engine), require_ok]

theorem requireTeam_ok {id : String} {answer : Team} :
    (requireTeam id).perform engine = (.ok answer, after) ↔
      engine.store.teams.get? id = some answer ∧ after = engine :=
  stored_ok fun store => store.teams.get? id

theorem requireApplication_ok {id : String} {answer : Application} :
    (requireApplication id).perform engine = (.ok answer, after) ↔
      engine.store.applications.get? id = some answer ∧ after = engine :=
  stored_ok fun store => store.applications.get? id

theorem requireChannel_ok {id : String} {answer : Channel} :
    (requireChannel id).perform engine = (.ok answer, after) ↔
      engine.store.channels.get? id = some answer ∧ after = engine :=
  stored_ok fun store => store.channels.get? id

theorem requirePackage_ok {id : String} {answer : Package} :
    (requirePackage id).perform engine = (.ok answer, after) ↔
      engine.store.packages.get? id = some answer ∧ after = engine :=
  stored_ok fun store => store.packages.get? id

theorem requireGroup_ok {id : String} {answer : Group} :
    (requireGroup id).perform engine = (.ok answer, after) ↔
      engine.store.groups.get? id = some answer ∧ after = engine :=
  stored_ok fun store => store.groups.get? id

theorem readStore_ok {answer : Store} :
    readStore.perform engine = (.ok answer, after) ↔ answer = engine.store ∧ after = engine := by
  simp [eq_comm]

theorem write_ok {change : Store → Store} {answer : Unit} :
    (write change).perform engine = (.ok answer, after) ↔
      after = { engine with store := change engine.store } := by
  simp [eq_comm]

theorem forgetApplications_ok {answer : Unit} :
    forgetApplications.perform engine = (.ok answer, after) ↔
      after = { engine with directory := engine.directory.forgetApplications } := by
  simp [forgetApplications, eq_comm]

theorem forgetTracks_ok {answer : Unit} :
    forgetTracks.perform engine = (.ok answer, after) ↔
      after = { engine with directory := engine.directory.forgetTracks } := by
  simp [forgetTracks, eq_comm]

theorem idOrNew_ok {id answer : String} :
    (idOrNew (some id)).perform engine = (.ok answer, after) ↔ answer = id ∧ after = engine :=
  pure_ok

end Answers

end Engine

end FleetRollout
