import CustomScalars.Session.Basic

/-!
# Effects

Actions of the library and acts of a session are one kind of effect, over different states: a state
goes in, and an answer or a fault comes out together with a state. What each way of putting effects
together does to the state is said here, so that proofs about longer ones follow how they were made.
-/
namespace CustomScalars

/-- What is made of two results is there only when both are. -/
theorem bind_eq_ok_iff {ε α β : Type} {first : Except ε α} {next : α → Except ε β} {result : β} :
    first >>= next = .ok result ↔ ∃ value, first = .ok value ∧ next value = .ok result := by
  cases first with
  | error fault => simp [bind, Except.bind]
  | ok value => simp [bind, Except.bind]

abbrev Effect (σ α : Type) := ExceptT Fault (StateM σ) α

namespace Effect

variable {σ α β : Type}

/-- What an effect answers in a state, and the state after it. -/
def outcome (effect : Effect σ α) (state : σ) : Except Fault α × σ := effect state

@[simp] theorem outcome_pure (value : α) (state : σ) :
    outcome (pure value : Effect σ α) state = (.ok value, state) := rfl

@[simp] theorem outcome_throw (fault : Fault) (state : σ) :
    outcome (throw fault : Effect σ α) state = (.error fault, state) := rfl

@[simp] theorem outcome_get (state : σ) :
    outcome (get : Effect σ σ) state = (.ok state, state) := rfl

@[simp] theorem outcome_set (next state : σ) :
    outcome (set next : Effect σ PUnit) state = (.ok ⟨⟩, next) := rfl

@[simp] theorem outcome_modify (change : σ → σ) (state : σ) :
    outcome (modify change : Effect σ PUnit) state = (.ok ⟨⟩, change state) := rfl

theorem outcome_bind (effect : Effect σ α) (next : α → Effect σ β) (state : σ) :
    outcome (effect >>= next) state =
      match outcome effect state with
      | (.ok value, after) => outcome (next value) after
      | (.error fault, after) => (.error fault, after) := by
  simp only [outcome, bind, ExceptT.bind, ExceptT.mk, StateT.bind]
  rcases effect state with ⟨fault | value, after⟩ <;> rfl

theorem ok_of_outcome_bind_ok {effect : Effect σ α} {next : α → Effect σ β} {state after : σ}
    {result : β} (ok : outcome (effect >>= next) state = (.ok result, after)) :
    ∃ value between, outcome effect state = (.ok value, between) ∧
      outcome (next value) between = (.ok result, after) := by
  rw [outcome_bind] at ok
  generalize outcome effect state = first at ok ⊢
  obtain ⟨fault | value, between⟩ := first
  · cases ok
  · exact ⟨value, between, rfl, ok⟩

theorem outcome_tryCatch (effect : Effect σ α) (handle : Fault → Effect σ α) (state : σ) :
    outcome (tryCatch effect handle) state =
      match outcome effect state with
      | (.ok value, after) => (.ok value, after)
      | (.error fault, after) => outcome (handle fault) after := by
  simp only [outcome, tryCatch, tryCatchThe, MonadExceptOf.tryCatch, ExceptT.tryCatch, ExceptT.mk,
    bind, StateT.bind]
  rcases effect state with ⟨fault | value, after⟩ <;> rfl

/-- Whatever holds of a state holds of the state after the effect, be it a fault or not. -/
def Keeps (property : σ → Prop) (effect : Effect σ α) : Prop :=
  ∀ state, property state → property (effect.outcome state).2

section
variable {property : σ → Prop}

theorem keeps_pure (value : α) : Keeps property (pure value : Effect σ α) := fun _ held => held

theorem keeps_throw (fault : Fault) : Keeps property (throw fault : Effect σ α) :=
  fun _ held => held

theorem keeps_get : Keeps property (get : Effect σ σ) := fun _ held => held

theorem keeps_modify {change : σ → σ} (kept : ∀ state, property state → property (change state)) :
    Keeps property (modify change : Effect σ PUnit) := kept

theorem keeps_bind {effect : Effect σ α} {next : α → Effect σ β} (first : Keeps property effect)
    (rest : ∀ value, Keeps property (next value)) : Keeps property (effect >>= next) := by
  intro state held
  -- The property is kept by the first effect even where it ends in a fault and the rest is left out.
  have kept := first state held
  rw [outcome_bind]
  generalize effect.outcome state = between at kept ⊢
  obtain ⟨fault | value, after⟩ := between
  · exact kept
  · exact rest value after kept

end

/-- Whatever an earlier state is related to before the effect, it is related to after it. -/
def Follows (relation : σ → σ → Prop) (effect : Effect σ α) : Prop :=
  ∀ earlier, Keeps (relation earlier) effect

namespace Follows

variable {relation weaker : σ → σ → Prop}

theorem pure (value : α) : Follows relation (Pure.pure value : Effect σ α) :=
  fun _ => keeps_pure value

theorem throw (fault : Fault) : Follows relation (MonadExcept.throw fault : Effect σ α) :=
  fun _ => keeps_throw fault

theorem get : Follows relation (MonadState.get : Effect σ σ) := fun _ => keeps_get

theorem modify {change : σ → σ}
    (related : ∀ earlier state, relation earlier state → relation earlier (change state)) :
    Follows relation (modify change : Effect σ PUnit) :=
  fun earlier => keeps_modify (related earlier)

theorem bind {effect : Effect σ α} {next : α → Effect σ β} (first : Follows relation effect)
    (rest : ∀ value, Follows relation (next value)) : Follows relation (effect >>= next) :=
  fun earlier => keeps_bind (first earlier) fun value => rest value earlier

theorem related {effect : Effect σ α} (follows : Follows relation effect) {state : σ}
    (refl : relation state state) : relation state (effect.outcome state).2 :=
  follows state state refl

/-- What the effect does is also allowed by a relation that goes on with what the first allows. -/
theorem weaken {effect : Effect σ α} (follows : Follows relation effect)
    (refl : ∀ state, relation state state)
    (trans : ∀ earlier state after, weaker earlier state → relation state after →
      weaker earlier after) : Follows weaker effect :=
  fun earlier state held => trans earlier state _ held (follows.related (refl state))

end Follows

end Effect

end CustomScalars
