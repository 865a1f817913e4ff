import CustomScalars.Proofs.Session.Moves
import CustomScalars.Proofs.Settings.Memory

/-!
# Lookups that disturb each other

A reader should answer a lookup as if it had not been asked for anything before. It does so unless
an earlier lookup shares the name under which it is remembered, was new to the reader, and found
something else than the layers hold for the later one. Schema names without a colon, none of them
the word for no schema, keep lookups apart.
-/
namespace CustomScalars.Session

open Settings

/-- The reader of a name, or the one that everyone shares. -/
def readerOf (session : Session) : Option String → Option Reader
  | none => some session.settings.reader
  | some handle => session.readers.lookup handle

/-- The session with another reader in the place of that one. -/
def withReader (session : Session) (reader : Reader) : Option String → Session
  | none =>
    { session with
      library := session.library.changeSettings fun settings => { settings with reader := reader } }
  | some handle => { session with readers := session.readers.put handle reader }

theorem readerOf_withReader (session : Session) (reader : Reader) (handle : Option String) :
    (session.withReader reader handle).readerOf handle = some reader := by
  cases handle with
  | none => rfl
  | some handle => simp [withReader, readerOf, Table.lookup_put]

section
variable {session : Session} {handle : Option String} {reader : Reader}

theorem outcome_read (known : session.readerOf handle = some reader) (key : String)
    (fallback asked : Value) :
    Effect.outcome (read key fallback asked handle) session =
      ((reader.read session.settings.layers key fallback asked).1.map .value,
        session.withReader (reader.read session.settings.layers key fallback asked).2 handle) := by
  cases handle with
  | none =>
    cases known
    simp only [read, Effect.outcome_bind, Act.outcome_ofAction, Action.outcome_readSetting,
      Settings.read, settings]
    cases (session.library.settings.reader.read session.library.settings.layers key fallback
      asked).1 <;> rfl
  | some handle =>
    simp only [readerOf] at known
    simp only [read, Effect.outcome_bind, Act.named, Effect.outcome_get, Effect.outcome_pure,
      Effect.outcome_set, Act.outcome_ofExcept, known, settings]
    cases (reader.read session.library.settings.layers key fallback asked).1 <;> rfl

theorem read_answer (known : session.readerOf handle = some reader) (key : String)
    (fallback asked : Value) :
    (session.step (.read key fallback asked handle)).1 =
      (reader.read session.settings.layers key fallback asked).1.map .value := by
  have quiet : session.quiet.readerOf handle = some reader := by cases handle <;> exact known
  exact congrArg Prod.fst (outcome_read quiet key fallback asked)

theorem readerOf_after_read (known : session.readerOf handle = some reader) (key : String)
    (fallback asked : Value) :
    (session.step (.read key fallback asked handle)).2.2.readerOf handle =
      some (reader.read session.settings.layers key fallback asked).2 := by
  have quiet : session.quiet.readerOf handle = some reader := by cases handle <;> exact known
  have left : (session.step (.read key fallback asked handle)).2.2 = session.quiet.withReader
      (reader.read session.settings.layers key fallback asked).2 handle :=
    congrArg Prod.snd (outcome_read quiet key fallback asked)
  rw [left, readerOf_withReader]

theorem layers_after_read (session : Session) (handle : Option String) (key : String)
    (fallback asked : Value) :
    (session.step (.read key fallback asked handle)).2.2.settings.layers =
      session.settings.layers :=
  Settings.ReadTo.layers (step_moves session (.read key fallback asked handle))

/-- A name that no reader has makes the same fault each time. -/
theorem step_read_of_unknown (unknown : session.readerOf handle = none) (key : String)
    (fallback asked : Value) :
    session.step (.read key fallback asked handle) =
      (.error (.notCallable (handle.getD "")), [], session.quiet) := by
  cases handle with
  | none => cases unknown
  | some handle =>
    have absent : session.quiet.readers.lookup handle = none := unknown
    have left : Effect.outcome (read key fallback asked (some handle)) session.quiet =
        (.error (.notCallable handle), session.quiet) := by
      simp only [read, Effect.outcome_bind, Act.named, Effect.outcome_get, Effect.outcome_throw,
        absent]
    exact congrArg (fun between : Except Fault Answer × Session =>
      (between.1, between.2.library.events, between.2)) left

end

private theorem map_value_inj {first second : Except Fault Value} :
    first.map Answer.value = second.map Answer.value ↔ first = second := by
  cases first <;> cases second <;> simp [Except.map]

theorem read_after_read_eq_iff {session : Session} {handle : Option String} {reader : Reader}
    (known : session.readerOf handle = some reader) (key₁ key₂ : String)
    (fallback₁ fallback₂ asked₁ asked₂ : Value) :
    ((session.step (.read key₁ fallback₁ asked₁ handle)).2.2.step
          (.read key₂ fallback₂ asked₂ handle)).1 =
        (session.step (.read key₂ fallback₂ asked₂ handle)).1 ↔
      ¬ reader.Disturbs session.settings.layers (effectiveSchema asked₁ reader.schema) key₁
        (effectiveSchema asked₂ reader.schema) key₂ fallback₂ := by
  rw [read_answer known, read_answer (readerOf_after_read known key₁ fallback₁ asked₁),
    layers_after_read, map_value_inj]
  exact Reader.answer_after_read_eq_iff reader session.settings.layers key₁ key₂ fallback₁
    fallback₂ asked₁ asked₂

/-- Of two lookups with one reader the first changes the answer to the second exactly when it
disturbs it, and never where schemas that are written without colons keep the two apart. -/
theorem read_isolation (session : Session) (handle : Option String) (key₁ key₂ : String)
    (fallback₁ fallback₂ asked₁ asked₂ : Value) :
    (((session.step (.read key₁ fallback₁ asked₁ handle)).2.2.step
            (.read key₂ fallback₂ asked₂ handle)).1 =
          (session.step (.read key₂ fallback₂ asked₂ handle)).1 ↔
        ∀ reader, session.readerOf handle = some reader →
          ¬ reader.Disturbs session.settings.layers (effectiveSchema asked₁ reader.schema) key₁
            (effectiveSchema asked₂ reader.schema) key₂ fallback₂) ∧
      ∀ reader, session.readerOf handle = some reader →
        Reader.Apart (effectiveSchema asked₁ reader.schema) key₁
          (effectiveSchema asked₂ reader.schema) key₂ →
        ((session.step (.read key₁ fallback₁ asked₁ handle)).2.2.step
            (.read key₂ fallback₂ asked₂ handle)).1 =
          (session.step (.read key₂ fallback₂ asked₂ handle)).1 := by
  refine ⟨?_, fun reader known apart => ?_⟩
  · cases known : session.readerOf handle with
    | none =>
      -- The session without its events still has no such reader, which makes the second fault.
      have quiet : session.quiet.readerOf handle = none := by cases handle <;> exact known
      rw [step_read_of_unknown known, step_read_of_unknown known, step_read_of_unknown quiet]
      simp
    | some reader =>
      rw [read_after_read_eq_iff known]
      simp
  · rw [read_after_read_eq_iff known]
    rintro ⟨shares, -, -⟩
    exact apart.not_sharesName shares

/-- Schema `a:b` and key `c` have the same name in a memory as schema `a` and key `b:c`. -/
theorem read_disturbed :
    let leaking := Session.initial.after
      [.configure (.ofText "a:b") (.ofEntries [("c", .int none 1)]),
        .configure (.ofText "a") (.ofEntries [("b:c", .int none 2)])]
    let later := leaking.step (.read "c" .null (.ofText "a:b") none)
    (leaking.step (.read "b:c" .null (.ofText "a") none)).1 = .ok (.value (.int none 2)) ∧
      (later.2.2.step (.read "b:c" .null (.ofText "a") none)).1 = .ok (.value (.int none 1)) :=
  ⟨rfl, rfl⟩

end CustomScalars.Session
