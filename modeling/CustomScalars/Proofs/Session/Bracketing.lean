import CustomScalars.Proofs.Session.Isolation
import CustomScalars.Proofs.Settings.Within

/-!
# Overrides as brackets

Whatever is done within an override, as long as those opened in it are closed in it and the host is
not taken away, closing it brings back the settings as they were, run-time settings included, with
nothing remembered of them. The registry is not part of the settings and keeps its changes.
-/
namespace CustomScalars.Session

open Settings

/-- A step that neither opens nor closes an override, nor takes the host away or brings it back. -/
def Step.isPlain : Step → Bool
  | .enter _ _ | .leave | .unconfigure | .reconfigure => false
  | _ => true

theorem after_append (session : Session) (first second : List Step) :
    session.after (first ++ second) = (session.after first).after second := by
  induction first generalizing session with
  | nil => rfl
  | cons step rest ih => exact ih _

section
variable {before after : Settings}

theorem StartsUp.numbered {debug : Option Value} (started : StartsUp before after debug)
    (numbered : before.Numbered) : after.Numbered := by
  cases debug with
  | none => exact numbered.ensureHost.useUp.readTo started
  | some value =>
    obtain ⟨during, read, rfl⟩ := started
    have opened := (numbered.addLevel none none (some value)).useUp.readTo read
    refine Numbered.ensureHost { opened with levels := ?_ }
    rw [read.frame, useUp_eq]
    exact numbered.advance.levels

theorem Moves.numbered {step : Step} (moved : Moves before after step)
    (numbered : before.Numbered) : after.Numbered := by
  cases step with
  | enter shared bySchema =>
    cases moved
    exact numbered.enter shared bySchema
  | leave =>
    cases moved
    exact numbered.leave
  | assign setting value =>
    cases moved
    exact numbered.assign setting value
  | remove setting =>
    cases moved
    exact numbered.remove setting
  | announce setting =>
    cases moved
    exact numbered.announce setting
  | unconfigure =>
    cases moved
    exact numbered.unconfigure
  | reconfigure =>
    cases moved
    exact numbered.reconfigure
  | clearMemory reader =>
    cases reader with
    | none =>
      cases moved
      exact numbered.withReader _
    | some handle => exact numbered.readTo moved
  | configure schema overrides =>
    rcases moved with rfl | ⟨sections, written⟩
    · exact numbered
    · exact numbered.configure written
  | startUp validateOnly debug => exact StartsUp.numbered moved numbered
  -- What is not named above only reads.
  | _ => exact numbered.readTo moved

end

section
variable {base before after : Settings} {asks : Bool} {depth : Nat}

theorem StartsUp.within {debug : Option Value} (started : StartsUp before after debug)
    (within : Within base asks depth before) : Within base asks depth after := by
  cases debug with
  | none =>
    have present := ensureHost_of_levels within.levels_ne_nil
    rw [StartsUp, present, useUp_eq] at started
    exact (within.withSpent _).readTo started
  | some value =>
    obtain ⟨during, read, rfl⟩ := started
    -- The level of the debug mode takes a number, and is gone again.
    rw [useUp_eq] at read
    have during_eq := read.frame
    have schema : during.reader.schema = base.reader.schema := read.schema.trans within.schema
    have settled : Settings.ensureHost { during with levels := before.levels } =
        { during with levels := before.levels } := ensureHost_of_levels within.levels_ne_nil
    rw [settled]
    rw [during_eq]
    exact ⟨Nat.le_succ_of_le within.later, schema, within.parked, within.here, within.outer⟩

theorem Moves.within {step : Step} (moved : Moves before after step)
    (within : Within base asks depth before) (numbered : base.Numbered)
    (plain : step.isPlain = true) : Within base asks depth after := by
  cases step with
  | assign setting value =>
    cases moved
    exact within.assign numbered setting value
  | remove setting =>
    cases moved
    exact within.remove numbered setting
  | announce setting =>
    cases moved
    exact within.announce setting
  | clearMemory reader =>
    cases reader with
    | none =>
      cases moved
      exact within.clear
    | some handle => exact within.readTo moved
  | configure schema overrides =>
    rcases moved with rfl | ⟨sections, written⟩
    · exact within
    · exact within.configure numbered written
  | startUp validateOnly debug => exact StartsUp.within moved within
  | enter shared bySchema => cases plain
  | leave => cases plain
  | unconfigure => cases plain
  | reconfigure => cases plain
  -- What is not named above only reads.
  | _ => exact within.readTo moved

end

/-- A reader that remembers nothing answers a lookup from the settings as they are. -/
theorem read_answer_of_forgotten {session : Session}
    (forgotten : session.settings.reader.memory = []) (key : String) (fallback asked : Value) :
    (session.step (.read key fallback asked none)).1 =
      (session.settings.layers.uncached (effectiveSchema asked session.settings.reader.schema) key
        fallback).map .value := by
  have free : session.settings.reader.recalled
      (effectiveSchema asked session.settings.reader.schema) key = none :=
    Reader.recalled_eq_none (by rw [forgotten]; rfl)
  have known : session.readerOf none = some session.settings.reader := rfl
  rw [read_answer known, Reader.read_of_forgotten free]

end CustomScalars.Session
