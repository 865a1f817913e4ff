/-!
# Splitting text at a character

Paths are split at every separator; a file name is split at the last one only.
-/
namespace CustomScalars.Text

/-- The parts between separators: one more than there are separators. -/
def splitEvery (separator : Char) : List Char → List (List Char)
  | [] => [[]]
  | char :: rest =>
    if char = separator then [] :: splitEvery separator rest
    else match splitEvery separator rest with
      | [] => [[char]]
      | part :: parts => (char :: part) :: parts

/-- What stands before and after the last separator, if there is one. -/
def splitLast? (separator : Char) : List Char → Option (List Char × List Char)
  | [] => none
  | char :: rest =>
    match splitLast? separator rest with
    | some (before, after) => some (char :: before, after)
    | none => if char = separator then some ([], rest) else none

/-- What stands after the last separator; everything when there is none. -/
def afterLast (separator : Char) (text : List Char) : List Char :=
  match splitLast? separator text with
  | some (_, after) => after
  | none => text

theorem splitEvery_ne_nil (separator : Char) (text : List Char) :
    splitEvery separator text ≠ [] := by
  cases text with
  | nil => simp [splitEvery]
  | cons char rest =>
    simp only [splitEvery]
    split
    · simp
    · split <;> simp

/-- No part has a separator in it. -/
theorem not_mem_of_mem_splitEvery {separator : Char} {part text : List Char}
    (member : part ∈ splitEvery separator text) : separator ∉ part := by
  induction text generalizing part with
  | nil =>
    rw [splitEvery, List.mem_singleton] at member
    rw [member]
    exact List.not_mem_nil
  | cons char rest ih =>
    rw [splitEvery] at member
    split at member
    · rcases List.mem_cons.mp member with rfl | later
      · exact List.not_mem_nil
      · exact ih later
    next other =>
      split at member
      next none => exact absurd none (splitEvery_ne_nil separator rest)
      next first parts split =>
        rcases List.mem_cons.mp member with rfl | later
        · intro inside
          rcases List.mem_cons.mp inside with rfl | further
          · exact other rfl
          · exact ih (split ▸ List.mem_cons_self) further
        · exact ih (split ▸ List.mem_cons_of_mem first later)

theorem splitLast?_eq_none_iff {separator : Char} {text : List Char} :
    splitLast? separator text = none ↔ separator ∉ text := by
  induction text with
  | nil => simp [splitLast?]
  | cons char rest ih =>
    cases found : splitLast? separator rest with
    | some parts =>
      have present : separator ∈ rest := by
        apply Decidable.byContradiction
        intro absent
        simp [ih.mpr absent] at found
      simp [splitLast?, found, present]
    | none =>
      have absent := ih.mp found
      by_cases same : char = separator
      · simp [splitLast?, found, same]
      · have other : separator ≠ char := fun equal => same equal.symm
        simp [splitLast?, found, same, other, absent]

theorem splitLast?_eq_some_iff {separator : Char} {text before after : List Char} :
    splitLast? separator text = some (before, after) ↔
      text = before ++ separator :: after ∧ separator ∉ after := by
  induction text generalizing before with
  | nil => simp [splitLast?]
  | cons char rest ih =>
    cases found : splitLast? separator rest with
    | some parts =>
      obtain ⟨earlier, later⟩ := parts
      cases before with
      | nil =>
        have present : separator ∈ rest := by
          apply Decidable.byContradiction
          intro absent
          simp [splitLast?_eq_none_iff.mpr absent] at found
        simp only [splitLast?, found, Option.some.injEq, Prod.mk.injEq, reduceCtorEq, false_and,
          List.nil_append, List.cons.injEq, false_iff, not_and, and_imp]
        rintro - rfl absent
        exact absent present
      | cons first before =>
        simp only [splitLast?, found, Option.some.injEq, Prod.mk.injEq, List.cons.injEq,
          List.cons_append]
        rw [and_assoc, and_assoc, ← @ih before, found]
        simp
    | none =>
      have absent := splitLast?_eq_none_iff.mp found
      by_cases same : char = separator
      · subst same
        cases before with
        | nil =>
          simp only [splitLast?, found]
          simp
          rintro rfl
          exact absent
        | cons first before =>
          simp [splitLast?, found]
          intro _ rfl
          simp at absent
      · cases before with
        | nil => simp [splitLast?, found, same]
        | cons first before =>
          simp [splitLast?, found, same]
          intro _ rfl
          simp at absent

theorem exists_append_afterLast (separator : Char) (text : List Char) :
    ∃ before, text = before ++ afterLast separator text := by
  unfold afterLast
  split
  next before after found =>
    obtain ⟨parts, -⟩ := splitLast?_eq_some_iff.mp found
    exact ⟨before ++ [separator], by simpa using parts⟩
  · exact ⟨[], rfl⟩

theorem not_mem_afterLast (separator : Char) (text : List Char) :
    separator ∉ afterLast separator text := by
  unfold afterLast
  split
  next before after found => exact (splitLast?_eq_some_iff.mp found).2
  next none => exact splitLast?_eq_none_iff.mp none

/-- What is added without a separator is added after the last one. -/
theorem afterLast_append {separator : Char} {rest : List Char} (plain : separator ∉ rest)
    (text : List Char) : afterLast separator (text ++ rest) = afterLast separator text ++ rest := by
  cases found : splitLast? separator text with
  | none =>
    have absent := splitLast?_eq_none_iff.mp found
    have none : splitLast? separator (text ++ rest) = none :=
      splitLast?_eq_none_iff.mpr (by simp [absent, plain])
    simp only [afterLast, found, none]
  | some parts =>
    obtain ⟨before, after⟩ := parts
    obtain ⟨rfl, absent⟩ := splitLast?_eq_some_iff.mp found
    have longer : splitLast? separator (before ++ separator :: after ++ rest) =
        some (before, after ++ rest) :=
      splitLast?_eq_some_iff.mpr ⟨by simp, by simp [absent, plain]⟩
    simp only [afterLast, found, longer]

end CustomScalars.Text
