import CustomScalars.Proofs.Text.Lowercase
import CustomScalars.Proofs.Text.Lowercase.Repeated

/-!
# Spellings in capital and small letters

Two texts may differ in nothing but which of their ASCII letters are capitals. They have the same
lower case then: the two forms of an ASCII letter have one small form, they are both letters with
case, and no mark is looked through in place of one and not of the other, so that a sigma anywhere
in the text sees the same neighbours.
-/
namespace CustomScalars.Text

/-- The texts are of one length and differ at most in the case of ASCII letters. -/
def SameButForCase (text other : List Char) : Prop :=
  text.map Char.toLower = other.map Char.toLower

instance (text other : List Char) : Decidable (SameButForCase text other) :=
  inferInstanceAs (Decidable (_ = _))

section
variable {char mark : Char}

/-- A mark that comes before the letters is no letter's small form. -/
theorem toLower_eq_iff (low : mark.toNat < 0x41) : char.toLower = mark ↔ char = mark := by
  rcases toLower_cases char with own | ⟨first, last, small⟩
  · rw [own]
  · refine iff_of_false ?_ ?_
    · rintro rfl
      omega
    · rintro rfl
      omega

/-- The two forms of an ASCII letter count alike for a sigma next to them. -/
theorem covers_ascii : ∀ offset < 26,
    CodeRange.covers casedRanges (0x41 + offset + 0x20) =
        CodeRange.covers casedRanges (0x41 + offset) ∧
      CodeRange.covers ignorableRanges (0x41 + offset + 0x20) =
        CodeRange.covers ignorableRanges (0x41 + offset) := by
  decide

theorem context_toLower (char : Char) :
    isCased char.toLower = isCased char ∧ isIgnorable char.toLower = isIgnorable char := by
  rcases toLower_cases char with own | ⟨first, last, small⟩
  · rw [own]
    exact ⟨rfl, rfl⟩
  · have letter : 0x41 + (char.toNat - 0x41) = char.toNat := by omega
    have alike := covers_ascii (char.toNat - 0x41) (by omega)
    rw [letter] at alike
    rw [isCased, isCased, isIgnorable, isIgnorable, small]
    exact alike

/-- The small letter is the small form of the capital, and so its own. -/
theorem smallForm_toLower (char : Char) : smallForm char.toLower = smallForm char := by
  rcases toLower_cases char with own | ⟨first, last, -⟩
  · rw [own]
  · rw [← smallForm_of_capital first last, smallForm_smallForm]

end

theorem nearestIsCased_map_toLower (chars : List Char) :
    nearestIsCased (chars.map Char.toLower) = nearestIsCased chars := by
  have looked : isIgnorable ∘ Char.toLower = isIgnorable :=
    funext fun char => (context_toLower char).2
  rw [nearestIsCased, nearestIsCased, List.dropWhile_map, looked]
  cases chars.dropWhile isIgnorable with
  | nil => rfl
  | cons char rest => exact (context_toLower char).1

theorem smallFormBetween_toLower (passed : List Char) (char : Char) (rest : List Char) :
    smallFormBetween (passed.map Char.toLower) char.toLower (rest.map Char.toLower) =
      smallFormBetween passed char rest := by
  unfold smallFormBetween
  rw [nearestIsCased_map_toLower, nearestIsCased_map_toLower, smallForm_toLower]
  rcases toLower_cases char with own | ⟨first, last, small⟩
  · rw [own]
  · -- Neither form of an ASCII letter is one of the two letters with forms of their own.
    have ascii {letter : Char} (beyond : 0x80 ≤ letter.toNat) :
        char ≠ letter ∧ char.toLower ≠ letter := by
      constructor <;> rintro rfl <;> omega
    obtain ⟨noSigma, noSmallSigma⟩ : char ≠ capitalSigma ∧ char.toLower ≠ capitalSigma :=
      ascii (by decide)
    obtain ⟨noDottedI, noSmallI⟩ : char ≠ dottedCapitalI ∧ char.toLower ≠ dottedCapitalI :=
      ascii (by decide)
    rw [if_neg noSigma, if_neg noSmallSigma, if_neg noDottedI, if_neg noSmallI]

theorem lowerAfter_map_toLower (passed text : List Char) :
    lowerAfter (passed.map Char.toLower) (text.map Char.toLower) = lowerAfter passed text := by
  induction text generalizing passed with
  | nil => rfl
  | cons char rest ih =>
    have later := ih (char :: passed)
    rw [List.map_cons] at later
    rw [List.map_cons, lowerAfter, lowerAfter, smallFormBetween_toLower, later]

theorem lower_map_toLower (text : List Char) : lower (text.map Char.toLower) = lower text :=
  lowerAfter_map_toLower [] text

namespace SameButForCase

variable {text other : List Char}

theorem symm (same : SameButForCase text other) : SameButForCase other text := Eq.symm same

theorem lower_eq (same : SameButForCase text other) : lower text = lower other := by
  rw [← lower_map_toLower text, same, lower_map_toLower]

theorem nil_iff (same : SameButForCase text other) : text = [] ↔ other = [] := by
  rw [← List.map_eq_nil_iff, same, List.map_eq_nil_iff]

section
variable {mark : Char} (low : mark.toNat < 0x41)
include low

theorem mem_of_mem (same : SameButForCase text other) (member : mark ∈ text) : mark ∈ other := by
  have small : mark.toLower = mark := (toLower_eq_iff low).mpr rfl
  have lowered := List.mem_map_of_mem (f := Char.toLower) member
  rw [same, small] at lowered
  obtain ⟨char, here, same⟩ := List.mem_map.mp lowered
  rwa [(toLower_eq_iff low).mp same] at here

theorem not_mem (same : SameButForCase text other) (absent : mark ∉ text) : mark ∉ other :=
  fun member => absent (same.symm.mem_of_mem low member)

/-- A mark at the same place splits both texts. -/
theorem split {before after : List Char} (same : SameButForCase (before ++ mark :: after) other) :
    ∃ beforeToo afterToo, other = beforeToo ++ mark :: afterToo ∧
      SameButForCase after afterToo := by
  rw [SameButForCase, List.map_append, List.map_cons, (toLower_eq_iff low).mpr rfl] at same
  obtain ⟨beforeToo, rest, rfl, -, lowered⟩ := List.map_eq_append_iff.mp same.symm
  obtain ⟨char, afterToo, rfl, marked, loweredToo⟩ := List.map_eq_cons_iff.mp lowered
  rw [(toLower_eq_iff low).mp marked]
  exact ⟨beforeToo, afterToo, rfl, loweredToo.symm⟩

theorem dropWhile (same : SameButForCase text other) :
    SameButForCase (text.dropWhile (· = mark)) (other.dropWhile (· = mark)) := by
  have unmoved : (fun char => decide (char = mark)) ∘ Char.toLower =
      fun char => decide (char = mark) :=
    funext fun char => decide_eq_decide.mpr (toLower_eq_iff low)
  have lowered := congrArg (List.dropWhile (· = mark)) same
  rwa [List.dropWhile_map, List.dropWhile_map, unmoved] at lowered

end

end SameButForCase

end CustomScalars.Text
