import CustomScalars.Text.Lowercase.Context
import CustomScalars.Text.Lowercase.Table

/-!
# Lower case

Most characters have their small form by themselves. A capital sigma ends a word in one form and
stands inside it in another, so the walk keeps the characters it has passed, nearest first. The
dotted capital I becomes two characters: the ordinary small i and a dot above it.
-/
namespace CustomScalars.Text

def capitalSigma : Char := '\u03A3'

def smallSigma : Char := '\u03C3'

def finalSigma : Char := '\u03C2'

def dottedCapitalI : Char := '\u0130'

def dotAbove : Char := '\u0307'

/-- Whether the nearest character that is not looked through is a letter with case. -/
def nearestIsCased (chars : List Char) : Bool :=
  match chars.dropWhile isIgnorable with
  | [] => false
  | char :: _ => isCased char

/-- The small form of one character between the characters passed and those to come. -/
def smallFormBetween (passed : List Char) (char : Char) (rest : List Char) : List Char :=
  if char = capitalSigma then
    if nearestIsCased passed && !nearestIsCased rest then [finalSigma] else [smallSigma]
  else if char = dottedCapitalI then ['i', dotAbove]
  else [smallForm char]

def lowerAfter (passed : List Char) : List Char → List Char
  | [] => []
  | char :: rest => smallFormBetween passed char rest ++ lowerAfter (char :: passed) rest

def lower (text : List Char) : List Char := lowerAfter [] text

theorem smallFormBetween_ne_nil (passed : List Char) (char : Char) (rest : List Char) :
    smallFormBetween passed char rest ≠ [] := by
  unfold smallFormBetween
  split
  · split <;> exact List.cons_ne_nil _ _
  · split <;> exact List.cons_ne_nil _ _

@[simp] theorem lower_eq_nil_iff {text : List Char} : lower text = [] ↔ text = [] := by
  cases text with
  | nil => simp [lower, lowerAfter]
  | cons char rest => simp [lower, lowerAfter, smallFormBetween_ne_nil]

section
variable {mark : Char} (positive : 0 < mark.toNat) (low : mark.toNat < 0x41)
include positive low

theorem mem_smallFormBetween_iff (passed : List Char) (char : Char) (rest : List Char) :
    mark ∈ smallFormBetween passed char rest ↔ mark = char := by
  -- The characters with forms of their own are all letters.
  have notLetter {letter : Char} (above : 0x41 ≤ letter.toNat) : mark ≠ letter := by
    rintro rfl
    omega
  have noSigma : mark ≠ capitalSigma := notLetter (by decide)
  have noDottedI : mark ≠ dottedCapitalI := notLetter (by decide)
  unfold smallFormBetween
  split
  next sigma =>
    have noFinal : mark ≠ finalSigma := notLetter (by decide)
    have noSmall : mark ≠ smallSigma := notLetter (by decide)
    split <;> simp [sigma, noSigma, noFinal, noSmall]
  next =>
    split
    next dotted =>
      have noSmallI : mark ≠ 'i' := notLetter (by decide)
      have noDot : mark ≠ dotAbove := notLetter (by decide)
      simp [dotted, noDottedI, noSmallI, noDot]
    next => rw [List.mem_singleton, eq_comm, smallForm_eq_iff positive low, eq_comm]

theorem mem_lowerAfter_iff (passed text : List Char) :
    mark ∈ lowerAfter passed text ↔ mark ∈ text := by
  induction text generalizing passed with
  | nil => rfl
  | cons char rest ih =>
    rw [lowerAfter, List.mem_append, mem_smallFormBetween_iff positive low, ih, List.mem_cons]

/-- Lower case neither makes nor loses a mark that comes before the letters. -/
theorem mem_lower_iff (text : List Char) : mark ∈ lower text ↔ mark ∈ text :=
  mem_lowerAfter_iff positive low [] text

/-- Such a mark is first in lower case only where it was first before. -/
theorem head?_of_head?_lower {text : List Char} (first : (lower text).head? = some mark) :
    text.head? = some mark := by
  cases text with
  | nil => cases first
  | cons char rest =>
    obtain ⟨form, forms, split⟩ :=
      List.exists_cons_of_ne_nil (smallFormBetween_ne_nil [] char rest)
    rw [lower, lowerAfter, split, List.cons_append, List.head?_cons, Option.some.injEq] at first
    have member : mark ∈ smallFormBetween [] char rest := by simp [split, first]
    rw [(mem_smallFormBetween_iff positive low [] char rest).mp member]
    rfl

end

end CustomScalars.Text
