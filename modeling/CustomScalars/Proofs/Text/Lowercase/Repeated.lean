import CustomScalars.Text.Lowercase

/-!
# Lower case is reached at once

No run of the table has a character in it that is the small form of another, and neither sigma nor
the dotted capital I, which have forms of their own, is a small form. So a text in lower case is
left as it is, whatever stands around its characters, and lower case taken twice is lower case.
-/
namespace CustomScalars.Text

namespace CaseRun

/-- None of the small forms of the run is covered by the other one: they come after it or before
it, or they lie between its characters, which are two apart. -/
def misses (run other : CaseRun) : Bool :=
  Nat.blt other.last run.target || Nat.blt (run.target + (run.last - run.first)) other.first ||
    other.step == 2 && (run.step == 2 || run.last == run.first) &&
      (run.target + other.first) % 2 == 1

theorem not_covers_of_misses {run other : CaseRun} (missed : run.misses other = true) {code : Nat}
    (covered : run.covers code = true) : ¬ other.covers (run.small code) = true := by
  rw [covers_iff] at covered ⊢
  obtain ⟨first, last, apart⟩ := covered
  rintro ⟨firstToo, lastToo, apartToo⟩
  rw [small] at firstToo lastToo apartToo
  simp only [misses, Bool.or_eq_true, Bool.and_eq_true, Nat.blt_eq, beq_iff_eq] at missed
  rcases missed with (after | before) | ⟨⟨two, steps⟩, odd⟩
  · omega
  · omega
  · rw [two] at apartToo
    rcases steps with twoToo | single
    · rw [twoToo] at apart
      omega
    · omega

end CaseRun

theorem misses_of_mem_caseRuns :
    ∀ run ∈ caseRuns, ∀ other ∈ caseRuns, run.misses other = true := by
  have every : (caseRuns.all fun run => caseRuns.all run.misses) = true := by decide +kernel
  intro run member
  exact List.all_eq_true.mp (List.all_eq_true.mp every run member)

theorem dottedCapitalI_of_mem_caseRuns : ∀ run ∈ caseRuns,
    dottedCapitalI.toNat < run.target ∨
      run.target + (run.last - run.first) < dottedCapitalI.toNat := by
  decide +kernel

theorem smallForm_of_uncovered {char : Char}
    (uncovered : ∀ run ∈ caseRuns, ¬ run.covers char.toNat = true) : smallForm char = char := by
  rw [smallForm, List.find?_eq_none.mpr uncovered]

theorem smallForm_smallForm (char : Char) : smallForm (smallForm char) = smallForm char := by
  rcases smallForm_cases char with own | ⟨run, member, covered, small⟩
  · rw [own, own]
  · refine smallForm_of_uncovered fun other memberToo => ?_
    rw [small]
    rcases toNat_ofNat_eq_or (run.small char.toNat) with code | null
    · rw [code]
      exact CaseRun.not_covers_of_misses (misses_of_mem_caseRuns run member other memberToo) covered
    · -- The null character comes before all letters.
      rw [null, CaseRun.covers_iff]
      have letters := letters_of_mem_caseRuns other memberToo
      omega

theorem smallForm_ne_capitalSigma (char : Char) : smallForm char ≠ capitalSigma := by
  intro capital
  have settled := smallForm_smallForm char
  rw [capital] at settled
  exact absurd settled (by decide +kernel)

theorem smallForm_ne_dottedCapitalI {char : Char} (other : char ≠ dottedCapitalI) :
    smallForm char ≠ dottedCapitalI := by
  rcases smallForm_cases char with own | ⟨run, member, covered, small⟩
  · rwa [own]
  · intro dotted
    have code := toNat_ofNat_eq_or (run.small char.toNat)
    rw [← small, dotted, CaseRun.small] at code
    obtain ⟨first, last, -⟩ := CaseRun.covers_iff.mp covered
    have positive : dottedCapitalI.toNat ≠ 0 := by decide
    have missed := dottedCapitalI_of_mem_caseRuns run member
    omega

/-- The character stands in lower case as it is, wherever it stands. -/
structure IsSmall (char : Char) : Prop where
  noSigma : char ≠ capitalSigma
  noDottedI : char ≠ dottedCapitalI
  own : smallForm char = char

theorem isSmall_of_mem_smallFormBetween {passed rest : List Char} {char small : Char}
    (member : small ∈ smallFormBetween passed char rest) : IsSmall small := by
  unfold smallFormBetween at member
  split at member
  · -- The sigma has one small form for the end of a word and one for everywhere else.
    split at member
    · rw [List.mem_singleton.mp member]
      exact ⟨by decide, by decide, by decide +kernel⟩
    · rw [List.mem_singleton.mp member]
      exact ⟨by decide, by decide, by decide +kernel⟩
  · split at member
    · -- The dotted capital I comes to a small one and a mark above it.
      rcases List.mem_cons.mp member with rfl | dot
      · exact ⟨by decide, by decide, by decide +kernel⟩
      · rw [List.mem_singleton.mp dot]
        exact ⟨by decide, by decide, by decide +kernel⟩
    next plain =>
      rw [List.mem_singleton.mp member]
      exact ⟨smallForm_ne_capitalSigma char, smallForm_ne_dottedCapitalI plain,
        smallForm_smallForm char⟩

theorem isSmall_of_mem_lowerAfter {passed text : List Char} {small : Char}
    (member : small ∈ lowerAfter passed text) : IsSmall small := by
  induction text generalizing passed with
  | nil => exact absurd member List.not_mem_nil
  | cons char rest ih =>
    rcases List.mem_append.mp member with here | later
    · exact isSmall_of_mem_smallFormBetween here
    · exact ih later

theorem lowerAfter_of_isSmall {text : List Char} (small : ∀ char ∈ text, IsSmall char)
    (passed : List Char) : lowerAfter passed text = text := by
  induction text generalizing passed with
  | nil => rfl
  | cons char rest ih =>
    obtain ⟨noSigma, noDottedI, own⟩ := small char List.mem_cons_self
    have later := ih (fun other member => small other (List.mem_cons_of_mem char member))
    rw [lowerAfter, later, smallFormBetween, if_neg noSigma, if_neg noDottedI, own]
    rfl

theorem lower_lower (text : List Char) : lower (lower text) = lower text :=
  lowerAfter_of_isSmall (fun _ member => isSmall_of_mem_lowerAfter member) []

end CustomScalars.Text
