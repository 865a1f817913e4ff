import CustomScalars.Text.Lowercase

/-!
# Texts in small ASCII letters

The small form of a character beyond ASCII may be an ASCII letter: that of the Kelvin sign is `k`,
and that of the dotted capital I is `i` with a dot above it. These two are all. So a text in small
ASCII letters without `k` is the small form of texts in ASCII alone, and for them it makes no
difference whether the whole of the tables is used or only what they say of `A` to `Z`.
-/
namespace CustomScalars.Text

/-- An ASCII character that is no small form of a character beyond ASCII. -/
structure IsPlain (mark : Char) : Prop where
  positive : 0 < mark.toNat
  ascii : mark.toNat < 0x80
  noKelvin : mark ≠ 'k'

instance (mark : Char) : Decidable (IsPlain mark) :=
  decidable_of_iff (0 < mark.toNat ∧ mark.toNat < 0x80 ∧ mark ≠ 'k')
    ⟨fun ⟨positive, ascii, noKelvin⟩ => ⟨positive, ascii, noKelvin⟩,
      fun ⟨positive, ascii, noKelvin⟩ => ⟨positive, ascii, noKelvin⟩⟩

section
variable {char mark : Char}

theorem toNat_toLower_of_capital (first : 0x41 ≤ char.toNat) (last : char.toNat ≤ 0x5A) :
    char.toLower.toNat = char.toNat + 0x20 := by
  have capital : char.val ≥ 'A'.val ∧ char.val ≤ 'Z'.val := ⟨first, last⟩
  have below : char.val.toNat ≤ 0x5A := last
  have lowered : char.toLower.val = char.val + ('a'.val - 'A'.val) :=
    congrArg Char.val (dif_pos capital)
  have distance : ('a'.val - 'A'.val).toNat = 0x20 := by decide
  simp only [Char.toNat, lowered, UInt32.toNat_add, distance]
  omega

theorem toLower_of_not_capital (outside : ¬ (0x41 ≤ char.toNat ∧ char.toNat ≤ 0x5A)) :
    char.toLower = char := by
  have noCapital : ¬ (char.val ≥ 'A'.val ∧ char.val ≤ 'Z'.val) := outside
  exact dif_neg noCapital

theorem toLower_cases (char : Char) : char.toLower = char ∨
    0x41 ≤ char.toNat ∧ char.toNat ≤ 0x5A ∧ char.toLower.toNat = char.toNat + 0x20 := by
  by_cases capital : 0x41 ≤ char.toNat ∧ char.toNat ≤ 0x5A
  · exact Or.inr ⟨capital.1, capital.2, toNat_toLower_of_capital capital.1 capital.2⟩
  · exact Or.inl (toLower_of_not_capital capital)

theorem ascii_of_toLower (ascii : char.toLower.toNat < 0x80) : char.toNat < 0x80 := by
  rcases toLower_cases char with own | ⟨-, last, -⟩
  · rwa [own] at ascii
  · omega

/-- The run of ASCII capitals comes first in the table. -/
theorem smallForm_of_capital (first : 0x41 ≤ char.toNat) (last : char.toNat ≤ 0x5A) :
    smallForm char = char.toLower := by
  have covered : CaseRun.covers ⟨0x41, 0x5A, 1, 0x61⟩ char.toNat = true :=
    CaseRun.covers_iff.mpr ⟨first, last, Nat.mod_one _⟩
  have found : caseRuns.find? (·.covers char.toNat) = some ⟨0x41, 0x5A, 1, 0x61⟩ :=
    List.find?_cons_of_pos covered
  have lowered := toNat_toLower_of_capital first last
  have code : 0x61 + (char.toNat - 0x41) = char.toLower.toNat := by omega
  simp only [smallForm, found, CaseRun.small, code, Char.ofNat_toNat]

/-- The one run of capitals in ASCII, runs of characters beyond it with small forms beyond it, and
the Kelvin sign. -/
theorem ascii_of_mem_caseRuns : ∀ run ∈ caseRuns,
    (run.first = 0x41 ∧ run.last = 0x5A ∧ run.target = 0x61) ∨
      (0x80 ≤ run.first ∧ 0x80 ≤ run.target) ∨
      (run.first = 0x212A ∧ run.last = 0x212A ∧ run.target = 'k'.toNat) := by
  decide +kernel

/-- A plain character is the small form of the same characters in the tables and in ASCII. -/
theorem smallForm_eq_plain_iff (plain : IsPlain mark) :
    smallForm char = mark ↔ char.toLower = mark := by
  obtain ⟨positive, ascii, noKelvin⟩ := plain
  by_cases capital : 0x41 ≤ char.toNat ∧ char.toNat ≤ 0x5A
  · rw [smallForm_of_capital capital.1 capital.2]
  rw [toLower_of_not_capital capital]
  rcases smallForm_cases char with own | ⟨run, member, covered, small⟩
  · rw [own]
  · obtain ⟨first, last, -⟩ := CaseRun.covers_iff.mp covered
    have code := toNat_ofNat_eq_or (run.small char.toNat)
    rw [← small, CaseRun.small] at code
    -- Only a character beyond ASCII is left, and its small form is beyond ASCII, or it is `k`.
    have foreign (beyond : 0x80 ≤ char.toNat) : char ≠ mark := by
      rintro rfl
      omega
    obtain ⟨from65, to90, -⟩ | ⟨firstBeyond, targetBeyond⟩ | ⟨kelvin, alone, target⟩ :=
      ascii_of_mem_caseRuns run member
    · omega
    · refine iff_of_false ?_ (foreign (by omega))
      rintro rfl
      omega
    · refine iff_of_false ?_ (foreign (by omega))
      have same : run.small char.toNat = 'k'.toNat := by
        rw [CaseRun.small]
        omega
      rw [small, same, Char.ofNat_toNat]
      exact noKelvin.symm

end

/-- By induction on the text. A character with a form of its own, the sigma and the dotted I, puts a
character beyond ASCII into the small form, in the one way as in the other. -/
theorem lowerAfter_eq_plain_iff {small : List Char} (plain : ∀ mark ∈ small, IsPlain mark)
    (passed text : List Char) : lowerAfter passed text = small ↔ text.map Char.toLower = small := by
  induction text generalizing passed small with
  | nil => rfl
  | cons char rest ih =>
    cases small with
    | nil => simp [lowerAfter, smallFormBetween_ne_nil]
    | cons mark others =>
      have here := plain mark List.mem_cons_self
      have later : ∀ other ∈ others, IsPlain other :=
        fun other member => plain other (List.mem_cons_of_mem mark member)
      have foreign {letter : Char} (beyond : 0x80 ≤ letter.toNat) : letter ≠ mark := by
        rintro rfl
        exact absurd here.ascii (by omega)
      rw [lowerAfter, smallFormBetween, List.map_cons]
      by_cases sigma : char = capitalSigma
      · have noFinal : finalSigma ≠ mark := foreign (by decide)
        have noSmall : smallSigma ≠ mark := foreign (by decide)
        have noCapital : capitalSigma.toLower ≠ mark := foreign (by decide)
        rw [if_pos sigma, sigma]
        split <;> simp [noFinal, noSmall, noCapital]
      rw [if_neg sigma]
      by_cases dotted : char = dottedCapitalI
      · have noCapital : dottedCapitalI.toLower ≠ mark := foreign (by decide)
        have noDot : ∀ text, dotAbove :: text ≠ others := by
          rintro text rfl
          exact absurd (later dotAbove List.mem_cons_self).ascii (by decide)
        rw [if_pos dotted, dotted]
        simp [noCapital, noDot]
      · rw [if_neg dotted]
        simp only [List.cons_append, List.nil_append, List.cons.injEq]
        rw [smallForm_eq_plain_iff here, ih later]

/-- A plain text is the small form of the texts that are it but for ASCII capitals. -/
theorem lower_eq_plain_iff {small : List Char} (plain : ∀ mark ∈ small, IsPlain mark)
    (text : List Char) : lower text = small ↔ text.map Char.toLower = small :=
  lowerAfter_eq_plain_iff plain [] text

/-- The Kelvin sign is why `k` is left out. -/
example : lower ['\u212A'] = ['k'] ∧ ['\u212A'].map Char.toLower ≠ ['k'] := by decide +kernel

end CustomScalars.Text
