import CustomScalars.Proofs.Image.Collections
import CustomScalars.Proofs.Text.Lowercase.Repeated

/-!
# Rules built from their own extensions

The extensions that a rule keeps are as they would be kept again: none is empty or begins with a
dot, and each is in the form in which it is compared. So the rule that is built from them, under the
same policy on case and the same name, is the rule itself.
-/
namespace CustomScalars.Image.Rule

/-- As an entry the text comes to itself. -/
structure IsNormal (caseSensitive : Bool) (text : String) : Prop where
  nonempty : text ≠ ""
  undotted : text.toList.head? ≠ some '.'
  normal : normalize caseSensitive text.toList = text.toList

theorem normalize_normalize (caseSensitive : Bool) (extension : List Char) :
    normalize caseSensitive (normalize caseSensitive extension) =
      normalize caseSensitive extension := by
  cases caseSensitive with
  | true => rfl
  | false => exact Text.lower_lower extension

theorem head?_normalizeEntry_ne_dot (caseSensitive : Bool) (entry : Value) :
    (normalizeEntry caseSensitive entry).head? ≠ some '.' := by
  have stripped : (entry.display.toList.dropWhile (· = '.')).head? ≠ some '.' := by
    intro dotted
    have first := List.head?_dropWhile_not (· = '.') entry.display.toList
    rw [dotted] at first
    simp at first
  -- Lower case puts no dot in front, for no other character has one in its small form.
  cases caseSensitive with
  | true => exact stripped
  | false => exact mt (Text.head?_of_head?_lower (by decide) (by decide)) stripped

theorem isNormal_of_mem_normalizeEntries {caseSensitive : Bool} {entries : List Value}
    {text : String} (member : text ∈ normalizeEntries caseSensitive entries) :
    IsNormal caseSensitive text := by
  obtain ⟨nonempty, entry, -, -, comes⟩ := mem_normalizeEntries.mp member
  refine ⟨nonempty, ?_, ?_⟩
  · rw [← comes]
    exact head?_normalizeEntry_ne_dot caseSensitive entry
  · rw [← comes]
    exact normalize_normalize caseSensitive _

section
variable {caseSensitive : Bool} {text : String}

theorem IsNormal.truthy (is : IsNormal caseSensitive text) :
    (Value.ofText text).truthy = true := by
  simpa [Value.ofText, Value.truthy] using is.nonempty

theorem IsNormal.normalizeEntry_eq (is : IsNormal caseSensitive text) :
    normalizeEntry caseSensitive (.ofText text) = text.toList := by
  have undotted : text.toList.dropWhile (· = '.') = text.toList := by
    cases chars : text.toList with
    | nil => rfl
    | cons char rest =>
      have first : char ≠ '.' := by simpa [chars] using is.undotted
      simp [first]
  change normalize caseSensitive (text.toList.dropWhile (· = '.')) = text.toList
  rw [undotted, is.normal]

theorem normalizeEntries_of_isNormal {texts : List String} (ordered : texts.Pairwise (· < ·))
    (normal : ∀ text ∈ texts, IsNormal caseSensitive text) :
    normalizeEntries caseSensitive (texts.map .ofText) = texts := by
  apply Text.eq_of_mem_iff_of_pairwise (Text.pairwise_orderedSet _) ordered
  intro text
  rw [← normalizeEntries, mem_normalizeEntries]
  constructor
  · rintro ⟨-, entry, member, -, comes⟩
    obtain ⟨own, here, rfl⟩ := List.mem_map.mp member
    rw [(normal own here).normalizeEntry_eq, String.toList_inj] at comes
    rwa [← comes]
  · intro here
    have is := normal text here
    exact ⟨is.nonempty, .ofText text, List.mem_map_of_mem here, is.truthy, is.normalizeEntry_eq⟩

end

/-- The extensions of a rule that was built are some, in order, and each comes to itself, so what is
built from the list of them is the same rule again. -/
theorem build_own_extensions {extensions caseSensitive typeName : Value} {rule : Rule}
    (built : build extensions caseSensitive typeName = .ok rule) :
    rule.extensions ≠ [] ∧ (∀ text ∈ rule.extensions, IsNormal rule.caseSensitive text) ∧
      rule.extensions.Pairwise (· < ·) ∧
      build (.ofTexts rule.extensions) (.bool rule.caseSensitive) rule.typeName = .ok rule := by
  have ordered := pairwise_of_build built
  obtain ⟨entries, -, -, nonempty, rfl⟩ := build_eq_ok_iff.mp built
  have normal : ∀ text ∈ normalizeEntries caseSensitive.truthy entries,
      IsNormal caseSensitive.truthy text :=
    fun text member => isNormal_of_mem_normalizeEntries member
  have again := normalizeEntries_of_isNormal ordered normal
  refine ⟨nonempty, normal, ordered, build_eq_ok_iff.mpr ⟨_, rfl, ?_, ?_, ?_⟩⟩
  · simp [areWritable]
  · rwa [Value.truthy, again]
  · rw [Value.truthy, again]

/-- Four entries of different kinds, one of them nothing but dots and one with a capital sigma,
whose small form at the end of a word is a form of its own. -/
theorem build_own_extensions_of_sigma :
    let extensions :=
      Value.set [.ofText "..JPG\u03A3", .int none 7, .ofText "...", .ofText ".png"]
    let rule : Rule := ⟨["7", "jpg\u03C2", "png"], false, .ofText "Photo"⟩
    build extensions (.ofText "") (.ofText "Photo") = .ok rule ∧
      IsNormal false "jpg\u03C2" ∧
      build (.ofTexts ["7", "jpg\u03C2", "png"]) (.bool false) (.ofText "Photo") = .ok rule := by
  intro extensions rule
  have built : build extensions (.ofText "") (.ofText "Photo") = .ok rule :=
    build_eq_ok_iff.mpr ⟨_, rfl, by decide +kernel, by decide, rfl⟩
  obtain ⟨-, normal, -, again⟩ := build_own_extensions built
  exact ⟨built, normal "jpg\u03C2" (List.mem_cons_of_mem _ List.mem_cons_self), again⟩

end CustomScalars.Image.Rule
