import CustomScalars.Proofs.Image.Collections
import CustomScalars.Proofs.Text.Lowercase.Spelling

/-!
# Rules that do not respect case

Lower case is taken of the extension alone, and what it makes of a letter depends on the letters
around it. All the same a rule that does not respect case cannot tell two spellings of a text in
capital and small ASCII letters apart, and neither can it tell two spellings of the extensions that
it is built from.
-/
namespace CustomScalars.Image

open Text (SameButForCase)

/-- The extensions of two spellings of a reference are two spellings of one extension. -/
theorem EndsIn.respelled {reference other extension : List Char}
    (ends : EndsIn reference extension) (same : SameButForCase reference other) :
    ∃ extensionToo, EndsIn other extensionToo ∧ SameButForCase extension extensionToo := by
  obtain ⟨nonempty, dotless, slashless, stem, rfl⟩ := ends
  obtain ⟨stemToo, extensionToo, rfl, respelled⟩ := same.split (by decide)
  refine ⟨extensionToo, ⟨?_, ?_, ?_, stemToo, rfl⟩, respelled⟩
  · exact mt respelled.nil_iff.mpr nonempty
  · exact respelled.not_mem (by decide) dotless
  · exact respelled.not_mem (by decide) slashless

namespace Rule

theorem keeps_sameButForCase : Keeps false SameButForCase :=
  fun _ _ same => (same.dropWhile (by decide)).symm.lower_eq

section
variable {rule : Rule}

theorem recognizes_of_respelled (lenient : rule.caseSensitive = false)
    {extension other : List Char} (same : SameButForCase extension other) :
    rule.recognizes other = rule.recognizes extension := by
  simp only [recognizes, normalize, lenient, Bool.false_eq_true, if_false, same.lower_eq]

/-- The rule accepts both values as they are, or it rejects both as no images, which fails for both
where its name cannot be written into the message. -/
inductive TreatsAlike (rule : Rule) (value other : Value) : Prop where
  | accepted : rule.check value = .ok (.accepted value) →
      rule.check other = .ok (.accepted other) → TreatsAlike rule value other
  | rejected (message messageToo : String) :
      rule.check value = .ok (.rejected .notRecognizedImage message) →
      rule.check other = .ok (.rejected .notRecognizedImage messageToo) →
      TreatsAlike rule value other
  | failed : rule.typeName.isWritable = false → rule.check value = .error (.longNumber none) →
      rule.check other = .error (.longNumber none) → TreatsAlike rule value other

theorem accepts_or_rejects_text (writable : rule.typeName.isWritable = true)
    (brand : Option String) (content : String) :
    rule.Accepts (.text brand content) ∨ ∃ message,
      rule.check (.text brand content) = .ok (.rejected .notRecognizedImage message) := by
  obtain ⟨verdict, checked, answers⟩ := check_answers writable (.text brand content)
  cases answers with
  | wrongType message kind => exact absurd rfl kind
  | image ends recognized => exact Or.inl checked
  | unlisted message ends unrecognized otherwise => exact Or.inr ⟨message, checked⟩
  | extensionless message none ending => exact Or.inr ⟨message, checked⟩

theorem Accepts.respelled {brand : Option String} {content other : String}
    (accepts : rule.Accepts (.text brand content)) (lenient : rule.caseSensitive = false)
    (same : SameButForCase content.toList other.toList) (brandToo : Option String) :
    rule.Accepts (.text brandToo other) := by
  obtain ⟨-, _, _, extension, ⟨⟩, ends, recognized⟩ := check_accepted_iff.mp accepts
  obtain ⟨extensionToo, endsToo, respelled⟩ := ends.respelled same
  rw [← recognizes_of_respelled lenient respelled] at recognized
  exact check_accepted_iff.mpr ⟨rfl, brandToo, other, extensionToo, rfl, endsToo, recognized⟩

theorem treatsAlike_of_respelled (lenient : rule.caseSensitive = false) {content other : String}
    (same : SameButForCase content.toList other.toList) (brand brandToo : Option String) :
    rule.TreatsAlike (.text brand content) (.text brandToo other) := by
  -- Acceptance of either spelling carries over to the other, so no rejection meets an acceptance.
  by_cases accepts : rule.Accepts (.text brand content)
  · exact .accepted accepts (accepts.respelled lenient same brandToo)
  have refuses : ¬ rule.Accepts (.text brandToo other) :=
    fun acceptsToo => accepts (acceptsToo.respelled lenient same.symm brand)
  cases writable : rule.typeName.isWritable with
  | true =>
    obtain ⟨message, rejects⟩ :=
      (accepts_or_rejects_text writable brand content).resolve_left accepts
    obtain ⟨messageToo, rejectsToo⟩ :=
      (accepts_or_rejects_text writable brandToo other).resolve_left refuses
    exact .rejected message messageToo rejects rejectsToo
  | false =>
    exact .failed writable ((check_of_not_writable writable _).resolve_left accepts)
      ((check_of_not_writable writable _).resolve_left refuses)

end

/-- A rule that is built without respect for case treats two texts alike that differ at most in the
case of ASCII letters, each of them being returned, if it is, as it is written; and from entries
that differ in no more than that the same rule is built. -/
theorem check_caseless {extensions caseSensitive typeName : Value} {rule : Rule}
    (built : build extensions caseSensitive typeName = .ok rule)
    (lenient : caseSensitive.truthy = false) :
    (∀ brand brandToo content other, SameButForCase content.toList other.toList →
      rule.TreatsAlike (.text brand content) (.text brandToo other)) ∧
    ∀ others, Interchangeable SameButForCase extensions others →
      build others caseSensitive typeName = .ok rule := by
  constructor
  · intro brand brandToo content other same
    obtain ⟨entries, -, rfl⟩ := build_eq_ok built
    exact treatsAlike_of_respelled lenient same brand brandToo
  · intro others interchangeable
    exact interchangeable.build_eq (by rw [lenient]; exact keeps_sameButForCase) built

/-- An extension that ends in a capital sigma, whose small form depends on the letter before it. The
reference and the entry are spelled in two ways each. -/
theorem check_caseless_of_sigma :
    let extensions := Value.list none [.ofText "jpg\u03A3", .int none 7]
    let others := Value.tuple [.int none 7, .ofText "JPG\u03A3"]
    let rule : Rule := ⟨["7", "jpg\u03C2"], false, .ofText "Image"⟩
    build extensions .null (.ofText "Image") = .ok rule ∧ Value.null.truthy = false ∧
      SameButForCase "A.Jpg\u03A3".toList "a.jPG\u03A3".toList ∧
      rule.TreatsAlike (.ofText "A.Jpg\u03A3") (.ofText "a.jPG\u03A3") ∧
      Interchangeable SameButForCase extensions others ∧
      build others .null (.ofText "Image") = .ok rule := by
  intro extensions others rule
  have built : build extensions .null (.ofText "Image") = .ok rule :=
    build_eq_ok_iff.mpr ⟨_, rfl, by decide +kernel, by decide, rfl⟩
  have same : SameButForCase "A.Jpg\u03A3".toList "a.jPG\u03A3".toList := by decide
  have entry : SameButForCase "jpg\u03A3".toList "JPG\u03A3".toList := by decide
  have interchangeable : Interchangeable SameButForCase extensions others := by
    constructor
    · refine ⟨_, _, rfl, rfl, fun value member _ => ?_⟩
      simp only [List.mem_cons, List.not_mem_nil, or_false] at member
      rcases member with rfl | rfl
      · exact ⟨_, List.mem_cons_of_mem _ List.mem_cons_self, .text none none entry⟩
      · exact ⟨_, List.mem_cons_self, .same _⟩
    · refine ⟨_, _, rfl, rfl, fun value member _ => ?_⟩
      simp only [List.mem_cons, List.not_mem_nil, or_false] at member
      rcases member with rfl | rfl
      · exact ⟨_, List.mem_cons_of_mem _ List.mem_cons_self, .same _⟩
      · exact ⟨_, List.mem_cons_self, .text none none entry.symm⟩
  obtain ⟨alike, unchanged⟩ := check_caseless built rfl
  exact ⟨built, rfl, same, alike none none _ _ same, interchangeable,
    unchanged others interchangeable⟩

end Rule

end CustomScalars.Image
