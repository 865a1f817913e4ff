import CustomScalars.Image.Scalar
import CustomScalars.Proofs.Image.Acceptance
import CustomScalars.Proofs.Text.Lowercase

/-!
# Extensions that look alike

The standard image scalar compares extensions by their small forms, and small forms are taken from
tables for all characters. That lets in no extension beyond ASCII: the two characters beyond it
with a small form that has an ASCII letter would need an extension with a `k` or a dot above.
-/
namespace CustomScalars.Image

namespace Rule

/-- None of the extensions has a `k`. -/
theorem isPlain_of_mem_recognizedExtensions : ∀ extension ∈ recognizedExtensions,
    ∀ mark ∈ extension.toList, Text.IsPlain mark := by
  have plain : recognizedExtensions.all (fun extension =>
      extension.toList.all fun mark => decide (Text.IsPlain mark)) = true := by decide
  intro extension member mark here
  have letters := List.all_eq_true.mp plain extension member
  exact of_decide_eq_true (List.all_eq_true.mp letters mark here)

theorem recognizes_standard_iff (extension : List Char) :
    standard.recognizes extension = true ↔
      String.ofList (extension.map Char.toLower) ∈ recognizedExtensions := by
  -- A listed extension is the small form of the text in the tables exactly when it is in ASCII.
  have same (listed : String) (member : listed ∈ recognizedExtensions) :
      String.ofList (Text.lower extension) = listed ↔
        String.ofList (extension.map Char.toLower) = listed := by
    have plain := isPlain_of_mem_recognizedExtensions listed member
    rw [← String.toList_inj, ← String.toList_inj, String.toList_ofList, String.toList_ofList]
    exact Text.lower_eq_plain_iff plain extension
  rw [recognizes, List.contains_iff_mem]
  constructor
  · intro member
    exact ((same _ member).mp rfl).symm ▸ member
  · intro member
    exact ((same _ member).mpr rfl).symm ▸ member

end Rule

section
variable {stem extension : List Char}

/-- A text that is a listed extension but for ASCII capitals can be found as one. -/
theorem endsIn_of_mem_recognizedExtensions
    (member : String.ofList (extension.map Char.toLower) ∈ recognizedExtensions) :
    EndsIn (stem ++ '.' :: extension) extension := by
  have letters : ∀ listed ∈ recognizedExtensions,
      listed.toList ≠ [] ∧ '.' ∉ listed.toList ∧ '/' ∉ listed.toList := by decide
  obtain ⟨nonempty, dotless, slashless⟩ := letters _ member
  rw [String.toList_ofList] at nonempty dotless slashless
  exact ⟨fun none => nonempty (congrArg (List.map Char.toLower) none),
    fun dot => dotless (List.mem_map_of_mem dot),
    fun slash => slashless (List.mem_map_of_mem slash), stem, rfl⟩

theorem ascii_of_mem_recognizedExtensions
    (member : String.ofList (extension.map Char.toLower) ∈ recognizedExtensions) :
    ∀ char ∈ extension, char.toNat < 0x80 := by
  intro char here
  have plain := Rule.isPlain_of_mem_recognizedExtensions _ member char.toLower (by
    rw [String.toList_ofList]
    exact List.mem_map_of_mem here)
  exact Text.ascii_of_toLower plain.ascii

end

/-- The standard image scalar accepts the texts that end in a dot and one of the library's
extensions, written with small or capital ASCII letters, and no others. Whatever else the tables
of small forms say, the extension that it finds in a text that it accepts is in ASCII. -/
theorem standardScalar_ascii (brand : Option String) (content : String) :
    ((∃ accepted, standardScalar.serialize (.text brand content) = .ok (.accepted accepted)) ↔
      ∃ stem extension, content.toList = stem ++ '.' :: extension ∧
        String.ofList (extension.map Char.toLower) ∈ recognizedExtensions) ∧
    ∀ accepted, standardScalar.serialize (.text brand content) = .ok (.accepted accepted) →
      accepted = .text brand content ∧ ∃ extension, extension? content.toList = some extension ∧
        ∀ char ∈ extension, char.toNat < 0x80 := by
  -- What is found in an accepted text is listed.
  have listed {accepted : Value}
      (serialized : standardScalar.serialize (.text brand content) = .ok (.accepted accepted)) :
      accepted = .text brand content ∧ ∃ extension, EndsIn content.toList extension ∧
        String.ofList (extension.map Char.toLower) ∈ recognizedExtensions := by
    obtain ⟨verdict, checked, answers⟩ :=
      @Rule.check_answers Rule.standard rfl (.text brand content)
    cases (show Except.ok verdict = Except.ok _ from checked.symm.trans serialized)
    cases answers with
    | image ends recognized =>
      exact ⟨rfl, _, ends, (Rule.recognizes_standard_iff _).mp recognized⟩
  constructor
  · constructor
    · rintro ⟨accepted, serialized⟩
      obtain ⟨-, extension, ends, member⟩ := listed serialized
      obtain ⟨stem, split⟩ := ends.afterDot
      exact ⟨stem, extension, split, member⟩
    · rintro ⟨stem, extension, split, member⟩
      have found : extension? (stem ++ '.' :: extension) = some extension :=
        extension?_eq_some_iff.mpr (endsIn_of_mem_recognizedExtensions member)
      have recognized := (Rule.recognizes_standard_iff extension).mpr member
      refine ⟨.text brand content, ?_⟩
      simp only [standardScalar, Rule.check, split, found, recognized, if_true]
  · intro accepted serialized
    obtain ⟨unchanged, extension, ends, member⟩ := listed serialized
    exact ⟨unchanged, extension, extension?_eq_some_iff.mpr ends,
      ascii_of_mem_recognizedExtensions member⟩

end CustomScalars.Image
