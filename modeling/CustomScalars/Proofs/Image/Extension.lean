import CustomScalars.Image.Rule
import Mathlib.Data.List.TakeWhile

/-!
# Extensions found and extensions listed

The extension that the search in two stages finds, the last path segment first and its last dot
then, is the only way to write a reference as something, a dot and a text without dots and slashes.
So folders neither change the extension of what they hold nor give it one, and what has an extension
keeps it whatever is put in front. Which extensions a rule recognizes is traced back to the values
that it was built from, and so is whether there is a rule at all.
-/
namespace CustomScalars.Image

/-- The reference is a stem, a dot and the extension, which is all in the last path segment and
after its last dot. -/
structure EndsIn (reference extension : List Char) : Prop where
  nonempty : extension ≠ []
  dotless : '.' ∉ extension
  slashless : '/' ∉ extension
  afterDot : ∃ stem, reference = stem ++ '.' :: extension

theorem extension?_eq_some_iff {reference extension : List Char} :
    extension? reference = some extension ↔ EndsIn reference extension := by
  constructor
  · intro found
    unfold extension? at found
    split at found
    next stem last split =>
      split at found
      · cases found
      next nonempty =>
        cases found
        obtain ⟨segment, dotless⟩ := Text.splitLast?_eq_some_iff.mp split
        obtain ⟨folders, whole⟩ := Text.exists_append_afterLast '/' reference
        -- The extension is a part of the last segment, which has no slash.
        have slashless := Text.not_mem_afterLast '/' reference
        rw [segment] at whole slashless
        refine ⟨by simpa using nonempty, dotless, ?_, folders ++ stem, by simpa using whole⟩
        intro member
        exact slashless (List.mem_append_right stem (List.mem_cons_of_mem '.' member))
    · cases found
  · rintro ⟨nonempty, dotless, slashless, stem, rfl⟩
    -- Without a slash after it, the dot of the decomposition is in the last segment.
    have plain : '/' ∉ '.' :: extension := by simp [slashless]
    have split : Text.splitLast? '.' (Text.afterLast '/' (stem ++ '.' :: extension)) =
        some (Text.afterLast '/' stem, extension) := by
      rw [Text.afterLast_append plain]
      exact Text.splitLast?_eq_some_iff.mpr ⟨rfl, dotless⟩
    simp [extension?, split, nonempty]

theorem extension?_eq_none_iff {reference : List Char} :
    extension? reference = none ↔ ∀ extension, ¬ EndsIn reference extension := by
  simp only [Option.eq_none_iff_forall_ne_some, ne_eq, extension?_eq_some_iff]

theorem EndsIn.unique {reference extension other : List Char}
    (ends : EndsIn reference extension) (otherEnds : EndsIn reference other) :
    extension = other := by
  rw [← extension?_eq_some_iff] at ends otherEnds
  exact Option.some.inj (ends.symm.trans otherEnds)

theorem EndsIn.prepend {reference extension : List Char} (ends : EndsIn reference extension)
    (front : List Char) : EndsIn (front ++ reference) extension := by
  obtain ⟨stem, rfl⟩ := ends.afterDot
  exact ⟨ends.nonempty, ends.dotless, ends.slashless, front ++ stem, by simp⟩

/-- Folders have no part in the extension. -/
theorem endsIn_append_slash_iff {folders segment extension : List Char} :
    EndsIn (folders ++ '/' :: segment) extension ↔ EndsIn segment extension := by
  constructor
  · rintro ⟨nonempty, dotless, slashless, stem, split⟩
    have dotted : '.' :: extension <:+ folders ++ '/' :: segment := ⟨stem, split.symm⟩
    have slashed : '/' :: segment <:+ folders ++ '/' :: segment := List.suffix_append folders _
    -- Both end the reference, so one of them ends the other, and the first has no slash in it.
    rcases List.suffix_or_suffix_of_suffix dotted slashed with inside | around
    · rcases List.suffix_cons_iff.mp inside with same | ⟨inner, within⟩
      · cases same
      · exact ⟨nonempty, dotless, slashless, inner, within.symm⟩
    · have plain : '/' ∉ '.' :: extension := by simp [slashless]
      exact absurd (around.subset List.mem_cons_self) plain
  · intro ends
    simpa using ends.prepend (folders ++ ['/'])

theorem extension?_append_slash (folders segment : List Char) :
    extension? (folders ++ '/' :: segment) = extension? segment := by
  apply Option.ext
  intro extension
  rw [extension?_eq_some_iff, extension?_eq_some_iff, endsIn_append_slash_iff]

theorem extension?_append {reference : List Char} (present : extension? reference ≠ none)
    (front : List Char) : extension? (front ++ reference) = extension? reference := by
  obtain ⟨extension, found⟩ := Option.ne_none_iff_exists'.mp present
  have ends := extension?_eq_some_iff.mp found
  rw [found, extension?_eq_some_iff]
  exact ends.prepend front

/-- A reference that ends in a dot and some text without dots and slashes has that text for its
extension, and any other reference has none. So what stands before a slash does not count, and a
reference that has an extension keeps it whatever is put in front of it. -/
theorem extension_exact (reference : List Char) :
    (∀ extension, extension? reference = some extension ↔ EndsIn reference extension) ∧
      (extension? reference = none ↔ ∀ extension, ¬ EndsIn reference extension) ∧
      (∀ folders, extension? (folders ++ '/' :: reference) = extension? reference) ∧
      ∀ front, extension? reference ≠ none →
        extension? (front ++ reference) = extension? reference := by
  refine ⟨fun extension => extension?_eq_some_iff, extension?_eq_none_iff, ?_, ?_⟩
  · intro folders
    exact extension?_append_slash folders reference
  · intro front present
    exact extension?_append present front

/-- The extension `png` stays when a folder and a stem with dots of their own are put in front. -/
theorem extension_exact_of_dotted :
    let reference := ".tar.png".toList
    extension? reference ≠ none ∧
      extension? ("my.photos/cat".toList ++ reference) = some "png".toList := by
  intro reference
  have found : extension? reference = some "png".toList := by decide
  have present : extension? reference ≠ none := by simp [found]
  exact ⟨present, ((extension_exact reference).2.2.2 _ present).trans found⟩

namespace Rule

theorem normalize_eq_nil_iff {caseSensitive : Bool} {extension : List Char} :
    normalize caseSensitive extension = [] ↔ extension = [] := by
  cases caseSensitive with
  | true => exact Iff.rfl
  | false => exact Text.lower_eq_nil_iff

/-- One of the values that extensions were given by comes to the same as the extension, in lower
case unless case is respected. -/
def Listed (extensions : Value) (caseSensitive : Bool) (extension : List Char) : Prop :=
  ∃ entries, extensions.items? = some entries ∧ ∃ entry ∈ entries, entry.truthy = true ∧
    normalizeEntry caseSensitive entry = normalize caseSensitive extension

theorem mem_normalizeEntries {caseSensitive : Bool} {entries : List Value} {text : String} :
    text ∈ normalizeEntries caseSensitive entries ↔ text ≠ "" ∧
      ∃ entry ∈ entries, entry.truthy = true ∧ normalizeEntry caseSensitive entry = text.toList := by
  simp only [normalizeEntries, Text.mem_orderedSet, List.mem_filterMap, List.mem_map,
    List.mem_filter]
  constructor
  · rintro ⟨written, ⟨entry, ⟨member, given⟩, rfl⟩, kept⟩
    split at kept
    · cases kept
    next nonempty =>
      cases kept
      exact ⟨by simpa using nonempty, entry, member, given, by simp⟩
  · rintro ⟨nonempty, entry, member, given, same⟩
    exact ⟨_, ⟨entry, ⟨member, given⟩, rfl⟩, by simp [same, nonempty]⟩

theorem mem_normalizeEntries_iff {caseSensitive : Bool} {entries : List Value}
    {extension : List Char} (nonempty : extension ≠ []) :
    String.ofList extension ∈ normalizeEntries caseSensitive entries ↔
      ∃ entry ∈ entries, entry.truthy = true ∧ normalizeEntry caseSensitive entry = extension := by
  simp [mem_normalizeEntries, nonempty]

/-- The extensions are given by a collection, and one of its values that count as true is written
with something other than dots. -/
def Sufficient (extensions : Value) : Prop :=
  ∃ entries, extensions.items? = some entries ∧ ∃ entry ∈ entries, entry.truthy = true ∧
    ∃ char ∈ entry.display.toList, char ≠ '.'

theorem normalizeEntry_eq_nil_iff {caseSensitive : Bool} {entry : Value} :
    normalizeEntry caseSensitive entry = [] ↔ ∀ char ∈ entry.display.toList, char = '.' := by
  rw [normalizeEntry, normalize_eq_nil_iff, List.dropWhile_eq_nil_iff]
  simp only [decide_eq_true_eq]

theorem normalizeEntries_eq_nil_iff {caseSensitive : Bool} {entries : List Value} :
    normalizeEntries caseSensitive entries = [] ↔
      ∀ entry ∈ entries, entry.truthy = true → ∀ char ∈ entry.display.toList, char = '.' := by
  rw [normalizeEntries, Text.orderedSet_eq_nil_iff, List.filterMap_eq_nil_iff,
    List.forall_mem_map]
  simp [normalizeEntry_eq_nil_iff]

/-- Every extension that counts as true can be written. -/
def Legible (extensions : Value) : Prop :=
  ∀ entries, extensions.items? = some entries →
    ∀ entry ∈ entries, entry.truthy = true → entry.isWritable = true

theorem areWritable_iff {entries : List Value} :
    areWritable entries = true ↔
      ∀ entry ∈ entries, entry.truthy = true → entry.isWritable = true := by
  simp only [areWritable, List.all_eq_true, List.mem_filter, and_imp]

theorem build_eq_ok_iff {extensions caseSensitive typeName : Value} {rule : Rule} :
    build extensions caseSensitive typeName = .ok rule ↔
      ∃ entries, extensions.items? = some entries ∧ areWritable entries = true ∧
        normalizeEntries caseSensitive.truthy entries ≠ [] ∧
        rule = ⟨normalizeEntries caseSensitive.truthy entries, caseSensitive.truthy, typeName⟩ := by
  unfold build
  split
  next none => simp [none]
  next entries items =>
    simp only [items, Option.some.injEq, exists_eq_left']
    split
    next writable =>
      simp only [writable, true_and]
      split
      next none => simp [none]
      next nonempty =>
        constructor
        · rintro ⟨⟩
          exact ⟨nonempty, rfl⟩
        · rintro ⟨-, rfl⟩
          rfl
    next unwritable => simp [unwritable]

theorem exists_build_iff {extensions caseSensitive typeName : Value} :
    (∃ rule, build extensions caseSensitive typeName = .ok rule) ↔
      Sufficient extensions ∧ Legible extensions := by
  constructor
  · rintro ⟨rule, built⟩
    obtain ⟨entries, items, writable, nonempty, -⟩ := build_eq_ok_iff.mp built
    refine ⟨⟨entries, items, ?_⟩, ?_⟩
    · simpa [normalizeEntries_eq_nil_iff] using nonempty
    · intro others same
      rw [items, Option.some.injEq] at same
      exact same ▸ areWritable_iff.mp writable
  · rintro ⟨⟨entries, items, given⟩, legible⟩
    refine ⟨_, build_eq_ok_iff.mpr
      ⟨entries, items, areWritable_iff.mpr (legible entries items), ?_, rfl⟩⟩
    simpa [normalizeEntries_eq_nil_iff] using given

theorem build_of_not_legible {extensions : Value} (illegible : ¬ Legible extensions)
    (caseSensitive typeName : Value) :
    build extensions caseSensitive typeName = .error (.longNumber none) := by
  unfold build
  split
  next none => exact absurd (fun _ items => by simp [none] at items) illegible
  next entries items =>
    refine if_neg fun writable => illegible fun others same => ?_
    rw [items, Option.some.injEq] at same
    exact same ▸ areWritable_iff.mp writable

/-- A rule is refused under the name that it was to have. -/
theorem build_eq_error {extensions caseSensitive typeName : Value} {fault : Fault}
    (legible : Legible extensions) (writable : typeName.isWritable = true)
    (refused : build extensions caseSensitive typeName = .error fault) :
    fault.category = .configuration ∧ fault.scalar = typeName := by
  unfold build at refused
  split at refused
  · rw [Fault.told_of_isWritable (.notCollection typeName _) writable] at refused
    cases refused
    exact ⟨rfl, rfl⟩
  next entries items =>
    rw [if_pos (areWritable_iff.mpr (legible entries items))] at refused
    split at refused
    · rw [Fault.told_of_isWritable (.noExtension typeName) writable] at refused
      cases refused
      exact ⟨rfl, rfl⟩
    · cases refused

theorem build_eq_ok {extensions caseSensitive typeName : Value} {rule : Rule}
    (built : build extensions caseSensitive typeName = .ok rule) :
    ∃ entries, extensions.items? = some entries ∧
      rule = ⟨normalizeEntries caseSensitive.truthy entries, caseSensitive.truthy, typeName⟩ := by
  obtain ⟨entries, items, -, -, comes⟩ := build_eq_ok_iff.mp built
  exact ⟨entries, items, comes⟩

theorem typeName_of_build {extensions caseSensitive typeName : Value} {rule : Rule}
    (built : build extensions caseSensitive typeName = .ok rule) : rule.typeName = typeName := by
  obtain ⟨entries, -, rfl⟩ := build_eq_ok built
  rfl

theorem recognizes_iff_listed {extensions caseSensitive typeName : Value} {rule : Rule}
    (built : build extensions caseSensitive typeName = .ok rule) {extension : List Char}
    (nonempty : extension ≠ []) :
    rule.recognizes extension = true ↔ Listed extensions caseSensitive.truthy extension := by
  obtain ⟨entries, items, rfl⟩ := build_eq_ok built
  simp only [recognizes, Listed, List.contains_iff_mem, items, Option.some.injEq,
    exists_eq_left']
  exact mem_normalizeEntries_iff (mt normalize_eq_nil_iff.mp nonempty)

end Rule

end CustomScalars.Image
