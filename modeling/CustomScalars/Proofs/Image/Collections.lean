import CustomScalars.Proofs.Image.Acceptance
import CustomScalars.Proofs.Text.Ordered

/-!
# The extensions that collections come to

A rule keeps of a collection only the set of the extensions that its entries come to, so what it
accepts follows the algebra of sets. Two collections together accept what either of them does, more
entries accept more, and it makes no difference in which order and how often the entries stand, in
what kind of collection, with how many leading dots, and what else stands between them that comes
to nothing. Respecting case accepts nothing that is not accepted without.
-/
namespace CustomScalars.Image.Rule

/-- The entry counts as true and is not written with dots alone, be it that it cannot be written. -/
def Counts (entry : Value) : Prop :=
  entry.truthy = true ∧ (entry.isWritable = true → ∃ char ∈ entry.display.toList, char ≠ '.')

/-- The same entry, or a text in place of a text that it is alike to. -/
inductive Like (alike : List Char → List Char → Prop) : Value → Value → Prop where
  | same (entry : Value) : Like alike entry entry
  | text (brand brandToo : Option String) {content other : String} :
      alike content.toList other.toList → Like alike (.text brand content) (.text brandToo other)

/-- Every entry of the first collection that counts has its like in the second one. -/
def Covered (alike : List Char → List Char → Prop) (extensions others : Value) : Prop :=
  ∃ entries counterparts, extensions.items? = some entries ∧ others.items? = some counterparts ∧
    ∀ entry ∈ entries, Counts entry → ∃ counterpart ∈ counterparts, Like alike entry counterpart

/-- The collections cover each other. Each has the like of what counts in the other, no matter in
what order or how often, and no matter what does not count. -/
structure Interchangeable (alike : List Char → List Char → Prop) (extensions others : Value) :
    Prop where
  covered : Covered alike extensions others
  covers : Covered alike others extensions

/-- Texts that are alike come to the same extension. -/
def Keeps (caseSensitive : Bool) (alike : List Char → List Char → Prop) : Prop :=
  ∀ text other, alike text other → normalize caseSensitive (other.dropWhile (· = '.')) =
    normalize caseSensitive (text.dropWhile (· = '.'))

theorem normalizeEntry_ne_nil_iff (caseSensitive : Bool) {entry : Value} :
    normalizeEntry caseSensitive entry ≠ [] ↔ ∃ char ∈ entry.display.toList, char ≠ '.' := by
  simp only [ne_eq, normalizeEntry_eq_nil_iff, not_forall, exists_prop]

section
variable {caseSensitive : Bool} {alike : List Char → List Char → Prop}

/-- The like of an entry that counts comes to the same extension, and so it is not empty. -/
theorem Like.comes {entry counterpart : Value} (like : Like alike entry counterpart)
    (keeps : Keeps caseSensitive alike) (counts : Counts entry) :
    counterpart.truthy = true ∧
      normalizeEntry caseSensitive counterpart = normalizeEntry caseSensitive entry := by
  cases like with
  | same => exact ⟨counts.1, rfl⟩
  | @text brand brandToo content other same =>
    have comes : normalizeEntry caseSensitive (.text brandToo other) =
        normalizeEntry caseSensitive (.text brand content) := keeps _ _ same
    refine ⟨?_, comes⟩
    -- A text that comes to something is not empty, and only the empty text counts as false.
    have written := (normalizeEntry_ne_nil_iff caseSensitive).mpr (counts.2 rfl)
    rw [← comes, normalizeEntry_ne_nil_iff] at written
    have nonempty : other ≠ "" := by
      rintro rfl
      obtain ⟨char, member, -⟩ := written
      exact absurd member List.not_mem_nil
    simpa [Value.truthy] using nonempty

theorem Keeps.subset {entries counterparts : List Value} (keeps : Keeps caseSensitive alike)
    (covered : ∀ entry ∈ entries, Counts entry →
      ∃ counterpart ∈ counterparts, Like alike entry counterpart) :
    normalizeEntries caseSensitive entries ⊆ normalizeEntries caseSensitive counterparts := by
  intro text member
  obtain ⟨nonempty, entry, here, given, same⟩ := mem_normalizeEntries.mp member
  have counts : Counts entry :=
    ⟨given, fun _ => (normalizeEntry_ne_nil_iff caseSensitive).mp (by simpa [same] using nonempty)⟩
  obtain ⟨counterpart, there, like⟩ := covered entry here counts
  obtain ⟨givenToo, sameToo⟩ := like.comes keeps counts
  exact mem_normalizeEntries.mpr ⟨nonempty, counterpart, there, givenToo, sameToo.trans same⟩

end

section
variable {alike : List Char → List Char → Prop}
  {extensions others caseSensitive typeName : Value} {rule : Rule}

/-- What covers a collection that a rule is built from, and has nothing in it that cannot be
written, makes a rule with all its extensions. -/
theorem Covered.exists_build (covered : Covered alike extensions others)
    (legible : Legible others) (keeps : Keeps caseSensitive.truthy alike)
    (built : build extensions caseSensitive typeName = .ok rule) :
    ∃ larger, build others caseSensitive typeName = .ok larger ∧
      rule.extensions ⊆ larger.extensions ∧ larger.caseSensitive = rule.caseSensitive ∧
      larger.typeName = rule.typeName := by
  obtain ⟨entries, items, -, nonempty, rfl⟩ := build_eq_ok_iff.mp built
  obtain ⟨_, counterparts, sameItems, othersItems, matched⟩ := covered
  cases items.symm.trans sameItems
  have subset := keeps.subset matched
  have nonemptyToo : normalizeEntries caseSensitive.truthy counterparts ≠ [] :=
    fun none => nonempty (List.subset_nil.mp (none ▸ subset))
  have writable := areWritable_iff.mpr (legible counterparts othersItems)
  exact ⟨_, build_eq_ok_iff.mpr ⟨counterparts, othersItems, writable, nonemptyToo, rfl⟩, subset,
    rfl, rfl⟩

theorem legible_of_build (built : build extensions caseSensitive typeName = .ok rule) :
    Legible extensions :=
  (exists_build_iff.mp ⟨rule, built⟩).2

/-- What cannot be written counts, and it is like nothing but itself. -/
theorem Covered.legible (covered : Covered alike others extensions)
    (legible : Legible extensions) : Legible others := by
  obtain ⟨counterparts, entries, othersItems, items, matched⟩ := covered
  intro own same entry member given
  cases othersItems.symm.trans same
  by_contra unwritable
  obtain ⟨counterpart, here, like⟩ :=
    matched entry member ⟨given, fun writable => absurd writable unwritable⟩
  cases like with
  | same => exact unwritable (legible entries items entry here given)
  | text => exact unwritable rfl

theorem pairwise_of_build (built : build extensions caseSensitive typeName = .ok rule) :
    rule.extensions.Pairwise (· < ·) := by
  obtain ⟨entries, -, rfl⟩ := build_eq_ok built
  exact Text.pairwise_orderedSet _

theorem Interchangeable.build_eq (interchangeable : Interchangeable alike extensions others)
    (keeps : Keeps caseSensitive.truthy alike)
    (built : build extensions caseSensitive typeName = .ok rule) :
    build others caseSensitive typeName = .ok rule := by
  have legible := legible_of_build built
  obtain ⟨larger, builtToo, subset, policy, name⟩ :=
    interchangeable.covered.exists_build (interchangeable.covers.legible legible) keeps built
  obtain ⟨again, builtAgain, subsetToo, -⟩ :=
    interchangeable.covers.exists_build legible keeps builtToo
  cases built.symm.trans builtAgain
  -- Each rule has the extensions of the other one, and both keep them in order.
  have same : larger.extensions = rule.extensions :=
    Text.eq_of_mem_iff_of_pairwise (pairwise_of_build builtToo) (pairwise_of_build built)
      fun text => ⟨fun member => subsetToo member, fun member => subset member⟩
  cases larger
  cases rule
  cases same
  cases policy
  cases name
  exact builtToo

end

/-- The rule accepts the value, unchanged. -/
def Accepts (rule : Rule) (value : Value) : Prop := rule.check value = .ok (.accepted value)

theorem Accepts.of_subset {rule larger : Rule} (subset : rule.extensions ⊆ larger.extensions)
    (policy : larger.caseSensitive = rule.caseSensitive) {value : Value}
    (accepts : rule.Accepts value) : larger.Accepts value := by
  obtain ⟨-, brand, reference, extension, text, ends, recognized⟩ := check_accepted_iff.mp accepts
  refine check_accepted_iff.mpr ⟨rfl, brand, reference, extension, text, ends, ?_⟩
  rw [recognizes, List.contains_iff_mem] at recognized ⊢
  rw [policy]
  exact subset recognized

section
variable {extensions others both caseSensitive typeName : Value} {rule : Rule}

theorem accepts_iff_depicts (built : build extensions caseSensitive typeName = .ok rule)
    (value : Value) : rule.Accepts value ↔ Depicts extensions caseSensitive.truthy value := by
  constructor
  · intro accepts
    obtain ⟨-, brand, reference, extension, text, ends, recognized⟩ :=
      check_accepted_iff.mp accepts
    have listed := (recognizes_iff_listed built ends.nonempty).mp recognized
    exact ⟨brand, reference, extension, text, ends, listed⟩
  · rintro ⟨brand, reference, extension, text, ends, listed⟩
    have recognized := (recognizes_iff_listed built ends.nonempty).mpr listed
    exact check_accepted_iff.mpr ⟨rfl, brand, reference, extension, text, ends, recognized⟩

/-- The second collection goes on where the first one ends. -/
def Joined (extensions others both : Value) : Prop :=
  ∃ entries counterparts, extensions.items? = some entries ∧ others.items? = some counterparts ∧
    both.items? = some (entries ++ counterparts)

theorem Joined.covered (joined : Joined extensions others both)
    (alike : List Char → List Char → Prop) : Covered alike extensions both := by
  obtain ⟨entries, counterparts, items, -, bothItems⟩ := joined
  exact ⟨entries, _, items, bothItems,
    fun entry member _ => ⟨entry, List.mem_append_left counterparts member, .same entry⟩⟩

theorem Joined.legible (joined : Joined extensions others both) (legible : Legible extensions)
    (legibleToo : Legible others) : Legible both := by
  obtain ⟨entries, counterparts, items, othersItems, bothItems⟩ := joined
  intro all same entry member given
  cases bothItems.symm.trans same
  rcases List.mem_append.mp member with first | second
  · exact legible entries items entry first given
  · exact legibleToo counterparts othersItems entry second given

theorem Joined.listed_iff (joined : Joined extensions others both) {caseSensitive : Bool}
    {extension : List Char} : Listed both caseSensitive extension ↔
      Listed extensions caseSensitive extension ∨ Listed others caseSensitive extension := by
  obtain ⟨entries, counterparts, items, othersItems, bothItems⟩ := joined
  simp only [Listed, items, othersItems, bothItems, Option.some.injEq, exists_eq_left',
    List.mem_append, or_and_right, exists_or]

theorem Joined.depicts_iff (joined : Joined extensions others both) {caseSensitive : Bool}
    {value : Value} : Depicts both caseSensitive value ↔
      Depicts extensions caseSensitive value ∨ Depicts others caseSensitive value := by
  simp only [Depicts, joined.listed_iff, and_or_left, exists_or]

/-- What is listed with respect for case is listed without. -/
theorem Listed.lenient {caseSensitive : Bool} {extension : List Char}
    (listed : Listed extensions caseSensitive extension) : Listed extensions false extension := by
  cases caseSensitive with
  | false => exact listed
  | true =>
    obtain ⟨entries, items, entry, member, given, same⟩ := listed
    exact ⟨entries, items, entry, member, given, congrArg Text.lower same⟩

end

/-- The texts have the same to say after their leading dots. -/
def SameButForDots (text other : List Char) : Prop :=
  text.dropWhile (· = '.') = other.dropWhile (· = '.')

instance (text other : List Char) : Decidable (SameButForDots text other) :=
  inferInstanceAs (Decidable (_ = _))

theorem keeps_sameButForDots (caseSensitive : Bool) : Keeps caseSensitive SameButForDots :=
  fun _ _ same => congrArg (normalize caseSensitive) same.symm

section
variable {extensions caseSensitive typeName : Value} {rule : Rule}

/-- Of a collection that a rule is built from: together with another one it makes a rule that
accepts what either rule accepts; what covers it, and can be written, makes a rule that accepts no
less; what it can be interchanged with makes the same rule; and without respect for case it makes a
rule that accepts no less. Leading dots of texts do not count in any of this. -/
theorem collections_algebra (built : build extensions caseSensitive typeName = .ok rule) :
    (∀ others other both, build others caseSensitive typeName = .ok other →
      Joined extensions others both →
      ∃ joint, build both caseSensitive typeName = .ok joint ∧
        ∀ value, joint.Accepts value ↔ rule.Accepts value ∨ other.Accepts value) ∧
    (∀ others, Covered SameButForDots extensions others → Legible others →
      ∃ larger, build others caseSensitive typeName = .ok larger ∧
        ∀ value, rule.Accepts value → larger.Accepts value) ∧
    (∀ others, Interchangeable SameButForDots extensions others →
      build others caseSensitive typeName = .ok rule) ∧
    ∀ lenient : Value, lenient.truthy = false →
      ∃ larger, build extensions lenient typeName = .ok larger ∧
        ∀ value, rule.Accepts value → larger.Accepts value := by
  refine ⟨fun others other both builtToo joined => ?_, fun others covered legible => ?_,
    fun others interchangeable => interchangeable.build_eq (keeps_sameButForDots _) built,
    fun lenient policy => ?_⟩
  · have covered := joined.covered SameButForDots
    have legible := joined.legible (legible_of_build built) (legible_of_build builtToo)
    obtain ⟨joint, builtBoth, -⟩ := covered.exists_build legible (keeps_sameButForDots _) built
    refine ⟨joint, builtBoth, fun value => ?_⟩
    rw [accepts_iff_depicts builtBoth, accepts_iff_depicts built, accepts_iff_depicts builtToo,
      joined.depicts_iff]
  · obtain ⟨larger, builtToo, subset, same, -⟩ :=
      covered.exists_build legible (keeps_sameButForDots _) built
    exact ⟨larger, builtToo, fun value accepts => accepts.of_subset subset same⟩
  · -- Whether there is a rule at all does not depend on the policy on case.
    obtain ⟨larger, builtToo⟩ : ∃ larger, build extensions lenient typeName = .ok larger :=
      exists_build_iff.mpr (exists_build_iff.mp ⟨rule, built⟩)
    refine ⟨larger, builtToo, fun value accepts => ?_⟩
    rw [accepts_iff_depicts builtToo, policy]
    obtain ⟨brand, reference, extension, text, ends, listed⟩ :=
      (accepts_iff_depicts built value).mp accepts
    exact ⟨brand, reference, extension, text, ends, listed.lenient⟩

end

/-- Two entries, and the same two in another order in a collection of another kind, one without its
leading dot, among entries that come to nothing. A third one is added to them. -/
theorem collections_algebra_of_dotted :
    let name := Value.ofText "Image"
    let extensions := Value.list none [.ofText ".PNG", .ofText "jpg"]
    let rearranged :=
      Value.frozenset [.ofText "jpg", .ofText "...", .ofText "PNG", .bool false]
    let others := Value.tuple [.ofText "gif"]
    let both := Value.list none [.ofText ".PNG", .ofText "jpg", .ofText "gif"]
    let rule : Rule := ⟨["PNG", "jpg"], true, name⟩
    build extensions (.bool true) name = .ok rule ∧
      Interchangeable SameButForDots extensions rearranged ∧
      build rearranged (.bool true) name = .ok rule ∧
      Joined extensions others both ∧
      (∃ joint, build both (.bool true) name = .ok joint ∧ joint.Accepts (.ofText "a.gif")) ∧
      ∃ lenient, build extensions .null name = .ok lenient ∧ lenient.Accepts (.ofText "a.PNG") := by
  intro name extensions rearranged others both rule
  have built : build extensions (.bool true) name = .ok rule := by rfl
  have builtToo : build others (.bool true) name = .ok ⟨["gif"], true, name⟩ := by rfl
  have joined : Joined extensions others both := ⟨_, _, rfl, rfl, rfl⟩
  have interchangeable : Interchangeable SameButForDots extensions rearranged := by
    constructor
    · refine ⟨_, _, rfl, rfl, fun value member _ => ?_⟩
      simp only [List.mem_cons, List.not_mem_nil, or_false] at member
      rcases member with rfl | rfl
      · exact ⟨.ofText "PNG", by simp, .text none none (by decide)⟩
      · exact ⟨.ofText "jpg", by simp, .same _⟩
    · refine ⟨_, _, rfl, rfl, fun value member counts => ?_⟩
      simp only [List.mem_cons, List.not_mem_nil, or_false] at member
      rcases member with rfl | rfl | rfl | rfl
      · exact ⟨.ofText "jpg", by simp, .same _⟩
      · obtain ⟨char, among, other⟩ := counts.2 rfl
        exact absurd among (by simp [Value.ofText, Value.display, other])
      · exact ⟨.ofText ".PNG", by simp, .text none none (by decide)⟩
      · cases counts.1
  obtain ⟨joins, -, interchanges, lenient⟩ := collections_algebra built
  obtain ⟨joint, builtBoth, accepts⟩ := joins others _ both builtToo joined
  obtain ⟨larger, builtLarger, acceptsMore⟩ := lenient .null rfl
  exact ⟨built, interchangeable, interchanges rearranged interchangeable, joined,
    ⟨joint, builtBoth, (accepts _).mpr (Or.inr rfl)⟩, larger, builtLarger, acceptsMore _ rfl⟩

end CustomScalars.Image.Rule
