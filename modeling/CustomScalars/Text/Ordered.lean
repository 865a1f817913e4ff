/-!
# Ordered sets of texts

A finite set of texts is kept as its members in increasing order of code points, each once, so two
sets with the same members are equal.
-/
namespace CustomScalars.Text

def insertOrdered (text : String) : List String → List String
  | [] => [text]
  | head :: rest =>
    if text = head then head :: rest
    else if text < head then text :: head :: rest
    else head :: insertOrdered text rest

def orderedSet (texts : List String) : List String := texts.foldr insertOrdered []

theorem mem_insertOrdered {text member : String} {texts : List String} :
    member ∈ insertOrdered text texts ↔ member = text ∨ member ∈ texts := by
  induction texts with
  | nil => simp [insertOrdered]
  | cons head rest ih =>
    by_cases same : text = head
    · subst same
      simp [insertOrdered]
    · by_cases less : text < head
      · simp [insertOrdered, same, less]
      · simp [insertOrdered, same, less, ih, or_left_comm]

theorem mem_orderedSet {member : String} {texts : List String} :
    member ∈ orderedSet texts ↔ member ∈ texts := by
  induction texts with
  | nil => simp [orderedSet]
  | cons head rest ih =>
    simp only [orderedSet] at ih
    simp [orderedSet, mem_insertOrdered, ih]

theorem orderedSet_eq_nil_iff {texts : List String} : orderedSet texts = [] ↔ texts = [] := by
  simp only [List.eq_nil_iff_forall_not_mem, mem_orderedSet]

end CustomScalars.Text
