import CustomScalars.Text.Ordered

/-!
# Ordered sets are their members

The members of an ordered set stand in strictly increasing order, and there is one way only to put
them so. So ordered sets with the same members are equal, whatever texts they were made from.
-/
namespace CustomScalars.Text

section
variable {texts others : List String}

theorem pairwise_insertOrdered (text : String) (ordered : texts.Pairwise (· < ·)) :
    (insertOrdered text texts).Pairwise (· < ·) := by
  induction texts with
  | nil => exact List.pairwise_singleton _ text
  | cons head rest ih =>
    obtain ⟨least, later⟩ := List.pairwise_cons.mp ordered
    rw [insertOrdered]
    split
    next same => exact ordered
    next other =>
      split
      next below =>
        refine List.pairwise_cons.mpr ⟨fun member here => ?_, ordered⟩
        rcases List.mem_cons.mp here with rfl | further
        · exact below
        · exact String.lt_trans below (least member further)
      next notBelow =>
        refine List.pairwise_cons.mpr ⟨fun member here => ?_, ih later⟩
        -- What is not before the head and is not the head is after it.
        rcases mem_insertOrdered.mp here with rfl | further
        · have atMost : head ≤ member := String.not_lt.mp notBelow
          exact String.not_le.mp fun atLeast => other (String.le_antisymm atLeast atMost)
        · exact least member further

theorem pairwise_orderedSet (texts : List String) : (orderedSet texts).Pairwise (· < ·) := by
  induction texts with
  | nil => exact List.Pairwise.nil
  | cons text rest ih => exact pairwise_insertOrdered text ih

theorem nodup_of_pairwise (ordered : texts.Pairwise (· < ·)) : texts.Nodup := by
  refine ordered.imp ?_
  rintro text _ below rfl
  exact String.lt_irrefl text below

theorem eq_of_mem_iff_of_pairwise (ordered : texts.Pairwise (· < ·))
    (orderedToo : others.Pairwise (· < ·)) (same : ∀ text, text ∈ texts ↔ text ∈ others) :
    texts = others := by
  have alike : texts.Perm others :=
    (List.perm_ext_iff_of_nodup (nodup_of_pairwise ordered) (nodup_of_pairwise orderedToo)).mpr same
  refine alike.eq_of_pairwise (fun text other _ _ below above => ?_) ordered orderedToo
  exact absurd above (String.lt_asymm below)

end

end CustomScalars.Text
