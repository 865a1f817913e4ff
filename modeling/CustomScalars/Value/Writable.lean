import CustomScalars.Value.Basic

/-!
# Values that can be written

A number with too many digits cannot be written, and neither can a collection with such a number in
it, be it as a key. A foreign value can, and so can what is gone through once, of which nothing is
written but its type.
-/
namespace CustomScalars.Value

/-- Numbers with more digits are not written. -/
def greatestDigits : Nat := 4300

/-- The least number with more digits. -/
def leastUnwritten : Nat := Nat.pow 10 greatestDigits

theorem leastUnwritten_pos : 0 < leastUnwritten := by decide +kernel

mutual

def isWritable : Value → Bool
  | .int _ number => number.natAbs < leastUnwritten
  | .list _ items | .tuple items | .set items | .frozenset items => areWritable items
  | .record _ entries => haveWritable entries
  | .stream _ isPassing items => isPassing || areWritable items
  | _ => true

def areWritable : List Value → Bool
  | [] => true
  | item :: rest => item.isWritable && areWritable rest

def haveWritable : List (Value × Value) → Bool
  | [] => true
  | (key, value) :: rest => key.isWritable && value.isWritable && haveWritable rest

end

def longInt : Value := .int none leastUnwritten

theorem isWritable_longInt : longInt.isWritable = false := by
  rw [longInt, isWritable, Int.natAbs_natCast]
  exact decide_eq_false (Nat.lt_irrefl _)

theorem truthy_longInt : longInt.truthy = true := by
  rw [longInt, truthy, bne_iff_ne]
  exact Int.natCast_ne_zero.mpr (Nat.ne_of_gt leastUnwritten_pos)

@[simp] theorem isWritable_text (brand : Option String) (content : String) :
    (Value.text brand content).isWritable = true := rfl

@[simp] theorem isWritable_ofText (content : String) : (ofText content).isWritable = true := rfl

@[simp] theorem isWritable_null : Value.null.isWritable = true := rfl

end CustomScalars.Value
