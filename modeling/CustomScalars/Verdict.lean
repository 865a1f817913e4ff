import CustomScalars.Fault
import CustomScalars.Text.Blank

/-!
# Verdicts

A scalar answers a value with a verdict: accepted, with the value to go on with, or rejected, with
a reason and a message. A message that nobody could read is refused, and so is one that cannot be
written, so a function that gives a verdict may fail instead of giving it.
-/
namespace CustomScalars

inductive Verdict where
  | accepted (value : Value)
  | rejected (kind : RejectionKind) (message : String)

abbrev Outcome := Except Fault Verdict

/-- Reject with a message, which has to be a text with something to read in it. -/
def reject (kind : RejectionKind) : Value → Outcome
  | .text _ message =>
    if Text.isBlank message.toList then .error .blankMessage else .ok (.rejected kind message)
  | _ => .error .blankMessage

/-- Reject in the name of a type, as it is written into the message. -/
def rejectAs (typeName : Value) (kind : RejectionKind) (message : String → String) : Outcome :=
  if typeName.isWritable then reject kind (.ofText (message typeName.display))
  else .error (.longNumber none)

theorem rejectAs_of_isWritable {typeName : Value} (writable : typeName.isWritable = true)
    (kind : RejectionKind) (message : String → String) :
    rejectAs typeName kind message = reject kind (.ofText (message typeName.display)) :=
  if_pos writable

theorem rejectAs_of_not_isWritable {typeName : Value} (unwritable : typeName.isWritable = false)
    (kind : RejectionKind) (message : String → String) :
    rejectAs typeName kind message = .error (.longNumber none) := by
  rw [rejectAs, if_neg (by simp [unwritable])]

end CustomScalars
