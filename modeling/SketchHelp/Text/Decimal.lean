import SketchHelp.Text.CodePoint

/-!
Whole numbers as decimal text. Numbers have no size limit, but texts of them do: a number
with more digits than the limit is not written, and a text with more digits than the limit
is not read. A message that would have to show such a number tells of the limit instead.
-/

namespace SketchHelp

/-- The most digits that the text of a whole number may have. -/
def digitLimit : Nat := 4300

namespace Text

/-- The text of a number that does not have too many digits. -/
def ofInt? (n : Int) : Option Text :=
  if (Nat.toDigits 10 n.natAbs).length ≤ digitLimit then some (ofInt n) else none

/-- The message about the limit, with what there is to say of the number. -/
def limitMessage (detail : Text) : Text :=
  ofString "Exceeds the limit (" ++ ofNat digitLimit ++
    ofString " digits) for integer string conversion" ++ detail ++
    ofString "; use sys.set_int_max_str_digits() to increase the limit"

/-- A message, or the one about the limit where a number in it cannot be written. -/
def orLimit (message : Option Text) : Text :=
  message.getD (limitMessage [])

end Text

end SketchHelp
