import SketchHelp.Json.Value
import SketchHelp.Text.Class

/-!
Reading a whole number out of a value. True and false count as one and zero, a
number with a fraction is rounded toward zero, and a text is read as decimal digits
of any script, with an optional sign, single underscores between digits and white
space around it all. Runs of more digits than the limit are refused. A message shows a
refused text cut off after two hundred code points.
-/

namespace SketchHelp.Value

/-- Why a value is no whole number. -/
inductive WholeFault where
  | infinite
  | notANumber
  | badText (t : Text)
  | tooLong (digits : Nat)
  | wrongKind (word : Text)
  deriving DecidableEq, Repr

def WholeFault.message : WholeFault → Text
  | .infinite => Text.ofString "cannot convert float infinity to integer"
  | .notANumber => Text.ofString "cannot convert float NaN to integer"
  | .badText t =>
    Text.ofString "invalid literal for int() with base 10: " ++ t.quoted.take 200
  | .tooLong digits =>
    Text.limitMessage
      (Text.ofString ": value has " ++ Text.ofNat digits ++ Text.ofString " digits")
  | .wrongKind word =>
    Text.ofString "int() argument must be a string, a bytes-like object or a real number, not '"
      ++ word ++ Text.ofString "'"

/-- Digit values of a text of digits with single underscores between them; the text
must start with a digit. -/
def digitValues? : Text → Option (List Nat)
  | [] => none
  | [c] => c.digitValue?.map ([·])
  | c :: d :: rest =>
    if d = '_' then do
      let first ← c.digitValue?
      let others ← digitValues? rest
      return first :: others
    else do
      let first ← c.digitValue?
      let others ← digitValues? (d :: rest)
      return first :: others

def ofDigits (digits : List Nat) : Nat :=
  digits.foldl (fun n d => 10 * n + d) 0

/-- Whether a minus sign leads, and what follows the sign. -/
def splitSign : Text → Bool × Text
  | [] => (false, [])
  | c :: rest =>
    if c = '-' then (true, rest) else if c = '+' then (false, rest) else (false, c :: rest)

/-- White space around a number: the blanks without the separator controls. -/
def isPadding (c : CodePoint) : Bool :=
  c.isBlank && !(0x1C ≤ c.val && c.val ≤ 0x1F)

def isDigitOrLow (c : CodePoint) : Bool :=
  c.isDigit || c = '_'

/-- Reads the digits at the front, then looks at what is left over. -/
def wholeOfText (t : Text) : Except WholeFault Int :=
  let (negative, body) :=
    splitSign (Text.dropWhileEnd isPadding (t.dropWhile isPadding))
  match digitValues? (body.takeWhile isDigitOrLow) with
  | none => .error (.badText t)
  | some digits =>
    if digitLimit < digits.length then .error (.tooLong digits.length)
    else if !(body.dropWhile isDigitOrLow).isEmpty then .error (.badText t)
    else .ok (if negative then -(ofDigits digits : Int) else ofDigits digits)

def toWhole : Value → Except WholeFault Int
  | .null => .error (.wrongKind (kindWord .null))
  | .bool b => .ok (if b then 1 else 0)
  | .int n => .ok n
  | .float x =>
    if x.isNaN then .error .notANumber
    else if x.isInfinite then .error .infinite
    else .ok x.truncate
  | .text t => wholeOfText t
  | .list items => .error (.wrongKind (kindWord (.list items)))
  | .object fields => .error (.wrongKind (kindWord (.object fields)))

end SketchHelp.Value
