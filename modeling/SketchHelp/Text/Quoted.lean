import SketchHelp.Text.CodePoint
import SketchHelp.Unicode.Unprintable

/-!
A text as messages show it: between quotes, on one line, with nothing invisible.
Single quotes stand around it unless it holds a single quote and no double one. The
delimiter and the backslash are escaped, and so is every code point without a
printed form: by name if it is a tab or a line break, by number otherwise.
-/

namespace SketchHelp.Text

/-- Exactly `width` hexadecimal digits, the low ones of `n`. -/
def hexDigits (n : Nat) : (width : Nat) → Text
  | 0 => []
  | width + 1 => hexDigits (n / 16) width ++ [CodePoint.ofChar (Nat.digitChar (n % 16))]

/-- A code point by number, in the shortest of the three lengths that holds it. -/
def numberEscape (c : CodePoint) : Text :=
  if c.val ≤ 0xFF then ofString "\\x" ++ hexDigits c.val 2
  else if c.val ≤ 0xFFFF then ofString "\\u" ++ hexDigits c.val 4
  else ofString "\\U" ++ hexDigits c.val 8

def escape (delimiter c : CodePoint) : Text :=
  if c = delimiter ∨ c = '\\' then [CodePoint.ofChar '\\', c]
  else if c = '\t' then ofString "\\t"
  else if c = '\n' then ofString "\\n"
  else if c = '\r' then ofString "\\r"
  else if Unicode.unprintable.has c.val then numberEscape c
  else [c]

def delimiter (t : Text) : CodePoint :=
  if CodePoint.ofChar '\'' ∈ t ∧ CodePoint.ofChar '"' ∉ t then '"' else '\''

def quoted (t : Text) : Text :=
  t.delimiter :: t.flatMap (escape t.delimiter) ++ [t.delimiter]

end SketchHelp.Text
