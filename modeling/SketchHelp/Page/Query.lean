import SketchHelp.Text.CodePoint

/-!
Parameters as part of an address. A value is written so that nothing in it can be taken
for part of the address: letters, digits and four harmless signs of ASCII stand for
themselves, a space becomes a plus sign, and every other code point is spelled out as
the bytes of its UTF-8 form. A surrogate has no such form, so a value that holds one
cannot be written at all.
-/

namespace SketchHelp

namespace CodePoint

/-- ASCII letters and digits, underscore, full stop, hyphen and tilde. -/
def isUnreserved (c : CodePoint) : Bool :=
  (0x30 ≤ c.val && c.val ≤ 0x39) || (0x41 ≤ c.val && c.val ≤ 0x5A) ||
    (0x61 ≤ c.val && c.val ≤ 0x7A) || c = '_' || c = '.' || c = '-' || c = '~'

/-- The bytes of a code point in UTF-8. -/
def utf8 (c : CodePoint) : List Nat :=
  if c.val < 0x80 then [c.val]
  else if c.val < 0x800 then [0xC0 + c.val / 0x40, 0x80 + c.val % 0x40]
  else if c.val < 0x10000 then
    [0xE0 + c.val / 0x1000, 0x80 + c.val / 0x40 % 0x40, 0x80 + c.val % 0x40]
  else
    [0xF0 + c.val / 0x40000, 0x80 + c.val / 0x1000 % 0x40, 0x80 + c.val / 0x40 % 0x40,
     0x80 + c.val % 0x40]

end CodePoint

namespace Query

/-- A value that cannot be written, by the key of its parameter. -/
structure EncodingFault where
  key : Text
  deriving DecidableEq, Repr

def EncodingFault.message (fault : EncodingFault) : Text :=
  Text.ofString "Cannot encode value of parameter '" ++ fault.key ++
    Text.ofString "': surrogates not allowed"

/-- An upper-case hexadecimal digit. -/
def hexDigit (n : Nat) : CodePoint :=
  CodePoint.ofChar (Nat.digitChar n).toUpper

def escapeByte (byte : Nat) : Text :=
  [CodePoint.ofChar '%', hexDigit (byte / 16), hexDigit (byte % 16)]

def encodeChar (c : CodePoint) : Text :=
  if c.isUnreserved then [c]
  else if c = ' ' then [CodePoint.ofChar '+']
  else c.utf8.flatMap escapeByte

/-- The written form of the value of the parameter `key`. -/
def encodeValue (key value : Text) : Except EncodingFault Text :=
  if value.hasSurrogate then .error ⟨key⟩ else .ok (value.flatMap encodeChar)

/-- A parameter whose value is already written. -/
def pair (parameter : Text × Text) : Text :=
  parameter.1 ++ CodePoint.ofChar '=' :: parameter.2

/-- Parameters with an ampersand between them. -/
def join (parameters : List (Text × Text)) : Text :=
  (Text.ofString "&").intercalate (parameters.map pair)

def encodeParameter (parameter : Text × Text) : Except EncodingFault (Text × Text) :=
  return (parameter.1, ← encodeValue parameter.1 parameter.2)

/-- All parameters with their values written; the first value that cannot be written
decides the fault. -/
def encodeAll : List (Text × Text) → Except EncodingFault (List (Text × Text))
  | [] => .ok []
  | parameter :: rest => do
    let first ← encodeParameter parameter
    let others ← encodeAll rest
    return first :: others

end Query

end SketchHelp
