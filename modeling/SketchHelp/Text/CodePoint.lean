/-!
Text as an editor hands it over: a list of code points. An editor may hold half of
a surrogate pair, which a `Char` cannot be, so a text is a list of `CodePoint`s and
every offset and length counts those.
-/

namespace SketchHelp

/-- One Unicode code point, surrogates included. -/
@[ext] structure CodePoint where
  val : Nat
  isLt : val < 0x110000
  deriving DecidableEq, Repr

namespace CodePoint

theorem char_toNat_lt (c : Char) : c.toNat < 0x110000 := by
  have valid := c.valid
  simp only [UInt32.isValidChar, Nat.isValidChar] at valid
  simp only [Char.toNat]
  omega

def ofChar (c : Char) : CodePoint := ⟨c.toNat, char_toNat_lt c⟩

instance : Coe Char CodePoint := ⟨ofChar⟩

@[simp] theorem val_ofChar (c : Char) : (ofChar c).val = c.toNat := rfl

@[simp] theorem ofChar_inj {c d : Char} : ofChar c = ofChar d ↔ c = d := by
  constructor
  · intro same
    have values : c.toNat = d.toNat := congrArg CodePoint.val same
    exact Char.toNat_inj.mp values
  · rintro rfl
    rfl

def ofNat? (n : Nat) : Option CodePoint :=
  if h : n < 0x110000 then some ⟨n, h⟩ else none

/-- A surrogate stands for no character of its own and has no UTF-8 form. -/
def isSurrogate (c : CodePoint) : Bool :=
  0xD800 ≤ c.val && c.val ≤ 0xDFFF

end CodePoint

abbrev Text := List CodePoint

namespace Text

def ofString (s : String) : Text :=
  s.toList.map CodePoint.ofChar

instance : Coe String Text := ⟨ofString⟩

theorem ofString_inj {s t : String} : ofString s = ofString t ↔ s = t := by
  constructor
  · intro same
    have chars := (List.map_inj_right (f := CodePoint.ofChar) (fun a b => by simp)).mp same
    exact String.toList_inj.mp chars
  · rintro rfl
    rfl

/-- Decimal digits of a number, without sign or leading zeros. -/
def ofNat (n : Nat) : Text :=
  (Nat.toDigits 10 n).map CodePoint.ofChar

/-- Decimal digits after a minus sign where one is due. -/
def ofInt (n : Int) : Text :=
  if n < 0 then CodePoint.ofChar '-' :: ofNat n.natAbs else ofNat n.natAbs

def hasSurrogate (t : Text) : Bool :=
  t.any CodePoint.isSurrogate

end Text

end SketchHelp
