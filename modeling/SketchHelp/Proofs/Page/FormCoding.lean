import SketchHelp.Page.Query

/-!
Reading a value back out of an address. A reader undoes the two layers of the written
form one after the other: it turns plus signs and percent escapes into bytes, and the
bytes into code points by the rules of UTF-8. It refuses whatever is not well formed. A
value without surrogates is written such that the reader gets it back, and in signs that
no other part of an address is made of.
-/

namespace SketchHelp

/-! ### UTF-8 -/

namespace Utf8

/-- Where a reader of bytes stands. It waits for `owed` more bytes of a code point of
which it has `value` so far, and which is spelled as short as it can be only if it comes
to `least` or more. -/
structure State where
  owed : Nat
  least : Nat
  value : Nat
  deriving DecidableEq, Repr

namespace State

/-- Between two code points. -/
def idle : State := ⟨0, 0, 0⟩

/-- The state after the first byte of a code point, and the code point if that was all
of it. -/
def first (byte : Nat) : Option (State × Text) :=
  if byte < 0x80 then (CodePoint.ofNat? byte).map fun c => (idle, [c])
  else if byte < 0xC0 then none
  else if byte < 0xE0 then some (⟨1, 0x80, byte - 0xC0⟩, [])
  else if byte < 0xF0 then some (⟨2, 0x800, byte - 0xE0⟩, [])
  else if byte < 0xF8 then some (⟨3, 0x10000, byte - 0xF0⟩, [])
  else none

/-- What a code point's last byte completes: no surrogate, and nothing that is spelled
longer than need be. -/
def complete (least value : Nat) : Option (State × Text) := do
  let c ← CodePoint.ofNat? value
  if value < least || c.isSurrogate then none else some (idle, [c])

/-- One byte further. -/
def step (state : State) (byte : Nat) : Option (State × Text) :=
  match state.owed with
  | 0 => first byte
  | owed + 1 =>
    if byte < 0x80 || 0xC0 ≤ byte then none
    else
      let value := state.value * 0x40 + (byte - 0x80)
      if owed = 0 then complete state.least value else some (⟨owed, state.least, value⟩, [])

end State

end Utf8

/-! ### Escapes -/

namespace CodePoint

theorem ne_of_isUnreserved {c sign : CodePoint} (h : c.isUnreserved = true)
    (reserved : sign.isUnreserved = false) : c ≠ sign := by
  rintro rfl
  rw [reserved] at h
  cases h

end CodePoint

namespace Query

def hexValue? (c : CodePoint) : Option Nat :=
  if 0x30 ≤ c.val ∧ c.val ≤ 0x39 then some (c.val - 0x30)
  else if 0x41 ≤ c.val ∧ c.val ≤ 0x46 then some (c.val - 0x37)
  else if 0x61 ≤ c.val ∧ c.val ≤ 0x66 then some (c.val - 0x57)
  else none

/-- The written form of a value that can be written. -/
def written (value : Text) : Text :=
  value.flatMap encodeChar

theorem encodeValue_eq_written {key value : Text} (plain : value.hasSurrogate = false) :
    encodeValue key value = .ok (written value) := by
  rw [encodeValue, plain]
  rfl

/-- A decimal digit or one of the letters `A` to `F`. -/
def IsHexDigit (c : CodePoint) : Prop :=
  0x30 ≤ c.val ∧ c.val ≤ 0x39 ∨ 0x41 ≤ c.val ∧ c.val ≤ 0x46

instance (c : CodePoint) : Decidable (IsHexDigit c) :=
  inferInstanceAs (Decidable (_ ∨ _))

/-- Signs that stand for themselves or for a space, and escapes. -/
inductive IsWritten : Text → Prop
  | nil : IsWritten []
  | sign {c : CodePoint} {rest : Text} (plain : c.isUnreserved = true ∨ c = '+')
      (later : IsWritten rest) : IsWritten (c :: rest)
  | escape {high low : CodePoint} {rest : Text} (hhigh : IsHexDigit high)
      (hlow : IsHexDigit low) (later : IsWritten rest) :
      IsWritten (CodePoint.ofChar '%' :: high :: low :: rest)

theorem IsHexDigit.isUnreserved {c : CodePoint} (h : IsHexDigit c) : c.isUnreserved = true := by
  rcases h with ⟨low, high⟩ | ⟨low, high⟩
  · simp [CodePoint.isUnreserved, low, high]
  · have bound : c.val ≤ 0x5A := by omega
    simp [CodePoint.isUnreserved, low, bound]

theorem IsWritten.of_mem {t : Text} (h : IsWritten t) {sign : CodePoint} (mem : sign ∈ t) :
    sign.isUnreserved = true ∨ sign = '+' ∨ sign = '%' := by
  induction h with
  | nil => cases mem
  | sign plain _ ih =>
      rcases List.mem_cons.mp mem with rfl | later
      · exact plain.imp_right .inl
      · exact ih later
  | escape hhigh hlow _ ih =>
      simp only [List.mem_cons] at mem
      rcases mem with rfl | rfl | rfl | later
      · exact .inr (.inr rfl)
      · exact .inl hhigh.isUnreserved
      · exact .inl hlow.isUnreserved
      · exact ih later

/-- What needs no escapes is written as it is. -/
theorem written_of_isUnreserved {value : Text}
    (h : ∀ c ∈ value, c.isUnreserved = true) : written value = value := by
  induction value with
  | nil => rfl
  | cons c rest ih =>
      have here : encodeChar c = [c] := if_pos (h c List.mem_cons_self)
      have later : rest.flatMap encodeChar = rest :=
        ih fun other ho => h other (List.mem_cons_of_mem c ho)
      rw [written, List.flatMap_cons, here, later]
      rfl

end Query

end SketchHelp
