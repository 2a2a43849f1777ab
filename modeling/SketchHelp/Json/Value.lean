import SketchHelp.Json.Double
import SketchHelp.Text.Decimal
import SketchHelp.Text.Quoted

/-!
Tree data before it is known to be a tree: an ordinary nested value in which a field
may be missing, or hold anything. The fields of an object keep their order.

Two texts of a value occur in messages and in names: `display` shows it as part of a
message, with texts quoted, and `plain` is the same but for a text, which stands for
itself. A value with a whole number in it that is too long to be written has neither.
No such number comes out of a JSON text, whose reader is under the same limit, so the
values of JSON are those whose numbers can all be written.
-/

namespace SketchHelp

inductive Value where
  | null
  | bool (b : Bool)
  | int (n : Int)
  | float (x : Double)
  | text (t : Text)
  | list (items : List Value)
  | object (fields : List (Text × Value))

namespace Value

instance : Inhabited Value := ⟨.null⟩

/-- Value of the first field called `name`. -/
def field? (name : Text) : List (Text × Value) → Option Value
  | [] => none
  | (key, value) :: rest => if key = name then some value else field? name rest

/-- The word that messages use for the kind of a value. -/
def kindWord : Value → Text
  | .null => Text.ofString "NoneType"
  | .bool _ => Text.ofString "bool"
  | .int _ => Text.ofString "int"
  | .float _ => Text.ofString "float"
  | .text _ => Text.ofString "str"
  | .list _ => Text.ofString "list"
  | .object _ => Text.ofString "dict"

/-- Nothing, zero and everything empty count as absent where an annotation is only
consulted if it says something. -/
def isBlank : Value → Bool
  | .null => true
  | .bool b => !b
  | .int n => n = 0
  | .float x => x.isZero
  | .text t => t.isEmpty
  | .list items => items.isEmpty
  | .object fields => fields.isEmpty

/-- A value or, where it is blank, the text that stands in for it. -/
def orText (value : Value) (fallback : Text) : Value :=
  if value.isBlank then .text fallback else value

def isNull : Value → Bool
  | .null => true
  | _ => false

/-- An absent text is null. -/
def ofText? : Option Text → Value
  | none => .null
  | some t => .text t

def boolWord (b : Bool) : Text :=
  Text.ofString (if b then "True" else "False")

mutual

/-- A value inside a message. -/
def display : Value → Option Text
  | .null => some (Text.ofString "None")
  | .bool b => some (boolWord b)
  | .int n => Text.ofInt? n
  | .float x => some x.toText
  | .text t => some t.quoted
  | .list items => do
    return CodePoint.ofChar '[' :: (← displayItems items) ++ [CodePoint.ofChar ']']
  | .object fields => do
    return CodePoint.ofChar '{' :: (← displayFields fields) ++ [CodePoint.ofChar '}']

/-- Items with a comma and a space between them. -/
def displayItems : List Value → Option Text
  | [] => some []
  | [item] => display item
  | item :: rest => do
    return (← display item) ++ Text.ofString ", " ++ (← displayItems rest)

/-- Fields with a comma and a space between them. -/
def displayFields : List (Text × Value) → Option Text
  | [] => some []
  | [(name, value)] => do
    return name.quoted ++ Text.ofString ": " ++ (← display value)
  | (name, value) :: rest => do
    return name.quoted ++ Text.ofString ": " ++ (← display value) ++ Text.ofString ", " ++
      (← displayFields rest)

end

/-- The text itself, or the display of anything else. -/
def plain : Value → Option Text
  | .text t => some t
  | value => value.display

/-- No whole number in the value is too long to be written. -/
inductive IsWritable : Value → Prop where
  | null : IsWritable .null
  | bool (b : Bool) : IsWritable (.bool b)
  | int {n : Int} : (Nat.toDigits 10 n.natAbs).length ≤ digitLimit → IsWritable (.int n)
  | float (x : Double) : IsWritable (.float x)
  | text (t : Text) : IsWritable (.text t)
  | list {items : List Value} : (∀ item ∈ items, IsWritable item) → IsWritable (.list items)
  | object {fields : List (Text × Value)} :
      (∀ field ∈ fields, IsWritable field.2) → IsWritable (.object fields)

/-! ### Which values have a text -/

theorem isSome_displayItems_iff {items : List Value} :
    (displayItems items).isSome ↔ ∀ item ∈ items, item.display.isSome := by
  induction items with
  | nil => simp [displayItems]
  | cons item rest ih =>
      cases rest with
      | nil => simp [displayItems]
      | cons next rest =>
          rw [displayItems, List.forall_mem_cons, ← ih]
          · cases item.display <;> cases displayItems (next :: rest) <;> simp
          · simp

theorem isSome_displayFields_iff {fields : List (Text × Value)} :
    (displayFields fields).isSome ↔ ∀ field ∈ fields, field.2.display.isSome := by
  induction fields with
  | nil => simp [displayFields]
  | cons field rest ih =>
      obtain ⟨name, value⟩ := field
      cases rest with
      | nil => cases h : value.display <;> simp [displayFields, h]
      | cons next rest =>
          rw [displayFields, List.forall_mem_cons, ← ih]
          · cases value.display <;> cases displayFields (next :: rest) <;> simp
          · simp

theorem isSome_display_list_iff {items : List Value} :
    (display (.list items)).isSome ↔ ∀ item ∈ items, item.display.isSome := by
  rw [← isSome_displayItems_iff, display]
  cases displayItems items <;> rfl

theorem isSome_display_object_iff {fields : List (Text × Value)} :
    (display (.object fields)).isSome ↔ ∀ field ∈ fields, field.2.display.isSome := by
  rw [← isSome_displayFields_iff, display]
  cases displayFields fields <;> rfl

theorem IsWritable.isSome_display {value : Value} (h : value.IsWritable) :
    value.display.isSome := by
  induction h with
  | null | bool | float | text => rfl
  | int short => simp [display, Text.ofInt?, short]
  | list _ ih => exact isSome_display_list_iff.mpr ih
  | object _ ih => exact isSome_display_object_iff.mpr ih

theorem isWritable_of_isSome_display : (value : Value) → value.display.isSome → value.IsWritable
  | .null, _ => .null
  | .bool b, _ => .bool b
  | .int _, shown => .int (by simpa [display, Text.ofInt?] using shown)
  | .float x, _ => .float x
  | .text t, _ => .text t
  | .list _, shown => .list fun item mem =>
    isWritable_of_isSome_display item (isSome_display_list_iff.mp shown item mem)
  | .object _, shown => .object fun field mem =>
    isWritable_of_isSome_display field.2 (isSome_display_object_iff.mp shown field mem)
termination_by value => sizeOf value
decreasing_by
  · have := List.sizeOf_lt_of_mem mem
    simp only [Value.list.sizeOf_spec]
    omega
  · obtain ⟨name, value⟩ := field
    have := List.sizeOf_lt_of_mem mem
    simp only [Prod.mk.sizeOf_spec, Value.object.sizeOf_spec] at this ⊢
    omega

/-- The values that have a text are those in which every number can be written. -/
theorem isSome_plain_iff {value : Value} : value.plain.isSome ↔ value.IsWritable := by
  cases value with
  | text t => exact ⟨fun _ => .text t, fun _ => rfl⟩
  | null | bool | int | float | list | object =>
      exact ⟨isWritable_of_isSome_display _, IsWritable.isSome_display⟩

end Value

/-- A value that a JSON text may hold. -/
structure JsonValue where
  value : Value
  isWritable : value.IsWritable

end SketchHelp
