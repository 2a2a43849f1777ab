import SketchHelp.Json.Value
import SketchHelp.Tree.Kind
import SketchHelp.Tree.Span

/-!
One node of a syntax tree. Nodes refer to their parent and children by position in
the tree that holds them. A node knows its children by slot; a negative position
counts back from the last node, and nothing promises that a position names a node.

The operator and the type of a node come from a compiler's resolution and are null
where it did not get that far. Tree data may hold anything there, so both are values
and not texts.
-/

namespace SketchHelp

/-- A resolved method signature. -/
structure MethodBinding where
  name : Text
  parameterTypes : List Text
  returnType : Text
  deriving DecidableEq, Repr

namespace MethodBinding

def voidType : Text := Text.ofString "void"

/-- A binding that names no types. -/
def ofName (name : Text) : MethodBinding :=
  ⟨name, [], voidType⟩

end MethodBinding

/-- Child positions by slot. -/
abbrev RoleMap := List (Text × List Int)

namespace RoleMap

/-- Positions in the slot `role`. -/
def get (roles : RoleMap) (role : Text) : List Int :=
  match roles with
  | [] => []
  | (name, positions) :: rest => if name = role then positions else get rest role

/-- Adds a position at the end of the slot `role`, a new slot at the end of the map. -/
def add (roles : RoleMap) (role : Text) (position : Int) : RoleMap :=
  match roles with
  | [] => [(role, [position])]
  | (name, positions) :: rest =>
    if name = role then (name, positions ++ [position]) :: rest
    else (name, positions) :: add rest role position

/-- Sets the slot `role`, a new slot at the end of the map. -/
def put (roles : RoleMap) (role : Text) (positions : List Int) : RoleMap :=
  match roles with
  | [] => [(role, positions)]
  | (name, old) :: rest =>
    if name = role then (name, positions) :: rest else (name, old) :: put rest role positions

/-- Slots in the order of their first position. -/
def ofPositions (entries : List (Text × Int)) : RoleMap :=
  entries.foldl (fun roles entry => roles.add entry.1 entry.2) []

/-- Positions of all slots, slot after slot. -/
def positions (roles : RoleMap) : List Int :=
  roles.flatMap (·.2)

theorem get_add (roles : RoleMap) (role other : Text) (position : Int) :
    (roles.add role position).get other =
      roles.get other ++ if role = other then [position] else [] := by
  induction roles with
  | nil => by_cases h : role = other <;> simp [add, get, h]
  | cons slot rest ih =>
    obtain ⟨name, positions⟩ := slot
    by_cases here : name = role
    · by_cases h : role = other <;> simp [add, get, here, h]
    · by_cases h : name = other
      · have apart : ¬ role = other := fun same => here (h.trans same.symm)
        have back : ¬ other = role := fun same => apart same.symm
        simp [add, get, h, apart, back]
      · simp [add, get, here, h, ih]

end RoleMap

/-- What a node says about itself, its place in a tree apart. -/
structure NodeInfo where
  kind : Kind
  span : Span
  text : Text
  operator : Value
  resolvedType : Value
  method : Option MethodBinding

structure Node extends NodeInfo where
  index : Nat
  parent : Option Nat
  roles : RoleMap

end SketchHelp
