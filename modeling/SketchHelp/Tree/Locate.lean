import SketchHelp.Text.Search
import SketchHelp.Tree.Outline

/-!
Trees described by the texts of their nodes. Each child's text is looked up in the
source inside its parent's span, after its preceding sibling, and the first occurrence
is taken. Taking the first leaves the most room for the siblings that follow, so no
other choice of occurrences succeeds where this one fails.
-/

namespace SketchHelp

/-- A node described by its text. -/
structure SpecInfo where
  kind : Kind
  text : Text
  operator : Option Text
  resolvedType : Option Text
  method : Option MethodBinding
  deriving DecidableEq, Repr

abbrev Spec := Rose SpecInfo

/-- Why a description does not fit the source. -/
inductive LocateFault where
  | rootMissing (text : Text)
  | childMissing (child : Kind) (text : Text) (owner : Kind) (low high : Nat)
  deriving DecidableEq, Repr

def LocateFault.message : LocateFault → Text
  | .rootMissing text =>
    Text.ofString "Root text " ++ text.quoted ++ Text.ofString " not found in source"
  | .childMissing child text owner low high =>
    Text.ofString "Child " ++ child.toText ++ Text.ofString " text " ++ text.quoted ++
      Text.ofString " not found in " ++ owner.toText ++ Text.ofString " span [" ++
      Text.ofNat low ++ Text.ofString ", " ++ Text.ofNat high ++ Text.ofString ")"

/-- The described node, with its text starting at `start`. -/
def SpecInfo.startAt (info : SpecInfo) (start : Nat) : NodeInfo where
  kind := info.kind
  span := ⟨start, start + info.text.length, by omega⟩
  text := info.text
  operator := .ofText? info.operator
  resolvedType := .ofText? info.resolvedType
  method := info.method

/-- Places a row of children of a node of kind `owner` from offset `cursor` on, up to
the end `high` of that node. -/
def Forest.locate (source : Text) (owner : Kind) (cursor high : Nat) :
    Forest SpecInfo → Except LocateFault (Forest NodeInfo)
  | nil => .ok nil
  | cons role info below rest =>
    match source.indexWithin? info.text cursor high with
    | none => .error (.childMissing info.kind info.text owner cursor high)
    | some start => do
      let stop := start + info.text.length
      let placedBelow ← below.locate source info.kind start stop
      let placedRest ← rest.locate source owner stop high
      return cons role (info.startAt start) placedBelow placedRest

namespace Spec

/-- Where the root starts: at the given offset, if its text stands there, or else where
its text first occurs. -/
def rootStart? (source text : Text) : (offset : Option Int) → Option Nat
  | none => source.index? text
  | some offset =>
    if offset < 0 then none
    else if source.slice offset.toNat (offset.toNat + text.length) = text then
      some offset.toNat
    else none

def locate (spec : Spec) (source : Text) (offset : Option Int) :
    Except LocateFault Outline :=
  match rootStart? source spec.label.text offset with
  | none => .error (.rootMissing spec.label.text)
  | some start => do
    let below ← spec.below.locate source spec.label.kind start
      (start + spec.label.text.length)
    return ⟨spec.label.startAt start, below⟩

/-- The tree of a description. -/
def toTree (spec : Spec) (source : Text) (offset : Option Int) : Except LocateFault Tree :=
  return (← spec.locate source offset).toTree source

end Spec

end SketchHelp
