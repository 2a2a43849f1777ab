import SketchHelp.Page.Hint
import SketchHelp.Text.Class
import SketchHelp.Tree.Basic

/-!
The variable declaration around a node. A declaration statement met on the way up
stands for its first fragment, since all its variables share one type.
-/

namespace SketchHelp.Tree

def isFragmentOrDeclaration (kind : Kind) : Bool :=
  kind = .variableDeclarationFragment || kind.isDeclaration

/-- The fragment nearest above a node, itself included. -/
def declarationFragment (tree : Tree) (node : Node) : Except Fault (Option Node) :=
  match tree.firstAncestor node isFragmentOrDeclaration with
  | none => .ok none
  | some found =>
    if found.kind = .variableDeclarationFragment then .ok (some found)
    else tree.child found Role.fragments.toText

/-- The text of the first child in a slot. -/
def childText (tree : Tree) (node : Node) (role : Role) : Except Fault (Option Text) :=
  return (← tree.child node role.toText).map (·.text)

/-- The name that a fragment declares: its name child's text or, without one, whatever
stands before its first equals sign. -/
def declaredName (tree : Tree) (fragment : Node) : Except Fault Text :=
  return (← tree.childText fragment .name).getD
    (Text.strip (fragment.text.takeWhile (· ≠ '=')))

/-- A fragment's resolved type or else the text of its declaration's type; null if
neither is known. -/
def declaredType (tree : Tree) (fragment : Node) : Except Fault Value :=
  if fragment.resolvedType.isNull then
    match tree.parent fragment with
    | none => .ok .null
    | some declaration => return .ofText? (← tree.childText declaration .type)
  else .ok fragment.resolvedType

/-- The name of the variable declared nearest to a node, or a placeholder. -/
def variableNameNear (tree : Tree) (node : Node) : Except Fault Text := do
  match ← tree.declarationFragment node with
  | none => return Placeholder.variableName
  | some fragment => tree.declaredName fragment

end SketchHelp.Tree
