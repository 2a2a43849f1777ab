import SketchHelp.Tree.Basic

/-!
The node for a problem range. The outermost node that lies entirely inside the range is
preferred; failing that it is the innermost node that covers the range. A range that no
node covers belongs to the root.

The search first walks down through covering nodes, and then looks below the last of
them for a node inside the range. Slots may lead back to a node that the search came
from. A path without repetition is no longer than the tree, so a longer one runs in a
circle and is reported instead of followed.
-/

namespace SketchHelp.Tree

/-- The first node below `node`, in source order and outermost first, that is not empty
and lies inside the range; `limit` bounds the depth. -/
def firstCovered (tree : Tree) (range : Range) : (limit : Nat) → Node →
    Except Fault (Option Node)
  | 0, _ => .error .endlessSearch
  | limit + 1, node => do
    (← tree.children node).findSomeM? fun child =>
      if child.span.isInside range && !child.span.isEmpty then return some child
      else if child.span.overlaps range then tree.firstCovered range limit child
      else return none

/-- The answer once `node` is known to be the innermost node that covers the range. -/
def settle (tree : Tree) (range : Range) (node : Node) : Except Fault Node :=
  if node.span.toRange = range ∨ range.stop ≤ range.start then .ok node
  else return (← tree.firstCovered range tree.size node).getD node

/-- Follows the first covering child at each node, at most `limit` steps down, and stops
early at one that the range covers in turn. -/
def descend (tree : Tree) (range : Range) : (limit : Nat) → Node → Except Fault Node
  | 0, _ => .error .endlessDescent
  | limit + 1, node => do
    match (← tree.children node).find? fun child => child.span.covers range with
    | none => tree.settle range node
    | some child =>
      if child.span.isInside range then return child else tree.descend range limit child

def nodeAt (tree : Tree) (range : Range) : Except Fault Node :=
  tree.descend range tree.size tree.root

end SketchHelp.Tree
