import SketchHelp.Text.CodePoint

/-!
Nested trees before their nodes have positions. A forest is a row of trees, each in a
slot of the node above it; a forest is taken apart into the first tree's label, what
hangs below it, and the trees that follow. Everything about nested trees is one
induction over that.
-/

namespace SketchHelp

/-- Trees in a row, each with the slot it belongs to. -/
inductive Forest (α : Type) where
  | nil
  | cons (role : Text) (label : α) (below rest : Forest α)

/-- One nested tree. -/
structure Rose (α : Type) where
  label : α
  below : Forest α

namespace Forest

variable {α β : Type}

/-- Number of nodes. -/
def size : Forest α → Nat
  | nil => 0
  | cons _ _ below rest => below.size + 1 + rest.size

/-- Labels in preorder. -/
def labels : Forest α → List α
  | nil => []
  | cons _ label below rest => label :: (below.labels ++ rest.labels)

def map (f : α → β) : Forest α → Forest β
  | nil => nil
  | cons role label below rest => cons role (f label) (below.map f) (rest.map f)

/-- The slot of each tree in the row with the position of its top node, where the row's
first node stands at `position` and nodes are counted in preorder. -/
def slots (position : Nat) : Forest α → List (Text × Int)
  | nil => []
  | cons role _ below rest => (role, (position : Int)) :: rest.slots (position + 1 + below.size)

end Forest

def Rose.size {α : Type} (rose : Rose α) : Nat :=
  rose.below.size + 1

end SketchHelp
