import SketchHelp.StableSort
import SketchHelp.Tree.Node

/-!
A syntax tree as an arena: a list of nodes that refer to each other by position. The
first node is the root. A tree promises that every node knows its own position and that
every node but the root names another node of the tree as its parent. It promises
nothing more: parents may form a cycle, and the positions in a node's slots may be
anything. Walks upward are therefore cut off, and every step downward may fail.
-/

namespace SketchHelp

/-- The parent links of a node at `position` in a tree of `size` nodes are in order. -/
def Node.IsLinked (size position : Nat) (node : Node) : Prop :=
  node.index = position ∧
    match node.parent with
    | none => position = 0
    | some parent => position ≠ 0 ∧ parent < size ∧ parent ≠ position

structure Tree where
  nodes : List Node
  source : Text
  nonempty : nodes ≠ []
  linked : ∀ position (node : Node), nodes[position]? = some node →
    node.IsLinked nodes.length position

namespace Tree

/-- What may go wrong while a tree is read whose slots and annotations were never
checked. -/
inductive Fault where
  /-- A slot names a position at which there is no node. -/
  | danglingPosition
  /-- The walk down to the innermost covering node runs in a circle. -/
  | endlessDescent
  /-- The search for a covered node runs in a circle. -/
  | endlessSearch
  /-- An annotation is used as a text and is something else. -/
  | notText
  /-- An operator cannot be looked up because it is a list or an object. -/
  | compoundOperator (word : Text)
  deriving DecidableEq, Repr

/-- The text of a fault that speaks for itself. -/
def Fault.message : Fault → Text
  | .compoundOperator word => Text.ofString "unhashable type: '" ++ word ++ Text.ofString "'"
  | _ => []

def size (tree : Tree) : Nat :=
  tree.nodes.length

def root (tree : Tree) : Node :=
  tree.nodes.head tree.nonempty

/-- The node at a position; a negative one counts back from the last node. -/
def node? (tree : Tree) (position : Int) : Option Node :=
  if 0 ≤ position then tree.nodes[position.toNat]?
  else if 0 ≤ tree.size + position then tree.nodes[(tree.size + position).toNat]?
  else none

def node (tree : Tree) (position : Int) : Except Fault Node :=
  match tree.node? position with
  | some node => .ok node
  | none => .error .danglingPosition

/-! ## Upward -/

def parent (tree : Tree) (node : Node) : Option Node :=
  node.parent.bind (tree.nodes[·]?)

/-- A node and its ancestors, at most `limit` nodes in all. -/
def climb (tree : Tree) (node : Node) : (limit : Nat) → List Node
  | 0 => []
  | limit + 1 =>
    node :: match tree.parent node with
      | none => []
      | some parent => tree.climb parent limit

/-- A node and then each of its ancestors up to the root. Where parents form a cycle
the walk stops once it is longer than the tree. -/
def ancestors (tree : Tree) (node : Node) : List Node :=
  tree.climb node (tree.size + 1)

/-- The nearest node at or above `node` of a wanted kind. -/
def firstAncestor (tree : Tree) (node : Node) (wanted : Kind → Bool) : Option Node :=
  (tree.ancestors node).find? fun candidate => wanted candidate.kind

/-! ## Downward -/

/-- Children in one slot, in slot order. -/
def childrenIn (tree : Tree) (node : Node) (role : Text) : Except Fault (List Node) :=
  (node.roles.get role).mapM tree.node

/-- The first child in a slot. -/
def child (tree : Tree) (node : Node) (role : Text) : Except Fault (Option Node) :=
  match node.roles.get role with
  | [] => .ok none
  | position :: _ => (tree.node position).map some

/-- Source order: by start, then by position in the tree. -/
def precedes (a b : Node) : Bool :=
  a.span.start < b.span.start || (a.span.start = b.span.start && a.index ≤ b.index)

/-- Children of all slots in source order. -/
def children (tree : Tree) (node : Node) : Except Fault (List Node) :=
  return StableSort.sort precedes (← node.roles.positions.mapM tree.node)

/-- The first node, in order of position, of a kind and, if one is given, with a text. -/
def find (tree : Tree) (kind : Kind) (text : Option Text) : Option Node :=
  tree.nodes.find? fun node => node.kind = kind && text.all (node.text = ·)

theorem node?_natCast (tree : Tree) (position : Nat) :
    tree.node? (position : Int) = tree.nodes[position]? := by
  simp [node?]

theorem ancestors_length_le (tree : Tree) (node : Node) :
    (tree.ancestors node).length ≤ tree.size + 1 := by
  unfold ancestors
  generalize tree.size + 1 = limit
  induction limit generalizing node with
  | zero => simp [climb]
  | succ limit ih =>
    unfold climb
    split
    · simp
    · simpa using ih _

end Tree

end SketchHelp
