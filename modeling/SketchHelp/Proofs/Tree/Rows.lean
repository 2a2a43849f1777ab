import Mathlib.Data.List.Forall2
import SketchHelp.Proofs.Tree.Slots
import SketchHelp.Tree.Outline

/-!
How an outline lies in its arena. The nodes of a row of trees stand in one stretch, a
top node followed by all that hangs below it, so a tree holds a row if the row's nodes
come next from some position on. Every node of the tree then carries its own row: the
row's nodes follow the node, and the node's slots list the row's top nodes. Everything
a tree is asked about, its children above all, is answered from the row that a node
carries.
-/

namespace SketchHelp

namespace Forest

/-- Every tree in a row and below it, in preorder. -/
def subtrees {α : Type} : Forest α → List (Rose α)
  | nil => []
  | cons _ label below rest => ⟨label, below⟩ :: (below.subtrees ++ rest.subtrees)

/-- The node on top of a tree whose place in the arena is `position`. -/
def topNode (parent position : Nat) (info : NodeInfo) (below : Forest NodeInfo) : Node where
  toNodeInfo := info
  index := position
  parent := some parent
  roles := RoleMap.ofPositions (below.slots (position + 1))

/-- The top nodes of a row with the slots that they are in. -/
def row (parent position : Nat) : Forest NodeInfo → List (Text × Node)
  | nil => []
  | cons role info below rest =>
    (role, topNode parent position info below) ::
      rest.row parent (position + 1 + below.size)

def tops (parent position : Nat) (forest : Forest NodeInfo) : List Node :=
  (forest.row parent position).map (·.2)

@[simp] theorem tops_nil (parent position : Nat) : nil.tops parent position = [] := rfl

@[simp] theorem tops_cons (parent position : Nat) (role : Text) (info : NodeInfo)
    (below rest : Forest NodeInfo) :
    (cons role info below rest).tops parent position =
      topNode parent position info below ::
        rest.tops parent (position + 1 + below.size) := rfl

@[simp] theorem nodes_nil (parent position : Nat) : nil.nodes parent position = [] := rfl

@[simp] theorem nodes_cons (parent position : Nat) (role : Text) (info : NodeInfo)
    (below rest : Forest NodeInfo) :
    (cons role info below rest).nodes parent position =
      topNode parent position info below ::
        (below.nodes position (position + 1) ++
          rest.nodes parent (position + 1 + below.size)) := rfl

theorem slots_eq_map_row (parent position : Nat) (forest : Forest NodeInfo) :
    forest.slots position =
      (forest.row parent position).map fun entry => (entry.1, (entry.2.index : Int)) := by
  induction forest generalizing position with
  | nil => rfl
  | cons role info below rest _ ih =>
      rw [slots, row, List.map_cons, ih]
      rfl

theorem positions_eq_map_tops (parent position : Nat) (forest : Forest NodeInfo) :
    (forest.slots position).map (·.2) =
      (forest.tops parent position).map fun node => (node.index : Int) := by
  rw [slots_eq_map_row parent, tops, List.map_map, List.map_map]
  rfl

theorem parent_of_mem_tops {parent position : Nat} {forest : Forest NodeInfo} {child : Node}
    (h : child ∈ forest.tops parent position) : child.parent = some parent := by
  induction forest generalizing position with
  | nil => cases h
  | cons role info below rest _ ih =>
      rcases List.mem_cons.mp h with rfl | later
      · rfl
      · exact ih later

theorem le_index_of_mem_nodes {parent position : Nat} {forest : Forest NodeInfo}
    {node : Node} (h : node ∈ forest.nodes parent position) :
    position ≤ node.index ∧ node.index < position + forest.size := by
  induction forest generalizing parent position with
  | nil => cases h
  | cons role info below rest belowIh restIh =>
      rw [size]
      rcases List.mem_cons.mp h with rfl | inside
      · exact ⟨Nat.le_refl position, by show position < _; omega⟩
      · rcases List.mem_append.mp inside with deeper | later
        · have := belowIh deeper
          omega
        · have := restIh later
          omega

/-- Nodes of a row are listed by their positions. -/
theorem pairwise_index_nodes (parent position : Nat) (forest : Forest NodeInfo) :
    (forest.nodes parent position).Pairwise (·.index < ·.index) := by
  induction forest generalizing parent position with
  | nil => exact List.Pairwise.nil
  | cons role info below rest belowIh restIh =>
      rw [nodes_cons, List.pairwise_cons, List.pairwise_append]
      refine ⟨fun node h => ?_, belowIh .., restIh .., fun a ha b hb => ?_⟩
      · show position < node.index
        rcases List.mem_append.mp h with deeper | later
        · exact (le_index_of_mem_nodes deeper).1
        · have := le_index_of_mem_nodes later
          omega
      · have := le_index_of_mem_nodes ha
        have := le_index_of_mem_nodes hb
        omega

theorem tops_sublist_nodes (parent position : Nat) (forest : Forest NodeInfo) :
    (forest.tops parent position).Sublist (forest.nodes parent position) := by
  induction forest generalizing position with
  | nil => exact .slnil
  | cons role info below rest _ ih =>
      rw [tops_cons, nodes_cons]
      exact ((ih _).trans (List.sublist_append_right ..)).cons_cons _

/-- Slots are listed by their positions. -/
theorem pairwise_slots (position : Nat) (forest : Forest NodeInfo) :
    (forest.slots position).Pairwise fun a b => a.2 < b.2 := by
  rw [slots_eq_map_row position, List.pairwise_map]
  have tops := (pairwise_index_nodes position position forest).sublist (tops_sublist_nodes ..)
  exact (List.pairwise_map.mp tops).imp fun before => Int.ofNat_lt.mpr before

theorem nodup_positions (position : Nat) (forest : Forest NodeInfo) :
    ((forest.slots position).map (·.2)).Nodup :=
  List.pairwise_map.mpr ((pairwise_slots position forest).imp fun before => Int.ne_of_lt before)

end Forest

namespace Tree

/-- The nodes of a row below the node at `parent` come next from `position` on. -/
def HoldsRow (tree : Tree) (parent position : Nat) (forest : Forest NodeInfo) : Prop :=
  forest.nodes parent position <+: tree.nodes.drop position

/-- `below` is all that hangs below a node of the tree. -/
structure Carries (tree : Tree) (node : Node) (below : Forest NodeInfo) : Prop where
  here : tree.nodes[node.index]? = some node
  roles : node.roles = RoleMap.ofPositions (below.slots (node.index + 1))
  row : tree.HoldsRow node.index (node.index + 1) below

theorem Carries.mem {tree : Tree} {node : Node} {below : Forest NodeInfo}
    (h : tree.Carries node below) : node ∈ tree.nodes :=
  List.mem_of_getElem? h.here

variable {tree : Tree} {parent position : Nat}

theorem HoldsRow.head {role : Text} {info : NodeInfo} {below rest : Forest NodeInfo}
    (h : tree.HoldsRow parent position (.cons role info below rest)) :
    tree.Carries (Forest.topNode parent position info below) below := by
  obtain ⟨after, eq⟩ := h
  have first : tree.nodes[position]? = some (Forest.topNode parent position info below) := by
    have := congrArg (·[0]?) eq
    simpa using this.symm
  refine ⟨first, rfl, ?_⟩
  have tail := congrArg List.tail eq
  rw [List.tail_drop, Forest.nodes_cons, List.cons_append, List.tail_cons,
    List.append_assoc] at tail
  exact ⟨_, tail⟩

theorem HoldsRow.tail {role : Text} {info : NodeInfo} {below rest : Forest NodeInfo}
    (h : tree.HoldsRow parent position (.cons role info below rest)) :
    tree.HoldsRow parent (position + 1 + below.size) rest := by
  obtain ⟨after, eq⟩ := h
  refine ⟨after, ?_⟩
  have later := congrArg (List.drop (1 + below.size)) eq
  rw [List.drop_drop, ← Nat.add_assoc] at later
  rw [← later, Forest.nodes_cons, Nat.add_comm 1, List.cons_append, List.drop_succ_cons,
    List.append_assoc, List.drop_left' (Forest.nodes_length ..)]

theorem HoldsRow.below {role : Text} {info : NodeInfo} {below rest : Forest NodeInfo}
    (h : tree.HoldsRow parent position (.cons role info below rest)) :
    tree.HoldsRow position (position + 1) below :=
  h.head.row

theorem carries_root (outline : Outline) (source : Text) :
    (outline.toTree source).Carries (outline.toTree source).root outline.below :=
  ⟨rfl, rfl, List.prefix_rfl⟩

/-- Each node of a row carries what the outline has below it. -/
theorem HoldsRow.forall₂_carries {forest : Forest NodeInfo}
    (h : tree.HoldsRow parent position forest) :
    List.Forall₂ (fun node sub => node.toNodeInfo = sub.label ∧ tree.Carries node sub.below)
      (forest.nodes parent position) forest.subtrees := by
  induction forest generalizing parent position with
  | nil => exact .nil
  | cons role info below rest belowIh restIh =>
      exact .cons ⟨rfl, h.head⟩ (List.rel_append (belowIh h.below) (restIh h.tail))

/-- Top nodes carry rows that are smaller than the one they stand in. -/
theorem HoldsRow.carries_of_mem_tops {forest : Forest NodeInfo}
    (h : tree.HoldsRow parent position forest) {child : Node}
    (hc : child ∈ forest.tops parent position) :
    ∃ below, tree.Carries child below ∧ below.size < forest.size := by
  induction forest generalizing position with
  | nil => cases hc
  | cons role info below rest _ ih =>
      rw [Forest.size]
      rcases List.mem_cons.mp hc with rfl | later
      · exact ⟨below, h.head, by omega⟩
      · obtain ⟨deeper, carries, smaller⟩ := ih h.tail later
        exact ⟨deeper, carries, by omega⟩

/-- Every node of a row is on top of it or on top of the row that another one carries. -/
theorem HoldsRow.top_or_below {forest : Forest NodeInfo}
    (h : tree.HoldsRow parent position forest) {child : Node}
    (hc : child ∈ forest.nodes parent position) :
    child ∈ forest.tops parent position ∨
      ∃ node below, node ∈ forest.nodes parent position ∧ tree.Carries node below ∧
        child ∈ below.tops node.index (node.index + 1) := by
  induction forest generalizing parent position with
  | nil => cases hc
  | cons role info below rest belowIh restIh =>
      rcases List.mem_cons.mp hc with rfl | inside
      · exact .inl List.mem_cons_self
      · rcases List.mem_append.mp inside with deeper | later
        · rcases belowIh h.below deeper with top | ⟨node, under, mem, carries, top⟩
          · exact .inr ⟨_, below, List.mem_cons_self, h.head, top⟩
          · exact .inr ⟨node, under,
              List.mem_cons_of_mem _ (List.mem_append_left _ mem), carries, top⟩
        · rcases restIh h.tail later with top | ⟨node, under, mem, carries, top⟩
          · exact .inl (List.mem_cons_of_mem _ top)
          · exact .inr ⟨node, under,
              List.mem_cons_of_mem _ (List.mem_append_right _ mem), carries, top⟩

end Tree

end SketchHelp
