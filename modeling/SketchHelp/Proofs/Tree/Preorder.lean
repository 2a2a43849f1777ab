import SketchHelp.Proofs.Tree.Upward

/-!
The order of nodes in the arena of an outline. Parents stand before their children, the
slots of a node list its children and each of them once, and the descendants of a node are
the nodes that come right after it, up to some number of them. That number is the size of
the row that the node carries.
-/

namespace SketchHelp.Tree

/-- Nodes stand in preorder, and slots and parents agree. -/
structure IsPreorder (tree : Tree) : Prop where
  topDown : tree.TopDown
  /-- The slots of a node list the nodes that name it as their parent, each of them once. -/
  slots : ∀ node ∈ tree.nodes, node.roles.positions.Nodup ∧
    ∀ position, position ∈ node.roles.positions ↔
      ∃ child ∈ tree.nodes, (child.index : Int) = position ∧ child.parent = some node.index
  /-- The descendants of a node stand right after it. -/
  descendants : ∀ node ∈ tree.nodes, ∃ count, ∀ other ∈ tree.nodes,
    (other ≠ node ∧ node ∈ tree.ancestors other) ↔
      node.index < other.index ∧ other.index ≤ node.index + count

section

variable {tree : Tree} {parent position : Nat} {forest : Forest NodeInfo}

/-- The nodes of a row are those that stand in its stretch. -/
theorem HoldsRow.mem_nodes_iff (h : tree.HoldsRow parent position forest) {node : Node}
    (mem : node ∈ tree.nodes) :
    node ∈ forest.nodes parent position ↔
      position ≤ node.index ∧ node.index < position + forest.size := by
  refine ⟨Forest.le_index_of_mem_nodes, fun ⟨low, high⟩ => ?_⟩
  obtain ⟨after, eq⟩ := h
  have found : (tree.nodes.drop position)[node.index - position]? = some node := by
    rw [List.getElem?_drop, Nat.add_sub_cancel' low, getElem?_index mem]
  have inside : node.index - position < (forest.nodes parent position).length := by
    rw [Forest.nodes_length]
    omega
  rw [← eq, List.getElem?_append_left inside] at found
  exact List.mem_of_getElem? found

/-- What a node of a row carries ends where the row does, or before. -/
theorem HoldsRow.exists_carries_within (h : tree.HoldsRow parent position forest) {node : Node}
    (mem : node ∈ forest.nodes parent position) :
    ∃ below, tree.Carries node below ∧
      node.index + 1 + below.size ≤ position + forest.size := by
  induction forest generalizing parent position with
  | nil => cases mem
  | cons role info below rest belowIh restIh =>
      rw [Forest.size]
      rcases List.mem_cons.mp mem with rfl | inside
      · exact ⟨below, h.head, by show position + 1 + below.size ≤ _; omega⟩
      · rcases List.mem_append.mp inside with deeper | later
        · obtain ⟨under, carries, bound⟩ := belowIh h.below deeper
          exact ⟨under, carries, by omega⟩
        · obtain ⟨under, carries, bound⟩ := restIh h.tail later
          exact ⟨under, carries, by omega⟩

end

variable {outline : Outline} {source : Text}

/-- Children of a node in a row are in the row. -/
theorem HoldsRow.mem_of_parent_mem {parent position : Nat} {forest : Forest NodeInfo}
    (h : (outline.toTree source).HoldsRow parent position forest) {node above : Node}
    (mem : node ∈ (outline.toTree source).nodes)
    (hp : (outline.toTree source).parent node = some above)
    (inside : above ∈ forest.nodes parent position) :
    node ∈ forest.nodes parent position := by
  obtain ⟨under, carries, bound⟩ := h.exists_carries_within inside
  have top := (carries.mem_tops_iff_parent mem).mpr hp
  have low := (h.mem_nodes_iff carries.mem).mp inside
  have here := Forest.le_index_of_mem_nodes ((Forest.tops_sublist_nodes ..).mem top)
  exact (h.mem_nodes_iff mem).mpr (by omega)

/-- A row holds all that lies below the node that carries it. -/
theorem Carries.mem_nodes_iff {node : Node} {below : Forest NodeInfo}
    (h : (outline.toTree source).Carries node below) {other : Node}
    (mem : other ∈ (outline.toTree source).nodes) :
    other ∈ below.nodes node.index (node.index + 1) ↔
      other ≠ node ∧ node ∈ (outline.toTree source).ancestors other := by
  have down := topDown_toTree outline source
  constructor
  · intro inside
    refine ⟨?_, h.row.mem_ancestors down h.mem inside⟩
    rintro rfl
    have := Forest.le_index_of_mem_nodes inside
    omega
  · rintro ⟨apart, above⟩
    induction position : other.index using Nat.strongRecOn generalizing other with
    | _ position ih =>
        rcases (down.mem_ancestors_iff mem).mp above with same | ⟨parent, hp, higher⟩
        · exact absurd same.symm apart
        · have parentMem := (parent_eq_some_iff.mp hp).1
          by_cases reached : parent = node
          · subst reached
            exact (Forest.tops_sublist_nodes ..).mem ((h.mem_tops_iff_parent mem).mpr hp)
          · have lower := down.parent_index_lt mem hp
            have inside := ih parent.index (by omega) parentMem reached higher rfl
            exact h.row.mem_of_parent_mem mem hp inside

theorem Carries.nodup_positions {tree : Tree} {node : Node} {below : Forest NodeInfo}
    (h : tree.Carries node below) : node.roles.positions.Nodup := by
  refine h.positions_perm.nodup_iff.mpr ?_
  rw [← Forest.positions_eq_map_tops]
  exact Forest.nodup_positions ..

theorem isPreorder_toTree (outline : Outline) (source : Text) :
    (outline.toTree source).IsPreorder where
  topDown := topDown_toTree outline source
  slots := by
    intro node mem
    obtain ⟨below, carries⟩ := carries_of_mem mem
    refine ⟨carries.nodup_positions, fun position => ?_⟩
    rw [carries.positions_perm.mem_iff, List.mem_map]
    constructor
    · rintro ⟨child, top, same⟩
      have hp := carries.parent_of_mem_tops top
      exact ⟨child, carries.mem_of_mem_tops top, same, (parent_eq_some_iff.mp hp).2⟩
    · rintro ⟨child, childMem, same, hp⟩
      have parent := parent_eq_some_iff.mpr ⟨mem, hp⟩
      exact ⟨child, (carries.mem_tops_iff_parent childMem).mpr parent, same⟩
  descendants := by
    intro node mem
    obtain ⟨below, carries⟩ := carries_of_mem mem
    refine ⟨below.size, fun other otherMem => ?_⟩
    rw [← carries.mem_nodes_iff otherMem, carries.row.mem_nodes_iff otherMem]
    omega

end SketchHelp.Tree
