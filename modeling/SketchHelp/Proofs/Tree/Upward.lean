import SketchHelp.Proofs.Tree.Downward

/-!
Walks upward in the tree of an outline. Parents stand before their children, so a walk
is never cut off: the ancestors of a node are the node itself and the ancestors of its
parent. The parent of a node is the one whose row the node is on top of.
-/

namespace SketchHelp.Tree

/-- Parents stand before their children. -/
def TopDown (tree : Tree) : Prop :=
  ∀ node ∈ tree.nodes, ∀ parent, node.parent = some parent → parent < node.index

/-- How many nodes there are from the root down to a node. -/
def depth (tree : Tree) (node : Node) : Nat :=
  (tree.ancestors node).length

theorem topDown_toTree (outline : Outline) (source : Text) :
    (outline.toTree source).TopDown := by
  intro node h parent hp
  rcases List.mem_cons.mp h with rfl | deeper
  · cases hp
  · obtain ⟨k, hk⟩ := List.mem_iff_getElem?.mp deeper
    obtain ⟨index, p, hp', before⟩ := Forest.getElem?_nodes (by omega) hk
    rw [hp] at hp'
    cases hp'
    omega

section

variable {tree : Tree}

theorem index_lt_size {node : Node} (h : node ∈ tree.nodes) : node.index < tree.size :=
  (List.getElem?_eq_some_iff.mp (getElem?_index h)).1

theorem parent_eq_some_iff {node parent : Node} :
    tree.parent node = some parent ↔
      parent ∈ tree.nodes ∧ node.parent = some parent.index := by
  rw [Tree.parent, Option.bind_eq_some_iff]
  constructor
  · rintro ⟨position, hp, found⟩
    rw [hp, (tree.linked position parent found).1]
    exact ⟨List.mem_of_getElem? found, rfl⟩
  · rintro ⟨mem, hp⟩
    exact ⟨parent.index, hp, getElem?_index mem⟩

theorem mem_of_parent_eq {node parent : Node} (h : tree.parent node = some parent) :
    parent ∈ tree.nodes :=
  (parent_eq_some_iff.mp h).1

theorem mem_of_mem_climb {node : Node} (mem : node ∈ tree.nodes) {limit : Nat}
    {above : Node} (h : above ∈ tree.climb node limit) : above ∈ tree.nodes := by
  induction limit generalizing node with
  | zero => cases h
  | succ limit ih =>
      rw [climb] at h
      rcases List.mem_cons.mp h with rfl | higher
      · exact mem
      · cases hp : tree.parent node with
        | none =>
            rw [hp] at higher
            cases higher
        | some parent =>
            rw [hp] at higher
            exact ih (mem_of_parent_eq hp) higher

theorem mem_of_mem_ancestors {node : Node} (mem : node ∈ tree.nodes) {above : Node}
    (h : above ∈ tree.ancestors node) : above ∈ tree.nodes :=
  mem_of_mem_climb mem h

theorem root_mem (tree : Tree) : tree.root ∈ tree.nodes :=
  List.head_mem tree.nonempty

theorem root_index (tree : Tree) : tree.root.index = 0 := by
  have first : tree.nodes[0]? = some tree.root := by
    rw [← List.head?_eq_getElem?]
    exact List.head?_eq_some_head tree.nonempty
  exact (tree.linked 0 tree.root first).1

theorem TopDown.parent_index_lt (down : tree.TopDown) {node parent : Node}
    (h : node ∈ tree.nodes) (hp : tree.parent node = some parent) :
    parent.index < node.index :=
  down node h _ (parent_eq_some_iff.mp hp).2

/-- Walks long enough to reach the root are the same. -/
theorem TopDown.climb_congr (down : tree.TopDown) {node : Node} (h : node ∈ tree.nodes)
    {a b : Nat} (ha : node.index < a) (hb : node.index < b) :
    tree.climb node a = tree.climb node b := by
  -- Each step upward leaves an index that is smaller than what is left of either limit.
  induction a generalizing node b with
  | zero => omega
  | succ a ih =>
      cases b with
      | zero => omega
      | succ b =>
          rw [climb, climb]
          cases hp : tree.parent node with
          | none => rfl
          | some parent =>
              have lower := down.parent_index_lt h hp
              have longA : parent.index < a := by omega
              have longB : parent.index < b := by omega
              show node :: tree.climb parent a = node :: tree.climb parent b
              rw [ih (parent_eq_some_iff.mp hp).1 longA longB]

theorem TopDown.ancestors_of_parent (down : tree.TopDown) {node parent : Node}
    (h : node ∈ tree.nodes) (hp : tree.parent node = some parent) :
    tree.ancestors node = node :: tree.ancestors parent := by
  have lower := down.parent_index_lt h hp
  have bound : parent.index < tree.size := Nat.lt_trans lower (index_lt_size h)
  have longer : parent.index < tree.size + 1 := Nat.lt_succ_of_lt bound
  rw [ancestors, climb, hp]
  show node :: tree.climb parent tree.size = node :: tree.climb parent (tree.size + 1)
  rw [down.climb_congr (parent_eq_some_iff.mp hp).1 bound longer]

theorem ancestors_of_no_parent {node : Node} (hp : tree.parent node = none) :
    tree.ancestors node = [node] := by
  rw [ancestors, climb, hp]

theorem mem_ancestors_self (tree : Tree) (node : Node) : node ∈ tree.ancestors node := by
  rw [ancestors, climb]
  exact List.mem_cons_self

/-- What is at or above a node is the node itself or at or above its parent. -/
theorem TopDown.mem_ancestors_iff (down : tree.TopDown) {node above : Node}
    (h : node ∈ tree.nodes) :
    above ∈ tree.ancestors node ↔
      above = node ∨ ∃ parent, tree.parent node = some parent ∧
        above ∈ tree.ancestors parent := by
  cases hp : tree.parent node with
  | none => simp [ancestors_of_no_parent hp]
  | some parent => simp [down.ancestors_of_parent h hp]

/-- The walk from an ancestor is the end of the walk from the node. -/
theorem TopDown.ancestors_suffix (down : tree.TopDown) {node above : Node}
    (h : node ∈ tree.nodes) (ha : above ∈ tree.ancestors node) :
    tree.ancestors above <:+ tree.ancestors node := by
  induction position : node.index using Nat.strongRecOn generalizing node with
  | _ position ih =>
      rcases (down.mem_ancestors_iff h).mp ha with rfl | ⟨parent, hp, higher⟩
      · exact List.suffix_rfl
      · have lower := down.parent_index_lt h hp
        have tail := ih parent.index (by omega) (parent_eq_some_iff.mp hp).1 higher rfl
        rw [down.ancestors_of_parent h hp]
        exact tail.trans (List.suffix_cons ..)

theorem TopDown.ancestors_trans (down : tree.TopDown) {node above higher : Node}
    (h : node ∈ tree.nodes) (ha : above ∈ tree.ancestors node)
    (hh : higher ∈ tree.ancestors above) : higher ∈ tree.ancestors node :=
  (down.ancestors_suffix h ha).subset hh

/-- Ancestors are less deep. -/
theorem TopDown.depth_lt (down : tree.TopDown) {node above : Node} (h : node ∈ tree.nodes)
    (ha : above ∈ tree.ancestors node) (apart : above ≠ node) :
    tree.depth above < tree.depth node := by
  rcases (down.mem_ancestors_iff h).mp ha with same | ⟨parent, hp, higher⟩
  · exact absurd same apart
  · have shorter :=
      (down.ancestors_suffix (parent_eq_some_iff.mp hp).1 higher).length_le
    rw [depth, depth, down.ancestors_of_parent h hp, List.length_cons]
    omega

/-! ### Rows -/

theorem Carries.parent_of_mem_tops {node : Node} {below : Forest NodeInfo}
    (h : tree.Carries node below) {child : Node}
    (hc : child ∈ below.tops node.index (node.index + 1)) :
    tree.parent child = some node :=
  parent_eq_some_iff.mpr ⟨h.mem, Forest.parent_of_mem_tops hc⟩

/-- The children in a slot are nodes with that parent. -/
theorem Carries.of_mem_childrenIn {node : Node} {below : Forest NodeInfo}
    (h : tree.Carries node below) {role : Text} {children : List Node}
    (eq : tree.childrenIn node role = .ok children) {child : Node} (hc : child ∈ children) :
    child ∈ tree.nodes ∧ tree.parent child = some node := by
  obtain rfl := Except.ok.inj ((h.childrenIn_eq role).symm.trans eq)
  obtain ⟨entry, mem, rfl⟩ := List.mem_map.mp hc
  have top : entry.2 ∈ below.tops node.index (node.index + 1) :=
    List.mem_map_of_mem (List.mem_of_mem_filter mem)
  exact ⟨h.mem_of_mem_tops top, h.parent_of_mem_tops top⟩

/-- A row is smaller than the tree. -/
theorem Carries.size_lt {node : Node} {below : Forest NodeInfo}
    (h : tree.Carries node below) : below.size < tree.size := by
  have bound := h.row.length_le
  have here := index_lt_size h.mem
  rw [Forest.nodes_length, List.length_drop] at bound
  rw [size] at here ⊢
  omega

/-- Everything in a row lies below the node that carries the row. -/
theorem HoldsRow.mem_ancestors {owner : Node} {position : Nat}
    {forest : Forest NodeInfo} (down : tree.TopDown) (ho : owner ∈ tree.nodes)
    (h : tree.HoldsRow owner.index position forest) {node : Node}
    (hn : node ∈ forest.nodes owner.index position) : owner ∈ tree.ancestors node := by
  induction forest generalizing owner position with
  | nil => cases hn
  | cons role info below rest belowIh restIh =>
      have top := h.head
      have topParent : tree.parent (Forest.topNode owner.index position info below) =
          some owner := parent_eq_some_iff.mpr ⟨ho, rfl⟩
      have above : owner ∈
          tree.ancestors (Forest.topNode owner.index position info below) := by
        rw [down.ancestors_of_parent top.mem topParent]
        exact List.mem_cons_of_mem _ (mem_ancestors_self tree owner)
      rcases List.mem_cons.mp hn with rfl | inside
      · exact above
      · rcases List.mem_append.mp inside with deeper | later
        · have mem : node ∈ tree.nodes :=
            List.mem_of_mem_drop (h.below.subset deeper)
          exact down.ancestors_trans mem (belowIh top.mem h.below deeper) above
        · exact restIh ho h.tail later

end

section Outline

variable {outline : Outline} {source : Text}

theorem mem_toTree_iff {node : Node} :
    node ∈ (outline.toTree source).nodes ↔
      node = (outline.toTree source).root ∨ node ∈ outline.below.nodes 0 1 :=
  List.mem_cons

theorem carries_of_mem {node : Node} (h : node ∈ (outline.toTree source).nodes) :
    ∃ below, (outline.toTree source).Carries node below := by
  have root := carries_root outline source
  rcases mem_toTree_iff.mp h with rfl | deeper
  · exact ⟨_, root⟩
  · obtain ⟨k, hk⟩ := List.mem_iff_getElem?.mp deeper
    obtain ⟨bound, rfl⟩ := List.getElem?_eq_some_iff.mp hk
    have all := List.forall₂_iff_get.mp root.row.forall₂_carries
    exact ⟨_, (all.2 k bound (all.1 ▸ bound)).2⟩

/-- The nodes with a given parent are the top nodes of the row that it carries. -/
theorem Carries.mem_tops_iff_parent {node : Node} {below : Forest NodeInfo}
    (h : (outline.toTree source).Carries node below) {child : Node}
    (hc : child ∈ (outline.toTree source).nodes) :
    child ∈ below.tops node.index (node.index + 1) ↔
      (outline.toTree source).parent child = some node := by
  refine ⟨h.parent_of_mem_tops, fun hp => ?_⟩
  have root := carries_root outline source
  have owned : ∃ owner under, (outline.toTree source).Carries owner under ∧
      child ∈ under.tops owner.index (owner.index + 1) := by
    rcases mem_toTree_iff.mp hc with rfl | deeper
    · cases hp
    · rcases root.row.top_or_below deeper with top | ⟨owner, under, -, carries, top⟩
      · exact ⟨_, _, root, top⟩
      · exact ⟨owner, under, carries, top⟩
  obtain ⟨owner, under, carries, top⟩ := owned
  have same : owner = node := by
    have := carries.parent_of_mem_tops top
    rw [hp] at this
    exact (Option.some.inj this).symm
  subst same
  exact h.mem_tops_iff.mpr (carries.mem_tops_iff.mp top)

end Outline

end SketchHelp.Tree
