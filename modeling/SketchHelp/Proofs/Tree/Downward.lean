import SketchHelp.Proofs.Tree.Rows

/-!
Walks downward in the tree of an outline. Every position in a slot names a node, so no
step fails: the children of a node are the top nodes of the row that it carries, in
source order, and the children in one slot are those of them that are in the slot.
-/

namespace SketchHelp.Tree

/-- Nodes stand where they say. -/
theorem getElem?_index {tree : Tree} {node : Node} (h : node ∈ tree.nodes) :
    tree.nodes[node.index]? = some node := by
  obtain ⟨position, found⟩ := List.mem_iff_getElem?.mp h
  rw [(tree.linked position node found).1, found]

theorem eq_of_index_eq {tree : Tree} {a b : Node} (ha : a ∈ tree.nodes)
    (hb : b ∈ tree.nodes) (h : a.index = b.index) : a = b := by
  have same : some a = some b := by rw [← getElem?_index ha, h, getElem?_index hb]
  exact Option.some.inj same

theorem node_index {tree : Tree} {node : Node} (h : node ∈ tree.nodes) :
    tree.node (node.index : Int) = .ok node := by
  rw [Tree.node, node?_natCast, getElem?_index h]

theorem mapM_eq_ok {α β : Type} {f : α → Except Fault β} {l : List α} {results : List β}
    (h : List.Forall₂ (fun a b => f a = .ok b) l results) : l.mapM f = .ok results := by
  induction h with
  | nil => rfl
  | cons first _ ih =>
      rw [List.mapM_cons, first, ih]
      rfl

/-- Nodes are found again from their positions, however those are arranged: some look-up
answers for every position and turns the arrangement of the nodes into the same one of
what is found. -/
theorem mapM_node_of_perm {tree : Tree} {nodes : List Node}
    (mem : ∀ node ∈ nodes, node ∈ tree.nodes) :
    ∃ lookUp : Int → Node,
      (nodes.map fun node => (node.index : Int)).map lookUp = nodes ∧
      ∀ positions : List Int,
        positions.Perm (nodes.map fun node => (node.index : Int)) →
          positions.mapM tree.node = .ok (positions.map lookUp) := by
  let lookUp (position : Int) : Node := (tree.node? position).getD tree.root
  have back : ∀ node ∈ nodes, lookUp (node.index : Int) = node := by
    intro node h
    show (tree.node? (node.index : Int)).getD tree.root = node
    rw [node?_natCast, getElem?_index (mem node h)]
    rfl
  refine ⟨lookUp, ?_, fun positions perm => mapM_eq_ok ?_⟩
  · rw [List.map_map]
    exact (List.map_congr_left back).trans (List.map_id' nodes)
  · refine List.forall₂_map_right_iff.mpr (List.forall₂_same.mpr fun position h => ?_)
    obtain ⟨node, hn, rfl⟩ := List.mem_map.mp (perm.mem_iff.mp h)
    rw [back node hn, node_index (mem node hn)]

/-! ### Source order -/

theorem precedes_iff {a b : Node} :
    precedes a b = true ↔
      a.span.start < b.span.start ∨ a.span.start = b.span.start ∧ a.index ≤ b.index := by
  simp [precedes]

theorem precedes_total (a b : Node) : precedes a b = true ∨ precedes b a = true := by
  rw [precedes_iff, precedes_iff]
  omega

theorem precedes_trans (a b c : Node) (hab : precedes a b = true)
    (hbc : precedes b c = true) : precedes a c = true := by
  rw [precedes_iff] at hab hbc ⊢
  omega

/-- Source order tells the nodes of a tree apart. -/
theorem precedes_antisymm {tree : Tree} {a b : Node} (ha : a ∈ tree.nodes)
    (hb : b ∈ tree.nodes) (hab : precedes a b = true) (hba : precedes b a = true) :
    a = b := by
  rw [precedes_iff] at hab hba
  exact eq_of_index_eq ha hb (by omega)

/-! ### Children -/

section Carries

variable {tree : Tree} {node : Node} {below : Forest NodeInfo}

theorem Carries.mem_of_mem_tops (h : tree.Carries node below) {child : Node}
    (hc : child ∈ below.tops node.index (node.index + 1)) : child ∈ tree.nodes := by
  obtain ⟨under, carries, -⟩ := h.row.carries_of_mem_tops hc
  exact carries.mem

theorem Carries.positions_perm (h : tree.Carries node below) :
    node.roles.positions.Perm
      ((below.tops node.index (node.index + 1)).map fun child => (child.index : Int)) := by
  rw [h.roles, ← Forest.positions_eq_map_tops]
  exact RoleMap.positions_ofPositions_perm _

/-- The slots of a node alone decide which nodes are on top of its row. -/
theorem Carries.mem_tops_iff (h : tree.Carries node below) {child : Node} :
    child ∈ below.tops node.index (node.index + 1) ↔
      child ∈ tree.nodes ∧ (child.index : Int) ∈ node.roles.positions := by
  rw [h.positions_perm.mem_iff]
  constructor
  · intro hc
    exact ⟨h.mem_of_mem_tops hc, List.mem_map.mpr ⟨child, hc, rfl⟩⟩
  · rintro ⟨mem, listed⟩
    obtain ⟨other, ho, same⟩ := List.mem_map.mp listed
    have : other = child :=
      eq_of_index_eq (h.mem_of_mem_tops ho) mem (Int.ofNat.inj same)
    exact this ▸ ho

theorem Carries.children_eq (h : tree.Carries node below) :
    tree.children node =
      .ok (StableSort.sort precedes (below.tops node.index (node.index + 1))) := by
  obtain ⟨lookUp, back, ok⟩ := mapM_node_of_perm (fun child hc => h.mem_of_mem_tops hc)
  have perm := h.positions_perm.map lookUp
  rw [back] at perm
  have sorted := StableSort.sort_perm precedes (below.tops node.index (node.index + 1))
  have mem : ∀ child ∈ StableSort.sort precedes (below.tops node.index (node.index + 1)),
      child ∈ tree.nodes := fun child hc => h.mem_of_mem_tops (sorted.mem_iff.mp hc)
  rw [children, ok _ h.positions_perm]
  refine congrArg Except.ok ?_
  exact StableSort.sort_eq_of_perm precedes precedes_total precedes_trans
    (perm.trans sorted.symm)
    (StableSort.pairwise_sort precedes precedes_total precedes_trans _)
    fun a ha b hb => precedes_antisymm (mem a ha) (mem b hb)

theorem Carries.get_roles (h : tree.Carries node below) (role : Text) :
    node.roles.get role =
      (((below.row node.index (node.index + 1)).filter (·.1 = role)).map (·.2)).map
        fun child => (child.index : Int) := by
  rw [h.roles, RoleMap.get_ofPositions, Forest.slots_eq_map_row node.index,
    List.filter_map, List.map_map, List.map_map]
  rfl

theorem Carries.childrenIn_eq (h : tree.Carries node below) (role : Text) :
    tree.childrenIn node role =
      .ok (((below.row node.index (node.index + 1)).filter (·.1 = role)).map (·.2)) := by
  have mem : ∀ child ∈ ((below.row node.index (node.index + 1)).filter
      (·.1 = role)).map (·.2), child ∈ tree.nodes := by
    intro child hc
    obtain ⟨entry, he, rfl⟩ := List.mem_map.mp hc
    exact h.mem_of_mem_tops (List.mem_map_of_mem (List.mem_of_mem_filter he))
  obtain ⟨lookUp, back, ok⟩ := mapM_node_of_perm mem
  rw [childrenIn, h.get_roles role, ok _ (.refl _), back]

theorem child_eq_head? {children : List Node} {role : Text}
    (h : tree.childrenIn node role = .ok children) :
    tree.child node role = .ok children.head? := by
  rw [childrenIn] at h
  rw [child]
  cases listed : node.roles.get role with
  | nil =>
      rw [listed] at h
      cases h
      rfl
  | cons position rest =>
      rw [listed, List.mapM_cons] at h
      show (tree.node position).map some = _
      cases first : tree.node position with
      | error fault => rw [first] at h; cases h
      | ok child =>
          cases others : rest.mapM tree.node with
          | error fault => rw [first, others] at h; cases h
          | ok later =>
              rw [first, others] at h
              cases h
              rfl

/-- The slot of a child is the one that its row has it in. -/
theorem Carries.slotOf?_index (h : tree.Carries node below) {role : Text} {child : Node}
    (hc : (role, child) ∈ below.row node.index (node.index + 1)) :
    node.roles.slotOf? child.index = some role := by
  rw [h.roles]
  refine RoleMap.slotOf?_ofPositions (Forest.nodup_positions ..) ?_
  rw [Forest.slots_eq_map_row node.index]
  exact List.mem_map.mpr ⟨(role, child), hc, rfl⟩

end Carries

end SketchHelp.Tree
