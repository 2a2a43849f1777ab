import SketchHelp.Proofs.Tree.Upward

/-!
Outlines whose spans are nested. A row fits between two offsets if its trees follow each
other between them without overlapping, and what hangs below a node fits into the node's
span. Then preorder is source order: of two nodes the earlier one is an ancestor of the
later one or ends before it starts, and children are met in the order of their row.
-/

namespace SketchHelp

/-- The trees of a row lie between two offsets, one after the other, and so does what
hangs below each of them in its span. -/
def Forest.Fits (low high : Nat) : Forest NodeInfo → Prop
  | nil => True
  | cons _ info below rest =>
    low ≤ info.span.start ∧ info.span.stop ≤ high ∧
      below.Fits info.span.start info.span.stop ∧ rest.Fits info.span.stop high

def Outline.Fits (outline : Outline) : Prop :=
  outline.below.Fits outline.label.span.start outline.label.span.stop

namespace Forest

theorem Fits.bounds {low high : Nat} {forest : Forest NodeInfo} (fits : forest.Fits low high)
    {parent position : Nat} {node : Node} (h : node ∈ forest.nodes parent position) :
    low ≤ node.span.start ∧ node.span.stop ≤ high := by
  induction forest generalizing low high parent position with
  | nil => cases h
  | cons role info below rest belowIh restIh =>
      obtain ⟨start, stop, inner, later⟩ := fits
      have ordered := info.span.start_le_stop
      rcases List.mem_cons.mp h with rfl | inside
      · exact ⟨start, stop⟩
      · rcases List.mem_append.mp inside with deep | right
        · have := belowIh inner deep
          omega
        · have := restIh later right
          omega

theorem Fits.pairwise_tops {low high : Nat} {forest : Forest NodeInfo}
    (fits : forest.Fits low high) (parent position : Nat) :
    (forest.tops parent position).Pairwise fun a b => a.span.stop ≤ b.span.start := by
  induction forest generalizing low position with
  | nil => exact List.Pairwise.nil
  | cons role info below rest _ ih =>
      obtain ⟨start, stop, inner, later⟩ := fits
      refine List.pairwise_cons.mpr ⟨fun child hc => ?_, ih later _⟩
      exact (later.bounds ((tops_sublist_nodes ..).mem hc)).1

end Forest

namespace Tree

variable {tree : Tree}

/-- Children stand in the order of the row, which is their order in the source. -/
theorem Carries.children_eq_tops {node : Node} {below : Forest NodeInfo}
    (h : tree.Carries node below) {low high : Nat} (fits : below.Fits low high) :
    tree.children node = .ok (below.tops node.index (node.index + 1)) := by
  have order : (below.tops node.index (node.index + 1)).Pairwise
      (fun a b => precedes a b = true) := by
    have positions := (Forest.pairwise_index_nodes node.index (node.index + 1) below).sublist
      (Forest.tops_sublist_nodes ..)
    refine ((fits.pairwise_tops node.index (node.index + 1)).and positions).imp ?_
    rintro a b ⟨apart, before⟩
    have ordered := a.span.start_le_stop
    rw [precedes_iff]
    omega
  rw [h.children_eq]
  refine congrArg Except.ok ?_
  refine StableSort.sort_eq_of_perm precedes precedes_total precedes_trans (.refl _) order ?_
  intro a ha b hb
  exact precedes_antisymm (h.mem_of_mem_tops ha) (h.mem_of_mem_tops hb)

/-- What a node of a fitting row carries fits into the node. -/
theorem HoldsRow.exists_fits {parent position : Nat} {forest : Forest NodeInfo}
    (h : tree.HoldsRow parent position forest) {low high : Nat} (fits : forest.Fits low high)
    {node : Node} (hn : node ∈ forest.nodes parent position) :
    ∃ below, tree.Carries node below ∧ below.Fits node.span.start node.span.stop := by
  induction forest generalizing low high parent position with
  | nil => cases hn
  | cons role info below rest belowIh restIh =>
      obtain ⟨start, stop, inner, later⟩ := fits
      rcases List.mem_cons.mp hn with rfl | inside
      · exact ⟨below, h.head, inner⟩
      · rcases List.mem_append.mp inside with deep | right
        · exact belowIh h.below inner deep
        · exact restIh h.tail later right

/-- Of two nodes in a row the earlier is above the later or ends before it starts. -/
theorem HoldsRow.pairwise_nested {owner : Node} {position : Nat} {forest : Forest NodeInfo}
    (down : tree.TopDown) (h : tree.HoldsRow owner.index position forest)
    {low high : Nat} (fits : forest.Fits low high) :
    (forest.nodes owner.index position).Pairwise fun a b =>
      a ∈ tree.ancestors b ∨ a.span.stop ≤ b.span.start := by
  induction forest generalizing owner low high position with
  | nil => exact List.Pairwise.nil
  | cons role info below rest belowIh restIh =>
      obtain ⟨start, stop, inner, later⟩ := fits
      have top := h.head
      rw [Forest.nodes_cons, List.pairwise_cons, List.pairwise_append]
      -- The top node is above its own row, and everything there ends before the rest.
      refine ⟨fun node hn => ?_, belowIh top.row inner, restIh h.tail later, ?_⟩
      · rcases List.mem_append.mp hn with deep | right
        · exact .inl (HoldsRow.mem_ancestors down top.mem top.row deep)
        · exact .inr (later.bounds right).1
      · intro a ha b hb
        have ends := (inner.bounds ha).2
        have starts := (later.bounds hb).1
        exact .inr (Nat.le_trans ends starts)

end Tree

namespace Outline

variable {outline : Outline} {source : Text}

theorem Fits.exists_carries (fits : outline.Fits) {node : Node}
    (h : node ∈ (outline.toTree source).nodes) :
    ∃ below, (outline.toTree source).Carries node below ∧
      below.Fits node.span.start node.span.stop := by
  have root := Tree.carries_root outline source
  rcases Tree.mem_toTree_iff.mp h with rfl | deep
  · exact ⟨outline.below, root, fits⟩
  · exact root.row.exists_fits fits deep

/-- Preorder is source order. -/
theorem Fits.nested (fits : outline.Fits) {a b : Node}
    (ha : a ∈ (outline.toTree source).nodes) (hb : b ∈ (outline.toTree source).nodes)
    (before : a.index < b.index) :
    a ∈ (outline.toTree source).ancestors b ∨ a.span.stop ≤ b.span.start := by
  have root := Tree.carries_root outline source
  have down := Tree.topDown_toTree outline source
  have all : (outline.toTree source).nodes.Pairwise fun a b =>
      a ∈ (outline.toTree source).ancestors b ∨ a.span.stop ≤ b.span.start := by
    refine List.pairwise_cons.mpr ⟨fun node deep => ?_, ?_⟩
    · exact .inl (Tree.HoldsRow.mem_ancestors down root.mem root.row deep)
    · exact root.row.pairwise_nested down fits
  have first := Tree.getElem?_index ha
  have second := Tree.getElem?_index hb
  obtain ⟨boundA, hA⟩ := List.getElem?_eq_some_iff.mp first
  obtain ⟨boundB, hB⟩ := List.getElem?_eq_some_iff.mp second
  have related := List.pairwise_iff_getElem.mp all a.index b.index boundA boundB before
  rwa [hA, hB] at related

/-- A child lies inside its parent. -/
theorem Fits.inside_parent (fits : outline.Fits) {node parent : Node}
    (h : node ∈ (outline.toTree source).nodes)
    (hp : (outline.toTree source).parent node = some parent) :
    parent.span.start ≤ node.span.start ∧ node.span.stop ≤ parent.span.stop := by
  obtain ⟨below, carries, inner⟩ :=
    fits.exists_carries (Tree.parent_eq_some_iff.mp hp).1
  have top := (carries.mem_tops_iff_parent h).mpr hp
  exact inner.bounds ((Forest.tops_sublist_nodes ..).mem top)

end Outline

end SketchHelp
