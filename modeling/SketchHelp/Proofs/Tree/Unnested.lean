import SketchHelp.Proofs.Tree.Outermost
import SketchHelp.Proofs.Tree.Sound
import SketchHelp.Proofs.Tree.Spelling

/-!
The node of a range in a tree whose spans may be anything. Data may put a child outside its
parent, let siblings overlap or list them out of order, and nothing checks it. The search
looks at one span at a time, and it goes on from a node only if the node covers or overlaps
the range. That holds for every node that it passes on its way down, however the spans lie,
so it holds for the path from the root to what is found. Positions grow on the way down, and
so every search ends.
-/

namespace SketchHelp.Tree

/-- The tree is made from a description or from data. -/
def IsBuilt (tree : Tree) : Prop :=
  (∃ (spec : Spec) (source : Text) (offset : Option Int),
    spec.toTree source offset = .ok tree) ∨
  ∃ (data : Value) (source : Text), Tree.load data source = .ok tree

theorem IsBuilt.exists_outline {tree : Tree} (built : tree.IsBuilt) :
    ∃ (outline : Outline) (source : Text), tree = outline.toTree source := by
  rcases built with ⟨spec, source, offset, ok⟩ | ⟨data, source, ok⟩
  · obtain ⟨_, outline, -, rfl⟩ := spec.exists_placed ok
    exact ⟨outline, source, rfl⟩
  · obtain ⟨_, _, outline, -, -, -, -, rfl⟩ := load_eq_ok_iff.mp ok
    exact ⟨outline, source, rfl⟩

/-- Every node at or above a node, the root apart, covers the range or overlaps it. -/
def IsPassable (tree : Tree) (range : Range) (node : Node) : Prop :=
  ∀ above ∈ tree.ancestors node, above ≠ tree.root →
    above.span.covers range = true ∨ above.span.overlaps range = true

/-- What may be said of the node of a range, however the spans of the tree lie. -/
structure IsFound (tree : Tree) (range : Range) (found : Node) : Prop where
  mem : found ∈ tree.nodes
  place : found = tree.root ∨ found.span.covers range = true ∨
    found.span.isCoveredBy range = true
  /-- The path to the node comes from the root, and each node on it touches the range. -/
  fromRoot : tree.root ∈ tree.ancestors found
  path : ∀ above ∈ tree.ancestors found, above ≠ found → above ≠ tree.root →
    above.span.covers range = true ∨ above.span.overlaps range = true
  /-- A node that is too large for the range is found only if no child covers the range. -/
  innermost : found ≠ tree.root → ¬ found.span.isInside range = true →
    ∀ child ∈ tree.nodes, tree.parent child = some found → ¬ child.span.covers range = true

theorem isPassable_root (tree : Tree) (hp : tree.parent tree.root = none) (range : Range) :
    tree.IsPassable range tree.root := by
  intro above ha apart
  rw [ancestors_of_no_parent hp, List.mem_singleton] at ha
  exact absurd ha apart

section

variable {tree : Tree} {range : Range} {node child : Node}

theorem IsPassable.below (passable : tree.IsPassable range node) (down : tree.TopDown)
    (mem : child ∈ tree.nodes) (hp : tree.parent child = some node)
    (touches : child.span.covers range = true ∨ child.span.overlaps range = true) :
    tree.IsPassable range child := by
  intro above ha apart
  rw [down.ancestors_of_parent mem hp] at ha
  rcases List.mem_cons.mp ha with rfl | higher
  · exact touches
  · exact passable above higher apart

end

section Outline

variable {outline : Outline} {source : Text} {range : Range} {node child : Node}
  {below : Forest NodeInfo}

/-- The children of a node are the nodes with that parent, and they carry smaller rows. -/
theorem Carries.children_yields_iff_parent (h : (outline.toTree source).Carries node below) :
    Yields ((outline.toTree source).children node) fun children => ∀ child,
      (child ∈ children ↔ child ∈ (outline.toTree source).nodes ∧
        (outline.toTree source).parent child = some node) ∧
      (child ∈ children → ∃ under, (outline.toTree source).Carries child under ∧
        under.size < below.size) := by
  refine ⟨_, h.children_eq, fun child => ?_⟩
  rw [(StableSort.sort_perm ..).mem_iff]
  refine ⟨⟨fun top => ?_, fun ⟨mem, hp⟩ => (h.mem_tops_iff_parent mem).mpr hp⟩,
    h.row.carries_of_mem_tops⟩
  exact ⟨h.mem_of_mem_tops top, h.parent_of_mem_tops top⟩

/-- What is found inside the range is found below a passable node. -/
theorem Carries.firstCovered_found (h : (outline.toTree source).Carries node below)
    (passable : (outline.toTree source).IsPassable range node) {limit : Nat}
    (enough : below.size < limit) :
    Yields ((outline.toTree source).firstCovered range limit node) fun found =>
      ∀ inner ∈ found, inner ∈ (outline.toTree source).nodes ∧
        inner.span.isCoveredBy range = true ∧
        ∃ owner, (outline.toTree source).parent inner = some owner ∧
          (outline.toTree source).IsPassable range owner := by
  have down := topDown_toTree outline source
  induction limit generalizing node below with
  | zero => omega
  | succ limit ih =>
      obtain ⟨children, ok, all⟩ := h.children_yields_iff_parent
      rw [firstCovered_succ ok]
      refine .findSomeM? fun child hc => ?_
      obtain ⟨mem, hp⟩ := (all child).1.mp hc
      obtain ⟨under, carries, smaller⟩ := (all child).2 hc
      split
      · rename_i covered
        exact .some ⟨mem, covered, node, hp, passable⟩
      split
      · rename_i overlaps
        exact ih carries (passable.below down mem hp (.inr overlaps)) (by omega)
      · exact .none

/-- A node below a passable one is found if it lies inside the range. -/
theorem IsFound.of_isInside (mem : child ∈ (outline.toTree source).nodes)
    (hp : (outline.toTree source).parent child = some node)
    (passable : (outline.toTree source).IsPassable range node)
    (place : child.span.covers range = true ∨ child.span.isCoveredBy range = true)
    (inside : child.span.isInside range = true) :
    (outline.toTree source).IsFound range child where
  mem := mem
  place := .inr place
  fromRoot := Outline.root_mem_ancestors mem
  path above ha apart notRoot := by
    rw [(topDown_toTree outline source).ancestors_of_parent mem hp] at ha
    exact passable above ((List.mem_cons.mp ha).resolve_left apart) notRoot
  innermost _ outside := absurd inside outside

theorem Carries.settle_found (h : (outline.toTree source).Carries node below)
    (passable : (outline.toTree source).IsPassable range node)
    (place : node = (outline.toTree source).root ∨ node.span.covers range = true)
    (uncovered : ∀ child ∈ (outline.toTree source).nodes,
      (outline.toTree source).parent child = some node → ¬ child.span.covers range = true) :
    Yields ((outline.toTree source).settle range node)
      ((outline.toTree source).IsFound range) := by
  have itself : (outline.toTree source).IsFound range node := {
    mem := h.mem
    place := place.imp_right .inl
    fromRoot := Outline.root_mem_ancestors h.mem
    path := fun above ha _ notRoot => passable above ha notRoot
    innermost := fun _ _ => uncovered }
  unfold settle
  split
  · exact .pure itself
  · refine .bind (h.firstCovered_found passable h.size_lt) fun found all => .pure ?_
    cases found with
    | none => exact itself
    | some inner =>
        obtain ⟨mem, covered, owner, hp, passable⟩ := all inner rfl
        exact .of_isInside mem hp passable (.inr covered) (Bool.and_eq_true_iff.mp covered).1

theorem Carries.descend_found (h : (outline.toTree source).Carries node below)
    (passable : (outline.toTree source).IsPassable range node)
    (place : node = (outline.toTree source).root ∨ node.span.covers range = true)
    {limit : Nat} (enough : below.size < limit) :
    Yields ((outline.toTree source).descend range limit node)
      ((outline.toTree source).IsFound range) := by
  induction limit generalizing node below with
  | zero => omega
  | succ limit ih =>
      obtain ⟨children, ok, all⟩ := h.children_yields_iff_parent
      cases found : children.find? (·.span.covers range) with
      | none =>
          rw [descend_of_find_eq_none ok found]
          refine h.settle_found passable place fun child mem hp => ?_
          exact List.find?_eq_none.mp found child ((all child).1.mpr ⟨mem, hp⟩)
      | some child =>
          have hc := List.mem_of_find?_eq_some found
          have covers := List.find?_some found
          obtain ⟨mem, hp⟩ := (all child).1.mp hc
          obtain ⟨under, carries, smaller⟩ := (all child).2 hc
          rw [descend_of_find_eq_some ok found]
          split
          · rename_i inside
            exact .pure (.of_isInside mem hp passable (.inl covers) inside)
          · have down := topDown_toTree outline source
            exact ih carries (passable.below down mem hp (.inl covers)) (.inr covers) (by omega)

end Outline

/-- In every tree of a description or of data, however its spans lie, every range has a
node. The node is the root, or it covers the range, or it lies inside the range and is not
empty; each node on the path to it from the root touches the range; and unless it is the
root or lies inside the range, none of its children covers the range. -/
theorem nodeAt_isFound {tree : Tree} (built : tree.IsBuilt) (range : Range) :
    Yields (tree.nodeAt range) (tree.IsFound range) := by
  obtain ⟨outline, source, rfl⟩ := built.exists_outline
  have root := carries_root outline source
  exact root.descend_found (isPassable_root _ rfl range) (.inl rfl) root.size_lt

/-- A block from `start` on, as data. -/
def blockData (start length : Nat) (children : List Value) : Value :=
  .object [("kind", .text "block"), ("start", .int start), ("end", .int (start + length)),
    ("children", .list children)]

/-- What the data of a block says about it, beside an empty source. -/
def blockInfo (start length : Nat) : NodeInfo where
  kind := .block
  span := ⟨start, start + length, Nat.le_add_right start length⟩
  text := []
  operator := .null
  resolvedType := .null
  method := none

/-- The child lies beyond its parent, and its own child sticks out of it on both sides. -/
def outlineBeyond : Outline :=
  ⟨blockInfo 0 4, .cons [] (blockInfo 6 3) (.cons [] (blockInfo 2 10) .nil .nil) .nil⟩

theorem load_beyond :
    Tree.load (blockData 0 4 [blockData 6 3 [blockData 2 10 []]]) [] =
      .ok (outlineBeyond.toTree []) := by
  refine load_eq_ok_iff.mpr ⟨_, _, outlineBeyond, rfl, ?_, rfl,
    .cons rfl ?_ rfl (.cons rfl ?_ rfl .nil .nil) .nil, rfl⟩
  all_goals exact ⟨rfl, ⟨_, rfl, rfl⟩, ⟨_, rfl, rfl⟩, rfl, rfl, rfl, rfl⟩

/-- A range that the root does not even touch is found below it. -/
theorem nodeAt_isFound_beyond :
    ∃ tree, Tree.load (blockData 0 4 [blockData 6 3 [blockData 2 10 []]]) [] = .ok tree ∧
      ∃ found, tree.nodeAt ⟨7, 8⟩ = .ok found ∧ found.index = 2 ∧
        tree.IsFound ⟨7, 8⟩ found := by
  obtain ⟨found, eq, isFound⟩ := nodeAt_isFound (.inr ⟨_, _, load_beyond⟩) ⟨7, 8⟩
  refine ⟨_, load_beyond, found, eq, ?_, isFound⟩
  obtain rfl := Except.ok.inj eq
  rfl

end SketchHelp.Tree
