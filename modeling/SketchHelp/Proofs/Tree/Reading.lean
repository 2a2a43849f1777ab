import SketchHelp.Proofs.Tree.Placement

/-!
The description of a tree, read back off its arena. A node is described by what it says
about itself and by its children in source order, each with the slot that lists it. The
main statement says that the tree of a description represents it exactly: nodes come in
preorder, stand where their texts are, lie inside their parents and beside their
siblings, and the description read off the tree is the one that it was made from.
-/

namespace SketchHelp

namespace Forest

variable {α : Type}

/-- The trees in a row with the slots that they are in. -/
def trees : Forest α → List (Text × Rose α)
  | nil => []
  | cons role label below rest => (role, ⟨label, below⟩) :: rest.trees

def ofTrees : List (Text × Rose α) → Forest α
  | [] => nil
  | (role, tree) :: rest => cons role tree.label tree.below (ofTrees rest)

@[simp] theorem ofTrees_trees (forest : Forest α) : ofTrees forest.trees = forest := by
  induction forest with
  | nil => rfl
  | cons role label below rest _ ih => rw [trees, ofTrees, ih]

theorem size_lt_of_mem_trees {forest : Forest α} {entry : Text × Rose α}
    (h : entry ∈ forest.trees) : entry.2.below.size < forest.size := by
  induction forest with
  | nil => cases h
  | cons role label below rest _ ih =>
      rw [size]
      rcases List.mem_cons.mp h with rfl | later
      · show below.size < _
        omega
      · have := ih later
        omega

end Forest

/-- Every part of a description, in preorder. -/
def Rose.subtrees {α : Type} (rose : Rose α) : List (Rose α) :=
  rose :: rose.below.subtrees

/-- The texts that a description has in one slot, in order. -/
def Spec.textsIn (spec : Spec) (role : Role) : List Text :=
  (spec.below.trees.filter (·.1 = role.toText)).map (·.2.label.text)

namespace Tree

/-! ### Reading -/

/-- An annotation that is a text or absent. -/
def annotation : Value → Except Fault (Option Text)
  | .null => .ok none
  | .text t => .ok (some t)
  | _ => .error .notText

/-- What a node says about itself, its place apart. -/
def describe (node : Node) : Except Fault SpecInfo := do
  let operator ← annotation node.operator
  let resolvedType ← annotation node.resolvedType
  return ⟨node.kind, node.text, operator, resolvedType, node.method⟩

/-- The description of a node and of at most `limit` levels from it downward. -/
def specWithin (tree : Tree) : (limit : Nat) → Node → Except Fault Spec
  | 0, _ => .error .endlessSearch
  | limit + 1, node => do
    let label ← describe node
    let children ← tree.children node
    let entries ← children.mapM fun child => do
      let spec ← tree.specWithin limit child
      return ((node.roles.slotOf? child.index).getD [], spec)
    return ⟨label, Forest.ofTrees entries⟩

/-- The description of a node and everything below it. -/
def specAt (tree : Tree) (node : Node) : Except Fault Spec :=
  tree.specWithin tree.size node

theorem annotation_ofText? (t : Option Text) : annotation (.ofText? t) = .ok t := by
  cases t <;> rfl

theorem describe_startAt {node : Node} {info : SpecInfo} {start : Nat}
    (h : node.toNodeInfo = info.startAt start) : describe node = .ok info := by
  rw [describe, h, SpecInfo.startAt, annotation_ofText?, annotation_ofText?]
  rfl

/-! ### What the nodes stand for -/

/-- The node and all below it are a placement of the description. -/
def Depicts (tree : Tree) (source : Text) (node : Node) (spec : Spec) : Prop :=
  ∃ start outline, spec.Placed source start outline ∧
    node.toNodeInfo = outline.label ∧ tree.Carries node outline.below

end Tree

namespace Forest

theorem Placed.size_eq {source : Text} {low high : Nat} {forest : Forest SpecInfo}
    {placed : Forest NodeInfo} (h : forest.Placed source low high placed) :
    placed.size = forest.size := by
  induction h with
  | nil => rfl
  | cons _ _ _ _ _ belowIh restIh => rw [size, size, belowIh, restIh]

variable {tree : Tree} {source : Text} {parent position low high : Nat}
  {forest : Forest SpecInfo} {placed : Forest NodeInfo}

theorem Placed.forall₂_row (h : forest.Placed source low high placed)
    (row : tree.HoldsRow parent position placed) :
    List.Forall₂ (fun entry described =>
        entry.1 = described.1 ∧ tree.Depicts source entry.2 described.2)
      (placed.row parent position) forest.trees := by
  induction h generalizing position with
  | nil => exact .nil
  | cons _ _ text inner _ _ restIh =>
      exact .cons ⟨rfl, _, ⟨_, _⟩, ⟨rfl, text, inner⟩, rfl, row.head⟩ (restIh row.tail)

theorem Placed.forall₂_nodes (h : forest.Placed source low high placed)
    (row : tree.HoldsRow parent position placed) :
    List.Forall₂ (tree.Depicts source) (placed.nodes parent position) forest.subtrees := by
  induction h generalizing parent position with
  | nil => exact .nil
  | cons _ _ text inner _ belowIh restIh =>
      exact .cons ⟨_, ⟨_, _⟩, ⟨rfl, text, inner⟩, rfl, row.head⟩
        (List.rel_append (belowIh row.below) (restIh row.tail))

end Forest

namespace Tree

variable {tree : Tree} {source : Text} {node : Node} {spec : Spec}

theorem Depicts.text_eq (h : tree.Depicts source node spec) :
    source.slice node.span.start node.span.stop = node.text := by
  obtain ⟨start, outline, placed, info, -⟩ := h
  rw [info, placed.label]
  exact placed.text

theorem Depicts.text (h : tree.Depicts source node spec) : node.text = spec.label.text := by
  obtain ⟨start, outline, placed, info, -⟩ := h
  rw [info, placed.label]
  rfl

/-- The children in a slot are the parts that the description has in it, in source order. -/
theorem Depicts.exists_childrenIn (h : tree.Depicts source node spec) (role : Role) :
    ∃ children, tree.childrenIn node role.toText = .ok children ∧
      children.map (·.text) = spec.textsIn role ∧
      children.Pairwise fun a b => a.span.stop ≤ b.span.start := by
  obtain ⟨start, outline, placed, -, carries⟩ := h
  refine ⟨_, carries.childrenIn_eq role.toText, ?_, ?_⟩
  · have row := placed.below.forall₂_row carries.row
    have slot := List.rel_filter (p := (·.1 = role.toText)) (q := (·.1 = role.toText))
      (fun entry described related => by simp [related.1]) row
    rw [Spec.textsIn, List.map_map, ← List.forall₂_eq_eq_eq]
    exact List.forall₂_map_left_iff.mpr
      (List.forall₂_map_right_iff.mpr (slot.imp fun _ _ related => related.2.text))
  · exact (placed.below.fits.pairwise_tops ..).sublist (List.filter_sublist.map _)

/-- A node that stands for a description is read as that description. -/
theorem Depicts.specWithin_eq (h : tree.Depicts source node spec) {limit : Nat}
    (enough : spec.below.size < limit) : tree.specWithin limit node = .ok spec := by
  -- The limit bounds how much of the description is left below the node.
  induction limit generalizing node spec with
  | zero => omega
  | succ limit ih =>
      obtain ⟨start, outline, placed, info, carries⟩ := h
      have described : describe node = .ok spec.label :=
        describe_startAt (info.trans placed.label)
      have children := carries.children_eq_tops placed.below.fits
      have entries : (outline.below.tops node.index (node.index + 1)).mapM (fun child => do
          let spec ← tree.specWithin limit child
          return ((node.roles.slotOf? child.index).getD [], spec)) =
            .ok spec.below.trees := by
        refine mapM_eq_ok (List.forall₂_map_left_iff.mpr ?_)
        -- The row pairs every child with the part that it stands for.
        have row := placed.below.forall₂_row carries.row
        refine List.forall₂_iff_zip.mpr ⟨row.length_eq, fun {entry part} paired => ?_⟩
        obtain ⟨role, depicts⟩ := (List.forall₂_iff_zip.mp row).2 paired
        obtain ⟨entryMem, partMem⟩ := List.of_mem_zip paired
        have slot : node.roles.slotOf? entry.2.index = some entry.1 :=
          carries.slotOf?_index entryMem
        have smaller := Forest.size_lt_of_mem_trees partMem
        have partEnough : part.2.below.size < limit := by omega
        rw [ih depicts partEnough, slot, role]
        rfl
      rw [specWithin, described, children]
      show ((outline.below.tops node.index (node.index + 1)).mapM (fun child => do
          let spec ← tree.specWithin limit child
          return ((node.roles.slotOf? child.index).getD [], spec)) >>= fun entries =>
            (return ⟨spec.label, Forest.ofTrees entries⟩ : Except Fault Spec)) = _
      rw [entries]
      show Except.ok (⟨spec.label, Forest.ofTrees spec.below.trees⟩ : Spec) = _
      rw [Forest.ofTrees_trees]

theorem Depicts.specAt_eq (h : tree.Depicts source node spec) :
    tree.specAt node = .ok spec := by
  refine h.specWithin_eq ?_
  obtain ⟨start, outline, placed, -, carries⟩ := h
  rw [← placed.below.size_eq]
  exact carries.size_lt

/-- What a tree that is made from a description says about it. -/
structure Represents (tree : Tree) (source : Text) (spec : Spec) : Prop where
  /-- There is one node for each part of the description, and they come in preorder. -/
  preorder : tree.nodes.mapM tree.specAt = .ok spec.subtrees
  text : ∀ node ∈ tree.nodes,
    source.slice node.span.start node.span.stop = node.text
  inside : ∀ node ∈ tree.nodes, ∀ parent, tree.parent node = some parent →
    parent.span.start ≤ node.span.start ∧ node.span.stop ≤ parent.span.stop
  /-- The children of a node stand for the parts right below its own, in that order and
  one after the other in the source, and each slot lists the children that are in it. -/
  children : ∀ node ∈ tree.nodes, ∀ part, tree.specAt node = .ok part →
    ∃ row : List (Text × Node),
      tree.children node = .ok (row.map (·.2)) ∧
      (∀ role, tree.childrenIn node role = .ok ((row.filter (·.1 = role)).map (·.2))) ∧
      List.Forall₂ (fun entry described =>
        entry.1 = described.1 ∧ tree.specAt entry.2 = .ok described.2) row part.below.trees ∧
      (∀ child, child ∈ row.map (·.2) ↔
        child ∈ tree.nodes ∧ tree.parent child = some node) ∧
      (row.map (·.2)).Pairwise fun a b =>
        a.index < b.index ∧ a.span.stop ≤ b.span.start
  /-- Read back from the root down, the tree gives the description. -/
  readBack : tree.specAt tree.root = .ok spec

end Tree

namespace Spec

variable {spec : Spec} {source : Text} {start : Nat} {outline : Outline}

theorem Placed.forall₂_depicts (h : spec.Placed source start outline) :
    List.Forall₂ ((outline.toTree source).Depicts source) (outline.toTree source).nodes
      spec.subtrees := by
  have root := Tree.carries_root outline source
  exact .cons ⟨start, outline, h, rfl, root⟩ (h.below.forall₂_nodes root.row)

theorem Placed.exists_depicts (h : spec.Placed source start outline) {node : Node}
    (mem : node ∈ (outline.toTree source).nodes) :
    ∃ part, (outline.toTree source).Depicts source node part := by
  obtain ⟨k, bound, rfl⟩ := List.mem_iff_getElem.mp mem
  have all := List.forall₂_iff_get.mp h.forall₂_depicts
  exact ⟨_, all.2 k bound (all.1 ▸ bound)⟩

theorem Placed.represents (h : spec.Placed source start outline) :
    (outline.toTree source).Represents source spec where
  preorder := Tree.mapM_eq_ok (h.forall₂_depicts.imp fun _ _ depicts => depicts.specAt_eq)
  text := by
    intro node mem
    obtain ⟨part, depicts⟩ := h.exists_depicts mem
    exact depicts.text_eq
  inside := fun node mem parent hp => h.fits.inside_parent mem hp
  children := by
    intro node mem part read
    obtain ⟨other, depicts⟩ := h.exists_depicts mem
    obtain rfl : other = part := Except.ok.inj (depicts.specAt_eq.symm.trans read)
    obtain ⟨low, placement, placed, info, carries⟩ := depicts
    refine ⟨placement.below.row node.index (node.index + 1),
      carries.children_eq_tops placed.below.fits, carries.childrenIn_eq,
      (placed.below.forall₂_row carries.row).imp fun _ _ related =>
        ⟨related.1, related.2.specAt_eq⟩, fun child => ?_, ?_⟩
    · constructor
      · intro top
        exact ⟨carries.mem_of_mem_tops top, carries.parent_of_mem_tops top⟩
      · rintro ⟨childMem, hp⟩
        exact (carries.mem_tops_iff_parent childMem).mpr hp
    · exact ((Forest.pairwise_index_nodes ..).sublist (Forest.tops_sublist_nodes ..)).and
        (placed.below.fits.pairwise_tops ..)
  readBack :=
    Tree.Depicts.specAt_eq ⟨start, outline, h, rfl, Tree.carries_root outline source⟩

/-- The tree of a description represents it exactly. -/
theorem represents_of_toTree {offset : Option Int} {tree : Tree}
    (built : spec.toTree source offset = .ok tree) : tree.Represents source spec := by
  obtain ⟨start, outline, placed, rfl⟩ := exists_placed built
  exact placed.represents

theorem represents_repeatedArgument :
    ∃ tree, repeatedArgument.toTree (Text.ofString "f(x, x);") (some 0) = .ok tree ∧
      tree.Represents (Text.ofString "f(x, x);") repeatedArgument := by
  have built : repeatedArgument.toTree (Text.ofString "f(x, x);") (some 0) = .ok _ := rfl
  exact ⟨_, built, represents_of_toTree built⟩

end Spec

end SketchHelp
