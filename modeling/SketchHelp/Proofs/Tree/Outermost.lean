import SketchHelp.Proofs.Tree.NodeAt

/-!
Ranges that are exactly the span of a node. Nodes that share a span which is not empty lie
one above the other, so one of them is outermost, and the search stops at that one. Only the
root is passed by: where a child shares the span of the root, the search goes on to the child
before it looks at the root, and stops at the outermost of the others.
-/

namespace SketchHelp

theorem Span.toRange_inj {s s' : Span} : s.toRange = s'.toRange ↔ s = s' := by
  cases s
  cases s'
  simp only [toRange, Range.mk.injEq, mk.injEq]
  omega

theorem Span.isCoveredBy_toRange {s : Span} (nonempty : s.start < s.stop) :
    s.isCoveredBy s.toRange = true :=
  isCoveredBy_iff.mpr ⟨Int.le_refl _, Int.le_refl _, nonempty⟩

namespace Tree

/-- The node is one of those wanted in a tree, and it is at or above each of them. -/
structure IsOutermost (tree : Tree) (wanted : Node → Prop) (node : Node) : Prop where
  mem : node ∈ tree.nodes
  holds : wanted node
  above : ∀ other ∈ tree.nodes, wanted other → node ∈ tree.ancestors other

/-- The span is that of the root and of one of its children. -/
def SharesRoot (tree : Tree) (span : Span) : Prop :=
  tree.root.span = span ∧
    ∃ child ∈ tree.nodes, tree.parent child = some tree.root ∧ child.span = span

theorem isRootOnly_iff {tree : Tree} {span : Span} :
    tree.IsRootOnly span.toRange ↔ tree.root.span = span ∧ ¬ tree.SharesRoot span := by
  simp only [IsRootOnly, SharesRoot, ne_eq, Span.toRange_inj]
  constructor
  · rintro ⟨root, alone⟩
    exact ⟨root, fun ⟨_, child, mem, hp, same⟩ => alone child mem hp same⟩
  · rintro ⟨root, alone⟩
    exact ⟨root, fun child mem hp same => alone ⟨root, child, mem, hp, same⟩⟩

theorem TopDown.ne_root_of_parent {tree : Tree} (down : tree.TopDown) {node parent : Node}
    (h : node ∈ tree.nodes) (hp : tree.parent node = some parent) : node ≠ tree.root := by
  rintro rfl
  have := down.parent_index_lt h hp
  rw [root_index] at this
  omega

end Tree

namespace Outline

variable {outline : Outline} {source : Text}

theorem root_mem_ancestors {node : Node} (h : node ∈ (outline.toTree source).nodes) :
    (outline.toTree source).root ∈ (outline.toTree source).ancestors node := by
  have root := Tree.carries_root outline source
  rcases Tree.mem_toTree_iff.mp h with rfl | deep
  · exact Tree.mem_ancestors_self _ _
  · exact Tree.HoldsRow.mem_ancestors (Tree.topDown_toTree outline source) root.mem root.row deep

/-- A node lies inside each node above it. -/
theorem Fits.inside_ancestor (fits : outline.Fits) {node above : Node}
    (h : node ∈ (outline.toTree source).nodes)
    (ha : above ∈ (outline.toTree source).ancestors node) :
    above.span.start ≤ node.span.start ∧ node.span.stop ≤ above.span.stop := by
  have down := Tree.topDown_toTree outline source
  induction position : node.index using Nat.strongRecOn generalizing node with
  | _ position ih =>
      rcases (down.mem_ancestors_iff h).mp ha with rfl | ⟨parent, hp, higher⟩
      · exact ⟨Nat.le_refl _, Nat.le_refl _⟩
      · have lower := down.parent_index_lt h hp
        have outer := ih parent.index (by omega) (Tree.parent_eq_some_iff.mp hp).1 higher rfl
        have inner := fits.inside_parent h hp
        omega

/-- A span that is not the root's alone belongs to a node below the root. -/
theorem exists_below_of_not_isRootOnly {node : Node}
    (mem : node ∈ (outline.toTree source).nodes)
    (shared : ¬ (outline.toTree source).IsRootOnly node.span.toRange) :
    ∃ inner ∈ (outline.toTree source).nodes,
      inner ≠ (outline.toTree source).root ∧ inner.span = node.span := by
  by_cases top : node = (outline.toTree source).root
  · have shares : (outline.toTree source).SharesRoot node.span := by
      by_contra alone
      exact shared (Tree.isRootOnly_iff.mpr ⟨congrArg (·.span) top.symm, alone⟩)
    obtain ⟨-, child, hc, hp, same⟩ := shares
    exact ⟨child, hc, (Tree.topDown_toTree outline source).ne_root_of_parent hc hp, same⟩
  · exact ⟨node, mem, top, rfl⟩

/-- What the span of a node stands for is the outermost node with that span, below the root
if a child of the root has it too. -/
theorem Fits.isOutermost_of_chosen (fits : outline.Fits) {node found : Node}
    (mem : node ∈ (outline.toTree source).nodes) (nonempty : node.span.start < node.span.stop)
    (chosen : (outline.toTree source).Chosen node.span.toRange found) :
    (¬ (outline.toTree source).SharesRoot node.span →
        (outline.toTree source).IsOutermost (·.span = node.span) found) ∧
      ((outline.toTree source).SharesRoot node.span →
        (outline.toTree source).IsOutermost
          (fun other => other ≠ (outline.toTree source).root ∧ other.span = node.span) found) := by
  have covered {other : Node} (same : other.span = node.span) :
      other.span.isCoveredBy node.span.toRange = true := by
    rw [same]
    exact Span.isCoveredBy_toRange nonempty
  by_cases only : (outline.toTree source).IsRootOnly node.span.toRange
  · obtain rfl := chosen.unique (.root only)
    obtain ⟨root, alone⟩ := Tree.isRootOnly_iff.mp only
    exact ⟨fun _ => ⟨Tree.root_mem _, root, fun other ho _ => root_mem_ancestors ho⟩,
      fun shares => absurd shares alone⟩
  · obtain ⟨inner, hi, apart, same⟩ := exists_below_of_not_isRootOnly mem only
    cases chosen with
    | root alone => exact absurd alone only
    | covering _ nothing => exact absurd (covered same) (nothing inner hi apart)
    | outside _ nothing => exact absurd (covered same) (nothing inner hi apart)
    | covered _ hf below inside first =>
        have within := Span.isCoveredBy_iff.mp inside
        simp only [Span.toRange] at within
        have above {other : Node} (ho : other ∈ (outline.toTree source).nodes)
            (apart : other ≠ (outline.toTree source).root) (same : other.span = node.span) :
            found ∈ (outline.toTree source).ancestors other := by
          rcases (first other ho apart (covered same)).2 with above | before
          · exact above
          · rw [same] at before
            omega
        -- What lies in the span and above a node with that span has the span itself.
        have exact : found.span = node.span := by
          have around := fits.inside_ancestor hi (above hi apart same)
          rw [same] at around
          rw [← Span.toRange_inj, Span.toRange_eq_iff]
          simp only [Span.toRange]
          omega
        refine ⟨fun alone => ⟨hf, exact, fun other ho same => ?_⟩,
          fun _ => ⟨hf, ⟨below, exact⟩, fun other ho h => above ho h.1 h.2⟩⟩
        refine above ho ?_ same
        rintro rfl
        exact only (Tree.isRootOnly_iff.mpr ⟨same, alone⟩)

end Outline

namespace Spec

/-- The range of a node that is not empty stands for the outermost node with that span. Only
the root does not count where a child has its span. -/
theorem nodeAt_span {spec : Spec} {source : Text} {offset : Option Int} {tree : Tree}
    (built : spec.toTree source offset = .ok tree) {node : Node} (mem : node ∈ tree.nodes)
    (nonempty : node.span.start < node.span.stop) :
    ∃ found, tree.nodeAt node.span.toRange = .ok found ∧
      (¬ tree.SharesRoot node.span → tree.IsOutermost (·.span = node.span) found) ∧
      (tree.SharesRoot node.span →
        tree.IsOutermost (fun other => other ≠ tree.root ∧ other.span = node.span) found) := by
  obtain ⟨start, outline, placed, rfl⟩ := exists_placed built
  have range : node.span.toRange.start < node.span.toRange.stop := Int.ofNat_lt.mpr nonempty
  obtain ⟨found, eq, chosen⟩ := placed.fits.exists_chosen range
  exact ⟨found, eq, placed.fits.isOutermost_of_chosen mem nonempty chosen⟩

/-- The declaration `int x;`, where the fragment and its name are both `x`. -/
def plainDeclaration : Spec :=
  let plain (kind : Kind) (text : String) : SpecInfo :=
    ⟨kind, Text.ofString text, none, none, none⟩
  ⟨plain .variableDeclarationStatement "int x;",
    .cons Role.fragments.toText (plain .variableDeclarationFragment "x")
      (.cons Role.name.toText (plain .simpleName "x") .nil .nil) .nil⟩

/-- The range of the name stands for the fragment. -/
theorem nodeAt_span_plainDeclaration :
    ∃ tree, plainDeclaration.toTree (Text.ofString "int x;") none = .ok tree ∧
      ∃ name ∈ tree.nodes, name.kind = .simpleName ∧ name.span.start < name.span.stop ∧
        ∃ found, tree.nodeAt name.span.toRange = .ok found ∧
          found.kind = .variableDeclarationFragment ∧
          tree.IsOutermost (·.span = name.span) found := by
  have built : plainDeclaration.toTree (Text.ofString "int x;") none = .ok _ := rfl
  refine ⟨_, built, _, List.mem_of_getElem? (i := 2) rfl, rfl, by decide, ?_⟩
  obtain ⟨found, eq, outermost, -⟩ :=
    nodeAt_span built (List.mem_of_getElem? (i := 2) rfl) (by decide)
  refine ⟨found, eq, ?_, outermost fun shared => absurd shared.1 (by decide)⟩
  obtain rfl := Except.ok.inj eq
  rfl

/-- A unit that is all one class. -/
def loneClass : Spec :=
  let plain (kind : Kind) : SpecInfo := ⟨kind, Text.ofString "class A \x7b\x7d", none, none, none⟩
  ⟨plain .compilationUnit, .cons [] (plain .typeDeclaration) .nil .nil⟩

/-- The range of the unit stands for the class, although the unit has the same span. -/
theorem not_isOutermost_loneClass :
    ∃ tree, loneClass.toTree (Text.ofString "class A \x7b\x7d") none = .ok tree ∧
      tree.root.span.start < tree.root.span.stop ∧
      ∃ found, tree.nodeAt tree.root.span.toRange = .ok found ∧
        ¬ tree.IsOutermost (·.span = tree.root.span) found := by
  refine ⟨_, rfl, by decide, _, rfl, fun outermost => ?_⟩
  have above := outermost.above _ (Tree.root_mem _) rfl
  rw [Tree.ancestors_of_no_parent rfl, List.mem_singleton] at above
  exact absurd (congrArg (·.index) above) (by decide)

end Spec

end SketchHelp
