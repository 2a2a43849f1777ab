import SketchHelp.Proofs.Tree.Placement
import SketchHelp.Tree.NodeAt

/-!
The node for a problem range, as a choice among all nodes of the tree. The search walks
down through covering nodes and then looks below the last of them, and leaves out every
part of the tree that does not touch the range. Where spans are nested that loses
nothing: what is found is the first node in preorder that the range covers, and failing
that the last node in preorder that covers the range. The first of those is outermost
and leftmost, the last of these deepest.
-/

namespace SketchHelp

namespace Span

/-- The span is not empty and lies inside the range. -/
def isCoveredBy (s : Span) (r : Range) : Bool :=
  s.isInside r && !s.isEmpty

theorem covers_iff {s : Span} {r : Range} :
    s.covers r = true ↔ (s.start : Int) ≤ r.start ∧ r.stop ≤ s.stop := by
  simp [covers]

theorem overlaps_iff {s : Span} {r : Range} :
    s.overlaps r = true ↔ (s.start : Int) < r.stop ∧ r.start < s.stop := by
  simp [overlaps]

theorem isInside_iff {s : Span} {r : Range} :
    s.isInside r = true ↔ r.start ≤ s.start ∧ (s.stop : Int) ≤ r.stop := by
  simp [isInside]

theorem isCoveredBy_iff {s : Span} {r : Range} :
    s.isCoveredBy r = true ↔ r.start ≤ s.start ∧ (s.stop : Int) ≤ r.stop ∧ s.start < s.stop := by
  have ordered := s.start_le_stop
  simp only [isCoveredBy, isEmpty, Bool.and_eq_true, isInside_iff, Bool.not_eq_true',
    decide_eq_false_iff_not]
  omega

theorem toRange_eq_iff {s : Span} {r : Range} :
    s.toRange = r ↔ (s.start : Int) = r.start ∧ (s.stop : Int) = r.stop := by
  cases r
  simp [toRange]

/-- What covers a range and lies inside it is covered by it. -/
theorem isCoveredBy_of_isInside {s : Span} {r : Range} (nonempty : r.start < r.stop)
    (covers : s.covers r = true) (inside : s.isInside r = true) : s.isCoveredBy r = true := by
  rw [covers_iff] at covers
  rw [isInside_iff] at inside
  rw [isCoveredBy_iff]
  omega

theorem not_isCoveredBy_of_not_isInside {s : Span} {r : Range}
    (outside : ¬ s.isInside r = true) : ¬ s.isCoveredBy r = true := by
  rw [isCoveredBy_iff]
  rw [isInside_iff] at outside
  omega

theorem toRange_ne_of_not_isInside {s : Span} {r : Range} (outside : ¬ s.isInside r = true) :
    s.toRange ≠ r := by
  intro same
  rw [toRange_eq_iff] at same
  rw [isInside_iff] at outside
  omega

theorem overlaps_of_isCoveredBy {s : Span} {r : Range} (h : s.isCoveredBy r = true) :
    s.overlaps r = true := by
  rw [isCoveredBy_iff] at h
  rw [overlaps_iff]
  omega

theorem overlaps_of_covers {s : Span} {r : Range} (nonempty : r.start < r.stop)
    (h : s.covers r = true) : s.overlaps r = true := by
  rw [covers_iff] at h
  rw [overlaps_iff]
  omega

end Span

/-! ### The search below a node -/

namespace Forest

/-- Every node of a row lies inside one on top of it. -/
theorem Fits.exists_top {low high : Nat} {forest : Forest NodeInfo}
    (fits : forest.Fits low high) {parent position : Nat} {node : Node}
    (h : node ∈ forest.nodes parent position) :
    ∃ top ∈ forest.tops parent position,
      top.span.start ≤ node.span.start ∧ node.span.stop ≤ top.span.stop := by
  induction forest generalizing low position with
  | nil => cases h
  | cons role info below rest _ ih =>
      obtain ⟨start, stop, inner, later⟩ := fits
      rcases List.mem_cons.mp h with rfl | inside
      · exact ⟨_, List.mem_cons_self, Nat.le_refl _, Nat.le_refl _⟩
      · rcases List.mem_append.mp inside with deep | right
        · exact ⟨_, List.mem_cons_self, inner.bounds deep⟩
        · obtain ⟨top, mem, within⟩ := ih later right
          exact ⟨top, List.mem_cons_of_mem _ mem, within⟩

/-- Nothing in a row touches a range that the offsets around the row do not touch. -/
theorem Fits.filter_eq_nil {low high : Nat} {forest : Forest NodeInfo}
    (fits : forest.Fits low high) {range : Range}
    (apart : range.stop ≤ low ∨ (high : Int) ≤ range.start) (parent position : Nat)
    {wanted : Node → Bool}
    (touching : ∀ node, wanted node = true → node.span.overlaps range = true) :
    (forest.nodes parent position).filter wanted = [] := by
  refine List.filter_eq_nil_iff.mpr fun node h accepted => ?_
  have bounds := fits.bounds h
  have touches := Span.overlaps_iff.mp (touching node accepted)
  omega

/-- If no node on top of a row covers a range, no node of the row does. -/
theorem Fits.filter_covers_eq_nil {low high : Nat} {forest : Forest NodeInfo}
    (fits : forest.Fits low high) {parent position : Nat} {range : Range}
    (uncovered : ∀ top ∈ forest.tops parent position, ¬ top.span.covers range = true) :
    (forest.nodes parent position).filter (·.span.covers range) = [] := by
  refine List.filter_eq_nil_iff.mpr fun deep hd covers => ?_
  obtain ⟨top, ht, within⟩ := fits.exists_top hd
  refine uncovered top ht ?_
  rw [Span.covers_iff] at covers ⊢
  omega

end Forest

namespace Tree

variable {tree : Tree}

theorem firstCovered_succ {node : Node} {children : List Node}
    (h : tree.children node = .ok children) (range : Range) (limit : Nat) :
    tree.firstCovered range (limit + 1) node = children.findSomeM? fun child =>
      if child.span.isCoveredBy range then return some child
      else if child.span.overlaps range then tree.firstCovered range limit child
      else return none := by
  rw [firstCovered, h]
  rfl

/-- The search through a row finds the first node in preorder that the range covers. -/
theorem HoldsRow.findSomeM?_eq {parent position : Nat} {forest : Forest NodeInfo}
    (h : tree.HoldsRow parent position forest) {low high : Nat}
    (fits : forest.Fits low high) (range : Range) {limit : Nat}
    (enough : forest.size ≤ limit) :
    ((forest.tops parent position).findSomeM? fun child =>
      if child.span.isCoveredBy range then (return some child : Except Fault (Option Node))
      else if child.span.overlaps range then tree.firstCovered range limit child
      else return none) =
      .ok ((forest.nodes parent position).find? (·.span.isCoveredBy range)) := by
  induction forest generalizing low high parent position limit with
  | nil => rfl
  | cons role info below rest belowIh restIh =>
      obtain ⟨start, stop, inner, later⟩ := fits
      rw [Forest.size] at enough
      have restEnough : rest.size ≤ limit := by omega
      have right := restIh h.tail later restEnough
      have top := h.head
      rw [Forest.tops_cons, Forest.nodes_cons, List.findSomeM?_cons, List.find?_cons,
        List.find?_append, right]
      by_cases covered : info.span.isCoveredBy range = true
      · have topCovered : (Forest.topNode parent position info below).span.isCoveredBy range =
            true := covered
        rw [if_pos topCovered, topCovered]
        rfl
      · have topFree : ¬ (Forest.topNode parent position info below).span.isCoveredBy range =
            true := covered
        -- A part of the tree is left out only if nothing in it is covered.
        have probe : (if info.span.overlaps range then
              tree.firstCovered range limit (Forest.topNode parent position info below)
            else return none : Except Fault (Option Node)) =
            .ok ((below.nodes position (position + 1)).find? (·.span.isCoveredBy range)) := by
          by_cases touches : info.span.overlaps range = true
          · obtain ⟨limit, rfl⟩ : ∃ l, limit = l + 1 := ⟨limit - 1, by omega⟩
            have belowEnough : below.size ≤ limit := by omega
            rw [if_pos touches, firstCovered_succ (top.children_eq_tops inner)]
            exact belowIh top.row inner belowEnough
          · rw [if_neg touches, ← List.head?_filter]
            have outside : range.stop ≤ info.span.start ∨ (info.span.stop : Int) ≤ range.start := by
              rw [Span.overlaps_iff] at touches
              omega
            rw [inner.filter_eq_nil outside _ _ fun _ => Span.overlaps_of_isCoveredBy]
            rfl
        rw [if_neg topFree, Bool.eq_false_iff.mpr topFree]
        show (if info.span.overlaps range then _ else _ : Except Fault (Option Node)) >>= _ = _
        rw [probe]
        cases (below.nodes position (position + 1)).find? (·.span.isCoveredBy range) <;> rfl

theorem Carries.firstCovered_eq {node : Node} {below : Forest NodeInfo}
    (h : tree.Carries node below) {low high : Nat} (fits : below.Fits low high)
    (range : Range) :
    tree.firstCovered range tree.size node =
      .ok ((below.nodes node.index (node.index + 1)).find? (·.span.isCoveredBy range)) := by
  obtain ⟨limit, eq⟩ : ∃ limit, tree.size = limit + 1 :=
    ⟨tree.size - 1, by have := h.size_lt; omega⟩
  have enough : below.size ≤ limit := by
    have := h.size_lt
    omega
  rw [eq, firstCovered_succ (h.children_eq_tops fits)]
  exact h.row.findSomeM?_eq fits range enough

/-! ### The walk down -/

theorem descend_of_find_eq_none {node : Node} {children : List Node}
    (h : tree.children node = .ok children) {range : Range}
    (none : children.find? (·.span.covers range) = none) (limit : Nat) :
    tree.descend range (limit + 1) node = tree.settle range node := by
  rw [descend, h]
  show Except.bind (.ok children) _ = _
  rw [Except.bind, none]

theorem descend_of_find_eq_some {node child : Node} {children : List Node}
    (h : tree.children node = .ok children) {range : Range}
    (found : children.find? (·.span.covers range) = some child) (limit : Nat) :
    tree.descend range (limit + 1) node =
      if child.span.isInside range then .ok child else tree.descend range limit child := by
  rw [descend, h]
  show Except.bind (.ok children) _ = _
  rw [Except.bind, found]
  rfl

/-- Of a row with a covering child, only the child and what is below it touches the
range. -/
theorem HoldsRow.filter_of_find_covers {parent position : Nat} {forest : Forest NodeInfo}
    (h : tree.HoldsRow parent position forest) {low high : Nat}
    (fits : forest.Fits low high) {range : Range} {child : Node}
    (found : (forest.tops parent position).find? (·.span.covers range) = some child) :
    ∃ below, tree.Carries child below ∧ below.Fits child.span.start child.span.stop ∧
      below.size < forest.size ∧
      ∀ wanted : Node → Bool,
        (∀ node, wanted node = true → node.span.overlaps range = true) →
          (forest.nodes parent position).filter wanted =
            (child :: below.nodes child.index (child.index + 1)).filter wanted := by
  induction forest generalizing low position with
  | nil => cases found
  | cons role info below rest _ ih =>
      obtain ⟨start, stop, inner, later⟩ := fits
      have top := h.head
      rw [Forest.size]
      rw [Forest.tops_cons, List.find?_cons] at found
      by_cases covers : info.span.covers range = true
      · have topCovers : (Forest.topNode parent position info below).span.covers range = true :=
          covers
        rw [topCovers] at found
        obtain rfl := Option.some.inj found
        refine ⟨below, top, inner, by omega, fun wanted touching => ?_⟩
        have after : range.stop ≤ info.span.stop := (Span.covers_iff.mp covers).2
        have nothing := later.filter_eq_nil (.inl after) parent
          (position + 1 + below.size) touching
        rw [Forest.nodes_cons, ← List.cons_append, List.filter_append, nothing,
          List.append_nil]
        rfl
      · have topFree : (Forest.topNode parent position info below).span.covers range = false :=
          Bool.eq_false_iff.mpr covers
        rw [topFree] at found
        obtain ⟨under, carries, within, smaller, only⟩ := ih h.tail later found
        refine ⟨under, carries, within, by omega, fun wanted touching => ?_⟩
        have covers : child.span.covers range = true := by
          have := List.find?_some found
          exact this
        have childCovers := Span.covers_iff.mp covers
        have childAfter :=
          (later.bounds ((Forest.tops_sublist_nodes ..).mem (List.mem_of_find?_eq_some found))).1
        have before : (info.span.stop : Int) ≤ range.start := by omega
        have nothing := inner.filter_eq_nil (.inr before) position (position + 1) touching
        have topUnwanted : ¬ wanted (Forest.topNode parent position info below) = true := by
          intro accepted
          have touches := Span.overlaps_iff.mp (touching _ accepted)
          have : range.start < info.span.stop := touches.2
          omega
        rw [Forest.nodes_cons, List.filter_cons_of_neg topUnwanted, List.filter_append,
          nothing, List.nil_append, only wanted touching]

/-- From a node that covers a range without being its exact span, or that a child
covers it in turn, the walk ends at the first node below that the range covers, or else
at the last one that covers the range. -/
theorem Carries.descend_eq {node : Node} {below : Forest NodeInfo}
    (h : tree.Carries node below) (fits : below.Fits node.span.start node.span.stop)
    {range : Range} (nonempty : range.start < range.stop)
    (proper : node.span.toRange = range →
      ∃ child ∈ below.tops node.index (node.index + 1), child.span.covers range = true)
    {limit : Nat} (enough : below.size < limit) :
    tree.descend range limit node =
      .ok (((below.nodes node.index (node.index + 1)).find? (·.span.isCoveredBy range)).getD
        (((below.nodes node.index (node.index + 1)).filter
          (·.span.covers range)).getLast?.getD node)) := by
  induction limit generalizing node below with
  | zero => omega
  | succ limit ih =>
      have children := h.children_eq_tops fits
      -- The walk stops here or goes on below the only child that touches the range.
      cases found : (below.tops node.index (node.index + 1)).find? (·.span.covers range) with
      | none =>
          have uncovered := List.find?_eq_none.mp found
          have apart : ¬ (node.span.toRange = range ∨ range.stop ≤ range.start) := by
            rintro (exact | empty)
            · obtain ⟨child, hc, covers⟩ := proper exact
              exact uncovered child hc covers
            · omega
          have none := fits.filter_covers_eq_nil uncovered
          rw [descend_of_find_eq_none children found, settle, if_neg apart,
            h.firstCovered_eq fits, none]
          rfl
      | some child =>
          obtain ⟨under, carries, within, smaller, only⟩ :=
            h.row.filter_of_find_covers fits found
          have covers : child.span.covers range = true := by
            have := List.find?_some found
            exact this
          have coverFilter := only (·.span.covers range) fun _ => Span.overlaps_of_covers nonempty
          have coveredFilter := only (·.span.isCoveredBy range) fun _ =>
            Span.overlaps_of_isCoveredBy
          rw [descend_of_find_eq_some children found, ← List.head?_filter, coverFilter,
            coveredFilter]
          by_cases inside : child.span.isInside range = true
          · have covered := Span.isCoveredBy_of_isInside nonempty covers inside
            rw [if_pos inside,
              List.filter_cons_of_pos (p := fun node : Node => node.span.isCoveredBy range) covered]
            rfl
          · have uncovered := Span.not_isCoveredBy_of_not_isInside inside
            have childProper := Span.toRange_ne_of_not_isInside inside
            have childEnough : under.size < limit := by omega
            rw [if_neg inside,
              List.filter_cons_of_neg (p := fun node : Node => node.span.isCoveredBy range) uncovered,
              List.filter_cons_of_pos (p := fun node : Node => node.span.covers range) covers,
              List.head?_filter, List.getLast?_cons]
            exact ih carries within (fun same => absurd same childProper) childEnough

/-! ### The choice -/

/-- The range is the span of the root and of none of its children. -/
def IsRootOnly (tree : Tree) (range : Range) : Prop :=
  tree.root.span.toRange = range ∧
    ∀ child ∈ tree.nodes, tree.parent child = some tree.root → child.span.toRange ≠ range

/-- No node but possibly the root is covered by the range. -/
def CoversNothing (tree : Tree) (range : Range) : Prop :=
  ∀ node ∈ tree.nodes, node ≠ tree.root → ¬ node.span.isCoveredBy range = true

/-- The node that stands for a range, among all nodes of a tree. -/
inductive Chosen (tree : Tree) (range : Range) : Node → Prop where
  /-- A range that is the root's alone stands for the root. -/
  | root : tree.IsRootOnly range → Chosen tree range tree.root
  /-- Otherwise the first node that the range covers is chosen. Any other one that it
  covers is below the first or to the right of it. -/
  | covered {node : Node} : ¬ tree.IsRootOnly range → node ∈ tree.nodes → node ≠ tree.root →
      node.span.isCoveredBy range = true →
      (∀ other ∈ tree.nodes, other ≠ tree.root → other.span.isCoveredBy range = true →
        node.index ≤ other.index ∧
          (node ∈ tree.ancestors other ∨ node.span.stop ≤ other.span.start)) →
      Chosen tree range node
  /-- Where the range covers nothing, the deepest node that covers the range is chosen. -/
  | covering {node : Node} : ¬ tree.IsRootOnly range → tree.CoversNothing range →
      node ∈ tree.nodes → node.span.covers range = true →
      (∀ other ∈ tree.nodes, other.span.covers range = true → other ≠ node →
        tree.depth other < tree.depth node) →
      Chosen tree range node
  /-- A range that sticks out of every node stands for the root. -/
  | outside : ¬ tree.IsRootOnly range → tree.CoversNothing range →
      (∀ node ∈ tree.nodes, ¬ node.span.covers range = true) →
      Chosen tree range tree.root

/-- A range stands for one node only. -/
theorem Chosen.unique {range : Range} {a b : Node} (ha : tree.Chosen range a)
    (hb : tree.Chosen range b) : a = b := by
  cases ha with
  | root only =>
      cases hb with
      | root => rfl
      | covered shared => exact absurd only shared
      | covering shared => exact absurd only shared
      | outside => rfl
  | covered shared mem apart covered first =>
      cases hb with
      | root only => exact absurd only shared
      | covered _ mem' apart' covered' first' =>
          have one := (first b mem' apart' covered').1
          have other := (first' a mem apart covered).1
          exact eq_of_index_eq mem mem' (Nat.le_antisymm one other)
      | covering _ nothing => exact absurd covered (nothing a mem apart)
      | outside _ nothing => exact absurd covered (nothing a mem apart)
  | covering shared nothing mem covers deepest =>
      cases hb with
      | root only => exact absurd only shared
      | covered _ mem' apart covered => exact absurd covered (nothing b mem' apart)
      | covering _ _ mem' covers' deepest' =>
          by_contra apart
          have one := deepest b mem' covers' (Ne.symm apart)
          have other := deepest' a mem covers apart
          omega
      | outside _ _ uncovered => exact absurd covers (uncovered a mem)
  | outside shared nothing uncovered =>
      cases hb with
      | root => rfl
      | covered _ mem apart covered => exact absurd covered (nothing b mem apart)
      | covering _ _ mem covers => exact absurd covers (uncovered b mem)
      | outside => rfl

end Tree

namespace Outline

variable {outline : Outline} {source : Text} {range : Range}

theorem mem_below_iff (source : Text) {node : Node} :
    node ∈ outline.below.nodes 0 1 ↔
      node ∈ (outline.toTree source).nodes ∧ node ≠ (outline.toTree source).root := by
  rw [Tree.mem_toTree_iff]
  constructor
  · intro deep
    refine ⟨.inr deep, fun same => ?_⟩
    have position := (Forest.le_index_of_mem_nodes deep).1
    rw [same, Tree.root_index] at position
    omega
  · rintro ⟨same | deep, apart⟩
    · exact absurd same apart
    · exact deep

/-- A range that is not the root's alone is found below the root: the first node that it
covers, or else the last one that covers it. -/
theorem Fits.nodeAt_eq (fits : outline.Fits) (nonempty : range.start < range.stop)
    (shared : ¬ (outline.toTree source).IsRootOnly range) :
    (outline.toTree source).nodeAt range =
      .ok (((outline.below.nodes 0 1).find? (·.span.isCoveredBy range)).getD
        (((outline.below.nodes 0 1).filter (·.span.covers range)).getLast?.getD
          (outline.toTree source).root)) := by
  have root := Tree.carries_root outline source
  refine root.descend_eq fits nonempty (fun exact => ?_) root.size_lt
  by_contra none
  refine shared ⟨exact, fun child hc hp same => none ⟨child, ?_, ?_⟩⟩
  · exact (root.mem_tops_iff_parent hc).mpr hp
  · rw [Span.toRange_eq_iff] at same
    rw [Span.covers_iff]
    omega

theorem Fits.nodeAt_root (fits : outline.Fits)
    (only : (outline.toTree source).IsRootOnly range) :
    (outline.toTree source).nodeAt range = .ok (outline.toTree source).root := by
  have root := Tree.carries_root outline source
  have uncovered : (outline.below.tops 0 1).find? (·.span.covers range) = none := by
    refine List.find?_eq_none.mpr fun child hc covers => ?_
    have within := Forest.Fits.bounds fits ((Forest.tops_sublist_nodes ..).mem hc)
    have exact := Span.toRange_eq_iff.mp only.1
    refine only.2 child (root.mem_of_mem_tops hc) (root.parent_of_mem_tops hc) ?_
    rw [Span.covers_iff] at covers
    rw [Span.toRange_eq_iff]
    show (child.span.start : Int) = _ ∧ (child.span.stop : Int) = _
    have : (outline.toTree source).root.span = outline.label.span := rfl
    rw [this] at exact
    omega
  have size : (outline.toTree source).size = outline.below.size + 1 := nodes_length outline
  rw [Tree.nodeAt, size,
    Tree.descend_of_find_eq_none (root.children_eq_tops fits) uncovered]
  exact if_pos (.inl only.1)

theorem Fits.chosen_covered (fits : outline.Fits)
    (shared : ¬ (outline.toTree source).IsRootOnly range) {node : Node}
    (found : (outline.below.nodes 0 1).find? (·.span.isCoveredBy range) = some node) :
    (outline.toTree source).Chosen range node := by
  have mem := (mem_below_iff source).mp (List.mem_of_find?_eq_some found)
  refine .covered shared mem.1 mem.2 (by simpa using List.find?_some found) ?_
  intro other ho apart covered
  obtain ⟨-, before, after, split, free⟩ := List.find?_eq_some_iff_append.mp found
  have deep : other ∈ outline.below.nodes 0 1 := (mem_below_iff source).mpr ⟨ho, apart⟩
  have first : node.index ≤ other.index := by
    have order := Forest.pairwise_index_nodes 0 1 outline.below
    rw [split] at deep order
    rcases List.mem_append.mp deep with earlier | later
    · simpa [covered] using free other earlier
    · rcases List.mem_cons.mp later with rfl | right
      · exact Nat.le_refl _
      · have := (List.pairwise_cons.mp (List.pairwise_append.mp order).2.1).1 other right
        omega
  refine ⟨first, ?_⟩
  rcases Nat.lt_or_eq_of_le first with lower | same
  · exact fits.nested mem.1 ho lower
  · rw [Tree.eq_of_index_eq mem.1 ho same]
    exact .inl (Tree.mem_ancestors_self _ _)

theorem Fits.chosen_covering (fits : outline.Fits) (nonempty : range.start < range.stop)
    (shared : ¬ (outline.toTree source).IsRootOnly range)
    (nothing : (outline.toTree source).CoversNothing range) {node : Node}
    (found : ((outline.below.nodes 0 1).filter (·.span.covers range)).getLast? = some node) :
    (outline.toTree source).Chosen range node := by
  obtain ⟨before, split⟩ := List.getLast?_eq_some_iff.mp found
  have listed : node ∈ (outline.below.nodes 0 1).filter (·.span.covers range) := by
    rw [split]
    exact List.mem_append_right _ List.mem_cons_self
  obtain ⟨deep, covers⟩ := List.mem_filter.mp listed
  have mem := (mem_below_iff source).mp deep
  refine .covering shared nothing mem.1 covers fun other ho otherCovers apart => ?_
  have lower : other.index < node.index := by
    rcases Tree.mem_toTree_iff.mp ho with rfl | otherDeep
    · rw [Tree.root_index]
      exact (Forest.le_index_of_mem_nodes deep).1
    · have order := (Forest.pairwise_index_nodes 0 1 outline.below).filter
        (fun node => node.span.covers range)
      have otherListed : other ∈ (outline.below.nodes 0 1).filter (·.span.covers range) :=
        List.mem_filter.mpr ⟨otherDeep, otherCovers⟩
      rw [split] at order otherListed
      rcases List.mem_append.mp otherListed with earlier | last
      · exact (List.pairwise_append.mp order).2.2 other earlier node List.mem_cons_self
      · exact absurd (List.mem_singleton.mp last) apart
  rcases fits.nested ho mem.1 lower with above | disjoint
  · exact (Tree.topDown_toTree outline source).depth_lt mem.1 above apart
  · rw [Span.covers_iff] at covers otherCovers
    omega

/-- The search finds the node that the range stands for. -/
theorem Fits.exists_chosen (fits : outline.Fits) (nonempty : range.start < range.stop) :
    ∃ node, (outline.toTree source).nodeAt range = .ok node ∧
      (outline.toTree source).Chosen range node := by
  by_cases only : (outline.toTree source).IsRootOnly range
  · exact ⟨_, fits.nodeAt_root only, .root only⟩
  · refine ⟨_, fits.nodeAt_eq nonempty only, ?_⟩
    cases covered : (outline.below.nodes 0 1).find? (·.span.isCoveredBy range) with
    | some node => exact fits.chosen_covered only covered
    | none =>
        have nothing : (outline.toTree source).CoversNothing range := fun node mem apart =>
          List.find?_eq_none.mp covered node ((mem_below_iff source).mpr ⟨mem, apart⟩)
        cases last : ((outline.below.nodes 0 1).filter (·.span.covers range)).getLast? with
        | some node => exact fits.chosen_covering nonempty only nothing last
        | none =>
            have uncovered : ∀ node ∈ (outline.toTree source).nodes,
                node.span.covers range = true → node = (outline.toTree source).root := by
              intro node mem covers
              by_contra apart
              have listed : node ∈ (outline.below.nodes 0 1).filter (·.span.covers range) :=
                List.mem_filter.mpr ⟨(mem_below_iff source).mpr ⟨mem, apart⟩, covers⟩
              rw [List.getLast?_eq_none_iff.mp last] at listed
              cases listed
            by_cases covers : (outline.toTree source).root.span.covers range = true
            · refine .covering only nothing (Tree.root_mem _) covers ?_
              intro other mem otherCovers apart
              exact absurd (uncovered other mem otherCovers) apart
            · refine .outside only nothing fun node mem nodeCovers => covers ?_
              rwa [uncovered node mem nodeCovers] at nodeCovers

end Outline

/-- A problem range that is not empty stands for the root if it is the root's alone, for
the outermost and leftmost node that it covers if there is one, and for the deepest node
that covers it otherwise. -/
theorem Spec.nodeAt_eq_chosen {spec : Spec} {source : Text} {offset : Option Int}
    {tree : Tree} (built : spec.toTree source offset = .ok tree) {range : Range}
    (nonempty : range.start < range.stop) :
    ∃ node, tree.nodeAt range = .ok node ∧ tree.Chosen range node ∧
      ∀ other, tree.Chosen range other → other = node := by
  obtain ⟨start, outline, placed, rfl⟩ := exists_placed built
  obtain ⟨node, found, chosen⟩ := placed.fits.exists_chosen nonempty
  exact ⟨node, found, chosen, fun other h => h.unique chosen⟩

/-- The range of both arguments stands for the first of them. -/
theorem Spec.nodeAt_eq_chosen_repeatedArgument :
    ∃ tree, repeatedArgument.toTree (Text.ofString "y = f(x, x)") none = .ok tree ∧
      (6 : Int) < 10 ∧
      ∃ node, tree.nodeAt ⟨6, 10⟩ = .ok node ∧ tree.Chosen ⟨6, 10⟩ node ∧
        ∀ other, tree.Chosen ⟨6, 10⟩ other → other = node := by
  have built : repeatedArgument.toTree (Text.ofString "y = f(x, x)") none = .ok _ := rfl
  exact ⟨_, built, by decide, nodeAt_eq_chosen built (by decide)⟩

end SketchHelp
