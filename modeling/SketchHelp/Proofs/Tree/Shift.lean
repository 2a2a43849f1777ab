import SketchHelp.Proofs.Tree.Moving
import SketchHelp.Tree.Locate
import SketchHelp.Tree.NodeAt

/-!
Sources with a text put in front. Whatever was found in the source is found again, further
back by the length of that text: occurrences of a text, placements of a description, and
the node of a range.
-/

namespace SketchHelp

/-! ### Offsets -/

def Span.shift (k : Nat) (s : Span) : Span :=
  ⟨k + s.start, k + s.stop, Nat.add_le_add_left s.start_le_stop k⟩

def Range.shift (k : Nat) (r : Range) : Range :=
  ⟨k + r.start, k + r.stop⟩

namespace Span

variable (k : Nat) (s : Span) (r : Range)

@[simp] theorem start_shift : (s.shift k).start = k + s.start := rfl

@[simp] theorem stop_shift : (s.shift k).stop = k + s.stop := rfl

@[simp] theorem toRange_shift : (s.shift k).toRange = s.toRange.shift k := by
  simp [toRange, Range.shift]

@[simp] theorem isEmpty_shift : (s.shift k).isEmpty = s.isEmpty := by
  simp [isEmpty]

@[simp] theorem covers_shift : (s.shift k).covers (r.shift k) = s.covers r := by
  simp [covers, Range.shift]

@[simp] theorem isInside_shift : (s.shift k).isInside (r.shift k) = s.isInside r := by
  simp [isInside, Range.shift]

@[simp] theorem overlaps_shift : (s.shift k).overlaps (r.shift k) = s.overlaps r := by
  simp [overlaps, Range.shift]

end Span

@[simp] theorem Range.shift_inj {k : Nat} {r r' : Range} : r.shift k = r'.shift k ↔ r = r' := by
  cases r
  cases r'
  simp [shift]

/-! ### Texts -/

namespace Text

variable (lead t pattern : Text)

@[simp] theorem drop_append_add (low : Nat) :
    (lead ++ t).drop (lead.length + low) = t.drop low := by
  rw [List.drop_append, List.drop_eq_nil_of_le (Nat.le_add_right ..), Nat.add_sub_cancel_left,
    List.nil_append]

@[simp] theorem slice_append_add (low high : Nat) :
    (lead ++ t).slice (lead.length + low) (lead.length + high) = t.slice low high := by
  rw [slice, slice, List.drop_take, List.drop_take, drop_append_add, Nat.add_sub_add_left]

theorem scan_add (rest : Text) (k position count : Nat) :
    scan pattern rest (k + position) count =
      (scan pattern rest position count).map (k + ·) := by
  induction count generalizing rest position with
  | zero => rfl
  | succ count ih =>
      rw [scan, scan]
      split
      · rfl
      · exact ih rest.tail (position + 1)

@[simp] theorem indexWithin?_append_add (low high : Nat) :
    (lead ++ t).indexWithin? pattern (lead.length + low) (lead.length + high) =
      (t.indexWithin? pattern low high).map (lead.length + ·) := by
  rw [indexWithin?, indexWithin?, drop_append_add, scan_add, List.length_append]
  congr 2
  omega

end Text

/-! ### Placements -/

/-- The same fault, further back in the source. -/
def LocateFault.shift (k : Nat) : LocateFault → LocateFault
  | .rootMissing text => .rootMissing text
  | .childMissing child text owner low high => .childMissing child text owner (k + low) (k + high)

theorem SpecInfo.startAt_add (info : SpecInfo) (k start : Nat) :
    info.startAt (k + start) = (info.startAt start).move (Span.shift k) := by
  simp [startAt, NodeInfo.move, Span.shift, Nat.add_assoc]

def Outline.move (move : Span → Span) (outline : Outline) : Outline :=
  ⟨outline.label.move move, outline.below.map (NodeInfo.move move)⟩

namespace Forest

@[simp] theorem size_map {α β : Type} (f : α → β) (forest : Forest α) :
    (forest.map f).size = forest.size := by
  induction forest with
  | nil => rfl
  | cons role label below rest belowIh restIh => rw [map, size, size, belowIh, restIh]

@[simp] theorem slots_map {α β : Type} (f : α → β) (position : Nat) (forest : Forest α) :
    (forest.map f).slots position = forest.slots position := by
  induction forest generalizing position with
  | nil => rfl
  | cons role label below rest _ restIh => rw [map, slots, slots, restIh, size_map]

theorem nodes_map (move : Span → Span) (parent position : Nat) (forest : Forest NodeInfo) :
    (forest.map (NodeInfo.move move)).nodes parent position =
      (forest.nodes parent position).map (Node.move move) := by
  induction forest generalizing parent position with
  | nil => rfl
  | cons role info below rest belowIh restIh =>
      simp only [map, nodes, List.map_cons, List.map_append, belowIh, restIh, size_map,
        slots_map]
      rfl

theorem locate_append_add (lead source : Text) (owner : Kind) (cursor high : Nat)
    (forest : Forest SpecInfo) :
    forest.locate (lead ++ source) owner (lead.length + cursor) (lead.length + high) =
      ((forest.locate source owner cursor high).map
        (map (NodeInfo.move (Span.shift lead.length)))).mapError
          (LocateFault.shift lead.length) := by
  induction forest generalizing owner cursor high with
  | nil => rfl
  | cons role info below rest belowIh restIh =>
      rw [locate, locate, Text.indexWithin?_append_add]
      rcases source.indexWithin? info.text cursor high with _ | start
      · rfl
      · simp only [Option.map_some, Nat.add_assoc, belowIh, restIh]
        rcases below.locate source info.kind start (start + info.text.length) with
          fault | placedBelow
        · rfl
        · rcases rest.locate source owner (start + info.text.length) high with
            fault | placedRest
          · rfl
          · show Except.ok (cons role (info.startAt (lead.length + start)) _ _) = _
            rw [SpecInfo.startAt_add]
            rfl

end Forest

theorem Outline.nodes_move (move : Span → Span) (outline : Outline) :
    (outline.move move).nodes = (Outline.nodes outline).map (Node.move move) := by
  simp only [nodes, Outline.move, Forest.nodes_map, Forest.slots_map, List.map_cons]
  rfl

theorem Outline.toTree_move (move : Span → Span) (outline : Outline) (source other : Text) :
    (outline.move move).toTree other = (outline.toTree source).move move other := by
  simp only [toTree, Tree.move, Outline.nodes_move]

/-- The tree of the same unit behind a text put in front of the source. -/
def Tree.shift (lead : Text) (tree : Tree) : Tree :=
  tree.move (Span.shift lead.length) (lead ++ tree.source)

namespace Spec

variable (spec : Spec) (lead source : Text) (offset : Nat)

theorem rootStart?_append_add (text : Text) :
    rootStart? (lead ++ source) text (some ↑(lead.length + offset)) =
      (rootStart? source text (some ↑offset)).map (lead.length + ·) := by
  have inside (n : Nat) : ¬ (n : Int) < 0 := by omega
  simp only [rootStart?, if_neg (inside _), Int.toNat_natCast, Nat.add_assoc,
    Text.slice_append_add]
  split <;> rfl

theorem locate_append_add :
    spec.locate (lead ++ source) (some ↑(lead.length + offset)) =
      ((spec.locate source (some ↑offset)).map
        (Outline.move (Span.shift lead.length))).mapError (LocateFault.shift lead.length) := by
  rw [locate, locate, rootStart?_append_add]
  rcases rootStart? source spec.label.text (some ↑offset) with _ | start
  · rfl
  · simp only [Option.map_some, Nat.add_assoc, Forest.locate_append_add]
    rcases spec.below.locate source spec.label.kind start (start + spec.label.text.length) with
      fault | below
    · rfl
    · show Except.ok (⟨spec.label.startAt (lead.length + start), _⟩ : Outline) = _
      rw [SpecInfo.startAt_add]
      rfl

/-- Building commutes with a text put in front, and so does failing to. -/
theorem toTree_append_add :
    spec.toTree (lead ++ source) (some ↑(lead.length + offset)) =
      ((spec.toTree source (some ↑offset)).map (Tree.shift lead)).mapError
        (LocateFault.shift lead.length) := by
  rw [toTree, toTree, locate_append_add]
  rcases spec.locate source (some ↑offset) with fault | outline
  · rfl
  · exact congrArg Except.ok (Outline.toTree_move ..)

end Spec

/-! ### The node of a range -/

namespace Tree

variable (k : Nat) (source : Text) (tree : Tree) (range : Range) (node : Node)

@[simp] theorem precedes_move_shift (a b : Node) :
    precedes (a.move (Span.shift k)) (b.move (Span.shift k)) = precedes a b := by
  simp only [precedes, Node.move_span, Span.start_shift, Nat.add_lt_add_iff_left,
    Nat.add_left_cancel_iff]
  rfl

@[simp] theorem children_move_shift :
    (tree.move (Span.shift k) source).children (node.move (Span.shift k)) =
      List.map (Node.move (Span.shift k)) <$> tree.children node := by
  have found := mapM_eq_map_mapM (node_move (Span.shift k) source tree) node.roles.positions
  rw [children, children, Node.move_roles, found]
  rcases node.roles.positions.mapM tree.node with fault | positions
  · rfl
  · exact congrArg Except.ok (StableSort.sort_map (precedes_move_shift k) positions)

theorem firstCovered_move_shift (limit : Nat) :
    (tree.move (Span.shift k) source).firstCovered (range.shift k) limit
        (node.move (Span.shift k)) =
      Option.map (Node.move (Span.shift k)) <$> tree.firstCovered range limit node := by
  induction limit generalizing node with
  | zero => rfl
  | succ limit ih =>
      rw [firstCovered, firstCovered, children_move_shift]
      rcases tree.children node with fault | children
      · rfl
      · refine findSomeM?_map (fun child => ?_) children
        simp only [Node.move_span, Span.isInside_shift, Span.isEmpty_shift,
          Span.overlaps_shift, ih]
        split
        · rfl
        · split <;> rfl

theorem settle_move_shift :
    (tree.move (Span.shift k) source).settle (range.shift k) (node.move (Span.shift k)) =
      Node.move (Span.shift k) <$> tree.settle range node := by
  have ordered : (range.shift k).stop ≤ (range.shift k).start ↔ range.stop ≤ range.start := by
    simp [Range.shift]
  simp only [settle, Node.move_span, Span.toRange_shift, Range.shift_inj, ordered, size_move,
    firstCovered_move_shift]
  split
  · rfl
  · rcases tree.firstCovered range tree.size node with fault | (_ | found) <;> rfl

theorem descend_move_shift (limit : Nat) :
    (tree.move (Span.shift k) source).descend (range.shift k) limit
        (node.move (Span.shift k)) =
      Node.move (Span.shift k) <$> tree.descend range limit node := by
  induction limit generalizing node with
  | zero => rfl
  | succ limit ih =>
      rw [descend, descend, children_move_shift]
      rcases tree.children node with fault | children
      · rfl
      · have found : (children.map (Node.move (Span.shift k))).find?
              (fun child => child.span.covers (range.shift k)) =
            (children.find? fun child => child.span.covers range).map
              (Node.move (Span.shift k)) := by
          simp [List.find?_map, Function.comp_def]
        simp only [map_ok, ok_bind, found]
        cases children.find? fun child => child.span.covers range with
        | none => exact settle_move_shift ..
        | some child =>
            simp only [Option.map_some, Node.move_span, Span.isInside_shift, ih]
            split <;> rfl

/-- The node of a range that moves with the spans is the same node. -/
theorem nodeAt_move_shift :
    (tree.move (Span.shift k) source).nodeAt (range.shift k) =
      Node.move (Span.shift k) <$> tree.nodeAt range := by
  rw [nodeAt, nodeAt, size_move, root_move]
  exact descend_move_shift ..

end Tree

end SketchHelp
