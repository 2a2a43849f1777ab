import Mathlib.Data.List.Forall2
import SketchHelp.Proofs.Tree.Shift
import SketchHelp.Proofs.Tree.Placement

/-!
Why it is enough to look for the first occurrence of each text. A placement of what hangs
below a node lies in the node's own text, so it can be moved along to any other occurrence of
that text. Hence a node that is placed earlier takes its children with it, and leaves more
room for the siblings that follow: if a description can be placed at all, then placing it
from left to right succeeds, and no placement has any node further to the front.
-/

namespace SketchHelp

/-! ### First occurrences -/

namespace Text

/-- The pattern stands in the text from `start` on. -/
structure StandsAt (t pattern : Text) (start : Nat) : Prop where
  inside : start + pattern.length ≤ t.length
  slice : t.slice start (start + pattern.length) = pattern

variable {t pattern : Text} {low high start : Nat}

theorem scan_le {rest : Text} {position count k : Nat}
    (here : pattern <+: rest.drop k) (near : k < count) :
    ∃ found, scan pattern rest position count = some found ∧ found ≤ position + k := by
  induction count generalizing rest position k with
  | zero => omega
  | succ count ih =>
      rw [scan]
      split
      · exact ⟨position, rfl, Nat.le_add_right ..⟩
      · next apart =>
          cases k with
          | zero => exact absurd (List.isPrefixOf_iff_prefix.mpr here) apart
          | succ k =>
              rw [Nat.add_comm, ← List.drop_drop, List.drop_one] at here
              obtain ⟨found, eq, le⟩ := ih here (by omega)
              exact ⟨found, eq, by omega⟩

/-- Where the pattern stands between two offsets, it is found there or further to the
front. -/
theorem StandsAt.indexWithin?_le (h : t.StandsAt pattern start) (lower : low ≤ start)
    (upper : start + pattern.length ≤ high) :
    ∃ found, t.indexWithin? pattern low high = some found ∧ found ≤ start := by
  have here : pattern <+: (t.drop low).drop (start - low) := by
    have slice := h.slice
    rw [Text.slice, List.drop_take, Nat.add_sub_cancel_left] at slice
    rw [List.drop_drop, Nat.add_sub_cancel' lower, ← slice]
    exact List.take_prefix ..
  have inside := h.inside
  have near : start - low < min high t.length + 1 - (low + pattern.length) := by omega
  obtain ⟨found, eq, le⟩ := scan_le here near
  exact ⟨found, eq, by omega⟩

theorem standsAt_of_indexWithin? {found : Nat}
    (h : t.indexWithin? pattern low high = some found) : t.StandsAt pattern found :=
  ⟨(indexWithin?_bounds h).2.2, slice_of_indexWithin? h⟩

/-- A cut inside an occurrence of the pattern is a cut of the pattern. -/
theorem StandsAt.slice_add (h : t.StandsAt pattern start) (upper : high ≤ pattern.length) :
    t.slice (start + low) (start + high) = pattern.slice low high := by
  have cut : (t.take (start + high)).drop start = pattern.take high := by
    have slice := h.slice
    rw [Text.slice, List.drop_take, Nat.add_sub_cancel_left] at slice
    rw [List.drop_take, Nat.add_sub_cancel_left, ← slice, List.take_take, Nat.min_eq_left upper]
  rw [Text.slice, Text.slice, ← List.drop_drop, cut]

end Text

/-! ### Placements inside a text -/

namespace Forest

theorem labels_map {α β : Type} (f : α → β) (forest : Forest α) :
    (forest.map f).labels = forest.labels.map f := by
  induction forest with
  | nil => rfl
  | cons role label below rest belowIh restIh =>
      simp only [map, labels, List.map_cons, List.map_append, belowIh, restIh]

theorem map_toNodeInfo_nodes (parent position : Nat) (forest : Forest NodeInfo) :
    (forest.nodes parent position).map Node.toNodeInfo = forest.labels := by
  induction forest generalizing parent position with
  | nil => rfl
  | cons role info below rest belowIh restIh =>
      simp only [nodes, labels, List.map_cons, List.map_append, belowIh, restIh]

variable {source text : Text} {forest : Forest SpecInfo} {placed : Forest NodeInfo}
  {low high start : Nat}

/-- A row that is placed in a text is placed in each occurrence of the text. -/
theorem Placed.moveTo (h : forest.Placed text low high placed)
    (stands : source.StandsAt text start) (inside : high ≤ text.length) :
    forest.Placed source (start + low) (start + high)
      (placed.map (NodeInfo.move (Span.shift start))) := by
  induction h with
  | nil => exact .nil
  | @cons low high child role info below rest placedBelow placedRest lower upper slice _ _
      belowIh restIh =>
      have belowPlaced := belowIh (by omega)
      have restPlaced := restIh inside
      rw [map, ← SpecInfo.startAt_add]
      rw [← Nat.add_assoc] at belowPlaced restPlaced
      refine .cons (by omega) (by omega) ?_ belowPlaced restPlaced
      rw [Nat.add_assoc, stands.slice_add (by omega), slice]

/-- A row that is placed in an occurrence of a text is placed in the text. -/
theorem Placed.exists_within (h : forest.Placed source (start + low) (start + high) placed)
    (stands : source.StandsAt text start) (inside : high ≤ text.length) :
    ∃ within, forest.Placed text low high within ∧
      placed = within.map (NodeInfo.move (Span.shift start)) := by
  induction forest generalizing low high placed with
  | nil =>
      cases h
      exact ⟨.nil, .nil, rfl⟩
  | cons role info below rest belowIh restIh =>
      cases h with
      | @cons _ _ at' _ _ _ _ placedBelow placedRest lower upper slice inner later =>
          obtain ⟨child, rfl⟩ := Nat.exists_eq_add_of_le (Nat.le_trans (Nat.le_add_right ..) lower)
          rw [Nat.add_assoc] at slice inner later upper
          rw [stands.slice_add (by omega)] at slice
          obtain ⟨belowWithin, placedWithin, rfl⟩ := belowIh inner (by omega)
          obtain ⟨restWithin, placedLater, rfl⟩ := restIh later inside
          refine ⟨_, .cons (by omega) (by omega) slice placedWithin placedLater, ?_⟩
          rw [map, SpecInfo.startAt_add]

/-- `early` has no node further to the back than `late` has it. -/
def IsEarlier (early late : Forest NodeInfo) : Prop :=
  List.Forall₂ (fun node other => node.span.start ≤ other.span.start) early.labels late.labels

/-- What is placed in one occurrence of a text can be placed in an earlier one. -/
theorem Placed.exists_earlier {early late : Nat} (stands : source.StandsAt text early)
    (standsLate : source.StandsAt text late) (le : early ≤ late)
    (h : forest.Placed source late (late + text.length) placed) :
    ∃ moved, forest.Placed source early (early + text.length) moved ∧
      moved.IsEarlier placed := by
  have whole : forest.Placed source (late + 0) (late + text.length) placed := h
  obtain ⟨within, placedWithin, rfl⟩ := whole.exists_within standsLate (Nat.le_refl _)
  refine ⟨_, placedWithin.moveTo stands (Nat.le_refl _), ?_⟩
  rw [IsEarlier, labels_map, labels_map, List.forall₂_map_left_iff, List.forall₂_map_right_iff,
    List.forall₂_same]
  exact fun info _ => Nat.add_le_add_right le _

theorem IsEarlier.trans {first second third : Forest NodeInfo} (h : first.IsEarlier second)
    (h' : second.IsEarlier third) : first.IsEarlier third := by
  unfold IsEarlier at h h' ⊢
  generalize first.labels = a, second.labels = b, third.labels = c at h h' ⊢
  induction h generalizing c with
  | nil => exact h'
  | cons le _ ih =>
      cases h' with
      | cons le' later => exact .cons (Nat.le_trans le le') (ih _ later)

/-- Placing a row from left to right succeeds where any placement does, and places no node
further to the back. -/
theorem Placed.exists_locate (h : forest.Placed source low high placed)
    (inside : high ≤ source.length) (owner : Kind) {cursor : Nat} (before : cursor ≤ low) :
    ∃ located, forest.locate source owner cursor high = .ok located ∧
      located.IsEarlier placed := by
  induction forest generalizing low high cursor owner placed with
  | nil =>
      cases h
      exact ⟨.nil, rfl, .nil⟩
  | cons role info below rest belowIh restIh =>
      cases h with
      | @cons _ _ child _ _ _ _ placedBelow placedRest lower upper slice inner later =>
          have stands : source.StandsAt info.text child := ⟨by omega, slice⟩
          obtain ⟨found, eq, le⟩ := stands.indexWithin?_le (by omega : cursor ≤ child) upper
          have standsFound := Text.standsAt_of_indexWithin? eq
          -- The children move to the front with their parent.
          obtain ⟨moved, placedMoved, movedEarlier⟩ := inner.exists_earlier standsFound stands le
          obtain ⟨locatedBelow, belowEq, belowEarlier⟩ :=
            belowIh placedMoved standsFound.inside info.kind (Nat.le_refl _)
          obtain ⟨locatedRest, restEq, restEarlier⟩ :=
            restIh later inside owner (Nat.add_le_add_right le info.text.length)
          refine ⟨.cons role (info.startAt found) locatedBelow locatedRest, ?_, ?_⟩
          · rw [locate, eq]
            simp only [belowEq, restEq]
            rfl
          · exact .cons le (List.rel_append (belowEarlier.trans movedEarlier) restEarlier)

end Forest

/-! ### Descriptions -/

namespace Spec

variable {spec : Spec} {source : Text} {offset : Option Int} {start : Nat}

/-- The root of a description starts at `start`: its text stands there in the source, and
that offset is given, or no offset is and its text stands nowhere further to the front. -/
inductive StartsAt (spec : Spec) (source : Text) : Option Int → Nat → Prop
  | given {start : Nat} : source.StandsAt spec.label.text start →
      StartsAt spec source (some start) start
  | found {start : Nat} : source.index? spec.label.text = some start →
      StartsAt spec source none start

theorem StartsAt.standsAt (h : spec.StartsAt source offset start) :
    source.StandsAt spec.label.text start := by
  cases h with
  | given stands => exact stands
  | found first => exact Text.standsAt_of_indexWithin? first

theorem StartsAt.rootStart?_eq (h : spec.StartsAt source offset start) :
    rootStart? source spec.label.text offset = some start := by
  cases h with
  | given stands =>
      rw [rootStart?, if_neg (Int.not_lt.mpr (Int.natCast_nonneg start)), Int.toNat_natCast,
        if_pos stands.slice]
  | found first => exact first

theorem StartsAt.toTree_eq (h : spec.StartsAt source offset start) :
    spec.toTree source offset =
      (spec.below.locate source spec.label.kind start (start + spec.label.text.length)).map
        fun below => Outline.toTree ⟨spec.label.startAt start, below⟩ source := by
  rw [toTree, locate, h.rootStart?_eq]
  simp only
  cases spec.below.locate source spec.label.kind start (start + spec.label.text.length) <;> rfl

/-- What is placed with the root at one occurrence of its text can be placed with the root
at any other. -/
theorem Placed.exists_at {outline : Outline} (h : spec.Placed source start outline)
    (stands : source.StandsAt spec.label.text start) {other : Nat}
    (standsOther : source.StandsAt spec.label.text other) :
    ∃ moved, spec.Placed source other moved := by
  have whole : spec.below.Placed source (start + 0) (start + spec.label.text.length)
    outline.below := h.below
  obtain ⟨within, placed, -⟩ := whole.exists_within stands (Nat.le_refl _)
  exact ⟨⟨_, _⟩, rfl, standsOther.slice, placed.moveTo standsOther (Nat.le_refl _)⟩

theorem StartsAt.exists_placed (h : spec.StartsAt source offset start) {tree : Tree}
    (built : spec.toTree source offset = .ok tree) :
    ∃ outline, spec.Placed source start outline ∧ tree = outline.toTree source := by
  rw [h.toTree_eq] at built
  cases located : spec.below.locate source spec.label.kind start
      (start + spec.label.text.length) with
  | error fault =>
      rw [located] at built
      cases built
  | ok below =>
      rw [located] at built
      obtain rfl := Except.ok.inj built
      exact ⟨_, ⟨rfl, h.standsAt.slice, Forest.placed_of_locate located⟩, rfl⟩

theorem StartsAt.exists_toTree (h : spec.StartsAt source offset start) {outline : Outline}
    (placed : spec.Placed source start outline) :
    ∃ tree, spec.toTree source offset = .ok tree ∧
      List.Forall₂ (fun node other => node.span.start ≤ other.span.start) tree.nodes
        (outline.toTree source).nodes := by
  obtain ⟨below, located, earlier⟩ := placed.below.exists_locate h.standsAt.inside
    spec.label.kind (Nat.le_refl start)
  rw [h.toTree_eq, located]
  refine ⟨_, rfl, .cons ?_ ?_⟩
  · show start ≤ outline.label.span.start
    rw [placed.label]
    exact Nat.le_refl start
  · rw [Forest.IsEarlier, ← Forest.map_toNodeInfo_nodes 0 1,
      ← Forest.map_toNodeInfo_nodes 0 1, List.forall₂_map_left_iff,
      List.forall₂_map_right_iff] at earlier
    exact earlier

theorem StartsAt.exists_toTree_iff (h : spec.StartsAt source offset start) :
    (∃ tree, spec.toTree source offset = .ok tree) ↔
      ∃ outline, spec.Placed source start outline := by
  constructor
  · rintro ⟨tree, built⟩
    obtain ⟨outline, placed, -⟩ := h.exists_placed built
    exact ⟨outline, placed⟩
  · rintro ⟨outline, placed⟩
    obtain ⟨tree, built, -⟩ := h.exists_toTree placed
    exact ⟨tree, built⟩

/-- The tree holds a placement with the root at `start`, and no such placement has a node
further to the front. -/
structure IsEarliest (spec : Spec) (source : Text) (start : Nat) (tree : Tree) : Prop where
  placed : ∃ outline, spec.Placed source start outline ∧ tree = outline.toTree source
  least : ∀ outline, spec.Placed source start outline →
    List.Forall₂ (fun node other => node.span.start ≤ other.span.start) tree.nodes
      (outline.toTree source).nodes

/-- Building a tree succeeds where a description can be placed at all, and places every node
as far to the front as any placement. Which occurrence of the root's text is taken does not
matter for success. -/
theorem toTree_isEarliest (starts : spec.StartsAt source offset start) :
    ((∃ tree, spec.toTree source offset = .ok tree) ↔
        ∃ outline, spec.Placed source start outline) ∧
      (∀ tree, spec.toTree source offset = .ok tree → spec.IsEarliest source start tree) ∧
      ∀ offset' start', spec.StartsAt source offset' start' →
        ((∃ tree, spec.toTree source offset = .ok tree) ↔
          ∃ tree, spec.toTree source offset' = .ok tree) := by
  refine ⟨starts.exists_toTree_iff, fun tree built => ⟨starts.exists_placed built, ?_⟩, ?_⟩
  · intro outline placed
    obtain ⟨tree', built', earlier⟩ := starts.exists_toTree placed
    obtain rfl := Except.ok.inj (built.symm.trans built')
    exact earlier
  · intro offset' start' starts'
    rw [starts.exists_toTree_iff, starts'.exists_toTree_iff]
    constructor
    · rintro ⟨outline, placed⟩
      exact placed.exists_at starts.standsAt starts'.standsAt
    · rintro ⟨outline, placed⟩
      exact placed.exists_at starts'.standsAt starts.standsAt

/-- A block in which the name `x` stands three times, and of which two are described. -/
def twoOfThree : Spec :=
  let plain (kind : Kind) (text : String) : SpecInfo :=
    ⟨kind, Text.ofString text, none, none, none⟩
  ⟨plain .block "x x x",
    .cons [] (plain .simpleName "x") .nil (.cons [] (plain .simpleName "x") .nil .nil)⟩

theorem toTree_isEarliest_twoOfThree :
    twoOfThree.StartsAt (Text.ofString "x x x x") none 0 ∧
      twoOfThree.StartsAt (Text.ofString "x x x x") (some 2) 2 ∧
      ∃ tree, twoOfThree.toTree (Text.ofString "x x x x") (some 2) = .ok tree ∧
        tree.nodes.map (·.span.start) = [2, 2, 4] ∧
        twoOfThree.IsEarliest (Text.ofString "x x x x") 2 tree := by
  have first : twoOfThree.StartsAt (Text.ofString "x x x x") none 0 := .found rfl
  have second : twoOfThree.StartsAt (Text.ofString "x x x x") (some 2) 2 :=
    .given ⟨by decide, rfl⟩
  obtain ⟨-, earliest, other⟩ := toTree_isEarliest second
  obtain ⟨tree, built⟩ := (other none 0 first).mpr ⟨_, rfl⟩
  refine ⟨first, second, tree, built, ?_, earliest tree built⟩
  obtain rfl := Except.ok.inj built
  rfl

end Spec

end SketchHelp
