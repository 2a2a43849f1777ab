import SketchHelp.Proofs.Tree.Nesting
import SketchHelp.Tree.Locate

/-!
What it means to place a description in a source, and that placing does it. A placement
keeps the shape of the description and all that it says about its nodes, and gives every
node a start at which its text stands, such that children lie inside their parent and
follow each other without overlapping. The tree of a description is the arena of such a
placement.
-/

namespace SketchHelp

/-- `placed` is `forest` with a start for every node: texts stand at their starts, and
the row lies between the offsets `low` and `high`, one tree after the other. -/
inductive Forest.Placed (source : Text) :
    (low high : Nat) → Forest SpecInfo → Forest NodeInfo → Prop where
  | nil {low high : Nat} : Placed source low high .nil .nil
  | cons {low high start : Nat} {role : Text} {info : SpecInfo}
      {below rest : Forest SpecInfo} {placedBelow placedRest : Forest NodeInfo} :
      low ≤ start → start + info.text.length ≤ high →
      source.slice start (start + info.text.length) = info.text →
      Placed source start (start + info.text.length) below placedBelow →
      Placed source (start + info.text.length) high rest placedRest →
      Placed source low high (.cons role info below rest)
        (.cons role (info.startAt start) placedBelow placedRest)

/-- `outline` is `spec` with a start for every node. -/
structure Spec.Placed (spec : Spec) (source : Text) (start : Nat) (outline : Outline) :
    Prop where
  label : outline.label = spec.label.startAt start
  text : source.slice start (start + spec.label.text.length) = spec.label.text
  below : spec.below.Placed source start (start + spec.label.text.length) outline.below

namespace Forest

theorem locate_cons_eq_ok {source : Text} {owner : Kind} {cursor high : Nat} {role : Text}
    {info : SpecInfo} {below rest : Forest SpecInfo} {placed : Forest NodeInfo}
    (h : (cons role info below rest).locate source owner cursor high = .ok placed) :
    ∃ start placedBelow placedRest,
      source.indexWithin? info.text cursor high = some start ∧
      below.locate source info.kind start (start + info.text.length) = .ok placedBelow ∧
      rest.locate source owner (start + info.text.length) high = .ok placedRest ∧
      placed = cons role (info.startAt start) placedBelow placedRest := by
  rw [locate] at h
  cases found : source.indexWithin? info.text cursor high with
  | none =>
      rw [found] at h
      cases h
  | some start =>
      simp only [found] at h
      cases inner : below.locate source info.kind start (start + info.text.length) with
      | error fault =>
          rw [inner] at h
          cases h
      | ok placedBelow =>
          cases later : rest.locate source owner (start + info.text.length) high with
          | error fault =>
              rw [inner, later] at h
              cases h
          | ok placedRest =>
              rw [inner, later] at h
              exact ⟨start, placedBelow, placedRest, rfl, inner, later,
                (Except.ok.inj h).symm⟩

theorem placed_of_locate {source : Text} {owner : Kind} {cursor high : Nat}
    {forest : Forest SpecInfo} {placed : Forest NodeInfo}
    (h : forest.locate source owner cursor high = .ok placed) :
    forest.Placed source cursor high placed := by
  induction forest generalizing owner cursor high placed with
  | nil =>
      cases h
      exact .nil
  | cons role info below rest belowIh restIh =>
      obtain ⟨start, placedBelow, placedRest, found, inner, later, rfl⟩ :=
        locate_cons_eq_ok h
      have bounds := Text.indexWithin?_bounds found
      exact .cons bounds.1 bounds.2.1 (Text.slice_of_indexWithin? found)
        (belowIh inner) (restIh later)

theorem Placed.fits {source : Text} {low high : Nat} {forest : Forest SpecInfo}
    {placed : Forest NodeInfo} (h : forest.Placed source low high placed) :
    placed.Fits low high := by
  induction h with
  | nil => trivial
  | cons start stop _ _ _ belowIh restIh => exact ⟨start, stop, belowIh, restIh⟩

/-- What a placed node says about itself is what its description says. -/
theorem Placed.exists_startAt {source : Text} {low high : Nat} {forest : Forest SpecInfo}
    {placed : Forest NodeInfo} (h : forest.Placed source low high placed)
    {parent position : Nat} {node : Node} (hn : node ∈ placed.nodes parent position) :
    ∃ info start, node.toNodeInfo = SpecInfo.startAt info start := by
  induction h generalizing parent position with
  | nil => cases hn
  | cons _ _ _ _ _ belowIh restIh =>
      rcases List.mem_cons.mp hn with rfl | inside
      · exact ⟨_, _, rfl⟩
      · rcases List.mem_append.mp inside with deep | right
        · exact belowIh deep
        · exact restIh right

end Forest

namespace Spec

variable {spec : Spec} {source : Text}

theorem slice_of_rootStart? {text : Text} {offset : Option Int} {start : Nat}
    (h : rootStart? source text offset = some start) :
    source.slice start (start + text.length) = text := by
  cases offset with
  | none => exact Text.slice_of_indexWithin? h
  | some offset =>
      rw [rootStart?] at h
      split at h
      · cases h
      · split at h
        · rename_i here
          exact Option.some.inj h ▸ here
        · cases h

theorem placed_of_locate {offset : Option Int} {outline : Outline}
    (h : spec.locate source offset = .ok outline) :
    ∃ start, spec.Placed source start outline := by
  rw [locate] at h
  cases first : rootStart? source spec.label.text offset with
  | none =>
      rw [first] at h
      cases h
  | some start =>
      simp only [first] at h
      cases inner : spec.below.locate source spec.label.kind start
          (start + spec.label.text.length) with
      | error fault =>
          rw [inner] at h
          cases h
      | ok below =>
          rw [inner] at h
          obtain rfl := Except.ok.inj h
          exact ⟨start, rfl, slice_of_rootStart? first, Forest.placed_of_locate inner⟩

/-- The tree of a description is the arena of a placement of it. -/
theorem exists_placed {offset : Option Int} {tree : Tree}
    (built : spec.toTree source offset = .ok tree) :
    ∃ start outline, spec.Placed source start outline ∧ tree = outline.toTree source := by
  rw [toTree] at built
  cases located : spec.locate source offset with
  | error fault =>
      rw [located] at built
      cases built
  | ok outline =>
      rw [located] at built
      obtain ⟨start, placed⟩ := placed_of_locate located
      exact ⟨start, outline, placed, (Except.ok.inj built).symm⟩

theorem Placed.fits {start : Nat} {outline : Outline}
    (h : spec.Placed source start outline) : outline.Fits := by
  rw [Outline.Fits, h.label]
  exact h.below.fits

theorem Placed.exists_startAt {start : Nat} {outline : Outline}
    (h : spec.Placed source start outline) {node : Node}
    (hn : node ∈ (outline.toTree source).nodes) :
    ∃ info position, node.toNodeInfo = SpecInfo.startAt info position := by
  rcases List.mem_cons.mp hn with rfl | deeper
  · exact ⟨spec.label, start, h.label⟩
  · exact h.below.exists_startAt deeper

/-- The call `f(x, x)`: both arguments have the same text. -/
def repeatedArgument : Spec :=
  let plain (kind : Kind) (text : String) : SpecInfo :=
    ⟨kind, Text.ofString text, none, none, none⟩
  ⟨plain .methodInvocation "f(x, x)",
    .cons Role.name.toText (plain .simpleName "f") .nil
      (.cons Role.arguments.toText (plain .simpleName "x") .nil
        (.cons Role.arguments.toText (plain .simpleName "x") .nil .nil))⟩

end Spec

end SketchHelp
