import SketchHelp.Proofs.Tree.Placement
import SketchHelp.Tree.NodeAt

/-!
Reading a tree without faults. A tree is sound if its slots name nodes of the tree and
its annotations are texts or absent, which is all that reading it relies on. The tree of
a description is sound, and in the tree of any outline the search for the node of a range
comes to an end.
-/

namespace SketchHelp

/-- An annotation that was checked: a text, or absent. -/
def Value.IsTextual (value : Value) : Prop :=
  ∃ text, value = .ofText? text

namespace Tree

/-! ### Results -/

/-- The computation comes to a result, and the result has the property. -/
def Yields {α : Type} (computation : Except Fault α) (property : α → Prop) : Prop :=
  ∃ result, computation = .ok result ∧ property result

section

variable {α β : Type} {property : α → Prop} {wanted : β → Prop}

theorem Yields.pure {a : α} (h : property a) : Yields (Pure.pure a) property :=
  ⟨a, rfl, h⟩

theorem Yields.none : Yields (Pure.pure none) fun found : Option β => ∀ b ∈ found, wanted b :=
  .pure fun _ h => nomatch h

theorem Yields.some {b : β} (h : wanted b) :
    Yields (Pure.pure (some b)) fun found => ∀ b ∈ found, wanted b := by
  refine .pure fun other ho => ?_
  obtain rfl := Option.mem_some.mp ho
  exact h

theorem Yields.bind {computation : Except Fault α} {next : α → Except Fault β}
    (first : Yields computation property)
    (later : ∀ a, property a → Yields (next a) wanted) :
    Yields (computation >>= next) wanted := by
  obtain ⟨a, rfl, ha⟩ := first
  exact later a ha

theorem Yields.mono {computation : Except Fault α} {weaker : α → Prop}
    (h : Yields computation property) (weaken : ∀ a, property a → weaker a) :
    Yields computation weaker := by
  obtain ⟨a, eq, ha⟩ := h
  exact ⟨a, eq, weaken a ha⟩

theorem Yields.mapM {f : α → Except Fault β} {items : List α}
    (each : ∀ a ∈ items, Yields (f a) wanted) :
    Yields (items.mapM f) fun results =>
      results.length = items.length ∧ ∀ b ∈ results, wanted b := by
  induction items with
  | nil => exact .pure ⟨rfl, fun b hb => nomatch hb⟩
  | cons a items ih =>
      rw [List.mapM_cons]
      apply Yields.bind (each a List.mem_cons_self)
      intro b hb
      refine .bind (ih fun other ho => each other (List.mem_cons_of_mem a ho)) ?_
      rintro results ⟨lengths, all⟩
      refine .pure ⟨congrArg (· + 1) lengths, fun result hr => ?_⟩
      rcases List.mem_cons.mp hr with rfl | later
      · exact hb
      · exact all result later

theorem Yields.findSomeM? {f : α → Except Fault (Option β)} {items : List α}
    (each : ∀ a ∈ items, Yields (f a) fun found => ∀ b ∈ found, wanted b) :
    Yields (items.findSomeM? f) fun found => ∀ b ∈ found, wanted b := by
  induction items with
  | nil => exact .none
  | cons a items ih =>
      rw [List.findSomeM?_cons]
      apply Yields.bind (each a List.mem_cons_self)
      intro found hfound
      cases found with
      | none => exact ih fun other ho => each other (List.mem_cons_of_mem a ho)
      | some b => exact .pure hfound

end

/-! ### Soundness -/

/-- Slots name nodes of the tree, and annotations are texts or absent. -/
structure IsSound (tree : Tree) : Prop where
  childrenIn : ∀ node ∈ tree.nodes, ∀ role,
    Yields (tree.childrenIn node role) fun children => ∀ child ∈ children, child ∈ tree.nodes
  operator : ∀ node ∈ tree.nodes, node.operator.IsTextual
  resolvedType : ∀ node ∈ tree.nodes, node.resolvedType.IsTextual

section Carries

variable {tree : Tree} {node : Node} {below : Forest NodeInfo}

theorem Carries.childrenIn_yields (h : tree.Carries node below) (role : Text) :
    Yields (tree.childrenIn node role) fun children =>
      ∀ child ∈ children, child ∈ tree.nodes := by
  have eq := h.childrenIn_eq role
  exact ⟨_, eq, fun child hc => (h.of_mem_childrenIn eq hc).1⟩

/-- Children carry smaller rows. -/
theorem Carries.children_yields (h : tree.Carries node below) :
    Yields (tree.children node) fun children => ∀ child ∈ children,
      ∃ under, tree.Carries child under ∧ under.size < below.size := by
  refine ⟨_, h.children_eq, fun child hc => ?_⟩
  exact h.row.carries_of_mem_tops ((StableSort.sort_perm ..).mem_iff.mp hc)

/-! ### The node of a range -/

/-- The row below a node gets smaller with every level, so the depth that the search is
given lasts. -/
theorem Carries.firstCovered_yields (h : tree.Carries node below) (range : Range)
    {limit : Nat} (enough : below.size < limit) :
    Yields (tree.firstCovered range limit node) fun found =>
      ∀ inner ∈ found, inner ∈ tree.nodes := by
  induction limit generalizing node below with
  | zero => omega
  | succ limit ih =>
      rw [firstCovered]
      refine .bind h.children_yields fun children hchildren => .findSomeM? fun child hc => ?_
      obtain ⟨under, carries, smaller⟩ := hchildren child hc
      split
      · exact .some carries.mem
      split
      · exact ih carries (by omega)
      · exact .none

theorem Carries.settle_yields (h : tree.Carries node below) (range : Range) :
    Yields (tree.settle range node) (· ∈ tree.nodes) := by
  unfold settle
  split
  · exact .pure h.mem
  · refine .bind (h.firstCovered_yields range h.size_lt) fun found hfound => .pure ?_
    cases found with
    | none => exact h.mem
    | some inner => exact hfound inner rfl

theorem Carries.descend_yields (h : tree.Carries node below) (range : Range)
    {limit : Nat} (enough : below.size < limit) :
    Yields (tree.descend range limit node) (· ∈ tree.nodes) := by
  induction limit generalizing node below with
  | zero => omega
  | succ limit ih =>
      rw [descend]
      apply Yields.bind h.children_yields
      intro children hchildren
      split
      · exact h.settle_yields range
      · rename_i child found
        obtain ⟨under, carries, smaller⟩ := hchildren child (List.mem_of_find?_eq_some found)
        split
        · exact .pure carries.mem
        · exact ih carries (by omega)

end Carries

/-- Every range has a node, an empty one and one beyond the source included. -/
theorem nodeAt_yields (outline : Outline) (source : Text) (range : Range) :
    Yields ((outline.toTree source).nodeAt range) (· ∈ (outline.toTree source).nodes) := by
  have root := carries_root outline source
  exact root.descend_yields range root.size_lt

/-- The tree of an outline is sound once its annotations are checked. -/
theorem isSound_toTree {outline : Outline} {source : Text}
    (textual : ∀ node ∈ (outline.toTree source).nodes,
      node.operator.IsTextual ∧ node.resolvedType.IsTextual) :
    (outline.toTree source).IsSound where
  childrenIn := by
    intro node mem role
    obtain ⟨below, carries⟩ := carries_of_mem mem
    exact carries.childrenIn_yields role
  operator node mem := (textual node mem).1
  resolvedType node mem := (textual node mem).2

end Tree

namespace Spec

variable {spec : Spec} {source : Text}

theorem isSound_of_toTree {offset : Option Int} {tree : Tree}
    (built : spec.toTree source offset = .ok tree) : tree.IsSound := by
  obtain ⟨start, outline, placed, rfl⟩ := exists_placed built
  refine Tree.isSound_toTree fun node h => ?_
  obtain ⟨info, position, eq⟩ := placed.exists_startAt h
  exact ⟨⟨info.operator, congrArg NodeInfo.operator eq⟩,
    ⟨info.resolvedType, congrArg NodeInfo.resolvedType eq⟩⟩

end Spec

end SketchHelp
