import SketchHelp.Tree.Basic
import SketchHelp.Tree.Forest

/-!
From a nested tree whose nodes all have their spans to the arena that holds the same
nodes in preorder. The positions written into the arena are in order by construction,
so this step cannot fail.
-/

namespace SketchHelp

/-- A nested tree that only lacks positions. -/
abbrev Outline := Rose NodeInfo

namespace Forest

/-- The nodes of a row of trees below the node at `parent`, the first of them at
`position`. -/
def nodes (parent position : Nat) : Forest NodeInfo → List Node
  | nil => []
  | cons _ info below rest =>
    { toNodeInfo := info, index := position, parent := some parent,
      roles := RoleMap.ofPositions (below.slots (position + 1)) } ::
      (below.nodes position (position + 1) ++
        rest.nodes parent (position + 1 + below.size))

@[simp] theorem nodes_length (parent position : Nat) (forest : Forest NodeInfo) :
    (forest.nodes parent position).length = forest.size := by
  induction forest generalizing parent position with
  | nil => rfl
  | cons role info below rest belowIh restIh =>
    simp only [nodes, size, List.length_cons, List.length_append, belowIh, restIh]
    omega

/-- Nodes stand where they say, and parents stand before their children. -/
theorem getElem?_nodes {parent position : Nat} {forest : Forest NodeInfo}
    (before : parent < position) {k : Nat} {node : Node}
    (hk : (forest.nodes parent position)[k]? = some node) :
    node.index = position + k ∧ ∃ p, node.parent = some p ∧ p < position + k := by
  induction forest generalizing parent position k with
  | nil => simp [nodes] at hk
  | cons role info below rest belowIh restIh =>
    cases k with
    | zero =>
      simp only [nodes, List.getElem?_cons_zero, Option.some.injEq] at hk
      subst hk
      exact ⟨rfl, parent, rfl, by omega⟩
    | succ k =>
      simp only [nodes, List.getElem?_cons_succ, List.getElem?_append] at hk
      split at hk
      · obtain ⟨hi, p, hp, lt⟩ := belowIh (by omega) hk
        exact ⟨by omega, p, hp, by omega⟩
      · rename_i far
        simp only [nodes_length] at far hk
        obtain ⟨hi, p, hp, lt⟩ := restIh (by omega) hk
        exact ⟨by omega, p, hp, by omega⟩

end Forest

namespace Outline

def nodes (outline : Outline) : List Node :=
  { toNodeInfo := outline.label, index := 0, parent := none,
    roles := RoleMap.ofPositions (outline.below.slots 1) } :: outline.below.nodes 0 1

@[simp] theorem nodes_length (outline : Outline) :
    (nodes outline).length = outline.size := by
  simp [nodes, Rose.size]

theorem isLinked_nodes (outline : Outline) (k : Nat) (node : Node)
    (hk : (nodes outline)[k]? = some node) :
    node.IsLinked (nodes outline).length k := by
  have bound := (List.getElem?_eq_some_iff.mp hk).1
  cases k with
  | zero =>
    simp only [nodes, List.getElem?_cons_zero, Option.some.injEq] at hk
    subst hk
    exact ⟨rfl, rfl⟩
  | succ k =>
    simp only [nodes, List.getElem?_cons_succ] at hk
    obtain ⟨hi, p, hp, lt⟩ := Forest.getElem?_nodes (by omega) hk
    refine ⟨by omega, ?_⟩
    rw [hp]
    exact ⟨by omega, by omega, by omega⟩

/-- The arena with the nodes of an outline in preorder. -/
def toTree (outline : Outline) (source : Text) : Tree where
  nodes := nodes outline
  source := source
  nonempty := by simp [nodes]
  linked := isLinked_nodes outline

end Outline

end SketchHelp
