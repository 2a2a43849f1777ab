import SketchHelp.Proofs.Problem.Classification
import SketchHelp.Proofs.Tree.Format

/-!
Classification on trees of data. Reading takes operators and types as they stand, while
classification works with texts, so this is where it depends on the data: if every object
in the data has a text, null or nothing for either, each diagnostic is answered as on any
other tree.
-/

namespace SketchHelp

open Load

/-- The annotations of an object that reading leaves as they are have a form that
classification can use. -/
def Load.IsAnnotated (fields : Fields) : Prop :=
  (optional fields "operator").IsTextual ∧ (optional fields "type").IsTextual

namespace Tree

/-- Each node of a tree of data stands for some object in the data. -/
theorem Mirrors.exists_states {tree : Tree} {data : Value} {source : Text}
    {entries : List (List Nat × Node)} (h : tree.Mirrors data source entries) {node : Node}
    (mem : node ∈ tree.nodes) :
    ∃ path fields, data.mapping? path = some fields ∧
      States source fields node.toNodeInfo := by
  rw [← h.nodes] at mem
  obtain ⟨entry, listed, rfl⟩ := List.mem_map.mp mem
  exact ⟨entry.1, h.states entry listed⟩

end Tree

namespace Diagnostic

/-- On a tree of data whose operators and types are texts or absent, classification comes
to a result, which is a consistent hint of a category that the problem leads to, or none. -/
theorem classify_of_load {data : Value} {source : Text} {tree : Tree}
    (loaded : Tree.load data source = .ok tree)
    (annotated : ∀ path fields, data.mapping? path = some fields → IsAnnotated fields)
    (diagnostic : Diagnostic) :
    Tree.Yields (diagnostic.classify tree) fun result => ∀ hint ∈ result,
      hint.IsConsistent ∧ ∃ problem, diagnostic.code = .known problem ∧
        hint.category ∈ problem.categories := by
  obtain ⟨fields, items, outline, rfl, stated, listed, below, rfl⟩ :=
    Tree.load_eq_ok_iff.mp loaded
  have sound : (outline.toTree source).IsSound := by
    obtain ⟨entries, mirrors⟩ := Tree.exists_mirrors_toTree stated listed below
    refine Tree.isSound_toTree fun node mem => ?_
    -- Both annotations of a node are those of the object that it stands for.
    obtain ⟨path, own, leads, states⟩ := mirrors.exists_states mem
    rw [states.operator, states.resolvedType]
    exact annotated path own leads
  refine .bind (Tree.nodeAt_yields outline source _) fun node mem => ?_
  unfold hintAt
  cases diagnostic.code with
  | raw number => exact .none
  | known problem =>
      refine (sound.hintFor_yields mem diagnostic problem).mono fun result all hint found => ?_
      have made := all hint found
      exact ⟨made.consistent, problem, rfl, made.category⟩

/-- An unknown variable `x`, at the place of the unknown method. -/
def unknownVariable : Diagnostic :=
  { unknownCall with code := .known .unresolvedVariable, arguments := ["x"] }

/-- The declaration of `x`, of a type that is given. -/
def declarationOf (type : Value) : Value :=
  .object [("kind", .text "variable_declaration_fragment"), ("start", .int 0), ("end", .int 1),
    ("type", type), ("children", .list [.object [("kind", .text "simple_name"),
      ("start", .int 0), ("end", .int 1), ("role", .text "name")]])]

/-- The tree that the declaration spells. -/
def outlineOf (type : Value) : Outline where
  label := {
    kind := .variableDeclarationFragment
    span := unknownVariable.span
    text := "x"
    operator := .null
    resolvedType := type
    method := none }
  below := .cons "name" {
    kind := .simpleName
    span := unknownVariable.span
    text := "x"
    operator := .null
    resolvedType := .null
    method := none } .nil .nil

theorem load_declarationOf (type : Value) :
    Tree.load (declarationOf type) "x" = .ok ((outlineOf type).toTree "x") := by
  refine Tree.load_eq_ok_iff.mpr ⟨_, _, outlineOf type, rfl, ?_, rfl,
    .cons rfl ?_ rfl .nil .nil, rfl⟩
  all_goals exact ⟨rfl, ⟨_, rfl, rfl⟩, ⟨_, rfl, rfl⟩, rfl, rfl, rfl, rfl⟩

theorem classify_of_load_declarationOf_int :
    ∃ tree, Tree.load (declarationOf (.text "int")) "x" = .ok tree ∧
      Tree.Yields (unknownVariable.classify tree) fun result => ∀ hint ∈ result,
        hint.IsConsistent ∧ ∃ problem, unknownVariable.code = .known problem ∧
          hint.category ∈ problem.categories := by
  have loaded := load_declarationOf (.text "int")
  refine ⟨_, loaded, classify_of_load loaded (fun path fields leads => ?_) unknownVariable⟩
  rcases path with _ | ⟨_ | position, _ | ⟨next, path⟩⟩
  · cases leads
    exact ⟨⟨none, rfl⟩, ⟨some "int", rfl⟩⟩
  · cases leads
    exact ⟨⟨none, rfl⟩, ⟨none, rfl⟩⟩
  all_goals cases leads

theorem classify_declarationOf_number :
    ∃ tree, Tree.load (declarationOf (.int 5)) "x" = .ok tree ∧
      unknownVariable.classify tree = .error .notText :=
  ⟨_, load_declarationOf (.int 5), rfl⟩

end Diagnostic

end SketchHelp
