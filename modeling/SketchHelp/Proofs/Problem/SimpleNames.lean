import SketchHelp.Proofs.Problem.Classification
import SketchHelp.Proofs.Sketch.Locality

/-!
The types on a page. They come from arguments of problems, texts and types of nodes,
bindings and the source of a sketch, where they may be qualified; a hint has none but simple
names, and so have the parameters of its page.
-/

namespace SketchHelp

/-! ### Parameters -/

namespace Page

/-- The keys under which a page expects a type or a list of types. -/
def typeKeys : List Text :=
  ["typename", "classname", "returntype", "methodtypename", "methodreturntype",
    "staticmethodreturntype", "providedtypes", "requiredtypes", "typeonename",
    "typetwoname"].map Text.ofString

/-- What stands under the key of a type has no qualifier. -/
def HasSimpleTypes (parameters : Parameters) : Prop :=
  ∀ parameter ∈ parameters, parameter.1 ∈ typeKeys → parameter.2.IsSimple

namespace HasSimpleTypes

variable {key value : Text} {parameters more : Parameters}

theorem nil : HasSimpleTypes [] :=
  nofun

theorem type (simple : value.IsSimple) (h : HasSimpleTypes parameters) :
    HasSimpleTypes ((key, value) :: parameters) :=
  List.forall_mem_cons.mpr ⟨fun _ => simple, h⟩

theorem other (notType : key ∉ typeKeys) (h : HasSimpleTypes parameters) :
    HasSimpleTypes ((key, value) :: parameters) :=
  List.forall_mem_cons.mpr ⟨fun isType => absurd isType notType, h⟩

theorem append (h : HasSimpleTypes parameters) (hmore : HasSimpleTypes more) :
    HasSimpleTypes (parameters ++ more) :=
  List.forall_mem_append.mpr ⟨h, hmore⟩

end HasSimpleTypes

end Page

namespace Hint

open Page

theorem isSimple_joined {names : List Text} (h : ∀ name ∈ names, name.IsSimple) :
    (joined names).IsSimple := by
  unfold joined
  induction names with
  | nil => exact List.not_mem_nil
  | cons first rest ih =>
      obtain ⟨simple, others⟩ := List.forall_mem_cons.mp h
      cases rest with
      | nil => rwa [List.intercalate_singleton]
      | cons second rest =>
          have comma : separator.IsSimple := by decide
          rw [List.intercalate_cons_cons]
          intro dot
          rcases List.mem_append.mp dot with front | behind
          · exact (List.mem_append.mp front).elim simple comma
          · exact ih others behind

theorem hasSimpleTypes_staticParameters {name returnType : Option Text}
    (h : ∀ type ∈ returnType.toList, type.IsSimple) :
    HasSimpleTypes (staticParameters name returnType) := by
  cases name with
  | none => exact .nil
  | some name =>
      have simple : (returnType.getD []).IsSimple := by
        cases returnType with
        | none => exact List.not_mem_nil
        | some type => exact h type List.mem_cons_self
      exact .other (by decide) (.type simple .nil)

theorem hasSimpleTypes_calledParameters {returnType : Option Text}
    (h : ∀ type ∈ returnType.toList, type.IsSimple) :
    HasSimpleTypes (calledParameters returnType) := by
  cases returnType with
  | none => exact .nil
  | some type => exact .type (h type List.mem_cons_self) .nil

/-- If the types of a hint are simple names, so is all that its page shows under the key
of a type. -/
theorem hasSimpleTypes_parameters {hint : Hint} (h : ∀ type ∈ hint.types, type.IsSimple) :
    HasSimpleTypes hint.parameters := by
  cases hint with
  | arrayMissingDimension typeName arrayName
  | arrayTwoDimMismatch typeName arrayName
  | arrayTwoInitializers typeName arrayName
  | incorrectVariableDeclaration typeName foundName =>
      have simple := List.forall_mem_singleton.mp h
      exact .type simple (.other (by decide) .nil)
  | incorrectMethodDeclaration methodName => exact .other (by decide) .nil
  | missingMethod methodName returnType providedParams providedTypes correctMethodName =>
      obtain ⟨simple, provided⟩ := List.forall_mem_cons.mp h
      exact .other (by decide) (.other (by decide) (.type simple (.other (by decide)
        (.type (isSimple_joined provided) .nil))))
  | paramMismatch className methodName methodReturnType providedTypes requiredTypes =>
      obtain ⟨classSimple, rest⟩ := List.forall_mem_cons.mp h
      obtain ⟨returnSimple, lists⟩ := List.forall_mem_cons.mp rest
      obtain ⟨provided, required⟩ := List.forall_mem_append.mp lists
      exact .type classSimple (.other (by decide) (.type returnSimple
        (.type (isSimple_joined provided) (.type (isSimple_joined required) .nil))))
  | missingReturn methodName returnType requiredTypes =>
      obtain ⟨simple, required⟩ := List.forall_mem_cons.mp h
      exact .other (by decide) (.type simple (.type (isSimple_joined required) .nil))
  | nonStaticFromStatic fileName methodName staticName staticReturnType returnType =>
      obtain ⟨static, called⟩ := List.forall_mem_append.mp h
      exact .other (by decide) (.append (hasSimpleTypes_staticParameters static)
        (.append (hasSimpleTypes_calledParameters called) (.other (by decide) .nil)))
  | methodCallOnWrongType methodName returnType typeName variableText =>
      obtain ⟨returnSimple, rest⟩ := List.forall_mem_cons.mp h
      have simple := List.forall_mem_singleton.mp rest
      exact .other (by decide) (.type returnSimple (.type simple (.other (by decide) .nil)))
  | typeMismatch providedType requiredType variableName =>
      obtain ⟨provided, rest⟩ := List.forall_mem_cons.mp h
      have required := List.forall_mem_singleton.mp rest
      exact .type provided (.type required (.other (by decide) .nil))
  | missingType missing variableName correctClassName =>
      have simple := List.forall_mem_singleton.mp h
      exact .type simple (.other (by decide) (.other (by decide) .nil))
  | missingVariable variableName variableType =>
      have simple := List.forall_mem_singleton.mp h
      exact .type simple (.other (by decide) .nil)
  | uninitializedVariable variableName variableType =>
      have simple := List.forall_mem_singleton.mp h
      exact .other (by decide) (.type simple .nil)
  | extraneousClosingBrace snippet fixed => exact .other (by decide) (.other (by decide) .nil)
  | unexpectedToken typeName => exact .type (List.forall_mem_singleton.mp h) .nil
  | variableDeclaratorsSyntaxError expressionText typeName =>
      have simple := List.forall_mem_singleton.mp h
      exact .other (by decide) (.type simple .nil)

/-- Neither the types of the hint nor those on its page are qualified. -/
structure IsUnqualified (hint : Hint) : Prop where
  types : ∀ type ∈ hint.types, type.IsSimple
  parameters : HasSimpleTypes hint.parameters

theorem isUnqualified {hint : Hint} (h : ∀ type ∈ hint.types, type.IsSimple) :
    hint.IsUnqualified :=
  ⟨h, hasSimpleTypes_parameters h⟩

end Hint

/-! ### Hints -/

theorem SketchError.IsSketchHint.isUnqualified {hint : Hint} (h : IsSketchHint hint) :
    hint.IsUnqualified := by
  apply Hint.isUnqualified
  cases h with
  | extraneousClosingBrace snippet fixed => exact nofun
  | incorrectVariableDeclaration word name =>
      exact List.forall_mem_singleton.mpr (Text.isSimple_trimType word)
  | incorrectMethodDeclaration name => exact nofun
  | unexpectedToken token =>
      exact List.forall_mem_singleton.mpr (Text.isSimple_trimType token)

namespace Diagnostic

/-- At a node of a sound tree every diagnostic is answered, without qualified names. -/
theorem hintAt_isUnqualified {tree : Tree} (sound : tree.IsSound) {node : Node}
    (mem : node ∈ tree.nodes) (diagnostic : Diagnostic) :
    Tree.Yields (diagnostic.hintAt tree node) fun found =>
      ∀ hint ∈ found, hint.IsUnqualified := by
  unfold hintAt
  cases diagnostic.code with
  | raw number => exact .none
  | known problem =>
      refine (sound.hintFor_yields mem diagnostic problem).mono fun found all hint given => ?_
      exact Hint.isUnqualified (all hint given).simple

theorem classify_isUnqualified {spec : Spec} {source : Text} {offset : Option Int}
    {tree : Tree} (built : spec.toTree source offset = .ok tree) (diagnostic : Diagnostic) :
    Tree.Yields (diagnostic.classify tree) fun found =>
      ∀ hint ∈ found, hint.IsUnqualified := by
  have sound := spec.isSound_of_toTree built
  obtain ⟨start, outline, -, rfl⟩ := spec.exists_placed built
  exact .bind (Tree.nodeAt_yields outline source _) fun node mem =>
    hintAt_isUnqualified sound mem diagnostic

end Diagnostic

/-- No qualified name comes with a hint, be it for a diagnostic on the tree of a
description or for the message of a sketch, and none is shown as a type on a page. -/
theorem Hint.isUnqualified_of_classify :
    (∀ (spec : Spec) (source : Text) (offset : Option Int) (tree : Tree),
      spec.toTree source offset = .ok tree → ∀ diagnostic : Diagnostic,
        (∀ node ∈ tree.nodes, ∃ found, diagnostic.hintAt tree node = .ok found ∧
          ∀ hint ∈ found, hint.IsUnqualified) ∧
        ∃ found, diagnostic.classify tree = .ok found ∧
          ∀ hint ∈ found, hint.IsUnqualified) ∧
      ∀ (message source : Text) (offset : Int),
        ∃ found, SketchError.classify message source offset = .ok found ∧
          ∀ hint ∈ found, hint.IsUnqualified := by
  constructor
  · intro spec source offset tree built diagnostic
    have sound := spec.isSound_of_toTree built
    exact ⟨fun node mem => Diagnostic.hintAt_isUnqualified sound mem diagnostic,
      Diagnostic.classify_isUnqualified built diagnostic⟩
  · intro message source offset
    obtain ⟨found, classified, all⟩ := SketchError.exists_classify message source offset
    exact ⟨found, classified, fun hint h => (all hint h).isUnqualified⟩

/-- An argument of a type that does not fit, qualified as a compiler reports it. -/
def Diagnostic.qualifiedMismatch : Diagnostic :=
  ⟨.known .typeMismatch, [Text.ofString "java.lang.String", Text.ofString "int"],
    unknownCall.span⟩

theorem Hint.isUnqualified_of_classify_qualifiedMismatch :
    ∃ tree, Spec.repeatedArgument.toTree (Text.ofString "f(x, x)") none = .ok tree ∧
      ∃ hint, Diagnostic.qualifiedMismatch.classify tree = .ok (some hint) ∧
        hint.types = [Text.ofString "String", Text.ofString "int"] ∧ hint.IsUnqualified := by
  have built : Spec.repeatedArgument.toTree (Text.ofString "f(x, x)") none = .ok _ := rfl
  obtain ⟨-, found, given, all⟩ :=
    isUnqualified_of_classify.1 _ _ _ _ built Diagnostic.qualifiedMismatch
  cases found with
  | none => cases given
  | some hint =>
      refine ⟨_, built, hint, given, ?_, all hint rfl⟩
      obtain rfl := Option.some.inj (Except.ok.inj given)
      decide

end SketchHelp
