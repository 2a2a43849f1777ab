import SketchHelp.Problem.Classify
import SketchHelp.Proofs.Tree.Surroundings

/-!
What classification comes to. On a sound tree every problem is answered, by a hint of one
of the categories that its kind leads to or by none, and never with a fault. A hint is
consistent, whatever the tree lacks: lists that belong together are equally long, and what
is known about a method only as a whole is there as a whole. Its types are simple names.
That all its parameters are texts is so by type.
-/

namespace SketchHelp

/-- The categories that a problem may be classified as. -/
def Problem.categories : Problem → List Category
  | .undefinedType => [.missingType]
  | .typeMismatch | .returnTypeMismatch => [.typeMismatch]
  | .unresolvedVariable => [.missingVariable]
  | .uninitializedLocalVariable => [.uninitializedVariable]
  | .undefinedField | .undefinedName => [.variableDeclaratorsSyntaxError]
  | .undefinedMethod => [.missingMethod]
  | .parameterMismatch => [.paramMismatch]
  | .shouldReturnValue => [.missingReturn]
  | .staticMethodRequested => [.nonStaticFromStatic]
  | .noMessageSendOnBaseType | .noMessageSendOnArrayType => [.methodCallOnWrongType]
  | .mustDefineEitherDimensionExpressionsOrInitializer => [.arrayMissingDimension]
  | .illegalDimension => [.arrayTwoDimMismatch]
  | .cannotDefineDimensionExpressionsWithInit => [.arrayTwoInitializers]
  | .parsingErrorInsertToComplete =>
    [.variableDeclaratorsSyntaxError, .incorrectVariableDeclaration, .unexpectedToken]
  | .parsingErrorDeleteToken => [.unexpectedToken]

/-- Only incomplete code can mean several things. -/
theorem Problem.length_categories (problem : Problem) :
    problem.categories.length =
      if problem = .parsingErrorInsertToComplete then 3 else 1 := by
  cases problem <;> rfl

namespace Hint

/-- Parts of a hint that belong together agree. -/
def IsConsistent : Hint → Prop
  | missingMethod _ _ providedParams providedTypes _ =>
    providedParams.length = providedTypes.length
  | nonStaticFromStatic _ _ staticMethodName staticMethodReturnType _ =>
    staticMethodName.isSome = staticMethodReturnType.isSome
  | _ => True

/-- The types that a hint names. -/
def types : Hint → List Text
  | arrayMissingDimension typeName _
  | arrayTwoDimMismatch typeName _
  | arrayTwoInitializers typeName _
  | incorrectVariableDeclaration typeName _
  | unexpectedToken typeName
  | variableDeclaratorsSyntaxError _ typeName => [typeName]
  | missingMethod _ returnType _ providedTypes _ => returnType :: providedTypes
  | paramMismatch className _ methodReturnType providedTypes requiredTypes =>
    className :: methodReturnType :: (providedTypes ++ requiredTypes)
  | missingReturn _ returnType requiredTypes => returnType :: requiredTypes
  | nonStaticFromStatic _ _ _ staticMethodReturnType methodReturnType =>
    staticMethodReturnType.toList ++ methodReturnType.toList
  | methodCallOnWrongType _ returnType typeName _ => [returnType, typeName]
  | typeMismatch providedType requiredType _ => [providedType, requiredType]
  | missingType missing _ _ => [missing]
  | missingVariable _ variableType | uninitializedVariable _ variableType => [variableType]
  | incorrectMethodDeclaration _ | extraneousClosingBrace _ _ => []

/-- A well-made hint of one of some categories. -/
structure IsAmong (categories : List Category) (hint : Hint) : Prop where
  category : hint.category ∈ categories
  consistent : hint.IsConsistent
  simple : ∀ type ∈ hint.types, type.IsSimple

theorem IsAmong.mono {few many : List Category} {hint : Hint} (h : hint.IsAmong few)
    (sub : few ⊆ many) : hint.IsAmong many :=
  ⟨sub h.category, h.consistent, h.simple⟩

end Hint

namespace Tree

/-- Whatever hint the computation comes to, it is a well-made one. -/
abbrev YieldsAmong (categories : List Category)
    (computation : Except Fault (Option Hint)) : Prop :=
  Yields computation fun found => ∀ hint ∈ found, hint.IsAmong categories

theorem Yields.mono_among {few many : List Category}
    {computation : Except Fault (Option Hint)} (h : YieldsAmong few computation)
    (sub : few ⊆ many) : YieldsAmong many computation :=
  h.mono fun _ all hint found => (all hint found).mono sub

theorem isSimple_map_trimType (names : List Text) :
    ∀ type ∈ names.map Text.trimType, type.IsSimple := by
  intro type h
  obtain ⟨name, -, rfl⟩ := List.mem_map.mp h
  exact Text.isSimple_trimType name

namespace IsSound

variable {tree : Tree} {node : Node} (sound : tree.IsSound)

include sound

/-! ### Arrays -/

theorem missingDimensionHint_yields (mem : node ∈ tree.nodes) :
    YieldsAmong [.arrayMissingDimension] (tree.missingDimensionHint node) := by
  apply Yields.bind (sound.declarationFragment_yields mem)
  intro found hfound
  cases found with
  | none => exact .none
  | some fragment =>
      refine .bind (sound.declaredName_yields (hfound fragment rfl)) fun name _ => .some ?_
      exact ⟨List.mem_cons_self, trivial,
        List.forall_mem_singleton.mpr (Text.isSimple_trimType _)⟩

theorem creationType_yields (mem : node ∈ tree.nodes) :
    Yields (tree.creationType node) Value.IsTextual := by
  apply Yields.bind (sound.childText_yields mem .type)
  intro found _
  cases found with
  | none => exact .pure ((sound.resolvedType node mem).orText [])
  | some text => exact .pure (Value.isTextual_text text)

omit sound in
theorem elementName_yields {arrayType : Value} (h : arrayType.IsTextual) :
    Yields (elementName arrayType) Text.IsSimple := by
  unfold elementName
  split
  · exact .pure (by decide)
  · rename_i present
    refine .bind (TypeName.element_yields h (Value.isNull_of_not_isBlank present)) ?_
    exact fun type _ => .pure (Text.isSimple_trimType type)

theorem creationHint_yields (mem : node ∈ tree.nodes) {make : Text → Text → Hint}
    {category : Category}
    (made : ∀ typeName arrayName, typeName.IsSimple →
      (make typeName arrayName).IsAmong [category]) :
    YieldsAmong [category] (tree.creationHint make node) := by
  apply Yields.bind (sound.declarationFragment_yields mem)
  intro found hfound
  cases hp : tree.parent node with
  | none => exact .none
  | some creation =>
      cases found with
      | none => exact .none
      | some fragment =>
          show YieldsAmong [category] (if creation.kind = .arrayCreation then _ else _)
          split
          · apply Yields.bind (sound.creationType_yields (mem_of_parent_eq hp))
            intro type htype
            apply Yields.bind (elementName_yields htype)
            intro typeName hsimple
            apply Yields.bind (sound.declaredName_yields (hfound fragment rfl))
            intro name _
            exact .some (made typeName name hsimple)
          · exact .none

theorem arrayTypeNear_yields {fragment : Node} (hf : fragment ∈ tree.nodes) :
    Yields (tree.arrayTypeNear node fragment) Value.IsTextual := by
  apply Yields.bind (sound.declaredType_yields hf)
  intro declared hdeclared
  split
  · rename_i parent hp
    split
    · exact sound.creationType_yields (mem_of_parent_eq hp)
    · exact .pure hdeclared
  · exact .pure hdeclared

theorem incorrectDeclarationHint_yields (mem : node ∈ tree.nodes) :
    YieldsAmong [.incorrectVariableDeclaration] (tree.incorrectDeclarationHint node) := by
  apply Yields.bind (sound.declarationFragment_yields mem)
  intro found hfound
  cases found with
  | none => exact .none
  | some fragment =>
      have fragmentMem := hfound fragment rfl
      apply Yields.bind (sound.arrayTypeNear_yields fragmentMem)
      intro type htype
      apply Yields.bind (elementName_yields htype)
      intro typeName hsimple
      refine .bind (sound.declaredName_yields fragmentMem) fun name _ => .some ?_
      exact ⟨List.mem_cons_self, trivial, List.forall_mem_singleton.mpr hsimple⟩

/-! ### Methods -/

theorem methodName_yields (mem : node ∈ tree.nodes) (fallback : Text) :
    Yields (tree.methodName node fallback) fun _ => True :=
  .bind (sound.childText_yields mem .name) fun _ _ => .pure trivial

theorem missingMethodHint_yields (node : Node) :
    YieldsAmong [.missingMethod] (tree.missingMethodHint node) := by
  unfold missingMethodHint
  split
  · exact .none
  · rename_i invocation hp
    have mem := mem_of_parent_eq hp
    split
    · apply Yields.bind (sound.childrenIn invocation mem _)
      intro arguments _
      apply Yields.bind (sound.methodName_yields mem _)
      intro name _
      apply Yields.bind (sound.wantedType_parent_yields [] invocation)
      intro returnType simple
      refine .bind (Yields.mapM fun argument _ =>
        sound.wantedType_parent_yields [] argument) fun types htypes => .some ?_
      -- Texts and types are both made of the arguments, one for each.
      refine ⟨List.mem_cons_self, ?_, List.forall_mem_cons.mpr ⟨simple, htypes.2⟩⟩
      show (arguments.map (·.text)).length = types.length
      rw [List.length_map, htypes.1]
    · exact .none

theorem paramMismatchHint_yields (className : Text) (node : Node) :
    YieldsAmong [.paramMismatch] (tree.paramMismatchHint className node) := by
  unfold paramMismatchHint
  split
  · exact .none
  · rename_i invocation hp
    have mem := mem_of_parent_eq hp
    split
    · rename_i method _ _
      apply Yields.bind (sound.childrenIn invocation mem _)
      intro arguments all
      apply Yields.bind (sound.methodName_yields mem method.name)
      intro name _
      refine .bind (Yields.mapM fun argument ha => sound.wantedType_yields []
        fun place hplace => Option.mem_some.mp hplace ▸ all argument ha)
        fun types htypes => .some ?_
      refine ⟨List.mem_cons_self, trivial, List.forall_mem_cons.mpr
        ⟨Text.isSimple_trimType _, List.forall_mem_cons.mpr ⟨Text.isSimple_trimType _, ?_⟩⟩⟩
      exact List.forall_mem_append.mpr ⟨htypes.2, isSimple_map_trimType _⟩
    · exact .none

theorem missingReturnHint_yields (node : Node) :
    YieldsAmong [.missingReturn] (tree.missingReturnHint node) := by
  unfold missingReturnHint
  split
  · exact .none
  · rename_i declaration hp
    have mem := mem_of_parent_eq hp
    split
    · rename_i method _ _
      apply Yields.bind (sound.childText_yields mem .returnType)
      intro returnType _
      refine .bind (sound.methodName_yields mem method.name) fun name _ => .some ?_
      exact ⟨List.mem_cons_self, trivial,
        List.forall_mem_cons.mpr ⟨Text.isSimple_trimType _, isSimple_map_trimType _⟩⟩
    · exact .none

theorem enclosingMethod_yields (mem : node ∈ tree.nodes) :
    Yields (tree.enclosingMethod node) fun found =>
      ∀ method ∈ found, method.2.IsSimple := by
  unfold enclosingMethod
  split
  · exact .none
  · rename_i declaration eq
    have declarationMem := mem_of_firstAncestor_eq mem eq
    apply Yields.bind (sound.methodName_yields declarationMem _)
    intro name _
    apply Yields.bind (sound.childText_yields declarationMem .returnType)
    intro returnType _
    exact .some (Text.isSimple_trimType _)

/-- The name and the return type of the static method come from one declaration. -/
theorem nonStaticHint_yields (mem : node ∈ tree.nodes) (fileName called : Text) :
    Yields (tree.nonStaticHint fileName called node) (Hint.IsAmong [.nonStaticFromStatic]) := by
  refine .bind (sound.enclosingMethod_yields mem) fun enclosing simple => .pure ?_
  refine ⟨List.mem_cons_self, ?_, List.forall_mem_append.mpr ⟨?_, ?_⟩⟩
  · show (enclosing.map (·.1)).isSome = (enclosing.map (·.2)).isSome
    rw [Option.isSome_map, Option.isSome_map]
  · intro type h
    obtain ⟨method, hm, rfl⟩ := Option.map_eq_some_iff.mp (Option.mem_toList.mp h)
    exact simple method hm
  · intro type h
    obtain ⟨method, -, rfl⟩ := Option.map_eq_some_iff.mp (Option.mem_toList.mp h)
    exact Text.isSimple_trimType _

theorem isUntypedStatement_yields (mem : node ∈ tree.nodes) :
    Yields (tree.isUntypedStatement node) fun _ => True := by
  unfold isUntypedStatement
  split
  · exact .bind (sound.childType_yields mem .expression) fun _ _ => .pure trivial
  · exact .pure trivial

theorem callContextType_yields (node : Node) :
    Yields (tree.callContextType node) Text.IsSimple := by
  have void : MethodBinding.voidType.IsSimple := by decide
  unfold callContextType
  split
  · exact .pure void
  · rename_i context eq
    obtain ⟨invocation, -, hp⟩ := Option.bind_eq_some_iff.mp eq
    have mem := mem_of_parent_eq hp
    apply Yields.bind (sound.isUntypedStatement_yields mem)
    intro untyped _
    split
    · exact .pure void
    · exact sound.wantedType_yields [] fun place h => Option.mem_some.mp h ▸ mem

theorem wrongReceiverHint_yields (receiverType called : Text) (node : Node) :
    Yields (tree.wrongReceiverHint receiverType called node)
      (Hint.IsAmong [.methodCallOnWrongType]) := by
  refine .bind (sound.callContextType_yields node) fun returnType simple => .pure ?_
  exact ⟨List.mem_cons_self, trivial, List.forall_mem_cons.mpr
    ⟨simple, List.forall_mem_singleton.mpr (Text.isSimple_trimType _)⟩⟩

/-! ### Variables and syntax -/

theorem typeMismatchHint_yields (mem : node ∈ tree.nodes) (provided wanted : Text) :
    Yields (tree.typeMismatchHint provided wanted node) (Hint.IsAmong [.typeMismatch]) := by
  refine .bind (sound.variableNameNear_yields mem) fun name _ => .pure ?_
  exact ⟨List.mem_cons_self, trivial, List.forall_mem_cons.mpr
    ⟨Text.isSimple_trimType _, List.forall_mem_singleton.mpr (Text.isSimple_trimType _)⟩⟩

theorem missingTypeHint_yields (mem : node ∈ tree.nodes) (missing : Text) :
    Yields (tree.missingTypeHint missing node) (Hint.IsAmong [.missingType]) := by
  refine .bind (sound.variableNameNear_yields mem) fun name _ => .pure ?_
  exact ⟨List.mem_cons_self, trivial,
    List.forall_mem_singleton.mpr (Text.isSimple_trimType _)⟩

theorem declaratorsHint_yields (node : Node) :
    Yields (tree.declaratorsHint node) (Hint.IsAmong [.variableDeclaratorsSyntaxError]) := by
  refine .bind (sound.wantedType_parent_yields [] node) fun typeName simple => .pure ?_
  exact ⟨List.mem_cons_self, trivial, List.forall_mem_singleton.mpr simple⟩

theorem isArrayField_yields {place : Option Node} (mem : ∀ node ∈ place, node ∈ tree.nodes) :
    Yields (tree.isArrayField place) fun _ => True := by
  cases place with
  | none => exact .pure trivial
  | some field =>
      show Yields (if field.kind = .fieldDeclaration then _ else _) _
      split
      · exact .bind (sound.child_yields (mem field rfl) _) fun _ _ => .pure trivial
      · exact .pure trivial

omit sound in
theorem unexpectedToken?_yields (token : Text) :
    YieldsAmong [.unexpectedToken] (Pure.pure (Hint.unexpectedToken? token)) := by
  unfold Hint.unexpectedToken?
  split
  · exact .some ⟨List.mem_cons_self, trivial,
      List.forall_mem_singleton.mpr (Text.isSimple_trimType _)⟩
  · exact .none

/-- Of the three kinds of answer the first is given by an argument of the problem alone. -/
theorem incompleteHint_yields (diagnostic : Diagnostic) (mem : node ∈ tree.nodes) :
    YieldsAmong Problem.parsingErrorInsertToComplete.categories
      (tree.incompleteHint diagnostic node) := by
  have declaration := Yields.mono_among (sound.incorrectDeclarationHint_yields mem)
    (show _ ⊆ Problem.parsingErrorInsertToComplete.categories by decide)
  unfold incompleteHint
  split
  · refine .bind (sound.declaratorsHint_yields node) fun hint h => .some (h.mono ?_)
    decide
  · dsimp only
    split
    · exact declaration
    · have parentMem : ∀ above ∈ tree.parent node, above ∈ tree.nodes :=
        fun above h => mem_of_parent_eq h
      apply Yields.bind (sound.isArrayField_yields parentMem)
      intro arrayField _
      split
      · exact declaration
      · split
        · exact Yields.mono_among (unexpectedToken?_yields TypeName.int) (by decide)
        · exact .none

/-- Every problem is answered, or left without a hint. -/
theorem hintFor_yields (mem : node ∈ tree.nodes) (diagnostic : Diagnostic)
    (problem : Problem) :
    YieldsAmong problem.categories (tree.hintFor diagnostic problem node) := by
  have variableHint {make : Text → Hint} {category : Category} (name : Text)
      (made : ∀ type, type.IsSimple → (make type).IsAmong [category]) :
      YieldsAmong [category] (do return some (make (← tree.variableType name node))) :=
    .bind (sound.wantedType_parent_yields name node) fun type simple =>
      .some (made type simple)
  cases problem with
  | undefinedType => exact .bind (sound.missingTypeHint_yields mem _) fun _ h => .some h
  | typeMismatch => exact .bind (sound.typeMismatchHint_yields mem _ _) fun _ h => .some h
  | returnTypeMismatch =>
      exact .bind (sound.typeMismatchHint_yields mem _ _) fun _ h => .some h
  | unresolvedVariable =>
      exact variableHint _ fun type simple =>
        ⟨List.mem_cons_self, trivial, List.forall_mem_singleton.mpr simple⟩
  | uninitializedLocalVariable =>
      exact variableHint _ fun type simple =>
        ⟨List.mem_cons_self, trivial, List.forall_mem_singleton.mpr simple⟩
  | undefinedField => exact .bind (sound.declaratorsHint_yields node) fun _ h => .some h
  | undefinedName => exact .bind (sound.declaratorsHint_yields node) fun _ h => .some h
  | undefinedMethod => exact sound.missingMethodHint_yields node
  | parameterMismatch => exact sound.paramMismatchHint_yields _ node
  | shouldReturnValue => exact sound.missingReturnHint_yields node
  | staticMethodRequested =>
      exact .bind (sound.nonStaticHint_yields mem _ _) fun _ h => .some h
  | noMessageSendOnBaseType =>
      exact .bind (sound.wrongReceiverHint_yields _ _ node) fun _ h => .some h
  | noMessageSendOnArrayType =>
      exact .bind (sound.wrongReceiverHint_yields _ _ node) fun _ h => .some h
  | mustDefineEitherDimensionExpressionsOrInitializer =>
      exact sound.missingDimensionHint_yields mem
  | illegalDimension =>
      exact sound.creationHint_yields mem fun typeName arrayName simple =>
        ⟨List.mem_cons_self, trivial, List.forall_mem_singleton.mpr simple⟩
  | cannotDefineDimensionExpressionsWithInit =>
      exact sound.creationHint_yields mem fun typeName arrayName simple =>
        ⟨List.mem_cons_self, trivial, List.forall_mem_singleton.mpr simple⟩
  | parsingErrorInsertToComplete => exact sound.incompleteHint_yields diagnostic mem
  | parsingErrorDeleteToken => exact unexpectedToken?_yields _

end IsSound

end Tree

namespace Diagnostic

/-- Classification on the tree of a description always comes to a result. A raw code has
no hint, and a hint is one of a category that the problem leads to, of which there are
three for incomplete code and one for any other problem. -/
theorem classify_of_toTree {spec : Spec} {source : Text} {offset : Option Int} {tree : Tree}
    (built : spec.toTree source offset = .ok tree) (diagnostic : Diagnostic) :
    ∃ result, diagnostic.classify tree = .ok result ∧
      (∀ number, diagnostic.code = .raw number → result = none) ∧
      ∀ hint, result = some hint →
        hint.IsConsistent ∧ ∃ problem, diagnostic.code = .known problem ∧
          hint.category ∈ problem.categories ∧
          problem.categories.length =
            if problem = .parsingErrorInsertToComplete then 3 else 1 := by
  have sound := spec.isSound_of_toTree built
  obtain ⟨node, located, mem⟩ : Tree.Yields (tree.nodeAt diagnostic.span.toRange)
      (· ∈ tree.nodes) := by
    obtain ⟨start, outline, -, rfl⟩ := spec.exists_placed built
    exact Tree.nodeAt_yields outline source _
  have answer : diagnostic.classify tree = diagnostic.hintAt tree node := by
    rw [classify, located]
    rfl
  rw [answer, hintAt]
  cases diagnostic.code with
  | raw number => exact ⟨none, rfl, fun _ _ => rfl, fun hint h => nomatch h⟩
  | known problem =>
      obtain ⟨result, given, all⟩ := sound.hintFor_yields mem diagnostic problem
      refine ⟨result, given, fun number h => (nomatch h), fun hint h => ?_⟩
      have made := all hint h
      exact ⟨made.consistent, problem, rfl, made.category, problem.length_categories⟩

/-- An unknown method `f` in `f(x, x)`. -/
def unknownCall : Diagnostic :=
  ⟨.known .undefinedMethod, [], ⟨0, 1, by decide⟩⟩

theorem classify_of_toTree_unknownCall :
    ∃ tree, Spec.repeatedArgument.toTree (Text.ofString "f(x, x)") none = .ok tree ∧
      ∃ hint, unknownCall.classify tree = .ok (some hint) ∧ hint.IsConsistent ∧
        ∃ problem, unknownCall.code = .known problem ∧
          hint.category ∈ problem.categories ∧
          problem.categories.length =
            if problem = .parsingErrorInsertToComplete then 3 else 1 := by
  have built : Spec.repeatedArgument.toTree (Text.ofString "f(x, x)") none = .ok _ := rfl
  obtain ⟨result, given, -, all⟩ := classify_of_toTree built unknownCall
  cases result with
  | none => cases given
  | some hint => exact ⟨_, built, hint, given, all hint rfl⟩

end Diagnostic

end SketchHelp
