import SketchHelp.Problem.Classify
import SketchHelp.Proofs.Tree.Shift

/-!
Where in the text a unit sits makes no difference to its hints. A problem is tied to the
text by its range alone, which leads to a node; the hint is read off what stands around
that node, by kinds, slots, texts and bindings. So a text put in front of the source moves
the tree and the range alike, and the hint stays.
-/

namespace SketchHelp

namespace Tree

variable (move : Span → Span) (source : Text) (tree : Tree) (node : Node)

@[simp] theorem hasKind_map_move (kind : Kind) (place : Option Node) :
    hasKind kind (place.map (Node.move move)) = hasKind kind place := by
  cases place <;> rfl

@[simp] theorem any_isControlStatement_map_move (place : Option Node) :
    (place.map (Node.move move)).any (·.kind.isControlStatement) =
      place.any (·.kind.isControlStatement) := by
  cases place <;> rfl

/-! ### Arrays -/

theorem missingDimensionHint_move :
    (tree.move move source).missingDimensionHint (node.move move) =
      tree.missingDimensionHint node := by
  rw [missingDimensionHint, missingDimensionHint, declarationFragment_move]
  rcases tree.declarationFragment node with fault | (_ | fragment)
  · rfl
  · rfl
  · simp

@[simp] theorem creationType_move :
    (tree.move move source).creationType (node.move move) = tree.creationType node := by
  simp only [creationType, childText_move, Node.move_resolvedType]

theorem creationHint_move (make : Text → Text → Hint) :
    (tree.move move source).creationHint make (node.move move) =
      tree.creationHint make node := by
  rw [creationHint, creationHint, declarationFragment_move, parent_move]
  rcases tree.declarationFragment node with fault | (_ | fragment)
  · rfl
  · rcases tree.parent node with _ | creation <;> rfl
  · rcases tree.parent node with _ | creation
    · rfl
    · simp

@[simp] theorem arrayTypeNear_move (fragment : Node) :
    (tree.move move source).arrayTypeNear (node.move move) (fragment.move move) =
      tree.arrayTypeNear node fragment := by
  rw [arrayTypeNear, arrayTypeNear, declaredType_move, parent_move]
  rcases tree.parent node with _ | parent
  · rfl
  · simp only [Option.map_some, Node.move_kind, creationType_move]
    rfl

@[simp] theorem incorrectDeclarationHint_move :
    (tree.move move source).incorrectDeclarationHint (node.move move) =
      tree.incorrectDeclarationHint node := by
  rw [incorrectDeclarationHint, incorrectDeclarationHint, declarationFragment_move]
  rcases tree.declarationFragment node with fault | (_ | fragment)
  · rfl
  · rfl
  · simp

/-! ### Methods -/

@[simp] theorem methodName_move (fallback : Text) :
    (tree.move move source).methodName (node.move move) fallback =
      tree.methodName node fallback := by
  simp [methodName]

theorem missingMethodHint_move :
    (tree.move move source).missingMethodHint (node.move move) =
      tree.missingMethodHint node := by
  rw [missingMethodHint, missingMethodHint, parent_move]
  rcases tree.parent node with _ | invocation
  · rfl
  · simp [Function.comp_def]

theorem paramMismatchHint_move (className : Text) :
    (tree.move move source).paramMismatchHint className (node.move move) =
      tree.paramMismatchHint className node := by
  rw [paramMismatchHint, paramMismatchHint, parent_move]
  rcases tree.parent node with _ | invocation
  · rfl
  · simp [Function.comp_def]

theorem missingReturnHint_move :
    (tree.move move source).missingReturnHint (node.move move) =
      tree.missingReturnHint node := by
  rw [missingReturnHint, missingReturnHint, parent_move]
  rcases tree.parent node with _ | declaration
  · rfl
  · simp

@[simp] theorem enclosingMethod_move :
    (tree.move move source).enclosingMethod (node.move move) = tree.enclosingMethod node := by
  rw [enclosingMethod, enclosingMethod, firstAncestor_move]
  rcases tree.firstAncestor node (· = .methodDeclaration) with _ | declaration
  · rfl
  · simp

theorem nonStaticHint_move (fileName called : Text) :
    (tree.move move source).nonStaticHint fileName called (node.move move) =
      tree.nonStaticHint fileName called node := by
  simp [nonStaticHint, Option.bind_map, Function.comp_def]

@[simp] theorem isUntypedStatement_move :
    (tree.move move source).isUntypedStatement (node.move move) =
      tree.isUntypedStatement node := by
  simp [isUntypedStatement]

@[simp] theorem callContextType_move :
    (tree.move move source).callContextType (node.move move) = tree.callContextType node := by
  rw [callContextType, callContextType, firstAncestor_move]
  rw [bind_parent_move]
  rcases (tree.firstAncestor node (· = .methodInvocation)).bind tree.parent with _ | context
  · rfl
  · simp

theorem wrongReceiverHint_move (receiverType called : Text) :
    (tree.move move source).wrongReceiverHint receiverType called (node.move move) =
      tree.wrongReceiverHint receiverType called node := by
  simp [wrongReceiverHint]

/-! ### Variables and syntax -/

theorem typeMismatchHint_move (provided wanted : Text) :
    (tree.move move source).typeMismatchHint provided wanted (node.move move) =
      tree.typeMismatchHint provided wanted node := by
  simp [typeMismatchHint]

theorem missingTypeHint_move (missing : Text) :
    (tree.move move source).missingTypeHint missing (node.move move) =
      tree.missingTypeHint missing node := by
  simp [missingTypeHint]

theorem variableType_move (name : Text) :
    (tree.move move source).variableType name (node.move move) =
      tree.variableType name node := by
  simp [variableType]

@[simp] theorem declaratorsHint_move :
    (tree.move move source).declaratorsHint (node.move move) = tree.declaratorsHint node := by
  rw [declaratorsHint, declaratorsHint, parent_move, wantedType_move]
  rcases tree.parent node with _ | parent
  · rfl
  · by_cases qualified : parent.kind = .qualifiedName <;> simp [Option.filter, qualified]

@[simp] theorem isArrayField_map_move (place : Option Node) :
    (tree.move move source).isArrayField (place.map (Node.move move)) =
      tree.isArrayField place := by
  rcases place with _ | node
  · rfl
  · simp [isArrayField]

theorem incompleteHint_move (diagnostic : Diagnostic) :
    (tree.move move source).incompleteHint diagnostic (node.move move) =
      tree.incompleteHint diagnostic node := by
  simp only [incompleteHint, parent_move, bind_parent_move, hasKind_map_move,
    any_isControlStatement_map_move, declaratorsHint_move, incorrectDeclarationHint_move,
    isArrayField_map_move, List.any_cons, Option.any_some, Node.move_kind]
  rfl

/-- A hint is read off what stands around a node and off no offset. -/
theorem hintFor_move (diagnostic : Diagnostic) (problem : Problem) :
    (tree.move move source).hintFor diagnostic problem (node.move move) =
      tree.hintFor diagnostic problem node := by
  cases problem with
  | mustDefineEitherDimensionExpressionsOrInitializer => exact missingDimensionHint_move ..
  | illegalDimension => exact creationHint_move ..
  | cannotDefineDimensionExpressionsWithInit => exact creationHint_move ..
  | undefinedMethod => exact missingMethodHint_move ..
  | parameterMismatch => exact paramMismatchHint_move ..
  | shouldReturnValue => exact missingReturnHint_move ..
  | parsingErrorInsertToComplete => exact incompleteHint_move ..
  | parsingErrorDeleteToken => rfl
  | _ =>
      simp only [hintFor, typeMismatchHint_move, missingTypeHint_move, variableType_move,
        nonStaticHint_move, declaratorsHint_move, wrongReceiverHint_move]

end Tree

/-- The same problem, further back in the text. -/
def Diagnostic.shift (k : Nat) (diagnostic : Diagnostic) : Diagnostic :=
  { diagnostic with span := diagnostic.span.shift k }

namespace Diagnostic

variable (lead : Text) (diagnostic : Diagnostic) (tree : Tree)

theorem hintAt_shift (move : Span → Span) (source : Text) (k : Nat) (node : Node) :
    (diagnostic.shift k).hintAt (tree.move move source) (node.move move) =
      diagnostic.hintAt tree node := by
  obtain ⟨code, arguments, span⟩ := diagnostic
  cases code with
  | raw number => rfl
  | known problem => exact Tree.hintFor_move move source tree node _ problem

/-- A problem and a tree that are moved alike give the same hint, whatever the tree. -/
theorem classify_shift :
    (diagnostic.shift lead.length).classify (tree.shift lead) = diagnostic.classify tree := by
  rw [classify, classify, Tree.shift]
  have found := tree.nodeAt_move_shift lead.length (lead ++ tree.source) diagnostic.span.toRange
  rw [← Span.toRange_shift] at found
  show (tree.move _ _).nodeAt (diagnostic.span.shift lead.length).toRange >>= _ = _
  rw [found]
  rcases tree.nodeAt diagnostic.span.toRange with fault | node
  · rfl
  · exact hintAt_shift ..

end Diagnostic

/-- A unit is found behind a text put in front of its source if and only if it is found
without it, with every span further back by the length of that text. Its problems, moved
by as much, are classified the same. -/
theorem Spec.classify_shift_of_toTree (spec : Spec) (lead source : Text) (offset : Nat) :
    ((∃ shifted, spec.toTree (lead ++ source) (some ↑(lead.length + offset)) = .ok shifted) ↔
        ∃ tree, spec.toTree source (some ↑offset) = .ok tree) ∧
      ∀ tree shifted, spec.toTree source (some ↑offset) = .ok tree →
        spec.toTree (lead ++ source) (some ↑(lead.length + offset)) = .ok shifted →
          shifted.nodes = tree.nodes.map (Node.move (Span.shift lead.length)) ∧
            ∀ diagnostic : Diagnostic,
              (diagnostic.shift lead.length).classify shifted = diagnostic.classify tree := by
  rw [toTree_append_add]
  rcases spec.toTree source (some ↑offset) with fault | tree
  · refine ⟨⟨?_, ?_⟩, ?_⟩
    · rintro ⟨_, ⟨⟩⟩
    · rintro ⟨_, ⟨⟩⟩
    · rintro _ _ ⟨⟩
  · refine ⟨⟨fun _ => ⟨tree, rfl⟩, fun _ => ⟨tree.shift lead, rfl⟩⟩, ?_⟩
    rintro _ _ ⟨rfl⟩ ⟨rfl⟩
    exact ⟨rfl, fun diagnostic => diagnostic.classify_shift lead tree⟩

end SketchHelp
