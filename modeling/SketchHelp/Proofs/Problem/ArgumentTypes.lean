import SketchHelp.Proofs.Problem.Classification
import SketchHelp.Proofs.Tree.Proximity
import SketchHelp.Proofs.Tree.Spelling

/-!
The types that hints about calls name for the arguments. Both kinds of hint ask for them on
behalf of no value in particular, and a call with texts for all its arguments then wants the
root of all types. An unknown method's arguments are asked about from the call, so that is
all their types come to. Arguments that do not fit are asked about one by one: an argument
whose kind has a rule answers for itself, whatever its resolved type, and any other leaves
the answer to the call.
-/

namespace SketchHelp

namespace Tree

/-- The node is reported in a call with these arguments. -/
structure IsCallAt (tree : Tree) (node invocation : Node) (arguments : List Node) : Prop where
  parent : tree.parent node = some invocation
  kind : invocation.kind = .methodInvocation
  arguments : tree.childrenIn invocation Role.arguments.toText = .ok arguments

/-- The type that an argument has by the rule of its own kind, or for want of a rule. -/
inductive IsOwnType (tree : Tree) (argument : Node) : Text → Prop
  | rule {value : Value} {type : Text} (has : argument.kind.hasTypeRule = true)
      (answer : tree.typeRule [] argument = .ok (some value))
      (trimmed : TypeName.trim value = .ok type) : IsOwnType tree argument type
  | object (lacks : argument.kind.hasTypeRule = false) :
      IsOwnType tree argument TypeName.object

/-- What a hint about a call says of the types of the arguments. -/
structure TypesArguments (tree : Tree) (problem : ProblemCode) (node : Node) (hint : Hint) :
    Prop where
  unknown : problem = .known .undefinedMethod → ∃ invocation arguments name returnType types,
    tree.IsCallAt node invocation arguments ∧
      hint = .missingMethod name returnType (arguments.map (·.text)) types
        Placeholder.methodName ∧
      ((∀ argument ∈ arguments, argument.text ≠ []) →
        types = List.replicate arguments.length TypeName.object)
  mismatch : problem = .known .parameterMismatch →
    ∃ invocation arguments className name returnType types requiredTypes,
      tree.IsCallAt node invocation arguments ∧
        hint = .paramMismatch className name returnType types requiredTypes ∧
        ((∀ argument ∈ arguments, argument.text ≠ []) →
          List.Forall₂ tree.IsOwnType arguments types)

section

variable {tree : Tree} {node invocation argument : Node} {arguments : List Node}
  {hint : Hint} {type : Text}

theorem mapM_eq_ok_iff {α β : Type} {f : α → Except Fault β} {items : List α}
    {results : List β} :
    items.mapM f = .ok results ↔ List.Forall₂ (fun a b => f a = .ok b) items results := by
  refine ⟨fun h => ?_, mapM_eq_ok⟩
  induction items generalizing results with
  | nil =>
      cases h
      exact .nil
  | cons a items ih =>
      rw [List.mapM_cons, bind_eq_ok_iff] at h
      obtain ⟨b, first, h⟩ := h
      obtain ⟨others, later, h⟩ := bind_eq_ok_iff.mp h
      cases h
      exact .cons first (ih later)

/-! ### Calls -/

/-- A call with texts for all its arguments wants the root of all types where nothing in
particular is missing. -/
theorem IsCallAt.typeRule_eq (call : tree.IsCallAt node invocation arguments)
    (texts : ∀ argument ∈ arguments, argument.text ≠ []) :
    tree.typeRule [] invocation = .ok (some (.text TypeName.object)) := by
  have wanted : tree.invocationType [] invocation = .ok TypeName.object := by
    have absent : ([] : Text) ∉ arguments.map (·.text) := fun mem => by
      obtain ⟨argument, mem, empty⟩ := List.mem_map.mp mem
      exact texts argument mem empty
    rw [invocationType, call.arguments]
    cases invocation.method with
    | none => rfl
    | some method =>
        simp only [bind, Except.bind, List.idxOf?_eq_none_iff.mpr absent]
        rfl
  rw [typeRule, call.kind]
  dsimp only
  rw [wanted]
  rfl

theorem IsCallAt.decider_eq (call : tree.IsCallAt node invocation arguments) :
    tree.decider invocation = some invocation :=
  decider_of_hasTypeRule (by rw [call.kind]; rfl)

theorem wantedType_of_decider {nearest : Node} (h : tree.decider node = some nearest)
    {missing : Text} {value : Value}
    (answer : tree.typeRule missing nearest = .ok (some value)) :
    tree.wantedType missing (some node) = TypeName.trim value := by
  rw [wantedType, inferType_of_decider_eq_some h answer]
  rfl

theorem IsCallAt.wantedType_eq (call : tree.IsCallAt node invocation arguments)
    (texts : ∀ argument ∈ arguments, argument.text ≠ []) :
    tree.wantedType [] (some invocation) = .ok TypeName.object := by
  rw [wantedType_of_decider call.decider_eq (call.typeRule_eq texts)]
  rfl

/-! ### Hints -/

theorem exists_call_of_missingMethodHint (h : tree.missingMethodHint node = .ok (some hint)) :
    ∃ invocation arguments name returnType types,
      tree.IsCallAt node invocation arguments ∧
        arguments.mapM (fun argument => tree.wantedType [] (tree.parent argument)) = .ok types ∧
        hint = .missingMethod name returnType (arguments.map (·.text)) types
          Placeholder.methodName := by
  unfold missingMethodHint at h
  split at h
  · cases h
  · rename_i invocation hp
    split at h
    · rename_i kind
      simp only [bind_eq_ok_iff] at h
      obtain ⟨arguments, listed, name, -, returnType, -, types, eq, h⟩ := h
      cases h
      exact ⟨invocation, arguments, name, returnType, types, ⟨hp, kind, listed⟩, eq, rfl⟩
    · cases h

theorem exists_call_of_paramMismatchHint {className : Text}
    (h : tree.paramMismatchHint className node = .ok (some hint)) :
    ∃ invocation arguments name returnType types requiredTypes,
      tree.IsCallAt node invocation arguments ∧
        arguments.mapM (fun argument => tree.wantedType [] (some argument)) = .ok types ∧
        hint = .paramMismatch className.trimType name returnType types requiredTypes := by
  unfold paramMismatchHint at h
  split at h
  · cases h
  · rename_i invocation hp
    split at h
    · rename_i method kind _
      simp only [bind_eq_ok_iff] at h
      obtain ⟨arguments, listed, name, -, types, eq, h⟩ := h
      cases h
      exact ⟨invocation, arguments, name, _, types, _, ⟨hp, kind, listed⟩, eq, rfl⟩
    · cases h

end

section Built

variable {outline : Outline} {source : Text} {node invocation argument : Node}
  {arguments : List Node} {hint : Hint} {type : Text}

theorem IsCallAt.parent_argument
    (call : (outline.toTree source).IsCallAt node invocation arguments)
    (mem : argument ∈ arguments) :
    argument ∈ (outline.toTree source).nodes ∧
      (outline.toTree source).parent argument = some invocation := by
  obtain ⟨below, carries⟩ := carries_of_mem (mem_of_parent_eq call.parent)
  exact carries.of_mem_childrenIn call.arguments mem

/-- Asked about from its parent, which is the call, an argument has the root of all types. -/
theorem IsCallAt.mapM_wantedType_parent
    (call : (outline.toTree source).IsCallAt node invocation arguments)
    (texts : ∀ argument ∈ arguments, argument.text ≠ []) :
    arguments.mapM (fun argument =>
        (outline.toTree source).wantedType [] ((outline.toTree source).parent argument)) =
      .ok (List.replicate arguments.length TypeName.object) := by
  rw [← List.map_const']
  refine mapM_eq_ok (List.forall₂_map_right_iff.mpr (List.forall₂_same.mpr fun argument mem => ?_))
  rw [(call.parent_argument mem).2, call.wantedType_eq texts]

/-- An argument is asked first, and then the call. -/
theorem IsCallAt.isOwnType (call : (outline.toTree source).IsCallAt node invocation arguments)
    (sound : (outline.toTree source).IsSound)
    (texts : ∀ argument ∈ arguments, argument.text ≠ []) (mem : argument ∈ arguments)
    (wanted : (outline.toTree source).wantedType [] (some argument) = .ok type) :
    (outline.toTree source).IsOwnType argument type := by
  obtain ⟨argumentMem, hp⟩ := call.parent_argument mem
  cases has : argument.kind.hasTypeRule with
  | true =>
      obtain ⟨value, answer⟩ := sound.exists_typeRule argumentMem has []
      rw [wantedType_of_decider (decider_of_hasTypeRule has) answer] at wanted
      exact .rule has answer wanted
  | false =>
      have above : (outline.toTree source).decider argument = some invocation :=
        ((topDown_toTree outline source).decider_of_parent argumentMem hp has).trans
          call.decider_eq
      rw [wantedType_of_decider above (call.typeRule_eq texts)] at wanted
      cases wanted
      exact .object has

end Built

end Tree

namespace Diagnostic

variable {spec : Spec} {source : Text} {offset : Option Int} {tree : Tree} {node : Node}
  {diagnostic : Diagnostic} {hint : Hint}

theorem typesArguments_of_hintAt (built : spec.toTree source offset = .ok tree)
    (given : diagnostic.hintAt tree node = .ok (some hint)) :
    tree.TypesArguments diagnostic.code node hint := by
  have sound := spec.isSound_of_toTree built
  obtain ⟨start, outline, -, rfl⟩ := spec.exists_placed built
  refine ⟨fun code => ?_, fun code => ?_⟩
  · rw [hintAt, code] at given
    obtain ⟨invocation, arguments, name, returnType, types, call, eq, rfl⟩ :=
      Tree.exists_call_of_missingMethodHint given
    refine ⟨invocation, arguments, name, returnType, types, call, rfl, fun texts => ?_⟩
    exact Except.ok.inj (eq.symm.trans (call.mapM_wantedType_parent texts))
  · rw [hintAt, code] at given
    obtain ⟨invocation, arguments, name, returnType, types, requiredTypes, call, eq, rfl⟩ :=
      Tree.exists_call_of_paramMismatchHint given
    refine ⟨invocation, arguments, _, name, returnType, types, requiredTypes, call, rfl,
      fun texts => ?_⟩
    have asked := (List.forall₂_and_left _ _).mpr ⟨fun _ mem => mem, Tree.mapM_eq_ok_iff.mp eq⟩
    exact asked.imp fun _ _ argument => call.isOwnType sound texts argument.1 argument.2

/-- On the tree of a description, an unknown method's hint gives one type for each argument
of the call, and where no argument has an empty text all of them are the root of all types.
In a hint about arguments that do not fit, each has its own type. -/
theorem typesArguments_of_toTree (built : spec.toTree source offset = .ok tree)
    (diagnostic : Diagnostic) :
    (∀ node hint, diagnostic.hintAt tree node = .ok (some hint) →
      tree.TypesArguments diagnostic.code node hint) ∧
    ∀ hint, diagnostic.classify tree = .ok (some hint) →
      ∃ node, tree.nodeAt diagnostic.span.toRange = .ok node ∧
        tree.TypesArguments diagnostic.code node hint := by
  refine ⟨fun node hint given => typesArguments_of_hintAt built given, fun hint given => ?_⟩
  obtain ⟨node, located, given⟩ := bind_eq_ok_iff.mp given
  exact ⟨node, located, typesArguments_of_hintAt built given⟩

/-- The call `f(2, x)` of a method with one parameter, where both arguments have types. -/
def mismatchedCall : Spec :=
  ⟨⟨.methodInvocation, "f(2, x)", none, none, some ⟨"f", ["int"], "void"⟩⟩,
    .cons Role.name.toText ⟨.simpleName, "f", none, none, none⟩ .nil
      (.cons Role.arguments.toText ⟨.numberLiteral, "2", none, some "java.lang.Long", none⟩ .nil
        (.cons Role.arguments.toText ⟨.simpleName, "x", none, some "float", none⟩ .nil .nil))⟩

def mismatchedArguments : Diagnostic :=
  ⟨.known .parameterMismatch, ["draw.Pen"], unknownCall.span⟩

/-- The literal answers for itself, and the name does not. -/
theorem typesArguments_of_toTree_mismatchedCall :
    ∃ tree, mismatchedCall.toTree "f(2, x)" none = .ok tree ∧
      mismatchedArguments.classify tree =
        .ok (some (.paramMismatch "Pen" "f" "void" ["Long", "Object"] ["int"])) ∧
      ∃ node invocation arguments, tree.IsCallAt node invocation arguments ∧
        (∀ argument ∈ arguments, argument.text ≠ []) ∧
        List.Forall₂ tree.IsOwnType arguments ["Long", "Object"] := by
  have built : mismatchedCall.toTree "f(2, x)" none = .ok _ := rfl
  refine ⟨_, built, rfl, ?_⟩
  obtain ⟨node, located, typed⟩ := (typesArguments_of_toTree built mismatchedArguments).2 _ rfl
  obtain ⟨invocation, arguments, _, _, _, _, _, call, eq, own⟩ := typed.mismatch rfl
  have texts : ∀ argument ∈ arguments, argument.text ≠ [] := by
    cases located
    cases call.parent
    cases call.arguments
    decide
  cases eq
  exact ⟨node, invocation, arguments, call, texts, own texts⟩

end Diagnostic

end SketchHelp
