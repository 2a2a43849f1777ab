import SketchHelp.Proofs.Problem.ArgumentTypes

/-!
Lists on a page. A list stands on the page of a hint as one value, with its texts joined by
commas and none of them changed. Cutting the value at the commas gives the list back if it
has a text and none of its texts has a comma of its own. The types of an unknown method's
arguments have none, unless an argument has no text at all; the texts of the arguments are
whatever stands in the source, and a call among them has commas as soon as it has two
arguments itself.
-/

namespace SketchHelp

/-! ### Joined and cut -/

theorem Text.notMem_of_mem_splitOn {mark : CodePoint} {t piece : Text}
    (h : piece ∈ t.splitOn mark) : mark ∉ piece := by
  induction t generalizing piece with
  | nil =>
      obtain rfl := List.mem_singleton.mp (List.splitOn_nil mark ▸ h)
      exact List.not_mem_nil
  | cons c t ih =>
      rw [List.splitOn_cons_eq_if_modifyHead] at h
      split at h
      · rcases List.mem_cons.mp h with rfl | later
        · exact List.not_mem_nil
        · exact ih later
      · rename_i other
        obtain ⟨first, rest, pieces⟩ := List.exists_cons_of_ne_nil (List.splitOn_ne_nil mark t)
        rw [pieces, List.modifyHead_cons] at h
        rcases List.mem_cons.mp h with rfl | later
        · have inside : mark ∉ first := ih (pieces ▸ List.mem_cons_self)
          rw [List.mem_cons, not_or]
          exact ⟨fun same => other (beq_iff_eq.mpr same.symm), inside⟩
        · exact ih (pieces ▸ List.mem_cons_of_mem _ later)

namespace Hint

/-- Cutting gives joined texts back if and only if there are any and none has a comma. -/
theorem splitOn_joined_eq_iff {texts : List Text} :
    (joined texts).splitOn (',' : CodePoint) = texts ↔
      texts ≠ [] ∧ ∀ t ∈ texts, (',' : CodePoint) ∉ t := by
  constructor
  · intro back
    refine ⟨fun none => List.splitOn_ne_nil _ _ (back.trans none), fun t mem => ?_⟩
    exact Text.notMem_of_mem_splitOn (back ▸ mem)
  · rintro ⟨some, plain⟩
    exact List.splitOn_intercalate _ plain some

/-- The list that a page has under a key. -/
def readList? (hint : Hint) (key : Text) : Option (List Text) :=
  (hint.parameters.lookup key).map (List.splitOn (',' : CodePoint))

section

variable (methodName returnType correctMethodName : Text) (params types : List Text)

theorem readList?_providedParams :
    (missingMethod methodName returnType params types correctMethodName).readList?
      "providedparams" = some ((joined params).splitOn (',' : CodePoint)) := rfl

theorem readList?_providedTypes :
    (missingMethod methodName returnType params types correctMethodName).readList?
      "providedtypes" = some ((joined types).splitOn (',' : CodePoint)) := rfl

end

end Hint

/-! ### The arguments of an unknown method -/

namespace Tree

/-- Of two lists with one entry for each argument, those at one place are the text and the
type of the argument at that place. -/
structure Pairs (tree : Tree) (arguments : List Node) (texts types : List Text) : Prop where
  texts_length : texts.length = arguments.length
  types_length : types.length = arguments.length
  entries : ∀ (i : Nat) (text type : Text), texts[i]? = some text → types[i]? = some type →
    ∃ argument, arguments[i]? = some argument ∧ argument.text = text ∧
      tree.wantedType [] (tree.parent argument) = .ok type

/-- What the page of an unknown method lists of the arguments of the call. -/
structure ListsArguments (tree : Tree) (node : Node) (hint : Hint) (arguments : List Node)
    (types : List Text) : Prop where
  call : ∃ invocation, tree.IsCallAt node invocation arguments
  shown : ∃ name returnType, hint = .missingMethod name returnType (arguments.map (·.text))
    types Placeholder.methodName
  pairs : tree.Pairs arguments (arguments.map (·.text)) types
  texts_iff : hint.readList? "providedparams" = some (arguments.map (·.text)) ↔
    arguments ≠ [] ∧ ∀ argument ∈ arguments, (',' : CodePoint) ∉ argument.text
  types_iff : hint.readList? "providedtypes" = some types ↔
    arguments ≠ [] ∧ ∀ type ∈ types, (',' : CodePoint) ∉ type
  types_plain : (∀ argument ∈ arguments, argument.text ≠ []) →
    ∀ type ∈ types, (',' : CodePoint) ∉ type

variable {tree : Tree} {arguments : List Node} {types : List Text}

theorem pairs_of_forall₂ (typed : List.Forall₂ (fun argument type =>
      tree.wantedType [] (tree.parent argument) = .ok type) arguments types) :
    tree.Pairs arguments (arguments.map (·.text)) types := by
  refine ⟨List.length_map _, typed.length_eq.symm, fun i text type textAt typeAt => ?_⟩
  rw [List.getElem?_map, Option.map_eq_some_iff] at textAt
  obtain ⟨argument, there, eq⟩ := textAt
  obtain ⟨inside, rfl⟩ := List.getElem?_eq_some_iff.mp there
  obtain ⟨inside', rfl⟩ := List.getElem?_eq_some_iff.mp typeAt
  exact ⟨_, there, eq, typed.get inside inside'⟩

end Tree

namespace Diagnostic

variable {spec : Spec} {source : Text} {offset : Option Int} {tree : Tree} {node : Node}
  {diagnostic : Diagnostic} {hint : Hint}

theorem listsArguments_of_hintAt (built : spec.toTree source offset = .ok tree)
    (code : diagnostic.code = .known .undefinedMethod)
    (given : diagnostic.hintAt tree node = .ok (some hint)) :
    ∃ arguments types, tree.ListsArguments node hint arguments types := by
  obtain ⟨start, outline, -, rfl⟩ := spec.exists_placed built
  rw [hintAt, code] at given
  obtain ⟨invocation, arguments, name, returnType, types, call, eq, rfl⟩ :=
    Tree.exists_call_of_missingMethodHint given
  have pairs := Tree.pairs_of_forall₂ (Tree.mapM_eq_ok_iff.mp eq)
  refine ⟨arguments, types, ⟨invocation, call⟩, ⟨name, returnType, rfl⟩, pairs, ?_, ?_,
    fun texts => ?_⟩
  · rw [Hint.readList?_providedParams, Option.some.injEq, Hint.splitOn_joined_eq_iff]
    simp
  · have empty : types = [] ↔ arguments = [] := by
      rw [← List.length_eq_zero_iff, pairs.types_length, List.length_eq_zero_iff]
    rw [Hint.readList?_providedTypes, Option.some.injEq, Hint.splitOn_joined_eq_iff, ne_eq,
      empty]
  · obtain rfl := Except.ok.inj (eq.symm.trans (call.mapM_wantedType_parent texts))
    intro type mem
    obtain rfl := List.eq_of_mem_replicate mem
    decide

/-- On the tree of a description, the page of an unknown method lists the texts and the types
of the arguments of the call, in pairs. Where there is an argument, the texts can be read
back if none of them has a comma, and the types if none of these has one, which they have
not where every argument has a text. -/
theorem listsArguments_of_toTree (built : spec.toTree source offset = .ok tree)
    (code : diagnostic.code = .known .undefinedMethod) :
    (∀ node hint, diagnostic.hintAt tree node = .ok (some hint) →
      ∃ arguments types, tree.ListsArguments node hint arguments types) ∧
    ∀ hint, diagnostic.classify tree = .ok (some hint) →
      ∃ node, tree.nodeAt diagnostic.span.toRange = .ok node ∧
        ∃ arguments types, tree.ListsArguments node hint arguments types := by
  refine ⟨fun node hint given => listsArguments_of_hintAt built code given, fun hint given => ?_⟩
  obtain ⟨node, located, given⟩ := bind_eq_ok_iff.mp given
  exact ⟨node, located, listsArguments_of_hintAt built code given⟩

theorem listsArguments_of_toTree_repeatedArgument :
    ∃ tree, Spec.repeatedArgument.toTree (Text.ofString "f(x, x)") none = .ok tree ∧
      ∃ hint, unknownCall.classify tree = .ok (some hint) ∧
        hint.readList? "providedparams" = some (["x", "x"] : List Text) ∧
        hint.readList? "providedtypes" = some [TypeName.object, TypeName.object] := by
  have built : Spec.repeatedArgument.toTree (Text.ofString "f(x, x)") none = .ok _ := rfl
  have code : unknownCall.code = .known .undefinedMethod := rfl
  refine ⟨_, built, _, rfl, ?_⟩
  obtain ⟨node, located, arguments, types, lists⟩ :=
    (listsArguments_of_toTree built code).2 _ rfl
  obtain ⟨_, _, shown⟩ := lists.shown
  obtain ⟨-, -, texts, rfl, -⟩ := Hint.missingMethod.inj shown
  obtain ⟨invocation, call⟩ := lists.call
  cases located
  cases call.parent
  cases call.arguments
  exact ⟨lists.texts_iff.mpr (by decide), lists.types_iff.mpr (by decide)⟩

/-- The call `f(g(1, 2))`, where `g(1, 2)` is the only argument. -/
def nestedCall : Spec :=
  ⟨⟨.methodInvocation, "f(g(1, 2))", none, none, none⟩,
    .cons Role.name.toText ⟨.simpleName, "f", none, none, none⟩ .nil
      (.cons Role.arguments.toText ⟨.methodInvocation, "g(1, 2)", none, none, none⟩ .nil .nil)⟩

/-- The call `f()` of a method for a map, with an argument that has no text. -/
def emptyArgument : Spec :=
  ⟨⟨.methodInvocation, "f()", none, none, some ⟨"f", ["Map<K, V>"], "void"⟩⟩,
    .cons Role.name.toText ⟨.simpleName, "f", none, none, none⟩ .nil
      (.cons Role.arguments.toText ⟨.simpleName, "", none, none, none⟩ .nil .nil)⟩

/-- A comma inside a text or a type is read as a comma between two. -/
theorem not_readBack_commas :
    (∃ tree, nestedCall.toTree "f(g(1, 2))" none = .ok tree ∧
      ∃ hint name returnType types, unknownCall.classify tree = .ok (some hint) ∧
        hint = .missingMethod name returnType ["g(1, 2)"] types Placeholder.methodName ∧
        hint.readList? "providedparams" = some (["g(1", " 2)"] : List Text) ∧
        hint.readList? "providedparams" ≠ some (["g(1, 2)"] : List Text)) ∧
    ∃ tree, emptyArgument.toTree "f()" none = .ok tree ∧
      ∃ hint name returnType texts, unknownCall.classify tree = .ok (some hint) ∧
        hint = .missingMethod name returnType texts ["Map<K, V>"] Placeholder.methodName ∧
        hint.readList? "providedtypes" = some (["Map<K", " V>"] : List Text) ∧
        hint.readList? "providedtypes" ≠ some (["Map<K, V>"] : List Text) :=
  ⟨⟨_, rfl, _, _, _, _, rfl, rfl, by decide, by decide⟩,
    ⟨_, rfl, _, _, _, _, rfl, rfl, by decide, by decide⟩⟩

end Diagnostic

end SketchHelp
