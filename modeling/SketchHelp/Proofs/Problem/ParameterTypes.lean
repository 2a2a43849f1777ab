import Mathlib.Data.List.Nodup
import SketchHelp.Proofs.Problem.ArgumentTypes
import SketchHelp.Proofs.Tree.Reading

/-!
The type of a variable that is an argument. Where a call resolves to a method, a hint about
an argument that is unknown or has no value names the type of a parameter. Which parameter
that is goes by the text: the position is the one of the first argument with the same text,
counted among the arguments alone and in the order in which the source has them. So
arguments with texts of their own get the types of their own parameters, and where the
method has no parameter at the position the type is the root of all types.
-/

namespace SketchHelp

/-! ### Positions -/

/-- The first place of a text in a list. -/
structure IsFirstPlace (texts : List Text) (text : Text) (place : Nat) : Prop where
  there : texts[place]? = some text
  first : ∀ earlier < place, texts[earlier]? ≠ some text

section

variable {texts : List Text} {text : Text} {place other : Nat}

theorem isFirstPlace_iff : IsFirstPlace texts text place ↔ texts.idxOf? text = some place := by
  rw [List.idxOf?_eq_some_iff]
  constructor
  · rintro ⟨there, first⟩
    obtain ⟨inside, eq⟩ := List.getElem?_eq_some_iff.mp there
    exact ⟨inside, eq, fun j lt same => first j lt (List.getElem?_eq_some_iff.mpr ⟨_, same⟩)⟩
  · rintro ⟨inside, eq, first⟩
    refine ⟨List.getElem?_eq_some_iff.mpr ⟨inside, eq⟩, fun j lt there => ?_⟩
    obtain ⟨_, same⟩ := List.getElem?_eq_some_iff.mp there
    exact first j lt same

theorem exists_isFirstPlace (mem : text ∈ texts) : ∃ place, IsFirstPlace texts text place := by
  cases found : texts.idxOf? text with
  | none => exact absurd mem (List.idxOf?_eq_none_iff.mp found)
  | some place => exact ⟨place, isFirstPlace_iff.mpr found⟩

/-- In a list without repeats every place of a text is its first. -/
theorem IsFirstPlace.eq_of_nodup (h : IsFirstPlace texts text place) (nodup : texts.Nodup)
    (there : texts[other]? = some text) : other = place := by
  obtain ⟨inside, -⟩ := List.getElem?_eq_some_iff.mp there
  exact (List.getElem?_inj inside nodup).mp (there.trans h.there.symm)

end

/-! ### Arguments of a call -/

/-- The type that a method wants of the argument at a place. -/
def MethodBinding.wantedAt (method : MethodBinding) (place : Nat) : Text :=
  match method.parameterTypes[place]? with
  | some type => type.trimType
  | none => TypeName.object

theorem MethodBinding.trimType_getD (method : MethodBinding) (place : Nat) :
    (method.parameterTypes.getD place TypeName.object).trimType = method.wantedAt place := by
  rw [wantedAt, List.getD_eq_getElem?_getD]
  cases method.parameterTypes[place]? <;> rfl

namespace Tree

/-- A hint about an argument that the problem names by its text has the type that the method
wants at the first place of that text. -/
structure IsTypedByPlace (tree : Tree) (method : MethodBinding) (texts : List Text)
    (argument : Node) (place : Nat) : Prop where
  first : IsFirstPlace texts argument.text place
  unresolved : ∀ diagnostic : Diagnostic, diagnostic.code = .known .unresolvedVariable →
    diagnostic.argument 0 = argument.text → diagnostic.hintAt tree argument =
      .ok (some (.missingVariable argument.text (method.wantedAt place)))
  uninitialized : ∀ diagnostic : Diagnostic,
    diagnostic.code = .known .uninitializedLocalVariable →
    diagnostic.argument 0 = argument.text → diagnostic.hintAt tree argument =
      .ok (some (.uninitializedVariable argument.text (method.wantedAt place)))

/-- What a call of a resolved method says about its arguments. -/
structure TypesByPlace (tree : Tree) (method : MethodBinding) (invocation : Node) (part : Spec)
    (arguments : List Node) : Prop where
  described : tree.specAt invocation = .ok part
  listed : tree.childrenIn invocation Role.arguments.toText = .ok arguments
  /-- The arguments are the parts in their slot, in the order that the source has them in. -/
  texts : arguments.map (·.text) = part.textsIn .arguments
  ordered : arguments.Pairwise fun a b => a.span.stop ≤ b.span.start
  /-- Without repeated texts, the place that decides is the argument's own. -/
  typed : ∀ (position : Nat) (argument : Node), arguments[position]? = some argument →
    ∃ place, tree.IsTypedByPlace method (part.textsIn .arguments) argument place ∧
      ((part.textsIn .arguments).Nodup → place = position)

section

variable {tree : Tree} {node invocation : Node} {arguments : List Node} {method : MethodBinding}
  {text : Text} {place : Nat}

/-- The call wants of a text what its method wants at the first place of it. -/
theorem IsCallAt.wantedType_of_isFirstPlace (call : tree.IsCallAt node invocation arguments)
    (bound : invocation.method = some method)
    (first : IsFirstPlace (arguments.map (·.text)) text place) :
    tree.wantedType text (some invocation) = .ok (method.wantedAt place) := by
  have asked : tree.invocationType text invocation =
      .ok (method.parameterTypes.getD place TypeName.object) := by
    rw [invocationType, bound, call.arguments]
    simp only [bind, Except.bind, isFirstPlace_iff.mp first]
    rfl
  have answer : tree.typeRule text invocation =
      .ok (some (.text (method.parameterTypes.getD place TypeName.object))) := by
    rw [typeRule, call.kind]
    dsimp only
    rw [asked]
    rfl
  rw [wantedType_of_decider call.decider_eq answer, TypeName.trim, method.trimType_getD]

theorem IsCallAt.isTypedByPlace (call : tree.IsCallAt node invocation arguments)
    (bound : invocation.method = some method)
    (first : IsFirstPlace (arguments.map (·.text)) node.text place) :
    tree.IsTypedByPlace method (arguments.map (·.text)) node place := by
  have asked : tree.variableType node.text node = .ok (method.wantedAt place) := by
    rw [variableType, call.parent, call.wantedType_of_isFirstPlace bound first]
  refine ⟨first, fun diagnostic code named => ?_, fun diagnostic code named => ?_⟩
  · simp only [Diagnostic.hintAt, code, hintFor, named, asked]
    rfl
  · simp only [Diagnostic.hintAt, code, hintFor, named, asked]
    rfl

end

end Tree

namespace Spec

variable {spec : Spec} {source : Text} {offset : Option Int} {tree : Tree} {invocation : Node}
  {method : MethodBinding}

/-- In the tree of a description, a call of a resolved method types its arguments by place. -/
theorem typesByPlace_of_toTree (built : spec.toTree source offset = .ok tree)
    (mem : invocation ∈ tree.nodes) (kind : invocation.kind = .methodInvocation)
    (bound : invocation.method = some method) :
    ∃ part arguments, tree.TypesByPlace method invocation part arguments := by
  obtain ⟨start, outline, placed, rfl⟩ := exists_placed built
  obtain ⟨part, depicts⟩ := placed.exists_depicts mem
  obtain ⟨arguments, listed, texts, ordered⟩ := depicts.exists_childrenIn .arguments
  refine ⟨part, arguments, depicts.specAt_eq, listed, texts, ordered,
    fun position argument there => ?_⟩
  have argumentMem := List.mem_of_getElem? there
  obtain ⟨below, carries⟩ := Tree.carries_of_mem mem
  have call : (outline.toTree source).IsCallAt argument invocation arguments :=
    ⟨(carries.of_mem_childrenIn listed argumentMem).2, kind, listed⟩
  -- The argument stands at `position`; its text, which is all that is looked for, may stand
  -- at an earlier place.
  obtain ⟨place, first⟩ := exists_isFirstPlace (List.mem_map_of_mem (f := (·.text)) argumentMem)
  rw [← texts]
  refine ⟨place, call.isTypedByPlace bound first, fun nodup => (first.eq_of_nodup nodup ?_).symm⟩
  rw [List.getElem?_map, there]
  rfl

/-- The call `f(x, a, x, z)` of a method with two parameters, where `a` is in another slot. -/
def crowdedCall : Spec :=
  ⟨⟨.methodInvocation, "f(x, a, x, z)", none, none, some ⟨"f", ["pen.Ink", "int"], "void"⟩⟩,
    .cons Role.name.toText ⟨.simpleName, "f", none, none, none⟩ .nil
      (.cons Role.arguments.toText ⟨.simpleName, "x", none, none, none⟩ .nil
        (.cons Role.expression.toText ⟨.simpleName, "a", none, none, none⟩ .nil
          (.cons Role.arguments.toText ⟨.simpleName, "x", none, none, none⟩ .nil
            (.cons Role.arguments.toText ⟨.simpleName, "z", none, none, none⟩ .nil .nil))))⟩

end Spec

/-- A problem with the variable of the given name. -/
def Diagnostic.ofVariable (problem : Problem) (name : Text) : Diagnostic :=
  ⟨.known problem, [name], unknownCall.span⟩

/-- The second `x` has the type of the first parameter, and `z` is beyond the parameters. -/
theorem Spec.typesByPlace_of_toTree_crowdedCall :
    ∃ tree, crowdedCall.toTree "f(x, a, x, z)" none = .ok tree ∧
      ∃ arguments, tree.childrenIn tree.root Role.arguments.toText = .ok arguments ∧
        (∃ x, arguments[1]? = some x ∧
          (Diagnostic.ofVariable .unresolvedVariable "x").hintAt tree x =
            .ok (some (.missingVariable "x" "Ink"))) ∧
        ∃ z, arguments[2]? = some z ∧
          (Diagnostic.ofVariable .uninitializedLocalVariable "z").hintAt tree z =
            .ok (some (.uninitializedVariable "z" TypeName.object)) := by
  have built : crowdedCall.toTree "f(x, a, x, z)" none = .ok _ := rfl
  obtain ⟨part, arguments, typed⟩ := typesByPlace_of_toTree built (Tree.root_mem _) rfl rfl
  refine ⟨_, built, arguments, typed.listed, ?_⟩
  have texts := typed.texts
  have typedAt := typed.typed
  cases typed.listed
  rw [← texts] at typedAt
  refine ⟨⟨_, rfl, ?_⟩, ⟨_, rfl, ?_⟩⟩
  · obtain ⟨place, byPlace, -⟩ := typedAt 1 _ rfl
    cases isFirstPlace_iff.mp byPlace.first
    exact byPlace.unresolved _ rfl rfl
  · obtain ⟨place, byPlace, -⟩ := typedAt 2 _ rfl
    cases isFirstPlace_iff.mp byPlace.first
    exact byPlace.uninitialized _ rfl rfl

end SketchHelp
