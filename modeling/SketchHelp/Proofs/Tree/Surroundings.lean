import SketchHelp.Proofs.Tree.Sound
import SketchHelp.Tree.Declaration
import SketchHelp.Tree.Inference

/-!
What stands around a node of a sound tree: the nodes above it, the declaration that it is
part of and the type that is wanted of it. Every look-up comes to a result, types are
texts or absent, and the simple name of a type has no dot.
-/

namespace SketchHelp

/-- A name without qualifiers. -/
def Text.IsSimple (name : Text) : Prop :=
  CodePoint.ofChar '.' ∉ name

instance (name : Text) : Decidable name.IsSimple :=
  inferInstanceAs (Decidable (CodePoint.ofChar '.' ∉ name))

theorem Text.isSimple_trimType (name : Text) : name.trimType.IsSimple :=
  dot_notMem_trimType name

namespace Value

theorem isTextual_text (t : Text) : (Value.text t).IsTextual :=
  ⟨some t, rfl⟩

theorem IsTextual.eq_text {value : Value} (h : value.IsTextual)
    (present : value.isNull = false) : ∃ t, value = .text t := by
  obtain ⟨text, rfl⟩ := h
  cases text with
  | none => cases present
  | some t => exact ⟨t, rfl⟩

theorem isNull_of_not_isBlank {value : Value} (h : ¬ value.isBlank = true) :
    value.isNull = false := by
  cases value <;> first | rfl | exact absurd rfl h

theorem IsTextual.orText {value : Value} (h : value.IsTextual) (fallback : Text) :
    (value.orText fallback).IsTextual := by
  unfold Value.orText
  split
  · exact isTextual_text fallback
  · exact h

end Value

namespace TypeName

theorem trim_yields {value : Value} (h : value.IsTextual) :
    Tree.Yields (trim value) Text.IsSimple := by
  obtain ⟨text, rfl⟩ := h
  cases text with
  | none => exact .pure List.not_mem_nil
  | some t => exact .pure (Text.isSimple_trimType t)

theorem element_yields {value : Value} (h : value.IsTextual)
    (present : value.isNull = false) : Tree.Yields (element value) fun _ => True := by
  obtain ⟨t, rfl⟩ := h.eq_text present
  exact .pure trivial

end TypeName

namespace Operator

theorem isIn_yields {operator : Value} (h : operator.IsTextual)
    (operators : List Text) : Tree.Yields (isIn operators operator) fun _ => True := by
  obtain ⟨text, rfl⟩ := h
  cases text <;> exact .pure trivial

theorem operandType_yields {operator : Value} (h : operator.IsTextual) :
    Tree.Yields (operandType operator) fun _ => True := by
  apply Tree.Yields.bind (isIn_yields h logical)
  intro isLogical _
  split
  · exact .pure trivial
  · apply Tree.Yields.bind (isIn_yields h numeric)
    intro isNumeric _
    split <;> exact .pure trivial

end Operator

namespace Tree

variable {tree : Tree} {node : Node}

/-! ### Upward -/

theorem mem_of_firstAncestor_eq (mem : node ∈ tree.nodes) {wanted : Kind → Bool}
    {found : Node} (h : tree.firstAncestor node wanted = some found) :
    found ∈ tree.nodes :=
  mem_of_mem_ancestors mem (List.mem_of_find?_eq_some h)

/-! ### Declarations -/

namespace IsSound

variable (sound : tree.IsSound)

include sound

theorem child_yields (mem : node ∈ tree.nodes) (role : Text) :
    Yields (tree.child node role) fun found => ∀ child ∈ found, child ∈ tree.nodes := by
  obtain ⟨children, ok, all⟩ := sound.childrenIn node mem role
  refine ⟨_, child_eq_head? ok, fun child hc => all child ?_⟩
  exact List.mem_of_mem_head? hc

theorem childText_yields (mem : node ∈ tree.nodes) (role : Role) :
    Yields (tree.childText node role) fun _ => True :=
  .bind (sound.child_yields mem role.toText) fun _ _ => .pure trivial

theorem childType_yields (mem : node ∈ tree.nodes) (role : Role) :
    Yields (tree.childType node role) Value.IsTextual := by
  apply Yields.bind (sound.child_yields mem role.toText)
  intro found hfound
  cases found with
  | none => exact .pure ⟨none, rfl⟩
  | some child => exact .pure (sound.resolvedType child (hfound child rfl))

theorem declarationFragment_yields (mem : node ∈ tree.nodes) :
    Yields (tree.declarationFragment node) fun found =>
      ∀ fragment ∈ found, fragment ∈ tree.nodes := by
  unfold declarationFragment
  split
  · exact .none
  · rename_i found eq
    have foundMem := mem_of_firstAncestor_eq mem eq
    split
    · exact .some foundMem
    · exact sound.child_yields foundMem _

theorem declaredName_yields (mem : node ∈ tree.nodes) :
    Yields (tree.declaredName node) fun _ => True :=
  .bind (sound.childText_yields mem .name) fun _ _ => .pure trivial

theorem declaredType_yields (mem : node ∈ tree.nodes) :
    Yields (tree.declaredType node) Value.IsTextual := by
  unfold declaredType
  split
  · split
    · exact .pure ⟨none, rfl⟩
    · rename_i declaration eq
      exact .bind (sound.childText_yields (mem_of_parent_eq eq) .type) fun text _ =>
        .pure ⟨text, rfl⟩
  · exact .pure (sound.resolvedType node mem)

theorem variableNameNear_yields (mem : node ∈ tree.nodes) :
    Yields (tree.variableNameNear node) fun _ => True := by
  apply Yields.bind (sound.declarationFragment_yields mem)
  intro found hfound
  cases found with
  | none => exact .pure trivial
  | some fragment => exact sound.declaredName_yields (hfound fragment rfl)

/-! ### Wanted types -/

theorem infixType_yields (mem : node ∈ tree.nodes) :
    Yields (tree.infixType node) Value.IsTextual := by
  apply Yields.bind (sound.childType_yields mem .leftOperand)
  intro left hleft
  split
  · exact .pure hleft
  · apply Yields.bind (sound.childType_yields mem .rightOperand)
    intro right hright
    split
    · exact .pure hright
    · exact .bind (Operator.operandType_yields (sound.operator node mem)) fun type _ =>
        .pure (Value.isTextual_text type)

theorem invocationType_yields (mem : node ∈ tree.nodes) (missing : Text) :
    Yields (tree.invocationType missing node) fun _ => True := by
  unfold invocationType
  split
  · exact .pure trivial
  · apply Yields.bind (sound.childrenIn node mem _)
    intro arguments _
    split <;> exact .pure trivial

theorem typeRule_yields (mem : node ∈ tree.nodes) (missing : Text) :
    Yields (tree.typeRule missing node) fun found => ∀ type ∈ found, type.IsTextual := by
  have fixed (t : Text) := Yields.some (Value.isTextual_text t)
  have resolved := sound.resolvedType node mem
  unfold typeRule
  -- One goal for each kind with a rule, in the order of the rules.
  split
  · exact fixed _
  · exact .bind (sound.infixType_yields mem) fun type h => .some h
  · exact fixed _
  · exact fixed _
  · exact fixed _
  · exact fixed _
  · exact fixed _
  · exact fixed _
  · exact fixed _
  · exact .some (resolved.orText _)
  · exact .some (resolved.orText _)
  · exact .some (resolved.orText _)
  · exact .bind (sound.invocationType_yields mem missing) fun type _ => fixed type
  · split
    · exact fixed _
    · rename_i present
      refine .bind (TypeName.element_yields resolved ?_) fun type _ => fixed type
      exact Bool.eq_false_iff.mpr present
  · apply Yields.bind (sound.child_yields mem _)
    intro found _
    cases found with
    | none => exact fixed _
    | some castType => exact fixed _
  · refine .bind (sound.childType_yields mem .expression) fun type h => .some ?_
    split
    · exact Value.isTextual_text _
    · exact h
  · exact fixed _
  · exact fixed _
  · exact .none

theorem inferType_yields (missing : Text) {place : Option Node}
    (mem : ∀ node ∈ place, node ∈ tree.nodes) :
    Yields (tree.inferType missing place) Value.IsTextual := by
  cases place with
  | none => exact .pure (Value.isTextual_text _)
  | some node =>
      have rules := Yields.findSomeM? fun above (h : above ∈ tree.ancestors node) =>
        sound.typeRule_yields (mem_of_mem_ancestors (mem node rfl) h) missing
      refine .bind rules fun found hfound => .pure ?_
      cases found with
      | none => exact Value.isTextual_text _
      | some type => exact hfound type rfl

theorem wantedType_yields (missing : Text) {place : Option Node}
    (mem : ∀ node ∈ place, node ∈ tree.nodes) :
    Yields (tree.wantedType missing place) Text.IsSimple :=
  .bind (sound.inferType_yields missing mem) fun _ h => TypeName.trim_yields h

theorem wantedType_parent_yields (missing : Text) (node : Node) :
    Yields (tree.wantedType missing (tree.parent node)) Text.IsSimple :=
  sound.wantedType_yields missing fun _ h => mem_of_parent_eq h

end IsSound

end Tree

end SketchHelp
