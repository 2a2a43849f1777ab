import SketchHelp.Proofs.Page.Address

/-!
Values that cannot be written. A value is refused if it holds a surrogate, alone or with the
other half of a pair beside it, and any other value is written in signs of ASCII that no
other value is written in. A page is all or nothing: the first parameter with a value that
is refused, in whatever place, makes the default page of the whole, and a warning names it.
-/

namespace SketchHelp

/-! ### Written values -/

namespace Query

/-- The parameter cannot be written, and those before it can. -/
structure IsFirstUnwritable (parameters : Parameters) (parameter : Text × Text) : Prop where
  split : ∃ before after, parameters = before ++ parameter :: after ∧
    ∀ earlier ∈ before, earlier.2.hasSurrogate = false
  unwritable : parameter.2.hasSurrogate = true

theorem exists_isFirstUnwritable {parameters : Parameters}
    (unwritable : ¬ ∀ parameter ∈ parameters, parameter.2.hasSurrogate = false) :
    ∃ parameter, IsFirstUnwritable parameters parameter := by
  cases first : parameters.find? (·.2.hasSurrogate) with
  | none =>
      refine absurd (fun parameter mem => ?_) unwritable
      exact Bool.not_eq_true _ ▸ List.find?_eq_none.mp first parameter mem
  | some parameter =>
      obtain ⟨surrogate, before, after, eq, plain⟩ := List.find?_eq_some_iff_append.mp first
      refine ⟨parameter, ⟨before, after, eq, fun earlier mem => ?_⟩, surrogate⟩
      simpa using plain earlier mem

/-- What stands behind the first value that is refused does not matter, and neither do the
values that were already written. -/
theorem IsFirstUnwritable.encodeAll_eq {parameters : Parameters} {parameter : Text × Text}
    (h : IsFirstUnwritable parameters parameter) :
    encodeAll parameters = .error ⟨parameter.1⟩ := by
  obtain ⟨⟨before, after, rfl, plain⟩, surrogate⟩ := h
  induction before with
  | nil =>
      rw [List.nil_append, encodeAll, encodeParameter, encodeValue, if_pos surrogate]
      rfl
  | cons first before ih =>
      obtain ⟨here, later⟩ := List.forall_mem_cons.mp plain
      rw [List.cons_append, encodeAll, encodeParameter, encodeValue_eq_written here, ih later]
      rfl

end Query

/-! ### Pages -/

namespace Config

variable (config : Config) {hint : Hint}

theorem resolve_eq_of_isFirstUnwritable {parameter : Text × Text}
    (first : Query.IsFirstUnwritable hint.parameters parameter) :
    config.resolve hint =
      (config.defaultIdentifier, [.fallback hint.category ⟨parameter.1⟩]) := by
  rw [resolve, first.encodeAll_eq]

end Config

end SketchHelp
