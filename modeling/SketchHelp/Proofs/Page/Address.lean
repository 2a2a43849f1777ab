import SketchHelp.Page.Identifier
import SketchHelp.Proofs.Page.FormCoding

/-!
Reading the address of a page. The address of a hint's page can be taken apart again:
what stands behind the base address up to the first question mark is the category, and
the rest, cut at ampersands and each piece at its first equals sign, is the hint's
parameters and the global ones. So no two pages share an address, and none shares one
with the default page.
-/

namespace SketchHelp

namespace Text

/-- A text of letters, digits and the four harmless signs only. -/
def IsUnreserved (t : Text) : Prop :=
  ∀ c ∈ t, c.isUnreserved = true

theorem isUnreserved_iff_all {t : Text} :
    t.IsUnreserved ↔ t.all CodePoint.isUnreserved = true :=
  List.all_eq_true.symm

theorem isUnreserved_ofNat (n : Nat) : (ofNat n).IsUnreserved := by
  intro c hc
  obtain ⟨digit, hd, rfl⟩ := List.mem_map.mp hc
  have decimal := Nat.isDigit_of_mem_toDigits (by omega) (by omega) hd
  simp only [Char.isDigit, Bool.and_eq_true, decide_eq_true_eq] at decimal
  have low : 0x30 ≤ digit.toNat := decimal.1
  have high : digit.toNat ≤ 0x39 := decimal.2
  simp [CodePoint.isUnreserved, low, high]

end Text

theorem Category.toText_isUnreserved (category : Category) :
    category.toText.IsUnreserved := by
  rw [Text.isUnreserved_iff_all]
  cases category <;> rfl

theorem Category.toText_ne_nil (category : Category) : category.toText ≠ [] := by
  cases category <;> decide

/-- No category begins with a question mark. -/
theorem Category.exists_toText_eq_cons (category : Category) :
    ∃ c path, category.toText = c :: path ∧ c ≠ '?' := by
  obtain ⟨c, path, eq⟩ := List.exists_cons_of_ne_nil category.toText_ne_nil
  have unreserved := category.toText_isUnreserved c (by rw [eq]; exact .head _)
  exact ⟨c, path, eq, CodePoint.ne_of_isUnreserved unreserved (by decide)⟩

namespace Hint

/-- Whether every value of the hint's parameters has a written form. -/
def IsWritable (hint : Hint) : Prop :=
  ∀ parameter ∈ hint.parameters, parameter.2.hasSurrogate = false

instance (hint : Hint) : Decidable hint.IsWritable :=
  inferInstanceAs (Decidable (∀ parameter ∈ hint.parameters, parameter.2.hasSurrogate = false))

theorem parameters_ne_nil (hint : Hint) : hint.parameters ≠ [] := by
  cases hint <;> exact List.cons_ne_nil _ _

end Hint

namespace Config

theorem isUnreserved_globalParameters (config : Config) {parameter : Text × Text}
    (h : parameter ∈ config.globalParameters) :
    parameter.1.IsUnreserved ∧ parameter.2.IsUnreserved := by
  unfold globalParameters at h
  split at h
  · simp only [List.mem_cons, List.not_mem_nil, or_false] at h
    rcases h with rfl | rfl
    · exact ⟨Text.isUnreserved_iff_all.mpr (by decide),
        Text.isUnreserved_iff_all.mpr (by decide)⟩
    · have key : fontSizeKey.IsUnreserved := Text.isUnreserved_iff_all.mpr (by decide)
      exact ⟨key, Text.isUnreserved_ofNat config.fontSize⟩
  · cases h

end Config

/-! ### Queries -/

namespace Query

/-- A parameter with its value in written form. -/
def write (parameter : Text × Text) : Text × Text :=
  (parameter.1, written parameter.2)

theorem encodeAll_eq_map_write {parameters : Parameters}
    (writable : ∀ parameter ∈ parameters, parameter.2.hasSurrogate = false) :
    encodeAll parameters = .ok (parameters.map write) := by
  induction parameters with
  | nil => rfl
  | cons parameter rest ih =>
      have here := writable parameter List.mem_cons_self
      have later := ih fun other ho => writable other (List.mem_cons_of_mem parameter ho)
      rw [encodeAll, encodeParameter, encodeValue_eq_written here, later]
      rfl

theorem write_of_isUnreserved {parameter : Text × Text} (h : parameter.2.IsUnreserved) :
    write parameter = parameter := by
  rw [write, written_of_isUnreserved h]

end Query

/-! ### Addresses -/

namespace Config

variable (config : Config) {hint : Hint}

theorem map_write_globalParameters :
    config.globalParameters.map Query.write = config.globalParameters := by
  have same : config.globalParameters.map Query.write = config.globalParameters.map id :=
    List.map_congr_left fun parameter h =>
      Query.write_of_isUnreserved (config.isUnreserved_globalParameters h).2
  rw [same, List.map_id]

/-- The address of a hint's page, all of it written. -/
theorem resolve_eq_of_isWritable (writable : hint.IsWritable) :
    config.resolve hint = (config.base ++ (hint.category.toText ++ CodePoint.ofChar '?' ::
      Query.join ((hint.parameters ++ config.globalParameters).map Query.write)), []) := by
  rw [resolve, Query.encodeAll_eq_map_write writable]
  show (config.identifier _ _, _) = _
  rw [identifier, List.map_append, map_write_globalParameters, List.append_assoc]

end Config

end SketchHelp
