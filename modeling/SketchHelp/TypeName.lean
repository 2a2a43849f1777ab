import SketchHelp.Text.Class
import SketchHelp.Unicode.Mark
import SketchHelp.Unicode.Sign

/-!
Names of types and the characters that may stand inside an identifier. Help pages
show simple names, so a qualified name is cut down to its last segment, and the
element type of an array is its type with one pair of brackets less.
-/

namespace SketchHelp

namespace CodePoint

/-- Control characters that an identifier may contain and a reader ignores. -/
def isIgnorableControl (c : CodePoint) : Bool :=
  c.val ≤ 0x08 || (0x0E ≤ c.val && c.val ≤ 0x1B) || (0x7F ≤ c.val && c.val ≤ 0x9F)

/-- Letters, decimal digits, letter numbers, currency signs, connecting punctuation,
combining marks, format controls and ignorable controls. -/
def isIdentifierPart (c : CodePoint) : Bool :=
  Unicode.letters.has c.val || Unicode.decimalDigits.has c.val ||
    Unicode.letterNumbers.has c.val || Unicode.currencySigns.has c.val ||
    Unicode.connectors.has c.val || Unicode.combiningMarks.has c.val ||
    Unicode.formatControls.has c.val || c.isIgnorableControl

end CodePoint

namespace Text

/-- A single character that may stand inside an identifier. -/
def isIdentifierPart : Text → Bool
  | [c] => c.isIdentifierPart
  | _ => false

/-- A nonempty run of identifier characters. -/
def couldBeType (token : Text) : Bool :=
  !token.isEmpty && token.all CodePoint.isIdentifierPart

/-- The last segment of a qualified name: what follows its last dot. -/
def trimType (name : Text) : Text :=
  takeWhileEnd (· ≠ '.') name

/-- The type with its first pair of empty brackets taken out. -/
def elementType : Text → Text
  | [] => []
  | c :: rest =>
    if c = '[' ∧ rest.head? = some (CodePoint.ofChar ']') then rest.tail
    else c :: elementType rest

theorem dot_notMem_trimType (name : Text) : CodePoint.ofChar '.' ∉ trimType name := by
  intro dot
  have := List.all_eq_true.mp List.all_takeWhile _ (List.mem_reverse.mp dot)
  simp at this

theorem trimType_eq_self {name : Text} (h : CodePoint.ofChar '.' ∉ name) :
    trimType name = name := by
  have all : ∀ c ∈ name.reverse, decide (c ≠ CodePoint.ofChar '.') = true := by
    intro c hc
    have : c ≠ CodePoint.ofChar '.' := fun same => h (same ▸ List.mem_reverse.mp hc)
    simpa using this
  have kept : name.reverse.takeWhile (· ≠ CodePoint.ofChar '.') = name.reverse := by
    have whole := @List.takeWhile_append_of_pos _ _ _ [] all
    simpa only [List.append_nil, List.takeWhile_nil] using whole
  rw [trimType, takeWhileEnd, kept, List.reverse_reverse]

@[simp] theorem trimType_trimType (name : Text) : trimType (trimType name) = trimType name :=
  trimType_eq_self (dot_notMem_trimType name)

theorem trimType_suffix (name : Text) : trimType name <:+ name :=
  ⟨_, dropWhileEnd_append_takeWhileEnd _ name⟩

/-- Whatever stands before a dot is cut off with it. -/
theorem trimType_append_dot (qualifier name : Text) :
    trimType (qualifier ++ [CodePoint.ofChar '.'] ++ name) = trimType name := by
  have edge : ∀ c ∈ (CodePoint.ofChar '.' :: qualifier.reverse).head?,
      ¬ decide (c ≠ CodePoint.ofChar '.') = true := by simp
  have same := takeWhile_append_of_edge name.reverse edge
  rw [trimType, trimType, takeWhileEnd, takeWhileEnd, List.reverse_append, List.reverse_concat,
    same]

/-- What stands for one dimension of an array. -/
def brackets : Text :=
  ofString "[]"

/-- No brackets are taken out of a text that has none, if no bracket behind it closes one
of its own. -/
theorem elementType_append {front behind : Text} (bare : ¬ brackets <:+: front)
    (edge : behind.head? ≠ some (CodePoint.ofChar ']')) :
    elementType (front ++ behind) = front ++ elementType behind := by
  induction front with
  | nil => rfl
  | cons c front ih =>
      have bare' : ¬ brackets <:+: front := fun inside => bare (List.infix_cons inside)
      have here : ¬ (c = '[' ∧ (front ++ behind).head? = some (CodePoint.ofChar ']')) := by
        rintro ⟨rfl, closes⟩
        cases front with
        | nil => exact edge closes
        | cons d front =>
            obtain rfl := Option.some.inj closes
            exact bare ⟨[], front, rfl⟩
      rw [List.cons_append, elementType, if_neg here, ih bare', List.cons_append]

theorem elementType_eq_self {t : Text} (bare : ¬ brackets <:+: t) : elementType t = t := by
  have whole := @elementType_append t [] bare nofun
  rwa [List.append_nil, elementType, List.append_nil] at whole

/-- The first brackets of a text are taken out. -/
theorem elementType_append_brackets {front : Text} (bare : ¬ brackets <:+: front)
    (behind : Text) : elementType (front ++ (brackets ++ behind)) = front ++ behind := by
  have edge : (brackets ++ behind).head? ≠ some (CodePoint.ofChar ']') := by
    simp [brackets, ofString]
  rw [elementType_append bare edge]
  rfl

theorem couldBeType_iff {token : Text} :
    token.couldBeType = true ↔ token ≠ [] ∧ ∀ c ∈ token, c.isIdentifierPart = true := by
  simp [couldBeType]

theorem notMem_of_couldBeType {token : Text} {c : CodePoint} (h : token.couldBeType = true)
    (foreign : ¬ c.isIdentifierPart = true) : c ∉ token :=
  fun mem => foreign ((couldBeType_iff.mp h).2 c mem)

/-- There is nothing to cut off a token that could name a type. -/
theorem trimType_of_couldBeType {token : Text} (h : token.couldBeType = true) :
    token.trimType = token :=
  trimType_eq_self (notMem_of_couldBeType h (by decide))

end Text

end SketchHelp
