import SketchHelp.Proofs.Sketch.Statement

/-!
Declarations of arrays as they are written: a name gets a new array of a literal length or
an initializer of nested text, with any blanks between the tokens. Such declarators stay
whole when their statement is cut, however deep an initializer goes and whatever commas it
holds. The pattern accepts each of them but for two kinds: it has no room for blanks inside
the brackets, and an initializer has to be on one line. So a declaration without these is
never reported, and one with either of them always is.
-/

namespace SketchHelp

namespace Declarator

/-! ### Written declarators -/

/-- The value of an array in the parts that it is written of: a type and a length behind
`new`, with what stands between the tokens, or the text between two braces. -/
inductive ArrayValue where
  | creation (behindNew type behindType left length right : Text)
  | initializer (body : Text)

/-- A declarator of an array in the parts that it is written of. -/
structure ArrayDeclarator where
  lead : Text
  name : Text
  behindName : Text
  behindEquals : Text
  value : ArrayValue
  behindValue : Text

namespace ArrayValue

def text : ArrayValue → Text
  | creation behindNew type behindType left length right =>
    Text.ofString "new" ++ (behindNew ++ (type ++ (behindType ++ ('[' : CodePoint) ::
      (left ++ (length ++ (right ++ [(']' : CodePoint)]))))))
  | initializer body => ('{' : CodePoint) :: (body ++ [('}' : CodePoint)])

/-- The value is one of an array: only blanks stand between its tokens, and the body of an
initializer is nested and ends no statement. -/
inductive IsWritten : ArrayValue → Prop
  | creation {behindNew type behindType left length right : Text}
      (behindNew_blank : IsBlank behindNew) (isName : IsName type)
      (behindType_blank : IsBlank behindType) (left_blank : IsBlank left)
      (nonempty : length ≠ []) (digits : ∀ c ∈ length, c.isDigit = true)
      (right_blank : IsBlank right) :
      IsWritten (.creation behindNew type behindType left length right)
  | initializer {body : Text} (nested : Brace.IsNested body)
      (noSemicolon : (';' : CodePoint) ∉ body) : IsWritten (.initializer body)

/-- No blank stands inside the brackets, and no line ends between the braces. -/
def IsPlain : ArrayValue → Prop
  | creation _ _ _ left _ right => left = [] ∧ right = []
  | initializer body => ('\n' : CodePoint) ∉ body

instance (value : ArrayValue) : Decidable value.IsPlain :=
  match value with
  | creation _ _ _ left _ right => inferInstanceAs (Decidable (left = [] ∧ right = []))
  | initializer body => inferInstanceAs (Decidable (('\n' : CodePoint) ∉ body))

end ArrayValue

namespace ArrayDeclarator

def text (d : ArrayDeclarator) : Text :=
  d.lead ++ (d.name ++ (d.behindName ++ ('=' : CodePoint) ::
    (d.behindEquals ++ (d.value.text ++ d.behindValue))))

/-- The declarator is one of an array: only blanks stand between its tokens. -/
structure IsWritten (d : ArrayDeclarator) : Prop where
  lead : IsBlank d.lead
  name : IsName d.name
  behindName : IsBlank d.behindName
  behindEquals : IsBlank d.behindEquals
  value : d.value.IsWritten
  behindValue : IsBlank d.behindValue

end ArrayDeclarator

/-! ### One declarator is one piece -/

theorem isSingle_of_class {p : CodePoint → Bool} {t : Text} (inside : ∀ c ∈ t, p c = true)
    (noBrace : ¬ p '{' = true) (noComma : ¬ p ',' = true) (noSemicolon : ¬ p ';' = true) :
    IsSingle t :=
  isSingle_of_notMem (fun mem => noBrace (inside _ mem)) (fun mem => noComma (inside _ mem))
    fun mem => noSemicolon (inside _ mem)

theorem IsBlank.isSingle {t : Text} (h : IsBlank t) : IsSingle t :=
  isSingle_of_class h (by decide) (by decide) (by decide)

theorem IsName.isSingle {t : Text} (h : IsName t) : IsSingle t :=
  isSingle_of_class h.2 (by decide) (by decide) (by decide)

theorem isSingle_singleton {c : CodePoint} (h : c ∉ [('{' : CodePoint), ',', ';']) :
    IsSingle [c] := by
  simp only [List.mem_cons, List.not_mem_nil, or_false, not_or] at h
  refine isSingle_of_notMem ?_ ?_ ?_ <;> simp [eq_comm, h]

theorem ArrayValue.IsWritten.isSingle {value : ArrayValue} (h : value.IsWritten) :
    IsSingle value.text := by
  cases h with
  | creation behindNew isName behindType left nonempty digits right =>
      have length := isSingle_of_class digits (by decide) (by decide) (by decide)
      have brackets := (isSingle_singleton (c := '[') (by decide)).append
        (left.isSingle.append (length.append (right.isSingle.append
          (isSingle_singleton (c := ']') (by decide)))))
      have new : IsSingle (Text.ofString "new") :=
        isSingle_of_notMem (by decide) (by decide) (by decide)
      exact new.append (behindNew.isSingle.append (isName.isSingle.append
        (behindType.isSingle.append brackets)))
  | initializer nested noSemicolon => exact isSingle_group nested noSemicolon

theorem ArrayDeclarator.IsWritten.isSingle {d : ArrayDeclarator} (h : d.IsWritten) :
    IsSingle d.text := by
  have equals := (isSingle_singleton (c := '=') (by decide)).append
    (h.behindEquals.isSingle.append (h.value.isSingle.append h.behindValue.isSingle))
  exact h.lead.isSingle.append (h.name.isSingle.append (h.behindName.isSingle.append equals))

/-! ### What the pattern reads -/

section

variable {p : CodePoint → Bool} {blanks run rest : Text} {c mark : CodePoint}

theorem dropBlanks_append (blank : IsBlank blanks)
    (edge : ∀ c ∈ rest.head?, ¬ c.isBlank = true) : dropBlanks (blanks ++ rest) = rest :=
  Text.dropWhile_append_of_head? blank edge

theorem dropBlanks_append_cons (blank : IsBlank blanks) (h : ¬ mark.isBlank = true)
    (rest : Text) : dropBlanks (blanks ++ mark :: rest) = mark :: rest :=
  dropBlanks_append blank fun c head => by
    obtain rfl := Option.some.inj head
    exact h

theorem afterRun?_append (more : run ≠ []) (inside : ∀ c ∈ run, p c = true)
    (edge : ∀ c ∈ rest.head?, ¬ p c = true) : afterRun? p (run ++ rest) = some rest := by
  obtain ⟨first, others, rfl⟩ := List.exists_cons_of_ne_nil more
  obtain ⟨here, later⟩ := List.forall_mem_cons.mp inside
  rw [List.cons_append, afterRun?, if_pos here, Text.dropWhile_append_of_head? later edge]

theorem after?_cons_self (c : CodePoint) (rest : Text) : after? c (c :: rest) = some rest :=
  if_pos rfl

/-- A mark behind blanks stops a run that takes neither. -/
theorem head?_of_blanks {q : CodePoint → Prop} (blank : IsBlank blanks)
    (apart : ∀ c : CodePoint, c.isBlank = true → q c) (h : q mark) (rest : Text) :
    ∀ c ∈ (blanks ++ mark :: rest).head?, q c := by
  intro c head
  cases blanks with
  | nil =>
      obtain rfl := Option.some.inj head
      exact h
  | cons d blanks =>
      obtain rfl := Option.some.inj head
      exact apart _ (blank _ List.mem_cons_self)

end

theorem not_isDigit_of_isBlank {c : CodePoint} (h : c.isBlank = true) : ¬ c.isDigit = true :=
  Unicode.Ranges.AreApart.not_has (by decide +kernel) h

theorem isValue_creation (behindNew type behindType left length right rest : Text) :
    isValue ((ArrayValue.creation behindNew type behindType left length right).text ++ rest) =
      isCreation (behindNew ++ (type ++ (behindType ++ ('[' : CodePoint) ::
        (left ++ (length ++ (right ++ (']' : CodePoint) :: rest)))))) := by
  have new (rest : Text) : isValue (Text.ofString "new" ++ rest) = isCreation rest := rfl
  simp only [ArrayValue.text, List.append_assoc, List.cons_append, List.nil_append, new]

theorem isValue_initializer (body rest : Text) :
    isValue ((ArrayValue.initializer body).text ++ rest) =
      isInitializer (body ++ ('}' : CodePoint) :: rest) := by
  simp only [ArrayValue.text, List.append_assoc, List.cons_append, List.nil_append]
  rw [isValue, if_pos rfl]

theorem ArrayValue.not_isBlank_of_head? (value : ArrayValue) (rest : Text) :
    ∀ c ∈ (value.text ++ rest).head?, ¬ c.isBlank = true := by
  intro c head
  cases value with
  | creation =>
      obtain rfl := Option.some.inj head
      decide
  | initializer =>
      obtain rfl := Option.some.inj head
      decide

/-- Behind blanks and names that stand where they may, the value decides. -/
theorem isWellFormed_text {d : ArrayDeclarator} (lead : IsBlank d.lead) (name : IsName d.name)
    (behindName : IsBlank d.behindName) (behindEquals : IsBlank d.behindEquals) (rest : Text) :
    isWellFormed (d.text ++ rest) = isValue (d.value.text ++ (d.behindValue ++ rest)) := by
  have nameEnds := head?_of_blanks behindName (fun _ => not_isNameCharacter_of_isBlank)
    (show ¬ isNameCharacter '=' = true by decide)
    (d.behindEquals ++ (d.value.text ++ (d.behindValue ++ rest)))
  have parts : d.text ++ rest = d.lead ++ (d.name ++ (d.behindName ++ ('=' : CodePoint) ::
      (d.behindEquals ++ (d.value.text ++ (d.behindValue ++ rest))))) := by
    simp only [ArrayDeclarator.text, List.append_assoc, List.cons_append]
  rw [parts, isWellFormed, dropBlanks_append lead (name.not_isBlank_of_head? _),
    afterRun?_append name.1 name.2 nameEnds, Option.bind_some,
    dropBlanks_append_cons behindName (by decide), after?_cons_self, Option.map_some,
    Option.getD_some, dropBlanks_append behindEquals (d.value.not_isBlank_of_head? _)]

section

variable {behind : Text} {terminator : CodePoint}
  (h : terminator = ',' ∨ terminator = ';')

include h

theorem isTerminator_dropBlanks (blank : IsBlank behind) :
    isTerminator (dropBlanks (behind ++ [terminator])) = true := by
  rcases h with rfl | rfl
  · rw [dropBlanks_append_cons blank (by decide)]
    decide
  · rw [dropBlanks_append_cons blank (by decide)]
    decide

theorem isInitializer_iff (body : Text) (blank : IsBlank behind) :
    isInitializer (body ++ ('}' : CodePoint) :: (behind ++ [terminator])) = true ↔
      ('\n' : CodePoint) ∉ body := by
  have reversed : (body ++ ('}' : CodePoint) :: (behind ++ [terminator])).reverse =
      terminator :: (behind.reverse ++ ('}' : CodePoint) :: body.reverse) := by
    simp
  have back : IsBlank behind.reverse := fun c mem => blank c (List.mem_reverse.mp mem)
  rw [isInitializer, reversed]
  dsimp only
  rw [dropBlanks_append_cons back (by decide)]
  simp [h]

/-- The length has to stand right between the brackets. -/
theorem isCreation_iff {behindNew type behindType left length right : Text}
    (behindNew_blank : IsBlank behindNew) (isName : IsName type)
    (behindType_blank : IsBlank behindType) (left_blank : IsBlank left)
    (nonempty : length ≠ []) (digits : ∀ c ∈ length, c.isDigit = true)
    (right_blank : IsBlank right) (blank : IsBlank behind) :
    isCreation (behindNew ++ (type ++ (behindType ++ ('[' : CodePoint) ::
      (left ++ (length ++ (right ++ (']' : CodePoint) :: (behind ++ [terminator]))))))) = true ↔
        left = [] ∧ right = [] := by
  have typeEnds := head?_of_blanks behindType_blank
    (fun _ => not_isNameCharacter_of_isBlank) (show ¬ isNameCharacter '[' = true by decide)
    (left ++ (length ++ (right ++ (']' : CodePoint) :: (behind ++ [terminator]))))
  rw [isCreation, dropBlanks_append behindNew_blank (isName.not_isBlank_of_head? _),
    afterRun?_append isName.1 isName.2 typeEnds, Option.bind_some,
    dropBlanks_append_cons behindType_blank (by decide), after?_cons_self, Option.bind_some]
  cases left with
  | cons c left =>
      have notDigit := not_isDigit_of_isBlank (left_blank c List.mem_cons_self)
      rw [List.cons_append, afterRun?, if_neg notDigit]
      simp
  | nil =>
      have lengthEnds := head?_of_blanks right_blank (fun _ => not_isDigit_of_isBlank)
        (show ¬ CodePoint.isDigit ']' = true by decide) (behind ++ [terminator])
      rw [List.nil_append, afterRun?_append nonempty digits lengthEnds, Option.bind_some]
      cases right with
      | cons c right =>
          have notBracket : c ≠ ']' := by
            rintro rfl
            exact absurd (right_blank _ List.mem_cons_self) (by decide)
          rw [List.cons_append, after?, if_neg notBracket]
          simp
      | nil =>
          rw [List.nil_append, after?_cons_self, Option.map_some, Option.getD_some,
            isTerminator_dropBlanks h blank]
          simp

theorem isValue_iff {value : ArrayValue} (written : value.IsWritten) (blank : IsBlank behind) :
    isValue (value.text ++ (behind ++ [terminator])) = true ↔ value.IsPlain := by
  cases written with
  | creation hnew isName htype hleft nonempty digits hright =>
      rw [isValue_creation]
      exact isCreation_iff h hnew isName htype hleft nonempty digits hright blank
  | @initializer body nested noSemicolon =>
      rw [isValue_initializer]
      exact isInitializer_iff h body blank

/-- Of the declarators as they are written the pattern accepts the plain ones. -/
theorem isWellFormed_iff {d : ArrayDeclarator} (written : d.IsWritten) :
    isWellFormed (d.text ++ [terminator]) = true ↔ d.value.IsPlain := by
  rw [isWellFormed_text written.lead written.name written.behindName written.behindEquals]
  exact isValue_iff h written.value written.behindValue

end

/-! ### Declarations -/

theorem separated_isWellFormed_iff {declarators : List ArrayDeclarator}
    (written : ∀ d ∈ declarators, d.IsWritten) :
    (∀ piece ∈ separated (declarators.map ArrayDeclarator.text), isWellFormed piece = true) ↔
      ∀ d ∈ declarators, d.value.IsPlain := by
  induction declarators with
  | nil => simp [separated]
  | cons d behind ih =>
      obtain ⟨first, later⟩ := List.forall_mem_cons.mp written
      rw [List.map_cons, separated, List.forall_mem_cons, List.forall_mem_cons, ih later,
        isWellFormed_iff (separator_eq _) first]

end Declarator

namespace SketchError

open Declarator

/-- A declaration of arrays is not reported if and only if no blank stands in the brackets
of a length and every initializer is on one line. -/
theorem incorrectVariableDeclaration_arrays_eq_none_iff (above behind : Text)
    {declarators : List ArrayDeclarator} (more : declarators ≠ [])
    (written : ∀ d ∈ declarators, d.IsWritten) :
    incorrectVariableDeclaration
        (above ++ (joined (declarators.map ArrayDeclarator.text) ++ behind)) above.length =
      .ok none ↔ ∀ d ∈ declarators, d.value.IsPlain := by
  have single : ∀ t ∈ declarators.map ArrayDeclarator.text, IsSingle t := by
    intro t mem
    obtain ⟨d, inside, rfl⟩ := List.mem_map.mp mem
    exact (written d inside).isSingle
  rw [incorrectVariableDeclaration_joined_eq_none_iff above behind (by simpa using more) single]
  exact separated_isWellFormed_iff written

theorem incorrectVariableDeclaration_arrays_lengthAndNested :
    let first : ArrayDeclarator := ⟨[], Text.ofString "a", [], Text.ofString "\n",
      .creation (Text.ofString " ") (Text.ofString "int") [] [] (Text.ofString "5") [], []⟩
    let second : ArrayDeclarator := ⟨Text.ofString " ", Text.ofString "b", Text.ofString " ",
      Text.ofString "\t", .initializer (Text.ofString "\x7b1, 2\x7d"), Text.ofString "\n"⟩
    let above := Text.ofString "int[] "
    joined [first.text, second.text] =
        Text.ofString "a=\nnew int[5], b =\t\x7b\x7b1, 2\x7d\x7d\n;" ∧
      incorrectVariableDeclaration (above ++ (joined [first.text, second.text] ++ []))
        above.length = .ok none := by
  intro first second above
  have nested : Brace.IsNested (Text.ofString "\x7b1, 2\x7d") :=
    .group .curly (Brace.isNested_of_forall_plain (t := Text.ofString "1, 2") (by decide)) .nil
  have written : ∀ d ∈ [first, second], d.IsWritten :=
    List.forall_mem_cons.mpr
      ⟨⟨by decide, by decide, by decide, by decide, .creation (by decide) (by decide) (by decide)
          (by decide) (by decide) (by decide) (by decide), by decide⟩,
        List.forall_mem_singleton.mpr
          ⟨by decide, by decide, by decide, by decide, .initializer nested (by decide),
            by decide⟩⟩
  exact ⟨by decide, (incorrectVariableDeclaration_arrays_eq_none_iff above []
    (List.cons_ne_nil first [second]) written).mpr (by decide)⟩

/-- An initializer of two lines is reported, though it is written as one of an array. -/
theorem reports_initializer_twoLines :
    let d : ArrayDeclarator := ⟨[], Text.ofString "a", Text.ofString " ", Text.ofString " ",
      .initializer (Text.ofString "1,\n2"), []⟩
    d.IsWritten ∧ joined [d.text] = Text.ofString "a = \x7b1,\n2\x7d;" ∧
      incorrectVariableDeclaration (Text.ofString "int[] a = \x7b1,\n2\x7d;") 6 =
        .ok (some (.incorrectVariableDeclaration (Text.ofString "int") (Text.ofString "a"))) := by
  intro d
  have nested : Brace.IsNested (Text.ofString "1,\n2") :=
    Brace.isNested_of_forall_plain (by decide)
  exact ⟨⟨by decide, by decide, by decide, by decide, .initializer nested (by decide),
    by decide⟩, by decide, by cbv⟩

end SketchError

end SketchHelp
