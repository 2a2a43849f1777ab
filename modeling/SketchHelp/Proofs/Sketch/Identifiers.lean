import SketchHelp.Proofs.Sketch.DeclaratorPattern

/-!
One name, read twice. The name of a method is read with the characters that an identifier may
have, the name of an array variable with word characters and the dollar sign. The second
class lacks five kinds of characters of the first: combining marks, format and ignorable
controls, and all currency signs and connecting punctuation but the dollar and the
underscore. So a method's name is read whole, whatever it is made of, and a variable's name
only as far as the first character of these kinds.
-/

namespace SketchHelp

/-! ### Two classes of characters -/

namespace Unicode

/-- The controls that an identifier may contain. -/
def ignorableControls : Ranges :=
  [(0x00, 0x08), (0x0E, 0x1B), (0x7F, 0x9F)]

/-- The classes that word characters are of, the underscore aside. -/
def wordClasses : List Ranges :=
  [letters, decimalDigits, letterNumbers, otherNumbers]

/-- The classes of identifier characters that are not of word characters. -/
def foreignClasses : List Ranges :=
  [combiningMarks, formatControls, ignorableControls, currencySigns, connectors]

theorem areApart_of_mem {r s : Ranges} (hr : r ∈ wordClasses) (hs : s ∈ foreignClasses) :
    Ranges.AreApart r s := by
  have ascending : ∀ r ∈ wordClasses ++ foreignClasses, r.isAscending = true := by
    decide +kernel
  have swept : ∀ r ∈ wordClasses, ∀ s ∈ foreignClasses, Ranges.sweep r s = true := by
    decide +kernel
  exact Ranges.areApart_of_sweep (ascending r (List.mem_append_left _ hr))
    (ascending s (List.mem_append_right _ hs)) (swept r hr s hs)

end Unicode

namespace CodePoint

/-- An identifier character that ends the name of a variable. -/
def endsName (c : CodePoint) : Bool :=
  Unicode.combiningMarks.has c.val || Unicode.formatControls.has c.val ||
    c.isIgnorableControl || (Unicode.currencySigns.has c.val && c ≠ '$') ||
    (Unicode.connectors.has c.val && c ≠ '_')

theorem has_ignorableControls {c : CodePoint} (h : c.isIgnorableControl = true) :
    Unicode.ignorableControls.has c.val = true := by
  simp only [isIgnorableControl, Bool.or_eq_true, Bool.and_eq_true, decide_eq_true_eq] at h
  simp only [Unicode.ignorableControls, Unicode.Ranges.has]
  grind

/-- No word character but the underscore is of a foreign class. -/
theorem eq_underscore_of_isWord {c : CodePoint} (word : c.isWord = true)
    {s : Unicode.Ranges} (hs : s ∈ Unicode.foreignClasses) (h : s.has c.val = true) :
    c = ofChar '_' := by
  have apart {r : Unicode.Ranges} (hr : r ∈ Unicode.wordClasses) : ¬ r.has c.val = true :=
    fun other => (Unicode.areApart_of_mem hr hs).not_has other h
  simpa [isWord, apart (r := Unicode.letters) (by simp [Unicode.wordClasses]),
    apart (r := Unicode.decimalDigits) (by simp [Unicode.wordClasses]),
    apart (r := Unicode.letterNumbers) (by simp [Unicode.wordClasses]),
    apart (r := Unicode.otherNumbers) (by simp [Unicode.wordClasses])] using word

theorem exists_foreignClass {c : CodePoint} (h : c.endsName = true) :
    ∃ s ∈ Unicode.foreignClasses, s.has c.val = true := by
  simp only [endsName, Bool.or_eq_true, Bool.and_eq_true] at h
  simp only [Unicode.foreignClasses, List.mem_cons, List.not_mem_nil, or_false,
    exists_eq_or_imp, exists_eq_left]
  rcases h with (((mark | format) | control) | ⟨currency, -⟩) | ⟨connector, -⟩
  · exact .inl mark
  · exact .inr (.inl format)
  · exact .inr (.inr (.inl (has_ignorableControls control)))
  · exact .inr (.inr (.inr (.inl currency)))
  · exact .inr (.inr (.inr (.inr connector)))

theorem not_endsName_of_isNameCharacter {c : CodePoint}
    (h : Declarator.isNameCharacter c = true) : ¬ c.endsName = true := by
  intro ends
  rcases Bool.or_eq_true_iff.mp h with word | dollar
  · obtain ⟨s, mem, foreign⟩ := exists_foreignClass ends
    obtain rfl := eq_underscore_of_isWord word mem foreign
    exact absurd ends (by decide +kernel)
  · obtain rfl := of_decide_eq_true dollar
    exact absurd ends (by decide +kernel)

/-- The identifier characters that a variable's name is not read with are those that end it. -/
theorem isNameCharacter_iff {c : CodePoint} (part : c.isIdentifierPart = true) :
    Declarator.isNameCharacter c = true ↔ ¬ c.endsName = true := by
  refine ⟨not_endsName_of_isNameCharacter, fun stays => ?_⟩
  simp only [isIdentifierPart, endsName, Declarator.isNameCharacter, isWord, Bool.or_eq_true,
    Bool.and_eq_true, decide_eq_true_eq] at part stays ⊢
  tauto

end CodePoint

/-! ### Declarators that are never well-formed -/

namespace Declarator

theorem ArrayValue.mem_text (value : ArrayValue) :
    ('{' : CodePoint) ∈ value.text ∨ ('[' : CodePoint) ∈ value.text := by
  cases value with
  | creation => exact .inr (by simp [text])
  | initializer => exact .inl List.mem_cons_self

/-- A well-formed declarator has an initializer or a length in brackets. -/
theorem mem_of_isWellFormed {t : Text} (h : isWellFormed t = true) :
    ('{' : CodePoint) ∈ t ∨ ('[' : CodePoint) ∈ t := by
  obtain ⟨d, terminator, composed⟩ := isWellFormed_iff_exists.mp h
  have inside {c : CodePoint} (mem : c ∈ d.value.text) : c ∈ t := by
    rw [composed.text_eq]
    simp [ArrayDeclarator.text, mem]
  exact d.value.mem_text.imp inside inside

end Declarator

/-! ### The two readings -/

namespace SketchError

open Declarator

variable {name : Text}

/-- The text is read as far as the first of its characters that ends a name. -/
def IsReadAs (t found : Text) : Prop :=
  ∃ rest, t = found ++ rest ∧ (∀ c ∈ found, ¬ c.endsName = true) ∧
    ∀ c ∈ rest.head?, c.endsName = true

theorem isReadAs_takeWhile (parts : ∀ c ∈ name, c.isIdentifierPart = true) :
    IsReadAs name (name.takeWhile isNameCharacter) := by
  refine ⟨name.dropWhile isNameCharacter, List.takeWhile_append_dropWhile.symm,
    fun c mem => ?_, fun c head => ?_⟩
  · exact CodePoint.not_endsName_of_isNameCharacter (List.all_eq_true.mp List.all_takeWhile c mem)
  · have part := parts c (List.dropWhile_subset _ (List.mem_of_mem_head? head))
    have stop := List.head?_dropWhile_not isNameCharacter name
    rw [Option.mem_def.mp head] at stop
    by_contra stays
    exact ne_true_of_eq_false stop ((CodePoint.isNameCharacter_iff part).mpr stays)

theorem takeWhile_eq_self_iff (parts : ∀ c ∈ name, c.isIdentifierPart = true) :
    name.takeWhile isNameCharacter = name ↔ ∀ c ∈ name, ¬ c.endsName = true := by
  rw [List.takeWhile_eq_self_iff]
  exact forall₂_congr fun c mem => CodePoint.isNameCharacter_iff (parts c mem)

/-- A method's name is read whole. -/
theorem incorrectMethodDeclaration_append {front : Text}
    (parts : ∀ c ∈ name, c.isIdentifierPart = true)
    (edge : ∀ c ∈ front.getLast?, ¬ c.isIdentifierPart = true) :
    incorrectMethodDeclaration (front ++ (name ++ [('(' : CodePoint)])) =
      some (.incorrectMethodDeclaration name) := by
  have paren : Text.lastIndex? '(' (front ++ name ++ [('(' : CodePoint)]) =
      some (front ++ name).length := by
    refine Text.lastIndex?_eq_some_iff.mpr ⟨List.getElem?_concat_length, fun k there => ?_⟩
    have inside := (List.getElem?_eq_some_iff.mp there).1
    rw [List.length_append, List.length_singleton] at inside
    omega
  rw [incorrectMethodDeclaration, ← List.append_assoc, paren, Option.map_some, List.take_left,
    Text.takeWhileEnd_append_of_getLast? parts edge]

/-- The name of a variable that is no array is read as far as the pattern's names go. -/
theorem incorrectVariableDeclaration_append (above behind : Text)
    (type : name.couldBeType = true) (solid : ∀ c ∈ name, ¬ c.isBlank = true)
    (plain : ∀ c ∈ [('{' : CodePoint), '[', ',', ';'], c ∉ behind)
    (edge : ∀ c ∈ behind.head?, ¬ isNameCharacter c = true) :
    incorrectVariableDeclaration (above ++ (name ++ (behind ++ [(';' : CodePoint)])))
        above.length =
      .ok (some (.incorrectVariableDeclaration (lastWord above).trimType
        (name.takeWhile isNameCharacter))) := by
  obtain ⟨more, parts⟩ := Text.couldBeType_iff.mp type
  have foreign : ∀ c ∈ [('{' : CodePoint), '[', ',', ';'], c ∉ name ++ behind := by
    have other : ∀ c ∈ [('{' : CodePoint), '[', ',', ';'], ¬ c.isIdentifierPart = true := by
      decide
    intro c mark
    rw [List.mem_append, not_or]
    exact ⟨Text.notMem_of_couldBeType type (other c mark), plain c mark⟩
  have single : ∀ d ∈ [name ++ behind], IsSingle d :=
    List.forall_mem_singleton.mpr (isSingle_of_notMem (foreign _ (by decide))
      (foreign _ (by decide)) (foreign _ (by decide)))
  have whole : name ++ (behind ++ [(';' : CodePoint)]) = joined [name ++ behind] ++ [] := by
    rw [joined_singleton, List.append_nil, List.append_assoc]
  have rejected : ¬ isWellFormed (name ++ behind ++ [(';' : CodePoint)]) = true := by
    intro wellFormed
    have absent {c : CodePoint} (mark : c ∈ [('{' : CodePoint), '[', ',', ';'])
        (apart : c ∉ [(';' : CodePoint)]) : c ∉ name ++ behind ++ [(';' : CodePoint)] := by
      rw [List.mem_append, not_or]
      exact ⟨foreign c mark, apart⟩
    exact (mem_of_isWellFormed wellFormed).elim (absent (by decide) (by decide))
      (absent (by decide) (by decide))
  have bare : Text.IsBare (name ++ behind ++ [(';' : CodePoint)]) := by
    refine ⟨fun c head => ?_, fun c last => ?_⟩
    · rw [List.append_assoc, List.head?_append_of_ne_nil _ more] at head
      exact solid c (List.mem_of_mem_head? head)
    · rw [List.getLast?_concat] at last
      obtain rfl := Option.some.inj last
      decide
  have stop : ∀ c ∈ (behind ++ [(';' : CodePoint)]).head?, ¬ isNameCharacter c = true := by
    cases behind with
    | nil => decide
    | cons d behind => exact edge
  rw [whole, incorrectVariableDeclaration_joined above [] (List.cons_ne_nil _ _) single]
  show Except.ok (Option.map _ (List.find? _ [name ++ behind ++ [(';' : CodePoint)]])) = _
  rw [List.find?_cons_of_pos (by simpa using rejected), Option.map_some, bare.strip_eq,
    List.append_assoc, Text.takeWhile_append_of_edge name stop]

/-- A word of identifier characters without blanks is read whole as the name of a method.
As the name of an array variable it is read as far as the first character that ends one, so
it is read whole there too if and only if it has none. -/
theorem reads_identifier (type : name.couldBeType = true)
    (solid : ∀ c ∈ name, ¬ c.isBlank = true) :
    incorrectMethodDeclaration (Text.ofString "void " ++ (name ++ Text.ofString "(")) =
        some (.incorrectMethodDeclaration name) ∧
      ∃ found,
        incorrectVariableDeclaration
            (Text.ofString "int[] " ++ (name ++ Text.ofString " = 3;")) 6 =
          .ok (some (.incorrectVariableDeclaration (Text.ofString "int") found)) ∧
        IsReadAs name found ∧ (found = name ↔ ∀ c ∈ name, ¬ c.endsName = true) := by
  have parts := (Text.couldBeType_iff.mp type).2
  refine ⟨incorrectMethodDeclaration_append parts (by decide), name.takeWhile isNameCharacter,
    ?_, isReadAs_takeWhile parts, takeWhile_eq_self_iff parts⟩
  exact incorrectVariableDeclaration_append (Text.ofString "int[] ") (Text.ofString " = 3")
    type solid (by decide) (by decide)

theorem reads_identifier_snakeCase :
    let name := Text.ofString "größe_2$"
    incorrectMethodDeclaration (Text.ofString "void größe_2$(") =
        some (.incorrectMethodDeclaration name) ∧
      incorrectVariableDeclaration (Text.ofString "int[] größe_2$ = 3;") 6 =
        .ok (some (.incorrectVariableDeclaration (Text.ofString "int") name)) := by
  intro name
  have type : name.couldBeType = true := by decide +kernel
  obtain ⟨method, found, declared, -, whole⟩ := reads_identifier type (by decide)
  rw [whole.mpr (by decide +kernel)] at declared
  exact ⟨method, declared⟩

/-- A letter with a combining accent is read without it as the name of a variable. -/
theorem cuts_identifier_accent :
    let name := Text.ofString "e\u0301"
    name.couldBeType = true ∧ (∀ c ∈ name, ¬ c.isBlank = true) ∧
      incorrectMethodDeclaration (Text.ofString "void e\u0301(") =
        some (.incorrectMethodDeclaration name) ∧
      incorrectVariableDeclaration (Text.ofString "int[] e\u0301 = 3;") 6 =
        .ok (some (.incorrectVariableDeclaration (Text.ofString "int") (Text.ofString "e"))) ∧
      Text.ofString "e" ≠ name := by
  intro name
  exact ⟨by decide +kernel, by decide, by decide +kernel, by cbv, by decide⟩

end SketchError

end SketchHelp
