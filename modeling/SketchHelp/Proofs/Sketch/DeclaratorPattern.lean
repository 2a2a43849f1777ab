import Mathlib.Computability.Language
import Mathlib.Data.List.TakeWhile
import SketchHelp.Proofs.Sketch.ArrayDeclaration

/-!
The pattern of a well-formed array declarator. It is a regular expression, and as such it
stands for a language and leaves open which characters go to which of its parts. But no run of
blanks, of name characters or of digits can go on into what follows it, and the brace that
closes an initializer is the last one of all, so a recogniser that never goes back finds the
parts if there are any. It accepts the language of the expression and nothing else, and the
texts of the language are the declarators in their parts, with the mark that ends them.
-/

namespace SketchHelp

namespace Declarator

open scoped Computability

/-! ### The regular expression -/

namespace Pattern

section

variable {p : CodePoint → Bool} {t : Text}

/-- One character of a class. -/
def character (p : CodePoint → Bool) : Language CodePoint :=
  {t | ∃ c, t = [c] ∧ p c = true}

/-- Any number of characters of a class. -/
def run (p : CodePoint → Bool) : Language CodePoint :=
  (character p)∗

/-- At least one character of a class. -/
def someRun (p : CodePoint → Bool) : Language CodePoint :=
  character p * run p

theorem mem_run : t ∈ run p ↔ ∀ c ∈ t, p c = true := by
  rw [run, Language.mem_kstar]
  constructor
  · rintro ⟨pieces, rfl, single⟩ c mem
    obtain ⟨piece, among, inside⟩ := List.mem_flatten.mp mem
    obtain ⟨d, rfl, isIn⟩ := single piece among
    obtain rfl := List.mem_singleton.mp inside
    exact isIn
  · intro inside
    refine ⟨t.map ([·]), by rw [← List.flatMap_def, List.flatMap_singleton'], fun piece among => ?_⟩
    obtain ⟨c, mem, rfl⟩ := List.mem_map.mp among
    exact ⟨c, rfl, inside c mem⟩

theorem mem_someRun : t ∈ someRun p ↔ t ≠ [] ∧ ∀ c ∈ t, p c = true := by
  rw [someRun, Language.mem_mul]
  constructor
  · rintro ⟨_, ⟨c, rfl, isIn⟩, rest, inside, rfl⟩
    exact ⟨List.cons_ne_nil c rest, List.forall_mem_cons.mpr ⟨isIn, mem_run.mp inside⟩⟩
  · rintro ⟨more, inside⟩
    obtain ⟨c, rest, rfl⟩ := List.exists_cons_of_ne_nil more
    obtain ⟨isIn, later⟩ := List.forall_mem_cons.mp inside
    exact ⟨[c], ⟨c, rfl, isIn⟩, rest, mem_run.mpr later, rfl⟩

end

def blanks : Language CodePoint :=
  run CodePoint.isBlank

def name : Language CodePoint :=
  someRun isNameCharacter

def number : Language CodePoint :=
  someRun CodePoint.isDigit

/-- The text of one character. -/
def mark (c : CodePoint) : Language CodePoint :=
  {[c]}

/-- What may stand on one line. -/
def line : Language CodePoint :=
  run (· ≠ '\n')

def creation : Language CodePoint :=
  {Text.ofString "new"} * blanks * name * blanks * mark '[' * number * mark ']'

def initializer : Language CodePoint :=
  mark '{' * line * mark '}'

def terminator : Language CodePoint :=
  character fun c => c = ',' || c = ';'

/-- Well-formed array declarators with the marks that end them, in the usual notation
`\s*[\w$]+\s*=\s*(new\s*[\w$]+\s*\[\d+]|\{.*})\s*[,;]`. -/
def arrayDeclarator : Language CodePoint :=
  blanks * name * blanks * mark '=' * blanks * (creation + initializer) * blanks * terminator

end Pattern

/-! ### The texts of the expression -/

/-- A value with its length right between the brackets or with an initializer on one line. -/
inductive ArrayValue.IsRead : ArrayValue → Prop
  | creation {behindNew type behindType length : Text} (behindNew_blank : IsBlank behindNew)
      (isName : IsName type) (behindType_blank : IsBlank behindType) (nonempty : length ≠ [])
      (digits : ∀ c ∈ length, c.isDigit = true) :
      IsRead (.creation behindNew type behindType [] length [])
  | initializer {body : Text} (oneLine : ('\n' : CodePoint) ∉ body) :
      IsRead (.initializer body)

/-- The text in its parts: those of a declarator and the mark that ends it. -/
structure IsComposedOf (t : Text) (d : ArrayDeclarator) (terminator : CodePoint) : Prop where
  lead : IsBlank d.lead
  name : IsName d.name
  behindName : IsBlank d.behindName
  behindEquals : IsBlank d.behindEquals
  value : d.value.IsRead
  behindValue : IsBlank d.behindValue
  terminator_eq : terminator = ',' ∨ terminator = ';'
  text_eq : t = d.text ++ [terminator]

namespace Pattern

open Language

theorem mem_blanks {t : Text} : t ∈ blanks ↔ IsBlank t :=
  mem_run

theorem mem_name {t : Text} : t ∈ name ↔ IsName t :=
  mem_someRun

theorem mem_line {t : Text} : t ∈ line ↔ ('\n' : CodePoint) ∉ t := by
  rw [line, mem_run]
  simp only [ne_eq, decide_not, Bool.not_eq_true', decide_eq_false_iff_not]
  exact List.forall_mem_ne'

theorem mem_mark (c : CodePoint) : [c] ∈ mark c :=
  rfl

theorem mem_creation {t : Text} :
    t ∈ creation ↔ ∃ behindNew type behindType length, IsBlank behindNew ∧ IsName type ∧
      IsBlank behindType ∧ (length ≠ [] ∧ ∀ c ∈ length, c.isDigit = true) ∧
        (ArrayValue.creation behindNew type behindType [] length []).text = t := by
  simp only [creation, mul_assoc]
  constructor
  · intro h
    obtain ⟨_, rfl, _, h₁, rfl⟩ := mem_mul.mp h
    obtain ⟨behindNew, hnew, _, h₂, rfl⟩ := mem_mul.mp h₁
    obtain ⟨type, htype, _, h₃, rfl⟩ := mem_mul.mp h₂
    obtain ⟨behindType, hbehind, _, h₄, rfl⟩ := mem_mul.mp h₃
    obtain ⟨_, rfl, _, h₅, rfl⟩ := mem_mul.mp h₄
    obtain ⟨length, hlength, _, rfl, rfl⟩ := mem_mul.mp h₅
    exact ⟨behindNew, type, behindType, length, mem_blanks.mp hnew, mem_name.mp htype,
      mem_blanks.mp hbehind, mem_someRun.mp hlength, rfl⟩
  · rintro ⟨behindNew, type, behindType, length, hnew, htype, hbehind, hlength, rfl⟩
    have new : Text.ofString "new" ∈ ({Text.ofString "new"} : Language CodePoint) := rfl
    have brackets := append_mem_mul (mem_mark '[')
      (append_mem_mul (mem_someRun.mpr hlength) (mem_mark ']'))
    have typed := append_mem_mul (mem_name.mpr htype)
      (append_mem_mul (mem_blanks.mpr hbehind) brackets)
    exact append_mem_mul new (append_mem_mul (mem_blanks.mpr hnew) typed)

theorem mem_initializer {t : Text} :
    t ∈ initializer ↔
      ∃ body, ('\n' : CodePoint) ∉ body ∧ (ArrayValue.initializer body).text = t := by
  simp only [initializer, mul_assoc]
  constructor
  · intro h
    obtain ⟨_, rfl, _, h₁, rfl⟩ := mem_mul.mp h
    obtain ⟨body, oneLine, _, rfl, rfl⟩ := mem_mul.mp h₁
    exact ⟨body, mem_line.mp oneLine, rfl⟩
  · rintro ⟨body, oneLine, rfl⟩
    exact append_mem_mul (mem_mark '{') (append_mem_mul (mem_line.mpr oneLine) (mem_mark '}'))

theorem mem_value {t : Text} :
    t ∈ creation + initializer ↔ ∃ value : ArrayValue, value.IsRead ∧ value.text = t := by
  rw [mem_add, mem_creation, mem_initializer]
  constructor
  · rintro (⟨_, _, _, _, hnew, htype, hbehind, ⟨nonempty, digits⟩, eq⟩ | ⟨_, oneLine, eq⟩)
    · exact ⟨_, .creation hnew htype hbehind nonempty digits, eq⟩
    · exact ⟨_, .initializer oneLine, eq⟩
  · rintro ⟨value, read, eq⟩
    cases read with
    | creation hnew htype hbehind nonempty digits =>
        exact .inl ⟨_, _, _, _, hnew, htype, hbehind, ⟨nonempty, digits⟩, eq⟩
    | initializer oneLine => exact .inr ⟨_, oneLine, eq⟩

theorem mem_arrayDeclarator {t : Text} :
    t ∈ arrayDeclarator ↔ ∃ d terminator, IsComposedOf t d terminator := by
  simp only [arrayDeclarator, mul_assoc]
  constructor
  · intro h
    obtain ⟨lead, hlead, _, h₁, rfl⟩ := mem_mul.mp h
    obtain ⟨name, hname, _, h₂, rfl⟩ := mem_mul.mp h₁
    obtain ⟨behindName, hbehindName, _, h₃, rfl⟩ := mem_mul.mp h₂
    obtain ⟨_, rfl, _, h₄, rfl⟩ := mem_mul.mp h₃
    obtain ⟨behindEquals, hequals, _, h₅, rfl⟩ := mem_mul.mp h₄
    obtain ⟨_, hvalue, _, h₆, rfl⟩ := mem_mul.mp h₅
    obtain ⟨behindValue, hbehind, _, ⟨terminator, rfl, hterminator⟩, rfl⟩ := mem_mul.mp h₆
    obtain ⟨value, read, rfl⟩ := mem_value.mp hvalue
    refine ⟨⟨lead, name, behindName, behindEquals, value, behindValue⟩, terminator,
      mem_blanks.mp hlead, mem_name.mp hname, mem_blanks.mp hbehindName, mem_blanks.mp hequals,
      read, mem_blanks.mp hbehind, by simpa using hterminator, ?_⟩
    simp [ArrayDeclarator.text]
  · rintro ⟨d, terminator, composed⟩
    have ends : [terminator] ∈ Pattern.terminator :=
      ⟨terminator, rfl, by simpa using composed.terminator_eq⟩
    have value := append_mem_mul (mem_value.mpr ⟨d.value, composed.value, rfl⟩)
      (append_mem_mul (mem_blanks.mpr composed.behindValue) ends)
    have equals := append_mem_mul (mem_mark '=')
      (append_mem_mul (mem_blanks.mpr composed.behindEquals) value)
    have named := append_mem_mul (mem_name.mpr composed.name)
      (append_mem_mul (mem_blanks.mpr composed.behindName) equals)
    have whole := append_mem_mul (mem_blanks.mpr composed.lead) named
    rw [composed.text_eq]
    simpa [ArrayDeclarator.text] using whole

end Pattern

/-! ### The recogniser -/

section

variable {p : CodePoint → Bool} {t rest : Text} {c : CodePoint}

theorem exists_run_of_afterRun? (h : afterRun? p t = some rest) :
    ∃ run, run ≠ [] ∧ (∀ c ∈ run, p c = true) ∧ t = run ++ rest := by
  cases t with
  | nil => cases h
  | cons c t =>
      obtain ⟨here, eq⟩ := Option.ite_none_right_eq_some.mp h
      obtain rfl := Option.some.inj eq
      refine ⟨c :: t.takeWhile p, List.cons_ne_nil _ _,
        List.forall_mem_cons.mpr ⟨here, fun _ => List.mem_takeWhile_imp⟩, ?_⟩
      rw [List.cons_append, List.takeWhile_append_dropWhile]

theorem eq_cons_of_after? (h : after? c t = some rest) : t = c :: rest := by
  cases t with
  | nil => cases h
  | cons d t =>
      obtain ⟨rfl, eq⟩ := Option.ite_none_right_eq_some.mp h
      rw [Option.some.inj eq]

theorem exists_blanks (t : Text) : ∃ blanks, IsBlank blanks ∧ t = blanks ++ dropBlanks t :=
  ⟨t.takeWhile CodePoint.isBlank, fun _ => List.mem_takeWhile_imp,
    List.takeWhile_append_dropWhile.symm⟩

/-- The text is blanks and the mark that ends a declarator. -/
def IsEnding (t : Text) : Prop :=
  ∃ (blanks : Text) (terminator : CodePoint), IsBlank blanks ∧
    (terminator = ',' ∨ terminator = ';') ∧ t = blanks ++ [terminator]

theorem isEnding_of_isTerminator (h : isTerminator (dropBlanks t) = true) : IsEnding t := by
  obtain ⟨blanks, blank, eq⟩ := exists_blanks t
  rcases Bool.or_eq_true_iff.mp h with comma | semicolon
  · rw [of_decide_eq_true comma] at eq
    exact ⟨blanks, ',', blank, .inl rfl, eq⟩
  · rw [of_decide_eq_true semicolon] at eq
    exact ⟨blanks, ';', blank, .inr rfl, eq⟩

theorem exists_isRead_of_isCreation (h : isCreation t = true) :
    ∃ value : ArrayValue, value.IsRead ∧ ∃ ending, IsEnding ending ∧
      Text.ofString "new" ++ t = value.text ++ ending := by
  simp only [isCreation, Option.getD_eq_iff, Option.bind_eq_some_iff, Option.map_eq_some_iff,
    reduceCtorEq, and_false, or_false] at h
  obtain ⟨t₁, hname, t₂, hopen, t₃, hdigits, ending, hclose, ends⟩ := h
  obtain ⟨behindNew, hnew, eq⟩ := exists_blanks t
  obtain ⟨type, more, inside, eq₁⟩ := exists_run_of_afterRun? hname
  obtain ⟨behindType, hbehind, eq₂⟩ := exists_blanks t₁
  obtain ⟨length, nonempty, digits, eq₃⟩ := exists_run_of_afterRun? hdigits
  refine ⟨_, .creation hnew ⟨more, inside⟩ hbehind nonempty digits, ending,
    isEnding_of_isTerminator ends, ?_⟩
  rw [eq, eq₁, eq₂, eq_cons_of_after? hopen, eq₃, eq_cons_of_after? hclose]
  simp [ArrayValue.text]

theorem exists_isRead_of_isInitializer (h : isInitializer t = true) :
    ∃ value : ArrayValue, value.IsRead ∧ ∃ ending, IsEnding ending ∧
      ('{' : CodePoint) :: t = value.text ++ ending := by
  unfold isInitializer at h
  split at h
  · cases h
  · rename_i last before reversed
    obtain ⟨ends, h⟩ := Bool.and_eq_true_iff.mp h
    split at h
    · cases h
    · rename_i c body found
      obtain ⟨closes, oneLine⟩ := Bool.and_eq_true_iff.mp h
      -- Read from the end, the text has blanks, the closing brace and then the body.
      obtain ⟨blanks, blank, eq⟩ := exists_blanks before
      rw [found, of_decide_eq_true closes] at eq
      have oneLine' : ('\n' : CodePoint) ∉ body.reverse := by simpa using oneLine
      have back : IsBlank blanks.reverse := fun c mem => blank c (List.mem_reverse.mp mem)
      refine ⟨_, .initializer oneLine', blanks.reverse ++ [last],
        ⟨_, last, back, by simpa using ends, rfl⟩, ?_⟩
      rw [← List.reverse_reverse t, reversed, eq]
      simp [ArrayValue.text]

theorem exists_isRead_of_isValue (h : isValue t = true) :
    ∃ value : ArrayValue, value.IsRead ∧ ∃ ending, IsEnding ending ∧
      t = value.text ++ ending := by
  cases t with
  | nil => cases h
  | cons c rest =>
      rw [isValue] at h
      split at h
      · rename_i opens
        subst opens
        exact exists_isRead_of_isInitializer h
      · obtain ⟨new, created⟩ := Bool.and_eq_true_iff.mp h
        obtain ⟨behind, eq⟩ := List.isPrefixOf_iff_prefix.mp new
        rw [← eq] at created ⊢
        exact exists_isRead_of_isCreation created

theorem exists_isComposedOf_of_isWellFormed (h : isWellFormed t = true) :
    ∃ d terminator, IsComposedOf t d terminator := by
  simp only [isWellFormed, Option.getD_eq_iff, Option.bind_eq_some_iff, Option.map_eq_some_iff,
    reduceCtorEq, and_false, or_false] at h
  obtain ⟨t₁, hname, t₂, hequals, isValue⟩ := h
  obtain ⟨lead, hlead, eq⟩ := exists_blanks t
  obtain ⟨name, more, inside, eq₁⟩ := exists_run_of_afterRun? hname
  obtain ⟨behindName, hbehindName, eq₂⟩ := exists_blanks t₁
  obtain ⟨behindEquals, hbehindEquals, eq₃⟩ := exists_blanks t₂
  obtain ⟨value, read, _, ⟨behindValue, terminator, hbehind, isEnd, rfl⟩, eq₄⟩ :=
    exists_isRead_of_isValue isValue
  refine ⟨⟨lead, name, behindName, behindEquals, value, behindValue⟩, terminator, hlead,
    ⟨more, inside⟩, hbehindName, hbehindEquals, read, hbehind, isEnd, ?_⟩
  rw [eq, eq₁, eq₂, eq_cons_of_after? hequals, eq₃, eq₄]
  simp [ArrayDeclarator.text]

end

theorem ArrayValue.IsRead.isValue {value : ArrayValue} (read : value.IsRead) {behind : Text}
    {terminator : CodePoint} (blank : IsBlank behind) (h : terminator = ',' ∨ terminator = ';') :
    isValue (value.text ++ (behind ++ [terminator])) = true := by
  have none : IsBlank [] := nofun
  cases read with
  | creation hnew htype hbehind nonempty digits =>
      rw [isValue_creation]
      exact (isCreation_iff h hnew htype hbehind none nonempty digits none blank).mpr ⟨rfl, rfl⟩
  | @initializer body oneLine =>
      rw [isValue_initializer]
      exact (isInitializer_iff h body blank).mpr oneLine

/-- The recogniser finds the parts of a text if and only if there are any. -/
theorem isWellFormed_iff_exists {t : Text} :
    isWellFormed t = true ↔ ∃ d terminator, IsComposedOf t d terminator := by
  refine ⟨exists_isComposedOf_of_isWellFormed, ?_⟩
  rintro ⟨d, terminator, composed⟩
  rw [composed.text_eq,
    isWellFormed_text composed.lead composed.name composed.behindName composed.behindEquals]
  exact composed.value.isValue composed.behindValue composed.terminator_eq

theorem isWellFormed_iff_mem {t : Text} : isWellFormed t = true ↔ t ∈ Pattern.arrayDeclarator :=
  isWellFormed_iff_exists.trans Pattern.mem_arrayDeclarator.symm

/-- The recogniser accepts the language of the regular expression, and that is the declarators
in their parts: blanks, a name, blanks, an equals sign, blanks, a value, blanks and the mark
that ends them, where the value is `new`, a type name and digits between brackets, or anything
on one line between braces. -/
theorem isWellFormed_iff_mem_arrayDeclarator (t : Text) :
    (isWellFormed t = true ↔ t ∈ Pattern.arrayDeclarator) ∧
      (t ∈ Pattern.arrayDeclarator ↔ ∃ d terminator, IsComposedOf t d terminator) :=
  ⟨isWellFormed_iff_mem, Pattern.mem_arrayDeclarator⟩

-- The word `new` may begin a name as well, and a declarator is not over at its first brace.
example : isWellFormed "new=newnew[1];" = true := by cbv

example : isWellFormed "a = \x7b1\x7d, b = \x7b2\x7d;" = true := by cbv

end Declarator

/-- A statement is not reported if and only if each of its declarators is in the language. -/
theorem SketchError.incorrectVariableDeclaration_eq_none_iff (source : Text) (offset : Int) :
    incorrectVariableDeclaration source offset = .ok none ↔ ∃ pieces,
      Declarator.split (firstStatement (source.drop (Text.cutPoint source.length offset))) =
        .ok pieces ∧ ∀ piece ∈ pieces, piece ∈ Declarator.Pattern.arrayDeclarator := by
  obtain ⟨pieces, cut, -⟩ := Declarator.exists_split
    (firstStatement (source.drop (Text.cutPoint source.length offset)))
  have unreported : incorrectVariableDeclaration source offset = .ok none ↔
      ∀ piece ∈ pieces, Declarator.isWellFormed piece = true := by
    rw [incorrectVariableDeclaration, cut]
    show Except.ok (Option.map _ _) = _ ↔ _
    rw [Except.ok.injEq, Option.map_eq_none_iff, List.find?_eq_none]
    simp
  rw [unreported, cut]
  simp only [Declarator.isWellFormed_iff_mem, Except.ok.injEq, exists_eq_left']

end SketchHelp
