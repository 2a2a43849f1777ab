import SketchHelp.Text.Search
import SketchHelp.Unicode.Letter
import SketchHelp.Unicode.Number

/-!
The character classes that sketch errors are read with. A blank is any white space
of Unicode together with the four separator controls. A word character is a letter,
a number of any kind or the underscore: combining marks are not among them.
-/

namespace SketchHelp

namespace Unicode

def blanks : Ranges :=
  [(0x09, 0x0D), (0x1C, 0x20), (0x85, 0x85), (0xA0, 0xA0), (0x1680, 0x1680),
   (0x2000, 0x200A), (0x2028, 0x2029), (0x202F, 0x202F), (0x205F, 0x205F),
   (0x3000, 0x3000)]

end Unicode

namespace CodePoint

def isBlank (c : CodePoint) : Bool :=
  Unicode.blanks.has c.val

def isDigit (c : CodePoint) : Bool :=
  Unicode.decimalDigits.has c.val

/-- Value of a decimal digit of any script: the runs of digits count up from zero
and wrap after nine. -/
def digitValue? (c : CodePoint) : Option Nat :=
  (Unicode.decimalDigits.offset? c.val).map (· % 10)

def isWord (c : CodePoint) : Bool :=
  c = '_' || Unicode.letters.has c.val || Unicode.decimalDigits.has c.val ||
    Unicode.letterNumbers.has c.val || Unicode.otherNumbers.has c.val

theorem not_isWord_of_isBlank {c : CodePoint} (h : c.isBlank = true) : ¬ c.isWord = true := by
  have letters := Unicode.Ranges.AreApart.not_has (s := Unicode.letters) (by decide +kernel) h
  have digits :=
    Unicode.Ranges.AreApart.not_has (s := Unicode.decimalDigits) (by decide +kernel) h
  have letterNumbers :=
    Unicode.Ranges.AreApart.not_has (s := Unicode.letterNumbers) (by decide +kernel) h
  have others :=
    Unicode.Ranges.AreApart.not_has (s := Unicode.otherNumbers) (by decide +kernel) h
  have underscore : ¬ c = ofChar '_' := by
    rintro rfl
    revert h
    decide
  simp [isWord, letters, digits, letterNumbers, others, underscore]

end CodePoint

/-- The text without the blanks at its two ends. -/
def Text.strip (t : Text) : Text :=
  Text.dropWhileEnd CodePoint.isBlank (t.dropWhile CodePoint.isBlank)

namespace Text

theorem strip_of_forall_isBlank {t : Text} (h : ∀ c ∈ t, c.isBlank = true) : t.strip = [] := by
  have edge : ∀ c ∈ ([] : Text).head?, ¬ c.isBlank = true := nofun
  have none := dropWhile_append_of_head? h edge
  rw [List.append_nil] at none
  rw [strip, none]
  rfl

/-- Neither end of the text is a blank. -/
def IsBare (t : Text) : Prop :=
  (∀ c ∈ t.head?, ¬ c.isBlank = true) ∧ ∀ c ∈ t.getLast?, ¬ c.isBlank = true

instance (t : Text) : Decidable t.IsBare :=
  inferInstanceAs (Decidable ((∀ c ∈ t.head?, ¬ c.isBlank = true) ∧
    ∀ c ∈ t.getLast?, ¬ c.isBlank = true))

/-- A text without blanks at its ends is what is left of it between blanks. -/
theorem IsBare.strip_append {t front behind : Text} (bare : t.IsBare)
    (before : ∀ c ∈ front, c.isBlank = true) (after : ∀ c ∈ behind, c.isBlank = true) :
    (front ++ (t ++ behind)).strip = t := by
  cases t with
  | nil =>
      refine strip_of_forall_isBlank fun c mem => ?_
      exact (List.mem_append.mp mem).elim (before c) (after c)
  | cons first rest =>
      have start : (front ++ (first :: rest ++ behind)).dropWhile CodePoint.isBlank =
          first :: rest ++ behind := dropWhile_append_of_head? before bare.1
      rw [strip, start, dropWhileEnd_append_of_getLast? after bare.2]

theorem IsBare.strip_eq {t : Text} (bare : t.IsBare) : t.strip = t := by
  have none : ∀ c ∈ ([] : Text), c.isBlank = true := nofun
  have alone := bare.strip_append none none
  rwa [List.nil_append, List.append_nil] at alone

end Text

end SketchHelp
