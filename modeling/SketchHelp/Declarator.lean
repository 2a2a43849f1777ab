import SketchHelp.Brace
import SketchHelp.Text.Class

/-!
The declarators of one declaration statement. A statement is cut after each comma
that stands outside the brace groups of its array initialisers. A group that never
closes swallows the rest of the statement.

A well-formed array declarator gives a name its value as a new array of a literal
length or as an initialiser between braces, and ends with a comma or a semicolon.
Word characters, blanks and the punctuation between them are disjoint, so one pass
without backtracking recognises it.
-/

namespace SketchHelp

namespace Declarator

/-- The rest of a statement as its last piece, if anything is left. -/
def lastPiece (rest : Text) : List Text :=
  if rest.isEmpty then [] else [rest]

/-- The pieces of a statement from the offset `start` on, where no comma ends the first
of them before `position`. A group is passed over as a whole. -/
def splitFrom (statement : Text) (start position : Nat) : Except Brace.Fault (List Text) :=
  match here : statement[position]? with
  | none => .ok (lastPiece (statement.drop start))
  | some c =>
    if opens : c = '{' then
      match matched : Brace.partner statement position with
      | .error fault => .error fault
      | .ok none => .ok (lastPiece (statement.drop start))
      | .ok (some close) => splitFrom statement start (close + 1)
    else if c = ',' then do
      return statement.slice start (position + 1) ::
        (← splitFrom statement (position + 1) (position + 1))
    else splitFrom statement start (position + 1)
termination_by statement.length - position
decreasing_by
  all_goals have bound := (List.getElem?_eq_some_iff.mp here).1
  · subst opens
    have := Brace.lt_of_partner_of_isOpener here rfl matched
    omega
  all_goals omega

/-- Declarators in order, each with the comma that ends it; the last one keeps
whatever the statement ends with. -/
def split (statement : Text) : Except Brace.Fault (List Text) :=
  splitFrom statement 0 0

/-- A character of a declared name or of a type name. -/
def isNameCharacter (c : CodePoint) : Bool :=
  c.isWord || c = '$'

theorem not_isNameCharacter_of_isBlank {c : CodePoint} (h : c.isBlank = true) :
    ¬ isNameCharacter c = true := by
  intro name
  rcases Bool.or_eq_true_iff.mp name with word | dollar
  · exact CodePoint.not_isWord_of_isBlank h word
  · obtain rfl := of_decide_eq_true dollar
    revert h
    decide

def dropBlanks (t : Text) : Text :=
  t.dropWhile CodePoint.isBlank

/-- What follows a nonempty run of characters satisfying `p`. -/
def afterRun? (p : CodePoint → Bool) : Text → Option Text
  | [] => none
  | c :: rest => if p c then some (rest.dropWhile p) else none

/-- What follows the code point `c`. -/
def after? (c : CodePoint) : Text → Option Text
  | [] => none
  | d :: rest => if d = c then some rest else none

def isTerminator (t : Text) : Bool :=
  t = [CodePoint.ofChar ','] || t = [CodePoint.ofChar ';']

/-- What follows `new`, up to the end: a type name and a literal length in brackets,
then the terminator. -/
def isCreation (t : Text) : Bool :=
  ((afterRun? isNameCharacter (dropBlanks t)).bind fun t =>
    (after? '[' (dropBlanks t)).bind fun t =>
    (afterRun? CodePoint.isDigit t).bind fun t =>
    (after? ']' t).map fun t => isTerminator (dropBlanks t)).getD false

/-- What follows an opening brace, up to the end: anything on one line, the closing
brace, then the terminator. The closing brace is found from the end. -/
def isInitializer (t : Text) : Bool :=
  match t.reverse with
  | [] => false
  | last :: before =>
    (last = ',' || last = ';') &&
      match dropBlanks before with
      | [] => false
      | c :: body => c = '}' && CodePoint.ofChar '\n' ∉ body

def isValue (t : Text) : Bool :=
  match t with
  | [] => false
  | c :: rest =>
    if c = '{' then isInitializer rest
    else (Text.ofString "new").isPrefixOf t && isCreation (t.drop 3)

/-- Recognises a whole well-formed array declarator. -/
def isWellFormed (t : Text) : Bool :=
  ((afterRun? isNameCharacter (dropBlanks t)).bind fun t =>
    (after? '=' (dropBlanks t)).map fun t => isValue (dropBlanks t)).getD false

end Declarator

end SketchHelp
