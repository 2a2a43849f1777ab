import SketchHelp.Declarator
import SketchHelp.Problem.Classify

/-!
Hints for errors that a running sketch reports as a message and an offset, without a
syntax tree. What a page needs is read off the text: the block before a stray brace, the
declarators of a broken array declaration, or the name of a method that was declared
among statements.
-/

namespace SketchHelp.SketchError

/-- Stands between the braces of a block that is shown without its body. -/
def bodyPlaceholder : Text :=
  Text.ofString "\n  /* your code */\n"

/-- Where the shown header starts: at the line above the one that holds the opening
brace, as far as there is one. -/
def headerStart (above : Text) (brace : Nat) : Nat :=
  match Text.lastIndex? '\n' (above.take (brace + 1)) with
  | none => 0
  | some 0 => 1
  | some lineBreak =>
    match Text.lastIndex? '\n' (above.take lineBreak) with
    | none => 0
    | some previous => previous + 1

/-- Hint for a stray closing brace at the end of the text above the error: the header of
the block before it, a placeholder for the body, and everything from the block's own
closing brace to the stray one. -/
def extraneousClosingBrace (above : Text) : Except Brace.Fault (Option Hint) :=
  match Text.lastIndex? '}' above with
  | none => return none
  | some stray =>
    match Text.lastIndex? '}' (above.take stray) with
    | none => return none
    | some close => do
      match ← Brace.partner above close with
      | none => return none
      | some brace =>
        let snippet := Text.slice above (headerStart above brace) (brace + 1) ++
          bodyPlaceholder ++ Text.slice above close (stray + 1)
        return some (.extraneousClosingBrace snippet snippet.dropLast)

/-- The statement at the front of a text: up to its first semicolon, or all of it. -/
def firstStatement : Text → Text
  | [] => []
  | c :: rest => if c = ';' then [c] else c :: firstStatement rest

def isTypeEdge (c : CodePoint) : Bool :=
  c.isBlank || c = '[' || c = ']'

/-- The last word of a text, blanks and square brackets aside. -/
def lastWord (t : Text) : Text :=
  Text.takeWhileEnd (fun c => !isTypeEdge c) (Text.dropWhileEnd isTypeEdge t)

/-- Hint for a malformed array declaration: names the first declarator after the error
that is not well-formed, and reads the declared type back from the text before it. A
negative offset counts back from the end. -/
def incorrectVariableDeclaration (source : Text) (offset : Int) :
    Except Brace.Fault (Option Hint) := do
  let cut := Text.cutPoint source.length offset
  let declarators ← Declarator.split (firstStatement (source.drop cut))
  return (declarators.find? fun d => !Declarator.isWellFormed d).map fun invalid =>
    .incorrectVariableDeclaration (lastWord (source.take cut)).trimType
      (invalid.strip.takeWhile Declarator.isNameCharacter)

/-- Hint for a method declared among statements: its name is the identifier right before
the last opening parenthesis. -/
def incorrectMethodDeclaration (above : Text) : Option Hint :=
  (Text.lastIndex? '(' above).map fun paren =>
    .incorrectMethodDeclaration
      (Text.takeWhileEnd CodePoint.isIdentifierPart (above.take paren))

def strayBraceMessage : Text :=
  Text.ofString "expecting EOF, found '\x7d'"

def expectingDot : Text :=
  Text.ofString "expecting DOT"

def mixedModesMessage : Text :=
  Text.ofString "It looks like you're mixing \"active\" and \"static\" modes."

def unexpectedTokenMessage : Text :=
  Text.ofString "unexpected token:"

/-- The hint for a message about the source at an offset; an offset beyond either end of
the source stands for that end. -/
def classify (message source : Text) (offset : Int) : Except Brace.Fault (Option Hint) :=
  let cut := min offset.toNat source.length
  let above := source.take cut
  if message = strayBraceMessage then extraneousClosingBrace above
  else if expectingDot.isPrefixOf message then incorrectVariableDeclaration source cut
  else if message = mixedModesMessage then .ok (incorrectMethodDeclaration above)
  else if unexpectedTokenMessage.isPrefixOf message then
    .ok (Hint.unexpectedToken? (Text.strip (message.drop unexpectedTokenMessage.length)))
  else .ok none

end SketchHelp.SketchError
