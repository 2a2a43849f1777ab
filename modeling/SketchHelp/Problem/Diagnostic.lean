import SketchHelp.Problem.Basic
import SketchHelp.Tree.Span

/-!
One problem as the compiler reports it: what it is, the texts it comes with, and where
it is. A compiler also reports problems that no help page exists for; those keep their
bare number and are never classified, even if the number is one that a known problem
has.
-/

namespace SketchHelp

inductive ProblemCode where
  | known (problem : Problem)
  | raw (number : Int)
  deriving DecidableEq, Repr

/-- A code as log lines show it. -/
def ProblemCode.toText : ProblemCode → Text
  | .known problem => Text.ofString "ProblemCode." ++ Text.ofString problem.name
  | .raw number => Text.ofInt number

structure Diagnostic where
  code : ProblemCode
  arguments : List Text
  span : Span
  deriving DecidableEq, Repr

namespace Diagnostic

def spanFaultMessage (fault : Span.Fault) : Text :=
  fault.message "Diagnostic.source_start" "Diagnostic.source_end" "source_start"

def ofBounds (code : ProblemCode) (arguments : List Text) (start stop : Int) :
    Except Span.Fault Diagnostic :=
  return ⟨code, arguments, ← Span.ofBounds start stop⟩

/-- The argument at a position, or an empty text if there is none. -/
def argument (diagnostic : Diagnostic) (position : Int) : Text :=
  if position < 0 then [] else diagnostic.arguments.getD position.toNat []

def hasArgument (diagnostic : Diagnostic) (value : Text) : Bool :=
  diagnostic.arguments.contains value

end Diagnostic

end SketchHelp
