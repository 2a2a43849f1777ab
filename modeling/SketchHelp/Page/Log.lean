import SketchHelp.Page.Hint
import SketchHelp.Page.Query
import SketchHelp.Problem.Diagnostic

/-!
What is worth telling somebody who watches: how problems are classified, batches that
arrive out of order, pages that give way to the default one, and changes of the page.
-/

namespace SketchHelp

inductive LogRecord where
  | classified (code : ProblemCode) (category : Category)
  | unclassified (code : ProblemCode) (span : Span)
  | sorting (count : Nat)
  | nothingClassified
  | fallback (category : Category) (fault : Query.EncodingFault)
  | pageChanged (identifier : Text)
  deriving DecidableEq, Repr

abbrev Log := List LogRecord

namespace LogRecord

def message : LogRecord → Text
  | .classified code category =>
    Text.ofString "Classified problem " ++ code.toText ++ Text.ofString " as " ++
      category.toText
  | .unclassified code span =>
    Text.ofString "Unclassified problem " ++ code.toText ++ Text.ofString " at [" ++
      Text.ofNat span.start ++ Text.ofString ", " ++ Text.ofNat span.stop ++
      Text.ofString ")"
  | .sorting count =>
    Text.ofString "Diagnostics not in source order; sorting " ++ Text.ofNat count ++
      Text.ofString " entries"
  | .nothingClassified => Text.ofString "No classifiable diagnostic; using default page"
  | .fallback category fault =>
    Text.ofString "Falling back to default page for " ++ category.toText ++
      Text.ofString ": " ++ fault.message
  | .pageChanged identifier => Text.ofString "Help page changed: " ++ identifier

/-- Whether a record tells of something that should not have happened. -/
def isWarning : LogRecord → Bool
  | .sorting _ | .fallback .. => true
  | _ => false

/-- The record of a classification. -/
def ofHint (diagnostic : Diagnostic) : Option Hint → LogRecord
  | some hint => .classified diagnostic.code hint.category
  | none => .unclassified diagnostic.code diagnostic.span

end LogRecord

end SketchHelp
