import SketchHelp.Page.Identifier
import SketchHelp.Problem.Classify

/-!
From all the problems of a compiled unit to one page. Problems before a start offset are
left out; the others are classified in source order, and the first that gives a hint
decides. A batch is expected in source order already. One that is not is sorted, equal
starts keeping their order, and that is worth a warning.
-/

namespace SketchHelp.Batch

def precedes (a b : Diagnostic) : Bool :=
  a.span.start ≤ b.span.start

/-- The diagnostics that start at `startOffset` or later, in source order. -/
def relevant (batch : List Diagnostic) (startOffset : Int) : List Diagnostic × Log :=
  let kept := batch.filter fun diagnostic => startOffset ≤ diagnostic.span.start
  if StableSort.isSorted precedes kept then (kept, [])
  else (StableSort.sort precedes kept, [.sorting kept.length])

/-- The first hint, with a record of each classification made on the way. -/
def firstHint (tree : Tree) : List Diagnostic → Except Tree.Fault (Option Hint) × Log
  | [] => (.ok none, [])
  | diagnostic :: rest =>
    match diagnostic.classify tree with
    | .error fault => (.error fault, [])
    | .ok (some hint) => (.ok (some hint), [LogRecord.ofHint diagnostic (some hint)])
    | .ok none =>
      let (result, log) := firstHint tree rest
      (result, LogRecord.ofHint diagnostic none :: log)

def selectHint (batch : List Diagnostic) (tree : Tree) (startOffset : Int) :
    Except Tree.Fault (Option Hint) × Log :=
  let (kept, sorting) := relevant batch startOffset
  let (result, log) := firstHint tree kept
  (result, sorting ++ log)

/-- The page for a hint, or the default page for none. -/
def pageFor (config : Config) : Option Hint → Text × Log
  | some hint => config.resolve hint
  | none => (config.defaultIdentifier, [.nothingClassified])

def identifierFor (config : Config) (batch : List Diagnostic) (tree : Tree)
    (startOffset : Int) : Except Tree.Fault Text × Log :=
  match selectHint batch tree startOffset with
  | (.error fault, log) => (.error fault, log)
  | (.ok hint, log) =>
    let (identifier, more) := pageFor config hint
    (.ok identifier, log ++ more)

end SketchHelp.Batch
