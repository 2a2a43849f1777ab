import SketchHelp.Session
import SketchHelp.SketchError
import SketchHelp.Tree.Arena
import SketchHelp.Tree.Load
import SketchHelp.Proofs.Tree.NodeAt
import SketchHelp.Proofs.Tree.Reading
import SketchHelp.Proofs.Tree.Dump
import SketchHelp.Proofs.Tree.Complaints
import SketchHelp.Proofs.Page.Address
import SketchHelp.Proofs.Page.Selection
import SketchHelp.Proofs.Problem.Loaded
import SketchHelp.Proofs.Problem.Offsets
import SketchHelp.Proofs.Session.History
import SketchHelp.Proofs.Session.Nesting
import SketchHelp.Proofs.Tree.Circles
import SketchHelp.Proofs.Sketch.Pairing
import SketchHelp.Proofs.Sketch.Nested
import SketchHelp.Proofs.Problem.SimpleNames
import SketchHelp.Proofs.Tree.Outermost
import SketchHelp.Proofs.Tree.Earliest
import SketchHelp.Proofs.Session.PageShown
import SketchHelp.Proofs.Tree.ParentChain
import SketchHelp.Proofs.Sketch.Splitting
import SketchHelp.Proofs.Tree.Proximity
import SketchHelp.Proofs.Tree.Unnested
import SketchHelp.Proofs.Sketch.Statement
import SketchHelp.Proofs.Sketch.ArrayDeclaration
import SketchHelp.Proofs.Sketch.StrayBrace
import SketchHelp.Proofs.Sketch.Correction
import SketchHelp.Proofs.Page.Fallback
import SketchHelp.Proofs.Session.Interruption
import SketchHelp.Proofs.Problem.ArgumentTypes
import SketchHelp.Proofs.Problem.UnexpectedToken
import SketchHelp.Proofs.Sketch.Identifiers
import SketchHelp.Proofs.Problem.ParameterTypes
import SketchHelp.Proofs.Page.Lists
import SketchHelp.Proofs.Problem.WrittenTypes
