import SketchHelp.Json.Whole
import SketchHelp.Text.Search
import SketchHelp.Tree.Outline

/-!
Trees from nested data with explicit offsets. A node is an object with a kind, a start
and an end, and possibly a text, an operator, a type, a method and a list of children
that each name their slot. The text defaults to the part of the source under the span.

Of several things wrong with the data, the one reported is the first in this order: the
kind, the start and the end of a node, then its children one after the other, each with
its slot first, then its text, its method, and the order of its two offsets.
-/

namespace SketchHelp

/-- Why data is no tree. -/
inductive LoadFault where
  | missingField (name : String)
  /-- The value is none of the kinds. It may be too long to be shown. -/
  | badKind (shown : Option Text)
  | badOffset (fault : Value.WholeFault)
  | badSpan (fault : Span.Fault)
  /-- The root is not an object, but something of the kind that `word` names. -/
  | rootNotObject (word : Text)
  /-- A child or a method is not an object. -/
  | notObject
  | notIterable (word : Text)
  /-- A number is too long to be written as a text of the node. -/
  | longText
  /-- A number is too long to be written as the name of a slot. -/
  | longRole
  deriving DecidableEq, Repr

namespace LoadFault

def rootReason (word : Text) : Text :=
  if word = Text.ofString "list" then
    Text.ofString "list indices must be integers or slices, not str"
  else if word = Text.ofString "str" then
    Text.ofString "string indices must be integers, not 'str'"
  else Text.ofString "'" ++ word ++ Text.ofString "' object is not subscriptable"

def invalid (reason : Text) : Text :=
  Text.ofString "Invalid node mapping: " ++ reason

/-- Whatever goes wrong while a node is put together is put down to its span. -/
def invalidSpan (reason : Text) : Text :=
  Text.ofString "Invalid node span: " ++ reason

def message : LoadFault → Text
  | .missingField name =>
    Text.ofString "Node mapping is missing field '" ++ Text.ofString name ++
      Text.ofString "'"
  | .badKind shown =>
    invalid (Text.orLimit (shown.map (· ++ Text.ofString " is not a valid NodeKind")))
  | .badOffset fault => invalid fault.message
  | .badSpan fault =>
    invalidSpan (fault.message "SyntaxNode start" "SyntaxNode end" "start")
  | .rootNotObject word => invalid (rootReason word)
  | .notObject => []
  | .notIterable word =>
    Text.ofString "'" ++ word ++ Text.ofString "' object is not iterable"
  | .longText => invalidSpan (Text.limitMessage [])
  | .longRole => Text.limitMessage []

/-- Whether the fault is reported as one of the data. Nothing looks out for the others,
which come up as failures of the operation that met them. -/
def isReported : LoadFault → Bool
  | .notObject => false
  | .notIterable _ => false
  | .longRole => false
  | .badOffset .infinite => false
  | _ => true

end LoadFault

namespace Load

abbrev Fields := List (Text × Value)

def required (fields : Fields) (name : String) : Except LoadFault Value :=
  match Value.field? (Text.ofString name) fields with
  | some value => .ok value
  | none => .error (.missingField name)

/-- A field that counts as null where it is missing. -/
def optional (fields : Fields) (name : String) : Value :=
  (Value.field? (Text.ofString name) fields).getD .null

/-- A field's plain text if the field is there. Where the text is too long, that is the
given fault. -/
def textOf? (fault : LoadFault) (fields : Fields) (name : String) :
    Except LoadFault (Option Text) :=
  match Value.field? (Text.ofString name) fields with
  | none => .ok none
  | some value =>
    match value.plain with
    | some t => .ok (some t)
    | none => .error fault

def kindOf (value : Value) : Except LoadFault Kind :=
  match value with
  | .text t =>
    match Kind.ofText? t with
    | some kind => .ok kind
    | none => .error (.badKind value.display)
  | value => .error (.badKind value.display)

def wholeOf (value : Value) : Except LoadFault Int :=
  match value.toWhole with
  | .ok n => .ok n
  | .error fault => .error (.badOffset fault)

/-- The texts of a row of values, one after the other. -/
def plainTexts : List Value → Except LoadFault (List Text)
  | [] => .ok []
  | value :: rest =>
    match value.plain with
    | some t => return t :: (← plainTexts rest)
    | none => .error .longText

/-- The texts of a list; a text counts as the list of its characters and an object as
the list of its names. -/
def textsOf : Value → Except LoadFault (List Text)
  | .list items => plainTexts items
  | .text t => .ok (t.map ([·]))
  | .object fields => .ok (fields.map (·.1))
  | value => .error (.notIterable value.kindWord)

def parameterTypesOf (fields : Fields) : Except LoadFault (List Text) :=
  match Value.field? (Text.ofString "parameter_types") fields with
  | none => .ok []
  | some value => textsOf value

def methodOf : Value → Except LoadFault (Option MethodBinding)
  | .null => .ok none
  | .object fields => do
    let name ← textOf? .longText fields "name"
    let parameterTypes ← parameterTypesOf fields
    let returnType ← textOf? .longText fields "return_type"
    return some {
      name := name.getD []
      parameterTypes
      returnType := returnType.getD MethodBinding.voidType }
  | _ => .error .notObject

/-- Kind, start and end of a node, in this order. -/
def headOf (fields : Fields) : Except LoadFault (Kind × Int × Int) := do
  let kind ← kindOf (← required fields "kind")
  let start ← wholeOf (← required fields "start")
  let stop ← wholeOf (← required fields "end")
  return (kind, start, stop)

def spanOf (start stop : Int) : Except LoadFault Span :=
  match Span.ofBounds start stop with
  | .ok span => .ok span
  | .error fault => .error (.badSpan fault)

/-- What a node says about itself, once its children are known to be in order. -/
def infoOf (source : Text) (fields : Fields) (kind : Kind) (start stop : Int) :
    Except LoadFault NodeInfo := do
  let text ← textOf? .longText fields "text"
  let method ← methodOf (optional fields "method")
  let span ← spanOf start stop
  return {
    kind, span, method
    text := text.getD (source.slice span.start span.stop)
    operator := optional fields "operator"
    resolvedType := optional fields "type" }

/-- The slot that a child names. -/
def roleOf : Value → Except LoadFault Text
  | .object fields => return (← textOf? .longRole fields "role").getD []
  | _ => .error .notObject

mutual

/-- A node, its children included. -/
def loadNode (source : Text) : Value → Except LoadFault Outline
  | .object fields => do
    let (kind, start, stop) ← headOf fields
    let below ← loadBelow source fields
    let info ← infoOf source fields kind start stop
    return ⟨info, below⟩
  | _ => .error .notObject

/-- The children that the fields of a node list. -/
def loadBelow (source : Text) : Fields → Except LoadFault (Forest NodeInfo)
  | [] => .ok .nil
  | (name, value) :: rest =>
    if name = Text.ofString "children" then loadChildren source value
    else loadBelow source rest

/-- Texts and objects count as lists of texts, none of which is a node. -/
def loadChildren (source : Text) : Value → Except LoadFault (Forest NodeInfo)
  | .list items => loadRow source items
  | .text t => if t.isEmpty then .ok .nil else .error .notObject
  | .object fields => if fields.isEmpty then .ok .nil else .error .notObject
  | value => .error (.notIterable value.kindWord)

def loadRow (source : Text) : List Value → Except LoadFault (Forest NodeInfo)
  | [] => .ok .nil
  | item :: rest => do
    let role ← roleOf item
    let outline ← loadNode source item
    let others ← loadRow source rest
    return .cons role outline.label outline.below others

end

end Load

/-- The tree of nested data. -/
def Tree.load (data : Value) (source : Text) : Except LoadFault Tree :=
  match data with
  | .object _ => return (← Load.loadNode source data).toTree source
  | value => .error (.rootNotObject value.kindWord)

end SketchHelp
