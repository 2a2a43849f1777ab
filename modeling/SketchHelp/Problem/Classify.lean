import SketchHelp.Problem.Diagnostic
import SketchHelp.Tree.Declaration
import SketchHelp.Tree.Inference
import SketchHelp.Tree.NodeAt

/-!
From a compiler problem to a hint. Each kind of problem looks at the node it is reported
at and at what stands around it for the parameters that the problem itself lacks. A
problem whose surroundings do not have the expected shape gives no hint, and bindings
that were never resolved give way to fallback names.
-/

namespace SketchHelp

namespace Hint

/-- A token that nobody expected is worth a page only if it could name a type. -/
def unexpectedToken? (token : Text) : Option Hint :=
  if token.couldBeType then some (.unexpectedToken token.trimType) else none

end Hint

namespace Tree

def hasKind (kind : Kind) (node : Option Node) : Bool :=
  node.any (·.kind = kind)

/-! ## Arrays -/

def missingDimensionHint (tree : Tree) (node : Node) : Except Fault (Option Hint) := do
  match ← tree.declarationFragment node with
  | none => return none
  | some fragment =>
    return some (.arrayMissingDimension node.text.trimType (← tree.declaredName fragment))

/-- Type of an array creation: the text of its type child or else its resolved type. -/
def creationType (tree : Tree) (creation : Node) : Except Fault Value := do
  match ← tree.childText creation .type with
  | some text => return .text text
  | none => return creation.resolvedType.orText []

/-- Simple name of an array's element type. -/
def elementName (arrayType : Value) : Except Fault Text :=
  if arrayType.isBlank then .ok TypeName.object
  else return (← TypeName.element arrayType).trimType

/-- A hint about the array creation right above a node. -/
def creationHint (tree : Tree) (make : Text → Text → Hint) (node : Node) :
    Except Fault (Option Hint) := do
  match tree.parent node, ← tree.declarationFragment node with
  | some creation, some fragment =>
    if creation.kind = .arrayCreation then
      let typeName ← elementName (← tree.creationType creation)
      return some (make typeName (← tree.declaredName fragment))
    else return none
  | _, _ => return none

/-- The declared type of an array variable, or failing that the type of the array
creation right above the node. -/
def arrayTypeNear (tree : Tree) (node fragment : Node) : Except Fault Value := do
  let declared ← tree.declaredType fragment
  match tree.parent node with
  | some parent =>
    if declared.isBlank && parent.kind = .arrayCreation then tree.creationType parent
    else return declared
  | none => return declared

def incorrectDeclarationHint (tree : Tree) (node : Node) : Except Fault (Option Hint) := do
  match ← tree.declarationFragment node with
  | none => return none
  | some fragment =>
    let typeName ← elementName (← tree.arrayTypeNear node fragment)
    return some (.incorrectVariableDeclaration typeName (← tree.declaredName fragment))

/-! ## Methods -/

/-- The text of the name child of a call or a declaration. -/
def methodName (tree : Tree) (owner : Node) (fallback : Text) : Except Fault Text :=
  return (← tree.childText owner .name).getD fallback

def missingMethodHint (tree : Tree) (node : Node) : Except Fault (Option Hint) := do
  match tree.parent node with
  | none => return none
  | some invocation =>
    if invocation.kind = .methodInvocation then
      let arguments ← tree.childrenIn invocation Role.arguments.toText
      let name ← tree.methodName invocation node.text
      let returnType ← tree.wantedType [] (tree.parent invocation)
      let types ← arguments.mapM fun argument => tree.wantedType [] (tree.parent argument)
      return some (.missingMethod name returnType (arguments.map (·.text)) types
        Placeholder.methodName)
    else return none

def paramMismatchHint (tree : Tree) (className : Text) (node : Node) :
    Except Fault (Option Hint) := do
  match tree.parent node with
  | none => return none
  | some invocation =>
    match invocation.kind, invocation.method with
    | .methodInvocation, some method =>
      let arguments ← tree.childrenIn invocation Role.arguments.toText
      let name ← tree.methodName invocation method.name
      let types ← arguments.mapM fun argument => tree.wantedType [] (some argument)
      return some (.paramMismatch className.trimType name method.returnType.trimType types
        (method.parameterTypes.map Text.trimType))
    | _, _ => return none

def missingReturnHint (tree : Tree) (node : Node) : Except Fault (Option Hint) := do
  match tree.parent node with
  | none => return none
  | some declaration =>
    match declaration.kind, declaration.method with
    | .methodDeclaration, some method =>
      let returnType := (← tree.childText declaration .returnType).getD method.returnType
      let name ← tree.methodName declaration method.name
      return some (.missingReturn name returnType.trimType
        (method.parameterTypes.map Text.trimType))
    | _, _ => return none

/-- Name and return type of the method that a node is declared in. -/
def enclosingMethod (tree : Tree) (node : Node) : Except Fault (Option (Text × Text)) := do
  match tree.firstAncestor node (· = .methodDeclaration) with
  | none => return none
  | some declaration =>
    let bound := declaration.method.getD (MethodBinding.ofName [])
    let name ← tree.methodName declaration bound.name
    let returnType := (← tree.childText declaration .returnType).getD bound.returnType
    return some (name, returnType.trimType)

def nonStaticHint (tree : Tree) (fileName called : Text) (node : Node) :
    Except Fault Hint := do
  let enclosing ← tree.enclosingMethod node
  let invocation := tree.firstAncestor node (· = .methodInvocation)
  let returnType := (invocation.bind (·.method)).map (·.returnType.trimType)
  return .nonStaticFromStatic fileName called (enclosing.map (·.1)) (enclosing.map (·.2))
    returnType

/-- A statement whose value goes nowhere and has no known type. -/
def isUntypedStatement (tree : Tree) (node : Node) : Except Fault Bool :=
  if node.kind = .expressionStatement then
    return (← tree.childType node .expression).isNull
  else return false

/-- The type that the surroundings of a call want of it; a bare statement reads as
returning nothing. -/
def callContextType (tree : Tree) (node : Node) : Except Fault Text := do
  match (tree.firstAncestor node (· = .methodInvocation)).bind tree.parent with
  | none => return MethodBinding.voidType
  | some context =>
    if ← tree.isUntypedStatement context then return MethodBinding.voidType
    else tree.wantedType [] (some context)

def wrongReceiverHint (tree : Tree) (receiverType called : Text) (node : Node) :
    Except Fault Hint := do
  let returnType ← tree.callContextType node
  return .methodCallOnWrongType called returnType receiverType.trimType node.text

/-! ## Variables and syntax -/

def typeMismatchHint (tree : Tree) (provided wanted : Text) (node : Node) :
    Except Fault Hint :=
  return .typeMismatch provided.trimType wanted.trimType (← tree.variableNameNear node)

def missingTypeHint (tree : Tree) (missing : Text) (node : Node) : Except Fault Hint :=
  return .missingType missing.trimType (← tree.variableNameNear node) Placeholder.className

/-- The type wanted where a variable stands. -/
def variableType (tree : Tree) (name : Text) (node : Node) : Except Fault Text :=
  tree.wantedType name (tree.parent node)

def declaratorsHint (tree : Tree) (node : Node) : Except Fault Hint := do
  let parent := tree.parent node
  let expression := (parent.filter (·.kind = .qualifiedName)).getD node
  return .variableDeclaratorsSyntaxError expression.text (← tree.wantedType [] parent)

def isArrayField (tree : Tree) (node : Option Node) : Except Fault Bool := do
  match node with
  | none => return false
  | some node =>
    if node.kind = .fieldDeclaration then
      return hasKind .arrayType (← tree.child node Role.type.toText)
    else return false

/-- Something is missing to make the code complete. The problem's arguments say what the
parser wanted to insert; the surroundings say whether an array was being declared.
Otherwise a control statement nearby is almost always broken in its integer
condition. -/
def incompleteHint (tree : Tree) (diagnostic : Diagnostic) (node : Node) :
    Except Fault (Option Hint) := do
  if diagnostic.hasArgument (Text.ofString "VariableDeclarators") then
    return some (← tree.declaratorsHint node)
  let parent := tree.parent node
  let grandparent := parent.bind tree.parent
  if hasKind .arrayCreation parent || hasKind .arrayAccess grandparent ||
      diagnostic.hasArgument (Text.ofString "Dimensions") then
    tree.incorrectDeclarationHint node
  else if ← tree.isArrayField parent then tree.incorrectDeclarationHint node
  else if [some node, parent, grandparent].any (·.any (·.kind.isControlStatement)) then
    return Hint.unexpectedToken? TypeName.int
  else return none

/-- The hint for a problem reported at a node. -/
def hintFor (tree : Tree) (diagnostic : Diagnostic) (problem : Problem) (node : Node) :
    Except Fault (Option Hint) :=
  let first := diagnostic.argument 0
  let second := diagnostic.argument 1
  match problem with
  | .mustDefineEitherDimensionExpressionsOrInitializer => tree.missingDimensionHint node
  | .illegalDimension => tree.creationHint .arrayTwoDimMismatch node
  | .cannotDefineDimensionExpressionsWithInit => tree.creationHint .arrayTwoInitializers node
  | .undefinedMethod => tree.missingMethodHint node
  | .parameterMismatch => tree.paramMismatchHint first node
  | .shouldReturnValue => tree.missingReturnHint node
  | .typeMismatch | .returnTypeMismatch => return some (← tree.typeMismatchHint first second node)
  | .undefinedType => return some (← tree.missingTypeHint first node)
  | .unresolvedVariable =>
    return some (.missingVariable first (← tree.variableType first node))
  | .uninitializedLocalVariable =>
    return some (.uninitializedVariable first (← tree.variableType first node))
  | .staticMethodRequested => return some (← tree.nonStaticHint first second node)
  | .undefinedField | .undefinedName => return some (← tree.declaratorsHint node)
  | .parsingErrorInsertToComplete => tree.incompleteHint diagnostic node
  | .parsingErrorDeleteToken => return Hint.unexpectedToken? first
  | .noMessageSendOnBaseType | .noMessageSendOnArrayType =>
    return some (← tree.wrongReceiverHint first second node)

end Tree

namespace Diagnostic

/-- The hint for a diagnostic whose node is known. Raw codes have none. -/
def hintAt (diagnostic : Diagnostic) (tree : Tree) (node : Node) :
    Except Tree.Fault (Option Hint) :=
  match diagnostic.code with
  | .known problem => tree.hintFor diagnostic problem node
  | .raw _ => .ok none

/-- The hint for a diagnostic at the node that its span leads to. -/
def classify (diagnostic : Diagnostic) (tree : Tree) : Except Tree.Fault (Option Hint) := do
  diagnostic.hintAt tree (← tree.nodeAt diagnostic.span.toRange)

end Diagnostic

end SketchHelp
