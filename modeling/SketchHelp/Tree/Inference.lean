import SketchHelp.Tree.Basic
import SketchHelp.TypeName

/-!
The type that a place in a program wants. A compiler's problem rarely says it, but the
code around the place usually does: a negation wants a boolean, a comparison wants
whatever stands on its other side, a call wants the type of its parameter.

The nearest node, from the place upward, whose kind has a rule decides. Where none has,
or where the rule lacks the binding it asks for, the answer is the root of all types.
-/

namespace SketchHelp

namespace TypeName

def object : Text := Text.ofString "Object"

def boolean : Text := Text.ofString "boolean"

def int : Text := Text.ofString "int"

def char : Text := Text.ofString "char"

def string : Text := Text.ofString "String"

/-- Simple name of a type; a blank value names nothing. -/
def trim (value : Value) : Except Tree.Fault Text :=
  match value with
  | .text t => .ok t.trimType
  | value => if value.isBlank then .ok [] else .error .notText

def element (value : Value) : Except Tree.Fault Text :=
  match value with
  | .text t => .ok t.elementType
  | _ => .error .notText

end TypeName

namespace Operator

/-- Operators between booleans. -/
def logical : List Text :=
  [Text.ofString "||", Text.ofString "&&"]

/-- Arithmetic, shift, relational and bitwise operators, all of which accept integers. -/
def numeric : List Text :=
  ["*", "/", "%", "+", "-", "<<", ">>", ">>>", "<", ">", "<=", ">=", "^", "|", "&"].map
    Text.ofString

/-- Whether an operator is one of a set. Lists and objects cannot be looked up. -/
def isIn (operators : List Text) (operator : Value) : Except Tree.Fault Bool :=
  match operator with
  | .text t => .ok (operators.contains t)
  | .list items => .error (.compoundOperator (Value.kindWord (.list items)))
  | .object fields => .error (.compoundOperator (Value.kindWord (.object fields)))
  | _ => .ok false

def isNegation (operator : Value) : Bool :=
  match operator with
  | .text t => t = Text.ofString "!"
  | _ => false

/-- Operand type of an infix operator when neither operand is resolved. -/
def operandType (operator : Value) : Except Tree.Fault Text := do
  if ← isIn logical operator then return TypeName.boolean
  if ← isIn numeric operator then return TypeName.int
  return TypeName.boolean

end Operator

namespace Tree

/-- Type of the first child in a slot, null if there is no child or no type. -/
def childType (tree : Tree) (node : Node) (role : Role) : Except Fault Value := do
  match ← tree.child node role.toText with
  | none => return .null
  | some child => return child.resolvedType

/-- The other operand is the best evidence, the left one first. -/
def infixType (tree : Tree) (node : Node) : Except Fault Value := do
  let left ← tree.childType node .leftOperand
  if !left.isNull then return left
  let right ← tree.childType node .rightOperand
  if !right.isNull then return right
  return .text (← Operator.operandType node.operator)

/-- Parameter type at the position of the first argument whose text is `missing`. -/
def invocationType (tree : Tree) (missing : Text) (node : Node) : Except Fault Text := do
  match node.method with
  | none => return TypeName.object
  | some method =>
    let arguments ← tree.childrenIn node Role.arguments.toText
    match (arguments.map (·.text)).idxOf? missing with
    | none => return TypeName.object
    | some position => return method.parameterTypes.getD position TypeName.object

/-- What a node says about the type wanted in it, or `none` if its kind has no rule. -/
def typeRule (tree : Tree) (missing : Text) (node : Node) :
    Except Fault (Option Value) :=
  match node.kind with
  | .prefixExpression =>
    .ok (some (.text (if Operator.isNegation node.operator then TypeName.boolean
      else TypeName.int)))
  | .infixExpression => return some (← tree.infixType node)
  | .postfixExpression | .arrayCreation | .arrayAccess => .ok (some (.text TypeName.int))
  | .conditionalExpression | .booleanLiteral => .ok (some (.text TypeName.boolean))
  | .instanceofExpression | .nullLiteral => .ok (some (.text TypeName.object))
  | .variableDeclarationFragment | .assignment | .numberLiteral =>
    .ok (some (node.resolvedType.orText TypeName.object))
  | .methodInvocation => return some (.text (← tree.invocationType missing node))
  | .arrayInitializer =>
    if node.resolvedType.isNull then .ok (some (.text TypeName.object))
    else return some (.text (← TypeName.element node.resolvedType))
  | .castExpression => do
    match ← tree.child node Role.type.toText with
    | none => return some (.text TypeName.object)
    | some castType => return some (.text castType.text)
  | .expressionStatement => do
    let type ← tree.childType node .expression
    return some (if type.isNull then .text TypeName.object else type)
  | .characterLiteral => .ok (some (.text TypeName.char))
  | .stringLiteral => .ok (some (.text TypeName.string))
  | _ => .ok none

/-- The type wanted at a node. `missing` is the text of the missing value, matched
against the arguments of a call; without a particular value it is empty. -/
def inferType (tree : Tree) (missing : Text) (node : Option Node) :
    Except Fault Value := do
  match node with
  | none => return .text TypeName.object
  | some node =>
    return (← (tree.ancestors node).findSomeM? (tree.typeRule missing)).getD
      (.text TypeName.object)

/-- Simple name of the type wanted at a node. -/
def wantedType (tree : Tree) (missing : Text) (node : Option Node) : Except Fault Text := do
  TypeName.trim (← tree.inferType missing node)

end Tree

end SketchHelp
