import SketchHelp.Text.CodePoint

/-!
The compiler problems that help pages exist for. Each has a name and a number; the
thousands of the number group them into problems with types, with variables, with
methods, with arrays and with syntax.
-/

namespace SketchHelp

inductive Problem where
  | undefinedType
  | typeMismatch
  | returnTypeMismatch
  | unresolvedVariable
  | uninitializedLocalVariable
  | undefinedField
  | undefinedName
  | undefinedMethod
  | parameterMismatch
  | shouldReturnValue
  | staticMethodRequested
  | noMessageSendOnBaseType
  | noMessageSendOnArrayType
  | mustDefineEitherDimensionExpressionsOrInitializer
  | illegalDimension
  | cannotDefineDimensionExpressionsWithInit
  | parsingErrorInsertToComplete
  | parsingErrorDeleteToken
  deriving DecidableEq, Repr

namespace Problem

/-- Every problem, in the order of their numbers within each group. -/
def all : List Problem :=
  [.undefinedType, .typeMismatch, .returnTypeMismatch, .unresolvedVariable,
   .uninitializedLocalVariable, .undefinedField, .undefinedName, .undefinedMethod,
   .parameterMismatch, .shouldReturnValue, .staticMethodRequested,
   .noMessageSendOnBaseType, .noMessageSendOnArrayType,
   .mustDefineEitherDimensionExpressionsOrInitializer, .illegalDimension,
   .cannotDefineDimensionExpressionsWithInit, .parsingErrorInsertToComplete,
   .parsingErrorDeleteToken]

def name : Problem → String
  | .undefinedType => "UNDEFINED_TYPE"
  | .typeMismatch => "TYPE_MISMATCH"
  | .returnTypeMismatch => "RETURN_TYPE_MISMATCH"
  | .unresolvedVariable => "UNRESOLVED_VARIABLE"
  | .uninitializedLocalVariable => "UNINITIALIZED_LOCAL_VARIABLE"
  | .undefinedField => "UNDEFINED_FIELD"
  | .undefinedName => "UNDEFINED_NAME"
  | .undefinedMethod => "UNDEFINED_METHOD"
  | .parameterMismatch => "PARAMETER_MISMATCH"
  | .shouldReturnValue => "SHOULD_RETURN_VALUE"
  | .staticMethodRequested => "STATIC_METHOD_REQUESTED"
  | .noMessageSendOnBaseType => "NO_MESSAGE_SEND_ON_BASE_TYPE"
  | .noMessageSendOnArrayType => "NO_MESSAGE_SEND_ON_ARRAY_TYPE"
  | .mustDefineEitherDimensionExpressionsOrInitializer => "MUST_DEFINE_EITHER_DIMENSION_EXPRESSIONS_OR_INITIALIZER"
  | .illegalDimension => "ILLEGAL_DIMENSION"
  | .cannotDefineDimensionExpressionsWithInit => "CANNOT_DEFINE_DIMENSION_EXPRESSIONS_WITH_INIT"
  | .parsingErrorInsertToComplete => "PARSING_ERROR_INSERT_TO_COMPLETE"
  | .parsingErrorDeleteToken => "PARSING_ERROR_DELETE_TOKEN"

def number : Problem → Nat
  | .undefinedType => 1001
  | .typeMismatch => 1002
  | .returnTypeMismatch => 1003
  | .unresolvedVariable => 2001
  | .uninitializedLocalVariable => 2002
  | .undefinedField => 2003
  | .undefinedName => 2004
  | .undefinedMethod => 3001
  | .parameterMismatch => 3002
  | .shouldReturnValue => 3003
  | .staticMethodRequested => 3004
  | .noMessageSendOnBaseType => 3005
  | .noMessageSendOnArrayType => 3006
  | .mustDefineEitherDimensionExpressionsOrInitializer => 4001
  | .illegalDimension => 4002
  | .cannotDefineDimensionExpressionsWithInit => 4003
  | .parsingErrorInsertToComplete => 5001
  | .parsingErrorDeleteToken => 5002

def ofName? (name : Text) : Option Problem :=
  all.find? fun problem => Text.ofString problem.name = name

def ofNumber? (number : Int) : Option Problem :=
  all.find? fun problem => (problem.number : Int) = number

theorem mem_all (problem : Problem) : problem ∈ all := by
  cases problem <;> decide

@[simp] theorem ofNumber?_number (problem : Problem) :
    ofNumber? problem.number = some problem := by
  cases problem <;> rfl

end Problem

end SketchHelp
