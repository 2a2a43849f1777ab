import SketchHelp.Text.CodePoint

/-!
What a help page is about. Each kind of page has a category, which is its path on the
server, and carries exactly the parameters that it shows. The keys of the parameters and
their order are agreed with the pages.
-/

namespace SketchHelp

inductive Category where
  | arrayMissingDimension | arrayTwoDimMismatch | arrayTwoInitializers
  | incorrectVariableDeclaration | incorrectMethodDeclaration | extraneousClosingBrace
  | missingMethod | paramMismatch | missingReturn | typeMismatch | missingType
  | missingVariable | uninitializedVariable | unexpectedToken | nonStaticFromStatic
  | variableDeclaratorsSyntaxError | methodCallOnWrongType
  deriving DecidableEq, Repr

namespace Category

def all : List Category :=
  [.arrayMissingDimension, .arrayTwoDimMismatch, .arrayTwoInitializers,
   .incorrectVariableDeclaration, .incorrectMethodDeclaration, .extraneousClosingBrace,
   .missingMethod, .paramMismatch, .missingReturn, .typeMismatch, .missingType,
   .missingVariable, .uninitializedVariable, .unexpectedToken, .nonStaticFromStatic,
   .variableDeclaratorsSyntaxError, .methodCallOnWrongType]

/-- The path of the category's page. -/
def path : Category → String
  | .arrayMissingDimension => "incorrectdimensionexpression1"
  | .arrayTwoDimMismatch => "incorrectdimensionexpression2"
  | .arrayTwoInitializers => "incorrectdimensionexpression3"
  | .incorrectVariableDeclaration => "incorrectvariabledeclaration"
  | .incorrectMethodDeclaration => "incorrectmethoddeclaration"
  | .extraneousClosingBrace => "extraneousclosingcurlybrace"
  | .missingMethod => "methodnotfound"
  | .paramMismatch => "parametermismatch"
  | .missingReturn => "returnmissing"
  | .typeMismatch => "typemismatch"
  | .missingType => "typenotfound"
  | .missingVariable => "variablenotfound"
  | .uninitializedVariable => "variablenotinit"
  | .unexpectedToken => "unexpectedtoken"
  | .nonStaticFromStatic => "nonstaticfromstatic"
  | .variableDeclaratorsSyntaxError => "syntaxerrorvariabledeclarators"
  | .methodCallOnWrongType => "methodcallonwrongtype"

def toText (category : Category) : Text :=
  Text.ofString category.path

theorem mem_all (category : Category) : category ∈ all := by
  cases category <;> decide

end Category

/-- Keys and values in the order in which a page expects them. -/
abbrev Parameters := List (Text × Text)

namespace Placeholder

/-- Names that a page shows where it has none to suggest. -/
def variableName : Text := Text.ofString "example"

def methodName : Text := Text.ofString "correctName"

def className : Text := Text.ofString "CorrectName"

end Placeholder

inductive Hint where
  /-- An array is created with neither dimensions nor an initialiser. -/
  | arrayMissingDimension (typeName arrayName : Text)
  /-- The second dimension is given while the first is missing. -/
  | arrayTwoDimMismatch (typeName arrayName : Text)
  /-- Dimensions are combined with an initialiser. -/
  | arrayTwoInitializers (typeName arrayName : Text)
  /-- An array variable's declaration is malformed. -/
  | incorrectVariableDeclaration (typeName foundName : Text)
  /-- A method is declared among statements. -/
  | incorrectMethodDeclaration (methodName : Text)
  /-- A method is called that does not exist. -/
  | missingMethod (methodName returnType : Text) (providedParams providedTypes : List Text)
      (correctMethodName : Text)
  /-- A call's arguments do not fit the method that it resolves to. -/
  | paramMismatch (className methodName methodReturnType : Text)
      (providedTypes requiredTypes : List Text)
  /-- A method that returns something has no return statement. -/
  | missingReturn (methodName returnType : Text) (requiredTypes : List Text)
  /-- A method that needs an object is called where there is none. The static method
  around the call and the call itself may not have been found. -/
  | nonStaticFromStatic (fileName methodName : Text)
      (staticMethodName staticMethodReturnType methodReturnType : Option Text)
  /-- A method is called on a primitive value or an array. -/
  | methodCallOnWrongType (methodName returnType typeName variableText : Text)
  /-- A value of one type stands where another type is required. -/
  | typeMismatch (providedType requiredType variableName : Text)
  /-- A type is named that does not exist. -/
  | missingType (missingType variableName correctClassName : Text)
  /-- A variable is named that does not exist. -/
  | missingVariable (variableName variableType : Text)
  /-- A local variable is read before it has a value. -/
  | uninitializedVariable (variableName variableType : Text)
  /-- A block is followed by a closing brace too many; `fixed` is the same snippet
  without it. -/
  | extraneousClosingBrace (snippet fixed : Text)
  /-- A type name stands where something else was expected. -/
  | unexpectedToken (typeName : Text)
  /-- A statement reads as an incomplete variable declaration. -/
  | variableDeclaratorsSyntaxError (expressionText typeName : Text)
  deriving DecidableEq, Repr

namespace Hint

def category : Hint → Category
  | arrayMissingDimension .. => .arrayMissingDimension
  | arrayTwoDimMismatch .. => .arrayTwoDimMismatch
  | arrayTwoInitializers .. => .arrayTwoInitializers
  | incorrectVariableDeclaration .. => .incorrectVariableDeclaration
  | incorrectMethodDeclaration .. => .incorrectMethodDeclaration
  | missingMethod .. => .missingMethod
  | paramMismatch .. => .paramMismatch
  | missingReturn .. => .missingReturn
  | nonStaticFromStatic .. => .nonStaticFromStatic
  | methodCallOnWrongType .. => .methodCallOnWrongType
  | typeMismatch .. => .typeMismatch
  | missingType .. => .missingType
  | missingVariable .. => .missingVariable
  | uninitializedVariable .. => .uninitializedVariable
  | extraneousClosingBrace .. => .extraneousClosingBrace
  | unexpectedToken .. => .unexpectedToken
  | variableDeclaratorsSyntaxError .. => .variableDeclaratorsSyntaxError

/-- Stands between the texts of a list. -/
def separator : Text := Text.ofString ","

/-- A list as one value. -/
def joined (texts : List Text) : Text :=
  separator.intercalate texts

/-- The static method's parameters, if it was found. A return type that is unknown is
shown empty. -/
def staticParameters (name returnType : Option Text) : Parameters :=
  match name with
  | none => []
  | some name => [("staticmethodname", name), ("staticmethodreturntype", returnType.getD [])]

def calledParameters (returnType : Option Text) : Parameters :=
  match returnType with
  | none => []
  | some returnType => [("methodreturntype", returnType)]

/-- The page's parameters in the order it expects. -/
def parameters : Hint → Parameters
  | arrayMissingDimension typeName arrayName
  | arrayTwoDimMismatch typeName arrayName
  | arrayTwoInitializers typeName arrayName =>
    [("typename", typeName), ("arrname", arrayName)]
  | incorrectVariableDeclaration typeName foundName =>
    [("typename", typeName), ("foundname", foundName)]
  | incorrectMethodDeclaration methodName => [("methodname", methodName)]
  | missingMethod methodName returnType providedParams providedTypes correctMethodName =>
    [("methodname", methodName), ("correctmethodname", correctMethodName),
     ("typename", returnType), ("providedparams", joined providedParams),
     ("providedtypes", joined providedTypes)]
  | paramMismatch className methodName methodReturnType providedTypes requiredTypes =>
    [("classname", className), ("methodname", methodName),
     ("methodtypename", methodReturnType), ("providedtypes", joined providedTypes),
     ("requiredtypes", joined requiredTypes)]
  | missingReturn methodName returnType requiredTypes =>
    [("methodname", methodName), ("typename", returnType),
     ("requiredtypes", joined requiredTypes)]
  | nonStaticFromStatic fileName methodName staticName staticReturnType returnType =>
    ("methodname", methodName) ::
      (staticParameters staticName staticReturnType ++
        (calledParameters returnType ++ [(Text.ofString "filename", fileName)]))
  | methodCallOnWrongType methodName returnType typeName variableText =>
    [("methodname", methodName), ("returntype", returnType), ("typename", typeName),
     ("varname", variableText)]
  | typeMismatch providedType requiredType variableName =>
    [("typeonename", providedType), ("typetwoname", requiredType), ("varname", variableName)]
  | missingType missing variableName correctClassName =>
    [("classname", missing), ("correctclassname", correctClassName),
     ("varname", variableName)]
  | missingVariable variableName variableType =>
    [("classname", variableType), ("varname", variableName)]
  | uninitializedVariable variableName variableType =>
    [("varname", variableName), ("typename", variableType)]
  | extraneousClosingBrace snippet fixed => [("original", snippet), ("fixed", fixed)]
  | unexpectedToken typeName => [("typename", typeName)]
  | variableDeclaratorsSyntaxError expressionText typeName =>
    [("methodonename", expressionText), ("typename", typeName)]

end Hint

end SketchHelp
