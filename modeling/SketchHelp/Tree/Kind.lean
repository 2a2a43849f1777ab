import SketchHelp.Text.CodePoint

/-!
The kinds of syntax nodes, with the names that tree data uses for them, and the slots
in which a node keeps its children. Any text may name a slot; the ones listed here are
those that help pages are worked out from.
-/

namespace SketchHelp

inductive Kind where
  | compilationUnit | typeDeclaration | methodDeclaration | fieldDeclaration
  | singleVariableDeclaration | variableDeclarationStatement
  | variableDeclarationExpression | variableDeclarationFragment | block
  | expressionStatement | returnStatement | forStatement | enhancedForStatement
  | whileStatement | doStatement | ifStatement | switchStatement | tryStatement
  | prefixExpression | infixExpression | postfixExpression | conditionalExpression
  | instanceofExpression | assignment | castExpression | methodInvocation | arrayCreation
  | arrayAccess | arrayInitializer | parenthesizedExpression
  | simpleName | qualifiedName | primitiveType | simpleType | arrayType
  | characterLiteral | booleanLiteral | numberLiteral | stringLiteral | nullLiteral
  | other
  deriving DecidableEq, Repr

namespace Kind

/-- Every kind, in the order of their listing. -/
def all : List Kind :=
  [.compilationUnit, .typeDeclaration, .methodDeclaration, .fieldDeclaration,
   .singleVariableDeclaration, .variableDeclarationStatement,
   .variableDeclarationExpression, .variableDeclarationFragment, .block,
   .expressionStatement, .returnStatement, .forStatement, .enhancedForStatement,
   .whileStatement, .doStatement, .ifStatement, .switchStatement, .tryStatement,
   .prefixExpression, .infixExpression, .postfixExpression, .conditionalExpression,
   .instanceofExpression, .assignment, .castExpression, .methodInvocation,
   .arrayCreation, .arrayAccess, .arrayInitializer, .parenthesizedExpression,
   .simpleName, .qualifiedName, .primitiveType, .simpleType, .arrayType,
   .characterLiteral, .booleanLiteral, .numberLiteral, .stringLiteral, .nullLiteral,
   .other]

def label : Kind → String
  | .compilationUnit => "compilation_unit"
  | .typeDeclaration => "type_declaration"
  | .methodDeclaration => "method_declaration"
  | .fieldDeclaration => "field_declaration"
  | .singleVariableDeclaration => "single_variable_declaration"
  | .variableDeclarationStatement => "variable_declaration_statement"
  | .variableDeclarationExpression => "variable_declaration_expression"
  | .variableDeclarationFragment => "variable_declaration_fragment"
  | .block => "block"
  | .expressionStatement => "expression_statement"
  | .returnStatement => "return_statement"
  | .forStatement => "for_statement"
  | .enhancedForStatement => "enhanced_for_statement"
  | .whileStatement => "while_statement"
  | .doStatement => "do_statement"
  | .ifStatement => "if_statement"
  | .switchStatement => "switch_statement"
  | .tryStatement => "try_statement"
  | .prefixExpression => "prefix_expression"
  | .infixExpression => "infix_expression"
  | .postfixExpression => "postfix_expression"
  | .conditionalExpression => "conditional_expression"
  | .instanceofExpression => "instanceof_expression"
  | .assignment => "assignment"
  | .castExpression => "cast_expression"
  | .methodInvocation => "method_invocation"
  | .arrayCreation => "array_creation"
  | .arrayAccess => "array_access"
  | .arrayInitializer => "array_initializer"
  | .parenthesizedExpression => "parenthesized_expression"
  | .simpleName => "simple_name"
  | .qualifiedName => "qualified_name"
  | .primitiveType => "primitive_type"
  | .simpleType => "simple_type"
  | .arrayType => "array_type"
  | .characterLiteral => "character_literal"
  | .booleanLiteral => "boolean_literal"
  | .numberLiteral => "number_literal"
  | .stringLiteral => "string_literal"
  | .nullLiteral => "null_literal"
  | .other => "other"

def toText (kind : Kind) : Text :=
  Text.ofString kind.label

def ofText? (t : Text) : Option Kind :=
  all.find? fun kind => kind.toText = t

theorem mem_all (kind : Kind) : kind ∈ all := by
  cases kind <;> decide

theorem nodup_labels : (all.map label).Nodup := by
  decide +kernel

/-- In a list without repeated labels, looking for a member's label finds the member. -/
theorem find?_label {kinds : List Kind} (distinct : (kinds.map label).Nodup) {kind : Kind}
    (listed : kind ∈ kinds) :
    kinds.find? (fun candidate => candidate.label = kind.label) = some kind := by
  induction kinds with
  | nil => cases listed
  | cons first rest ih =>
    obtain ⟨fresh, distinctRest⟩ := List.nodup_cons.mp distinct
    rcases List.mem_cons.mp listed with rfl | later
    · exact List.find?_cons_of_pos (by simp)
    · have apart : first.label ≠ kind.label := fun same =>
        fresh (same ▸ List.mem_map_of_mem later)
      rw [List.find?_cons_of_neg (by simpa using apart)]
      exact ih distinctRest later

theorem label_inj {a b : Kind} : a.label = b.label ↔ a = b := by
  refine ⟨fun same => ?_, fun same => congrArg label same⟩
  have found := find?_label nodup_labels (mem_all a)
  rw [same, find?_label nodup_labels (mem_all b)] at found
  exact (Option.some.inj found).symm

@[simp] theorem ofText?_toText (kind : Kind) : ofText? kind.toText = some kind := by
  simp only [ofText?, toText, Text.ofString_inj]
  exact find?_label nodup_labels (mem_all kind)

/-- Statements whose condition decides what runs. -/
def isControlStatement : Kind → Bool
  | .forStatement | .tryStatement | .doStatement | .switchStatement | .ifStatement
  | .enhancedForStatement | .whileStatement => true
  | _ => false

/-- Declarations of which the first fragment speaks for all. -/
def isDeclaration : Kind → Bool
  | .fieldDeclaration | .variableDeclarationStatement => true
  | _ => false

end Kind

inductive Role where
  | name | type | returnType | parameters | arguments | expression | fragments
  | leftOperand | rightOperand | operand | initializer | dimensions | array | index | body
  | statements | qualifier
  deriving DecidableEq, Repr

namespace Role

def all : List Role :=
  [.name, .type, .returnType, .parameters, .arguments, .expression, .fragments,
   .leftOperand, .rightOperand, .operand, .initializer, .dimensions, .array, .index,
   .body, .statements, .qualifier]

def label : Role → String
  | .name => "name"
  | .type => "type"
  | .returnType => "return_type"
  | .parameters => "parameters"
  | .arguments => "arguments"
  | .expression => "expression"
  | .fragments => "fragments"
  | .leftOperand => "left_operand"
  | .rightOperand => "right_operand"
  | .operand => "operand"
  | .initializer => "initializer"
  | .dimensions => "dimensions"
  | .array => "array"
  | .index => "index"
  | .body => "body"
  | .statements => "statements"
  | .qualifier => "qualifier"

def toText (role : Role) : Text :=
  Text.ofString role.label

theorem mem_all (role : Role) : role ∈ all := by
  cases role <;> decide

end Role

end SketchHelp
