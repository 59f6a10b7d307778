/-!
# Concrete trees

The tree of a source: each node has a kind, the stretch of the source that it
covers, and its parts in source order. A part may stand in a field, which says
what it is to its node. Of punctuation only operators and `?.` are kept.
-/

namespace ScriptGraph.Source

inductive Kind where
  | program
  | hashBangLine
  | comment
  | htmlComment
  | importStatement
  | importClause
  | importSpecifier
  | exportStatement
  | exportClause
  | exportSpecifier
  | namespaceBinding
  | debuggerStatement
  | expressionStatement
  | functionDeclaration
  | generatorFunctionDeclaration
  | classDeclaration
  | lexicalDeclaration
  | variableDeclaration
  | variableDeclarator
  | statementBlock
  | ifStatement
  | elseClause
  | switchStatement
  | switchBody
  | switchCase
  | switchDefault
  | forStatement
  | forInStatement
  | whileStatement
  | doStatement
  | tryStatement
  | catchClause
  | finallyClause
  | withStatement
  | breakStatement
  | continueStatement
  | returnStatement
  | throwStatement
  | emptyStatement
  | labeledStatement
  | statementIdentifier
  | parenthesizedExpression
  | sequenceExpression
  | assignmentExpression
  | augmentedAssignmentExpression
  | awaitExpression
  | unaryExpression
  | binaryExpression
  | ternaryExpression
  | updateExpression
  | newExpression
  | yieldExpression
  | subscriptExpression
  | memberExpression
  | optionalChain
  | callExpression
  | arguments
  | identifier
  | thisExpression
  | superExpression
  | undefinedExpression
  | number
  | string
  | templateString
  | templateSubstitution
  | stringFragment
  | escapeSequence
  | regex
  | regexPattern
  | regexFlags
  | trueLiteral
  | falseLiteral
  | nullLiteral
  | object
  | pair
  | spreadElement
  | methodDefinition
  | shorthandPropertyIdentifier
  | propertyIdentifier
  | privatePropertyIdentifier
  | computedPropertyName
  | array
  | functionExpression
  | generatorFunction
  | arrowFunction
  | formalParameters
  | classExpression
  | classHeritage
  | classBody
  | fieldDefinition
  | classStaticBlock
  | decorator
  | metaProperty
  | importExpression
  | objectPattern
  | arrayPattern
  | pairPattern
  | restPattern
  | assignmentPattern
  | objectAssignmentPattern
  | shorthandPropertyIdentifierPattern
  | jsxElement
  | jsxSelfClosingElement
  | jsxOpeningElement
  | jsxClosingElement
  | jsxAttribute
  | jsxExpression
  | jsxText
  | jsxName
  | htmlCharacterReference
  /-- An operator sign or word. -/
  | operator
  /-- A kind that no construct reads. -/
  | other (label : String)
  deriving DecidableEq, Repr, Inhabited

namespace Kind

def label : Kind → String
  | program => "program"
  | hashBangLine => "hash_bang_line"
  | comment => "comment"
  | htmlComment => "html_comment"
  | importStatement => "import_statement"
  | importClause => "import_clause"
  | importSpecifier => "import_specifier"
  | exportStatement => "export_statement"
  | exportClause => "export_clause"
  | exportSpecifier => "export_specifier"
  | namespaceBinding => "namespace_import"
  | debuggerStatement => "debugger_statement"
  | expressionStatement => "expression_statement"
  | functionDeclaration => "function_declaration"
  | generatorFunctionDeclaration => "generator_function_declaration"
  | classDeclaration => "class_declaration"
  | lexicalDeclaration => "lexical_declaration"
  | variableDeclaration => "variable_declaration"
  | variableDeclarator => "variable_declarator"
  | statementBlock => "statement_block"
  | ifStatement => "if_statement"
  | elseClause => "else_clause"
  | switchStatement => "switch_statement"
  | switchBody => "switch_body"
  | switchCase => "switch_case"
  | switchDefault => "switch_default"
  | forStatement => "for_statement"
  | forInStatement => "for_in_statement"
  | whileStatement => "while_statement"
  | doStatement => "do_statement"
  | tryStatement => "try_statement"
  | catchClause => "catch_clause"
  | finallyClause => "finally_clause"
  | withStatement => "with_statement"
  | breakStatement => "break_statement"
  | continueStatement => "continue_statement"
  | returnStatement => "return_statement"
  | throwStatement => "throw_statement"
  | emptyStatement => "empty_statement"
  | labeledStatement => "labeled_statement"
  | statementIdentifier => "statement_identifier"
  | parenthesizedExpression => "parenthesized_expression"
  | sequenceExpression => "sequence_expression"
  | assignmentExpression => "assignment_expression"
  | augmentedAssignmentExpression => "augmented_assignment_expression"
  | awaitExpression => "await_expression"
  | unaryExpression => "unary_expression"
  | binaryExpression => "binary_expression"
  | ternaryExpression => "ternary_expression"
  | updateExpression => "update_expression"
  | newExpression => "new_expression"
  | yieldExpression => "yield_expression"
  | subscriptExpression => "subscript_expression"
  | memberExpression => "member_expression"
  | optionalChain => "optional_chain"
  | callExpression => "call_expression"
  | arguments => "arguments"
  | identifier => "identifier"
  | thisExpression => "this"
  | superExpression => "super"
  | undefinedExpression => "undefined"
  | number => "number"
  | string => "string"
  | templateString => "template_string"
  | templateSubstitution => "template_substitution"
  | stringFragment => "string_fragment"
  | escapeSequence => "escape_sequence"
  | regex => "regex"
  | regexPattern => "regex_pattern"
  | regexFlags => "regex_flags"
  | trueLiteral => "true"
  | falseLiteral => "false"
  | nullLiteral => "null"
  | object => "object"
  | pair => "pair"
  | spreadElement => "spread_element"
  | methodDefinition => "method_definition"
  | shorthandPropertyIdentifier => "shorthand_property_identifier"
  | propertyIdentifier => "property_identifier"
  | privatePropertyIdentifier => "private_property_identifier"
  | computedPropertyName => "computed_property_name"
  | array => "array"
  | functionExpression => "function_expression"
  | generatorFunction => "generator_function"
  | arrowFunction => "arrow_function"
  | formalParameters => "formal_parameters"
  | classExpression => "class"
  | classHeritage => "class_heritage"
  | classBody => "class_body"
  | fieldDefinition => "field_definition"
  | classStaticBlock => "class_static_block"
  | decorator => "decorator"
  | metaProperty => "meta_property"
  | importExpression => "import"
  | objectPattern => "object_pattern"
  | arrayPattern => "array_pattern"
  | pairPattern => "pair_pattern"
  | restPattern => "rest_pattern"
  | assignmentPattern => "assignment_pattern"
  | objectAssignmentPattern => "object_assignment_pattern"
  | shorthandPropertyIdentifierPattern => "shorthand_property_identifier_pattern"
  | jsxElement => "jsx_element"
  | jsxSelfClosingElement => "jsx_self_closing_element"
  | jsxOpeningElement => "jsx_opening_element"
  | jsxClosingElement => "jsx_closing_element"
  | jsxAttribute => "jsx_attribute"
  | jsxExpression => "jsx_expression"
  | jsxText => "jsx_text"
  | jsxName => "jsx_identifier"
  | htmlCharacterReference => "html_character_reference"
  | operator => "operator"
  | other label => label

/-- Whether nodes of a kind are parts in their own right; operators are not. -/
def isNamed : Kind → Bool
  | operator => false
  | _ => true

/-- Whether nodes of a kind are remarks, which may stand anywhere. -/
def isComment : Kind → Bool
  | comment => true
  | htmlComment => true
  | _ => false

end Kind

inductive Field where
  | alternative
  | argument
  | arguments
  | body
  | condition
  | consequence
  | constructor
  | finalizer
  | flags
  | function
  | handler
  | increment
  | index
  | initializer
  | key
  | label
  | left
  | name
  | object
  | operator
  | optionalChain
  | parameter
  | parameters
  | pattern
  | property
  | right
  | value
  deriving DecidableEq, Repr, Inhabited

/-- A stretch of a source, by the numbers of its first character and of the one after its last,
with the number of the line in which it starts; all count from zero. -/
structure Span where
  start : Nat
  stop : Nat
  line : Nat
  deriving DecidableEq, Repr, Inhabited

inductive Tree where
  | node (kind : Kind) (span : Span) (children : List (Option Field × Tree))
  deriving Inhabited

namespace Tree

def kind : Tree → Kind
  | .node kind _ _ => kind

def span : Tree → Span
  | .node _ span _ => span

def children : Tree → List (Option Field × Tree)
  | .node _ _ children => children

def leaf (kind : Kind) (span : Span) : Tree := .node kind span []

def withKind (tree : Tree) (kind : Kind) : Tree := .node kind tree.span tree.children

def child? (tree : Tree) (field : Field) : Option Tree :=
  (tree.children.find? fun (place, _) => place == some field).map Prod.snd

/-- Whether a node is a part to look at: it is named, and no remark. -/
def isSubstantial (tree : Tree) : Bool := tree.kind.isNamed && !tree.kind.isComment

/-- The parts of a node that are named and no remarks. -/
def parts (tree : Tree) : List Tree :=
  (tree.children.map Prod.snd).filter isSubstantial

/-- The same without the first part that stands in a field. -/
def partsWithout (tree : Tree) (field : Field) : List Tree :=
  ((tree.children.eraseP fun (place, _) => place == some field).map Prod.snd).filter isSubstantial

def firstPart? (tree : Tree) : Option Tree := tree.parts.head?

def covers (tree part : Tree) : Bool :=
  decide (tree.span.start ≤ part.span.start) && decide (part.span.stop ≤ tree.span.stop)

mutual

/-- Puts a remark where it stands: among the parts of the innermost node that covers it. -/
def insert (remark : Tree) : Tree → Tree
  | .node kind span children => .node kind span (insertAmong remark children)

def insertAmong (remark : Tree) : List (Option Field × Tree) → List (Option Field × Tree)
  | [] => [(none, remark)]
  | (field, part) :: rest =>
    if part.covers remark then (field, insert remark part) :: rest
    else if remark.span.stop ≤ part.span.start then (none, remark) :: (field, part) :: rest
    else (field, part) :: insertAmong remark rest

end

end Tree

/-- A remark: a stretch of a source that is passed over. -/
structure Remark where
  kind : { kind : Kind // kind.isComment = true }
  span : Span

def Remark.tree (remark : Remark) : Tree := .leaf remark.kind remark.span

end ScriptGraph.Source
