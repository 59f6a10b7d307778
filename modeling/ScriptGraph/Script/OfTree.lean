import ScriptGraph.Path
import ScriptGraph.Script.Basic
import ScriptGraph.Number.Literal
import ScriptGraph.Source.Program
import ScriptGraph.Text.Quoted

/-!
# Scripts from concrete trees

Every construct with a shape of its own becomes that shape; everything else
becomes `unsupported` with the kind of its node, so that nothing vanishes
unseen. Each statement and each expression takes one level of nesting, and what
lies below the last level is cut off.
-/

namespace ScriptGraph

open Source

/-- A source: the characters that the spans of its tree refer to. -/
structure SourceText where
  glyphs : Array Glyph
  deriving Inhabited

namespace SourceText

def ofBytes (bytes : List UInt8) : SourceText := ⟨Utf8.decode bytes⟩

/-- The text of a node; a stretch with a stray byte in it has none. -/
def text (source : SourceText) (tree : Tree) : String :=
  (Utf8.spell? (source.glyphs.extract tree.span.start tree.span.stop).toList).getD ""

end SourceText

/-- How the parts of a node become statements and expressions, one level further down. -/
structure Reading where
  source : SourceText
  /-- The statements that a node becomes; there may be none or several. -/
  statement : Tree → List Stmt
  expression : Tree → Expr

namespace Reading

def statementsIn (r : Reading) (tree : Tree) : Block :=
  tree.parts.flatMap r.statement

/-- A node as a block: a block's own statements, or the single statement. -/
def body (r : Reading) (tree : Tree) : Block :=
  if tree.kind == .statementBlock then r.statementsIn tree else r.statement tree

def body? (r : Reading) (tree? : Option Tree) : Block :=
  match tree? with
  | some tree => r.body tree
  | none => []

/-- A required part as an expression; without it its node is unsupported. -/
def required (r : Reading) (parent : Tree) (part? : Option Tree) : Expr :=
  match part? with
  | some part => r.expression part
  | none => .unsupported parent.kind.label

/-- A condition, of which the parentheses around it are no part. -/
def condition (r : Reading) (tree : Tree) : Expr :=
  if tree.kind == .parenthesizedExpression then
    match tree.firstPart? with
    | some inner => r.expression inner
    | none => r.expression tree
  else r.expression tree

def requiredCondition (r : Reading) (parent : Tree) (part? : Option Tree) : Expr :=
  match part? with
  | some part => r.condition part
  | none => .unsupported parent.kind.label

/-- One declared variable; a pattern declares no single name. -/
def declarator (r : Reading) (tree : Tree) : Stmt :=
  if tree.kind == .variableDeclarator then
    match tree.child? .name with
    | some name =>
      if name.kind == .identifier then
        .var (r.source.text name) ((tree.child? .value).map r.expression)
      else .unsupported name.kind.label
    | none => .unsupported tree.kind.label
  else .unsupported tree.kind.label

def declarators (r : Reading) (tree : Tree) : List Stmt :=
  tree.parts.map r.declarator

/-- The name made up for a function without one: the line in which it starts. -/
def madeUpName (tree : Tree) : String :=
  "L" ++ Func.anonymousMark.toString ++ toString (tree.span.line + 1)

/-- The name of a function: an identifier of its own, or one made up. -/
def functionName (r : Reading) (tree : Tree) : String :=
  match tree.child? .name with
  | some name =>
    if name.kind == .identifier || name.kind == .propertyIdentifier then r.source.text name
    else madeUpName tree
  | none => madeUpName tree

mutual

/-- The node that names a parameter: defaults and the mark of the rest are looked through. -/
def boundBy : Tree → Tree
  | .node kind span children =>
    match kind with
    | .assignmentPattern => boundByLeft (.node kind span children) children
    | .restPattern => boundByFirst (.node kind span children) children
    | _ => .node kind span children

def boundByLeft (whole : Tree) : List (Option Field × Tree) → Tree
  | [] => whole
  | (field, part) :: rest =>
    if field == some .left then boundBy part else boundByLeft whole rest

/-- What the first named part that is no remark binds. -/
def boundByFirst (whole : Tree) : List (Option Field × Tree) → Tree
  | [] => whole
  | (_, part) :: rest => if part.isSubstantial then boundBy part else boundByFirst whole rest

end

/-- The name of a parameter; a pattern keeps its text. -/
def param (r : Reading) (tree : Tree) : String := r.source.text (boundBy tree)

def params (r : Reading) (tree : Tree) : List String :=
  match tree.child? .parameter with
  | some single => [r.param single]
  | none =>
    match tree.child? .parameters with
    | some list => list.parts.map r.param
    | none => []

/-- The statements of a function; an arrow's expression is what it returns. -/
def functionBody (r : Reading) (tree : Tree) : Block :=
  match tree.child? .body with
  | some body =>
    if body.kind == .statementBlock then r.statementsIn body
    else [.ret (some (r.expression body))]
  | none => []

def function (r : Reading) (tree : Tree) : Func :=
  .mk (some (r.functionName tree)) (r.params tree) (r.functionBody tree)

/-- One of the first two clauses of a loop: the variables it declares, and the expression it is. -/
def clause (r : Reading) (tree : Tree) : List Stmt × Option Expr :=
  match tree.kind with
  | .emptyStatement => ([], none)
  | .expressionStatement => ([], tree.firstPart?.map r.expression)
  | .variableDeclaration => (r.declarators tree, none)
  | .lexicalDeclaration => (r.declarators tree, none)
  | _ => ([], some (r.expression tree))

def clause? (r : Reading) (tree? : Option Tree) : List Stmt × Option Expr :=
  match tree? with
  | some tree => r.clause tree
  | none => ([], none)

/-- A loop with three clauses; what it declares stands before it, in a block with it. -/
def loop (r : Reading) (tree : Tree) : Stmt :=
  let (declared, init) := r.clause? (tree.child? .initializer)
  let (declaredToo, test) := r.clause? (tree.child? .condition)
  let hoisted := declared ++ declaredToo
  let loop := Stmt.forLoop init test ((tree.child? .increment).map r.expression)
    (r.body? (tree.child? .body))
  if hoisted.isEmpty then loop else .block (hoisted ++ [loop])

/-- What handles an exception; a pattern binds no single name. -/
def handler (r : Reading) (tree : Tree) : Stmt :=
  match tree.child? .parameter with
  | some name =>
    if name.kind == .identifier then
      .handler (some (r.source.text name)) none (r.body? (tree.child? .body))
    else .unsupported name.kind.label
  | none => .handler none none (r.body? (tree.child? .body))

/-- A `try` with its handler and what is done at last. -/
def guarded (r : Reading) (tree : Tree) : Stmt :=
  .tryCatch (r.body? (tree.child? .body))
    (((tree.child? .handler).map fun clause => [r.handler clause]).toList)
    ((tree.child? .finalizer).map fun clause => r.body? (clause.child? .body))

/-- A case of a switch: what it tests for, and its other parts as statements. -/
def switchCase (r : Reading) (tree : Tree) : Stmt :=
  .caseOf ((tree.child? .value).map r.expression)
    ((tree.partsWithout .value).flatMap r.statement)

def switch (r : Reading) (tree : Tree) : Stmt :=
  .switchOn (r.requiredCondition tree (tree.child? .value))
    (match tree.child? .body with
      | some body => body.parts.map r.switchCase
      | none => [])

/-- A branch; an `else` without a statement does not count. -/
def branch (r : Reading) (tree : Tree) : Stmt :=
  .branch (r.requiredCondition tree (tree.child? .condition))
    (r.body? (tree.child? .consequence))
    (((tree.child? .alternative).bind Tree.firstPart?).map r.body)

def readStatement (r : Reading) (tree : Tree) : List Stmt :=
  match tree.kind with
  | .expressionStatement => (tree.firstPart?.map fun inner => Stmt.eval (r.expression inner)).toList
  | .variableDeclaration => r.declarators tree
  | .lexicalDeclaration => r.declarators tree
  | .functionDeclaration | .generatorFunctionDeclaration =>
    match tree.child? .name with
    | some name => [.var (r.source.text name) (some (.function (r.function tree)))]
    | none => [.unsupported tree.kind.label]
  | .returnStatement => [.ret (tree.firstPart?.map r.expression)]
  | .ifStatement => [r.branch tree]
  | .forStatement => [r.loop tree]
  | .forInStatement =>
    [.forLoop ((tree.child? .left).map r.expression) ((tree.child? .right).map r.expression)
      none (r.body? (tree.child? .body))]
  | .whileStatement | .doStatement =>
    [.whileLoop (r.requiredCondition tree (tree.child? .condition))
      (r.body? (tree.child? .body))]
  | .statementBlock => [.block (r.statementsIn tree)]
  | .tryStatement => [r.guarded tree]
  | .breakStatement => [.breakTo ((tree.child? .label).map r.source.text)]
  | .continueStatement => [.continueTo ((tree.child? .label).map r.source.text)]
  | .throwStatement =>
    match tree.firstPart? with
    | some inner => [.raise (r.expression inner)]
    | none => [.unsupported tree.kind.label]
  | .switchStatement => [r.switch tree]
  | .labeledStatement =>
    match tree.child? .body with
    | some body => r.statement body
    | none => []
  | .emptyStatement => []
  | .comment => []
  | .htmlComment => []
  | kind => [.unsupported kind.label]

def unquoted (text : String) : String := String.ofList ((text.toList.drop 1).dropLast)

def templateText (r : Reading) (tree : Tree) : String :=
  String.join ((tree.parts.filter fun part => part.kind != .templateSubstitution).map
    r.source.text)

def substitutions (r : Reading) (tree : Tree) : List Expr :=
  ((tree.parts.filter fun part => part.kind == .templateSubstitution).filterMap
    Tree.firstPart?).map r.expression

/-- A template: a string if nothing is substituted, and else its text plus each substitution. -/
def template (r : Reading) (tree : Tree) : Expr :=
  match r.substitutions tree with
  | [] => .string (unquoted (r.source.text tree))
  | first :: more =>
    (first :: more).foldl (fun text part => Expr.binary "+" text part)
      (.string (r.templateText tree))

/-- Expressions between commas, grouped to the left. -/
def sequence (r : Reading) (tree : Tree) : Expr :=
  match tree.parts.map r.expression with
  | [] => .unsupported tree.kind.label
  | first :: more => more.foldl (fun left right => Expr.binary "," left right) first

/-- The arguments of a call; a template behind a callee is its only argument. -/
def arguments (r : Reading) (tree? : Option Tree) : List Expr :=
  match tree? with
  | some tree =>
    if tree.kind == .templateString then [r.template tree]
    else tree.parts.map r.expression
  | none => []

def keyOf (r : Reading) (tree : Tree) : Expr :=
  if tree.kind == .computedPropertyName then r.required tree tree.firstPart?
  else r.expression tree

def requiredKey (r : Reading) (parent : Tree) (part? : Option Tree) : Expr :=
  match part? with
  | some part => r.keyOf part
  | none => .unsupported parent.kind.label

/-- A property as a key and a value; where there is no such thing the key is unsupported. -/
def property (r : Reading) (tree : Tree) : Expr × Expr :=
  match tree.kind with
  | .pair =>
    (r.requiredKey tree (tree.child? .key), r.required tree (tree.child? .value))
  | .shorthandPropertyIdentifier =>
    (.ident (r.source.text tree), .ident (r.source.text tree))
  | .methodDefinition =>
    (r.requiredKey tree (tree.child? .name), .function (r.function tree))
  | kind => (.unsupported kind.label, .null)

def text? (r : Reading) (tree? : Option Tree) : String :=
  match tree? with
  | some tree => r.source.text tree
  | none => ""

def readExpression (r : Reading) (tree : Tree) : Expr :=
  match tree.kind with
  | .identifier | .thisExpression | .superExpression | .undefinedExpression
  | .propertyIdentifier | .privatePropertyIdentifier | .shorthandPropertyIdentifier =>
    .ident (r.source.text tree)
  | .string => .string (unquoted (r.source.text tree))
  | .templateString => r.template tree
  | .number => .number (NumberLiteral.value (r.source.text tree))
  | .trueLiteral => .boolean true
  | .falseLiteral => .boolean false
  | .nullLiteral => .null
  | .regex => .regex (r.text? (tree.child? .pattern)) (r.text? (tree.child? .flags))
  | .array => .array (tree.parts.map r.expression)
  | .object => .object (tree.parts.map r.property)
  | .functionExpression | .generatorFunction | .arrowFunction => .function (r.function tree)
  | .callExpression =>
    .call (r.required tree (tree.child? .function)) (r.arguments (tree.child? .arguments))
  | .newExpression =>
    .unary "new"
      (.call (r.required tree (tree.child? .constructor)) (r.arguments (tree.child? .arguments)))
  | .memberExpression =>
    match tree.child? .property with
    | some member => .access (r.required tree (tree.child? .object)) (r.source.text member)
    | none => .unsupported tree.kind.label
  | .subscriptExpression =>
    .index (r.required tree (tree.child? .object)) (r.required tree (tree.child? .index))
  | .assignmentExpression =>
    .binary "=" (r.required tree (tree.child? .left)) (r.required tree (tree.child? .right))
  | .augmentedAssignmentExpression | .binaryExpression =>
    .binary (r.text? (tree.child? .operator)) (r.required tree (tree.child? .left))
      (r.required tree (tree.child? .right))
  | .unaryExpression | .updateExpression =>
    .unary (r.text? (tree.child? .operator)) (r.required tree (tree.child? .argument))
  | .awaitExpression => .unary "await" (r.required tree tree.firstPart?)
  | .ternaryExpression =>
    .ternary (r.required tree (tree.child? .condition))
      (r.required tree (tree.child? .consequence)) (r.required tree (tree.child? .alternative))
  | .parenthesizedExpression =>
    match tree.firstPart? with
    | some inner => .paren (r.expression inner)
    | none => .unsupported tree.kind.label
  | .sequenceExpression => r.sequence tree
  | kind => .unsupported kind.label

end Reading

mutual

/-- The statements that a node becomes with a number of levels left. -/
def statementsOf (source : SourceText) : Nat → Tree → List Stmt
  | 0, _ => [.unsupported nestingKind]
  | levels + 1, tree =>
    Reading.readStatement ⟨source, statementsOf source levels, expressionOf source levels⟩ tree

def expressionOf (source : SourceText) : Nat → Tree → Expr
  | 0, _ => .unsupported nestingKind
  | levels + 1, tree =>
    Reading.readExpression ⟨source, statementsOf source levels, expressionOf source levels⟩ tree

end

def Func.ofTree (source : SourceText) (maxDepth : Nat) (tree : Tree) : Func :=
  Func.wrapper (tree.parts.flatMap (statementsOf source maxDepth))

inductive ParseError where
  /-- The file's extension marks no script. -/
  | unsupportedExtension (extension : String)
  /-- The source does not follow the grammar. -/
  | malformed
  deriving DecidableEq, Repr, Inhabited

def ParseError.message : ParseError → String
  | .unsupportedExtension extension =>
    "unsupported file extension " ++ Text.Quoted.quote extension
  | .malformed => "syntax error"

def Func.ofSource? (bytes : List UInt8) (maxDepth : Nat) : Option Func :=
  let source := SourceText.ofBytes bytes
  (parse? source.glyphs.toList).map (Func.ofTree source maxDepth)

def Func.ofFile (path : String) (bytes : List UInt8) (maxDepth : Nat) : Except ParseError Func :=
  if Path.isScript path then
    match Func.ofSource? bytes maxDepth with
    | some func => .ok func
    | none => .error .malformed
  else .error (.unsupportedExtension ((Path.extension? path).getD ""))

end ScriptGraph
