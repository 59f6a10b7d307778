import ScriptGraph.Proofs.Script.Visits
import ScriptGraph.Script.OfTree

/-!
# The forms that nodes are read into

For each node of a concrete tree there is one form into which every reading
brings it, whatever the reading makes of the node's parts. The forms are listed
here once, with the kinds of nodes they come from; what is said about readings
elsewhere goes through this list and not through the kinds.
-/

namespace ScriptGraph

open Source

namespace Source.Tree

theorem mem_children_of_child? {tree part : Tree} {field : Field}
    (h : tree.child? field = some part) : (some field, part) ∈ tree.children := by
  obtain ⟨⟨place, part'⟩, hfind, rfl⟩ := Option.map_eq_some_iff.mp h
  have hplace : place = some field := by simpa using List.find?_some hfind
  rw [← hplace]
  exact List.mem_of_find?_eq_some hfind

theorem mem_children_of_mem_parts {tree part : Tree} (h : part ∈ tree.parts) :
    ∃ place, (place, part) ∈ tree.children := by
  obtain ⟨⟨place, part'⟩, hmem, rfl⟩ := List.mem_map.mp (List.mem_filter.mp h).1
  exact ⟨place, hmem⟩

theorem mem_parts_of_mem_partsWithout {tree part : Tree} {field : Field}
    (h : part ∈ tree.partsWithout field) : part ∈ tree.parts :=
  ((List.eraseP_sublist.map Prod.snd).filter isSubstantial).subset h

theorem mem_parts_of_firstPart? {tree part : Tree} (h : tree.firstPart? = some part) :
    part ∈ tree.parts :=
  List.mem_of_head? h

def functionKinds : List Kind :=
  [.functionDeclaration, .generatorFunctionDeclaration, .functionExpression, .generatorFunction,
    .arrowFunction, .methodDefinition]

end Source.Tree

namespace Reading

def namingKinds : List Kind :=
  [.identifier, .thisExpression, .superExpression, .undefinedExpression, .propertyIdentifier,
    .privatePropertyIdentifier, .shorthandPropertyIdentifier]

def literalKinds : List Kind :=
  [.string, .number, .trueLiteral, .falseLiteral, .nullLiteral, .regex]

/-- The expression is a value without parts. -/
inductive IsLiteral : Expr → Prop
  | null : IsLiteral .null
  | string (text : String) : IsLiteral (.string text)
  | number (value : Float) : IsLiteral (.number value)
  | boolean (value : Bool) : IsLiteral (.boolean value)
  | regex (pattern flags : String) : IsLiteral (.regex pattern flags)

theorem IsLiteral.children_eq {expr : Expr} (h : IsLiteral expr) :
    (Node.expr expr).children = [] := by
  cases h <;> rfl

theorem IsLiteral.identName?_eq {expr : Expr} (h : IsLiteral expr) : expr.identName? = none := by
  cases h <;> rfl

inductive StatementForm (tree : Tree) : Prop
  | eval (hkind : tree.kind = .expressionStatement)
      (hread : ∀ r : Reading, r.readStatement tree =
        (tree.firstPart?.map fun inner => Stmt.eval (r.expression inner)).toList)
  | declarators (hkind : tree.kind = .variableDeclaration ∨ tree.kind = .lexicalDeclaration)
      (hread : ∀ r : Reading, r.readStatement tree = r.declarators tree)
  | function (hkind : tree.kind = .functionDeclaration ∨
        tree.kind = .generatorFunctionDeclaration)
      {name : Tree} (hname : tree.child? .name = some name)
      (hread : ∀ r : Reading, r.readStatement tree =
        [.var (r.source.text name) (some (.function (r.function tree)))])
  | ret (hkind : tree.kind = .returnStatement)
      (hread : ∀ r : Reading, r.readStatement tree = [.ret (tree.firstPart?.map r.expression)])
  | branch (hkind : tree.kind = .ifStatement)
      (hread : ∀ r : Reading, r.readStatement tree = [r.branch tree])
  | loop (hkind : tree.kind = .forStatement)
      (hread : ∀ r : Reading, r.readStatement tree = [r.loop tree])
  | each (hkind : tree.kind = .forInStatement)
      (hread : ∀ r : Reading, r.readStatement tree =
        [.forLoop ((tree.child? .left).map r.expression) ((tree.child? .right).map r.expression)
          none (r.body? (tree.child? .body))])
  | whileLoop (hkind : tree.kind = .whileStatement ∨ tree.kind = .doStatement)
      (hread : ∀ r : Reading, r.readStatement tree =
        [.whileLoop (r.requiredCondition tree (tree.child? .condition))
          (r.body? (tree.child? .body))])
  | block (hkind : tree.kind = .statementBlock)
      (hread : ∀ r : Reading, r.readStatement tree = [.block (r.statementsIn tree)])
  | guarded (hkind : tree.kind = .tryStatement)
      (hread : ∀ r : Reading, r.readStatement tree = [r.guarded tree])
  | breakTo (hkind : tree.kind = .breakStatement)
      (hread : ∀ r : Reading, r.readStatement tree =
        [.breakTo ((tree.child? .label).map r.source.text)])
  | continueTo (hkind : tree.kind = .continueStatement)
      (hread : ∀ r : Reading, r.readStatement tree =
        [.continueTo ((tree.child? .label).map r.source.text)])
  | raise (hkind : tree.kind = .throwStatement) {inner : Tree}
      (hinner : tree.firstPart? = some inner)
      (hread : ∀ r : Reading, r.readStatement tree = [.raise (r.expression inner)])
  | switch (hkind : tree.kind = .switchStatement)
      (hread : ∀ r : Reading, r.readStatement tree = [r.switch tree])
  | labeled (hkind : tree.kind = .labeledStatement) {body : Tree}
      (hbody : tree.child? .body = some body)
      (hread : ∀ r : Reading, r.readStatement tree = r.statement body)
  | nothing (hkind : tree.kind = .emptyStatement ∨ tree.kind.isComment ∨
        (tree.kind = .labeledStatement ∧ tree.child? .body = none))
      (hread : ∀ r : Reading, r.readStatement tree = [])
  | unsupported (hread : ∀ r : Reading, r.readStatement tree = [.unsupported tree.kind.label])

theorem statementForm (tree : Tree) : StatementForm tree := by
  cases hkind : tree.kind with
  | expressionStatement => exact .eval hkind fun r => by simp only [readStatement, hkind]
  | variableDeclaration =>
      exact .declarators (.inl hkind) fun r => by simp only [readStatement, hkind]
  | lexicalDeclaration =>
      exact .declarators (.inr hkind) fun r => by simp only [readStatement, hkind]
  | functionDeclaration =>
      cases hname : tree.child? .name with
      | some name =>
          exact .function (.inl hkind) hname fun r => by simp only [readStatement, hkind, hname]
      | none => exact .unsupported fun r => by simp only [readStatement, hkind, hname]
  | generatorFunctionDeclaration =>
      cases hname : tree.child? .name with
      | some name =>
          exact .function (.inr hkind) hname fun r => by simp only [readStatement, hkind, hname]
      | none => exact .unsupported fun r => by simp only [readStatement, hkind, hname]
  | returnStatement => exact .ret hkind fun r => by simp only [readStatement, hkind]
  | ifStatement => exact .branch hkind fun r => by simp only [readStatement, hkind]
  | forStatement => exact .loop hkind fun r => by simp only [readStatement, hkind]
  | forInStatement => exact .each hkind fun r => by simp only [readStatement, hkind]
  | whileStatement => exact .whileLoop (.inl hkind) fun r => by simp only [readStatement, hkind]
  | doStatement => exact .whileLoop (.inr hkind) fun r => by simp only [readStatement, hkind]
  | statementBlock => exact .block hkind fun r => by simp only [readStatement, hkind]
  | tryStatement => exact .guarded hkind fun r => by simp only [readStatement, hkind]
  | breakStatement => exact .breakTo hkind fun r => by simp only [readStatement, hkind]
  | continueStatement => exact .continueTo hkind fun r => by simp only [readStatement, hkind]
  | throwStatement =>
      cases hinner : tree.firstPart? with
      | some inner =>
          exact .raise hkind hinner fun r => by simp only [readStatement, hkind, hinner]
      | none => exact .unsupported fun r => by simp only [readStatement, hkind, hinner]
  | switchStatement => exact .switch hkind fun r => by simp only [readStatement, hkind]
  | labeledStatement =>
      cases hbody : tree.child? .body with
      | some body => exact .labeled hkind hbody fun r => by simp only [readStatement, hkind, hbody]
      | none =>
          exact .nothing (.inr (.inr ⟨hkind, hbody⟩)) fun r => by
            simp only [readStatement, hkind, hbody]
  | emptyStatement => exact .nothing (.inl hkind) fun r => by simp only [readStatement, hkind]
  | comment =>
      exact .nothing (.inr (.inl (by rw [hkind]; rfl))) fun r => by
        simp only [readStatement, hkind]
  | htmlComment =>
      exact .nothing (.inr (.inl (by rw [hkind]; rfl))) fun r => by
        simp only [readStatement, hkind]
  | _ => exact .unsupported fun r => by simp only [readStatement, hkind]

inductive ExpressionForm (tree : Tree) : Prop
  | ident (hkind : tree.kind ∈ namingKinds)
      (hread : ∀ r : Reading, r.readExpression tree = .ident (r.source.text tree))
  | literal (hkind : tree.kind ∈ literalKinds) (value : SourceText → Expr)
      (hvalue : ∀ source, IsLiteral (value source))
      (hread : ∀ r : Reading, r.readExpression tree = value r.source)
  | template (hkind : tree.kind = .templateString)
      (hread : ∀ r : Reading, r.readExpression tree = r.template tree)
  | array (hkind : tree.kind = .array)
      (hread : ∀ r : Reading, r.readExpression tree = .array (tree.parts.map r.expression))
  | object (hkind : tree.kind = .object)
      (hread : ∀ r : Reading, r.readExpression tree = .object (tree.parts.map r.property))
  | function (hkind : tree.kind = .functionExpression ∨ tree.kind = .generatorFunction ∨
        tree.kind = .arrowFunction)
      (hread : ∀ r : Reading, r.readExpression tree = .function (r.function tree))
  | call (hkind : tree.kind = .callExpression)
      (hread : ∀ r : Reading, r.readExpression tree =
        .call (r.required tree (tree.child? .function)) (r.arguments (tree.child? .arguments)))
  | new (hkind : tree.kind = .newExpression)
      (hread : ∀ r : Reading, r.readExpression tree =
        .unary "new" (.call (r.required tree (tree.child? .constructor))
          (r.arguments (tree.child? .arguments))))
  | member (hkind : tree.kind = .memberExpression) {member : Tree}
      (hmember : tree.child? .property = some member)
      (hread : ∀ r : Reading, r.readExpression tree =
        .access (r.required tree (tree.child? .object)) (r.source.text member))
  | subscript (hkind : tree.kind = .subscriptExpression)
      (hread : ∀ r : Reading, r.readExpression tree =
        .index (r.required tree (tree.child? .object)) (r.required tree (tree.child? .index)))
  | binary (hkind : tree.kind = .assignmentExpression ∨
        tree.kind = .augmentedAssignmentExpression ∨ tree.kind = .binaryExpression)
      (op : SourceText → String)
      (hread : ∀ r : Reading, r.readExpression tree =
        .binary (op r.source) (r.required tree (tree.child? .left))
          (r.required tree (tree.child? .right)))
  | unary (hkind : tree.kind = .unaryExpression ∨ tree.kind = .updateExpression)
      (op : SourceText → String)
      (hread : ∀ r : Reading, r.readExpression tree =
        .unary (op r.source) (r.required tree (tree.child? .argument)))
  | await (hkind : tree.kind = .awaitExpression)
      (hread : ∀ r : Reading, r.readExpression tree =
        .unary "await" (r.required tree tree.firstPart?))
  | ternary (hkind : tree.kind = .ternaryExpression)
      (hread : ∀ r : Reading, r.readExpression tree =
        .ternary (r.required tree (tree.child? .condition))
          (r.required tree (tree.child? .consequence))
          (r.required tree (tree.child? .alternative)))
  | paren (hkind : tree.kind = .parenthesizedExpression) {inner : Tree}
      (hinner : tree.firstPart? = some inner)
      (hread : ∀ r : Reading, r.readExpression tree = .paren (r.expression inner))
  | sequence (hkind : tree.kind = .sequenceExpression)
      (hread : ∀ r : Reading, r.readExpression tree = r.sequence tree)
  | unsupported (hread : ∀ r : Reading, r.readExpression tree = .unsupported tree.kind.label)

/-- The text of an optional part depends on the source only. -/
def textIn (tree? : Option Tree) (source : SourceText) : String :=
  match tree? with
  | some tree => source.text tree
  | none => ""

theorem text?_eq (r : Reading) (tree? : Option Tree) : r.text? tree? = textIn tree? r.source := by
  cases tree? <;> rfl

theorem expressionForm (tree : Tree) : ExpressionForm tree := by
  cases hkind : tree.kind with
  | identifier | thisExpression | superExpression | undefinedExpression | propertyIdentifier
  | privatePropertyIdentifier | shorthandPropertyIdentifier =>
      exact .ident (by rw [hkind]; decide) fun r => by simp only [readExpression, hkind]
  | string =>
      exact .literal (by rw [hkind]; decide) (fun source => .string (unquoted (source.text tree)))
        (fun _ => .string _) fun r => by simp only [readExpression, hkind]
  | number =>
      exact .literal (by rw [hkind]; decide)
        (fun source => .number (NumberLiteral.value (source.text tree)))
        (fun _ => .number _) fun r => by simp only [readExpression, hkind]
  | trueLiteral =>
      exact .literal (by rw [hkind]; decide) (fun _ => .boolean true) (fun _ => .boolean _)
        fun r => by simp only [readExpression, hkind]
  | falseLiteral =>
      exact .literal (by rw [hkind]; decide) (fun _ => .boolean false) (fun _ => .boolean _)
        fun r => by simp only [readExpression, hkind]
  | nullLiteral =>
      exact .literal (by rw [hkind]; decide) (fun _ => .null) (fun _ => .null)
        fun r => by simp only [readExpression, hkind]
  | regex =>
      exact .literal (by rw [hkind]; decide)
        (fun source => .regex (textIn (tree.child? .pattern) source)
          (textIn (tree.child? .flags) source))
        (fun _ => .regex _ _) fun r => by simp only [readExpression, hkind, text?_eq]
  | templateString => exact .template hkind fun r => by simp only [readExpression, hkind]
  | array => exact .array hkind fun r => by simp only [readExpression, hkind]
  | object => exact .object hkind fun r => by simp only [readExpression, hkind]
  | functionExpression =>
      exact .function (.inl hkind) fun r => by simp only [readExpression, hkind]
  | generatorFunction =>
      exact .function (.inr (.inl hkind)) fun r => by simp only [readExpression, hkind]
  | arrowFunction =>
      exact .function (.inr (.inr hkind)) fun r => by simp only [readExpression, hkind]
  | callExpression => exact .call hkind fun r => by simp only [readExpression, hkind]
  | newExpression => exact .new hkind fun r => by simp only [readExpression, hkind]
  | memberExpression =>
      cases hmember : tree.child? .property with
      | some member =>
          exact .member hkind hmember fun r => by simp only [readExpression, hkind, hmember]
      | none => exact .unsupported fun r => by simp only [readExpression, hkind, hmember]
  | subscriptExpression => exact .subscript hkind fun r => by simp only [readExpression, hkind]
  | assignmentExpression =>
      exact .binary (.inl hkind) (fun _ => "=") fun r => by simp only [readExpression, hkind]
  | augmentedAssignmentExpression =>
      exact .binary (.inr (.inl hkind)) (textIn (tree.child? .operator)) fun r => by
        simp only [readExpression, hkind, text?_eq]
  | binaryExpression =>
      exact .binary (.inr (.inr hkind)) (textIn (tree.child? .operator)) fun r => by
        simp only [readExpression, hkind, text?_eq]
  | unaryExpression =>
      exact .unary (.inl hkind) (textIn (tree.child? .operator)) fun r => by
        simp only [readExpression, hkind, text?_eq]
  | updateExpression =>
      exact .unary (.inr hkind) (textIn (tree.child? .operator)) fun r => by
        simp only [readExpression, hkind, text?_eq]
  | awaitExpression => exact .await hkind fun r => by simp only [readExpression, hkind]
  | ternaryExpression => exact .ternary hkind fun r => by simp only [readExpression, hkind]
  | parenthesizedExpression =>
      cases hinner : tree.firstPart? with
      | some inner =>
          exact .paren hkind hinner fun r => by simp only [readExpression, hkind, hinner]
      | none => exact .unsupported fun r => by simp only [readExpression, hkind, hinner]
  | sequenceExpression => exact .sequence hkind fun r => by simp only [readExpression, hkind]
  | _ => exact .unsupported fun r => by simp only [readExpression, hkind]

inductive ClauseForm (tree : Tree) : Prop
  | nothing (hkind : tree.kind = .emptyStatement)
      (hread : ∀ r : Reading, r.clause tree = ([], none))
  | statement (hkind : tree.kind = .expressionStatement)
      (hread : ∀ r : Reading, r.clause tree = ([], tree.firstPart?.map r.expression))
  | declarators (hkind : tree.kind = .variableDeclaration ∨ tree.kind = .lexicalDeclaration)
      (hread : ∀ r : Reading, r.clause tree = (r.declarators tree, none))
  | expression (hread : ∀ r : Reading, r.clause tree = ([], some (r.expression tree)))

theorem clauseForm (tree : Tree) : ClauseForm tree := by
  cases hkind : tree.kind with
  | emptyStatement => exact .nothing hkind fun r => by simp only [clause, hkind]
  | expressionStatement => exact .statement hkind fun r => by simp only [clause, hkind]
  | variableDeclaration => exact .declarators (.inl hkind) fun r => by simp only [clause, hkind]
  | lexicalDeclaration => exact .declarators (.inr hkind) fun r => by simp only [clause, hkind]
  | _ => exact .expression fun r => by simp only [clause, hkind]

inductive PropertyForm (tree : Tree) : Prop
  | pair (hkind : tree.kind = .pair)
      (hread : ∀ r : Reading, r.property tree =
        (r.requiredKey tree (tree.child? .key), r.required tree (tree.child? .value)))
  | shorthand (hkind : tree.kind = .shorthandPropertyIdentifier)
      (hread : ∀ r : Reading, r.property tree =
        (.ident (r.source.text tree), .ident (r.source.text tree)))
  | method (hkind : tree.kind = .methodDefinition)
      (hread : ∀ r : Reading, r.property tree =
        (r.requiredKey tree (tree.child? .name), .function (r.function tree)))
  | unsupported (hkind : tree.kind ≠ .pair)
      (hread : ∀ r : Reading, r.property tree = (.unsupported tree.kind.label, .null))

theorem propertyForm (tree : Tree) : PropertyForm tree := by
  cases hkind : tree.kind with
  | pair => exact .pair hkind fun r => by simp only [property, hkind]
  | shorthandPropertyIdentifier => exact .shorthand hkind fun r => by simp only [property, hkind]
  | methodDefinition => exact .method hkind fun r => by simp only [property, hkind]
  | _ => exact .unsupported (by rw [hkind]; nofun) fun r => by simp only [property, hkind]

/-! ## Where the parts of a loop stand -/

def bareLoop (r : Reading) (tree : Tree) : Stmt :=
  .forLoop (r.clause? (tree.child? .initializer)).2 (r.clause? (tree.child? .condition)).2
    ((tree.child? .increment).map r.expression) (r.body? (tree.child? .body))

def hoisted (r : Reading) (tree : Tree) : List Stmt :=
  (r.clause? (tree.child? .initializer)).1 ++ (r.clause? (tree.child? .condition)).1

theorem loop_eq (r : Reading) (tree : Tree) :
    r.loop tree = if (r.hoisted tree).isEmpty then r.bareLoop tree
      else .block (r.hoisted tree ++ [r.bareLoop tree]) := rfl

/-- Whether a loop declares anything is a matter of its tree. -/
theorem isEmpty_hoisted (r other : Reading) (tree : Tree) :
    (r.hoisted tree).isEmpty = (other.hoisted tree).isEmpty := by
  have hclause : ∀ tree? : Option Tree,
      (r.clause? tree?).1 = [] ↔ (other.clause? tree?).1 = [] := by
    intro tree?
    cases tree? with
    | none => exact Iff.rfl
    | some tree =>
        cases clauseForm tree with
        | declarators hkind hread => simp [clause?, hread, declarators]
        | _ => simp_all [clause?]
  rw [Bool.eq_iff_iff, List.isEmpty_iff, List.isEmpty_iff]
  simp only [hoisted, List.append_eq_nil_iff, hclause]

/-! ## Readings by levels -/

/-- The reading of parts with a number of levels left. -/
def within (source : SourceText) (levels : Nat) : Reading :=
  ⟨source, statementsOf source levels, expressionOf source levels⟩

end Reading

end ScriptGraph
