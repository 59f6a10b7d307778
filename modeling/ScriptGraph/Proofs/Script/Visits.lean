import ScriptGraph.Script.Scan

/-!
# The nodes of a script in visiting order

Statements and expressions are the nodes of a script. This module lists them in
the order of a walk, each with its level, and says of a single node which
references it holds and whether a walk can pass it. Nothing here runs a scan.
-/

namespace ScriptGraph

/-! ## Looking through parentheses -/

namespace Expr

def identName? : Expr → Option String
  | .ident name => some name
  | .paren inner => inner.identName?
  | _ => none

def text? : Expr → Option String
  | .string text => some text
  | .paren inner => inner.text?
  | _ => none

def items : Expr → List Expr
  | .array items => items
  | .paren inner => inner.items
  | _ => []

def operand? : Expr → Option Expr
  | .unary _ operand => some operand
  | .paren inner => inner.operand?
  | _ => none

def callee? : Expr → Option Expr
  | .call callee _ => some callee
  | .paren inner => inner.callee?
  | _ => none

end Expr

/-- The name under which a function is declared: neither the wrapper's nor a made-up one. -/
def Func.declared? (func : Func) : Option String :=
  func.name?.filter fun name => name ≠ wrapperName ∧ anonymousMark ∉ name.toList

/-- The reference that a function makes by its own name. -/
def Func.ownReferences (func : Func) : List Reference :=
  func.declared?.toList.map (.mk .declaration)

/-! ## Nodes -/

/-- A statement or an expression. -/
inductive Node where
  | stmt (stmt : Stmt)
  | expr (expr : Expr)

namespace Node

def family : Node → NodeFamily
  | .stmt _ => .statement
  | .expr _ => .expression

/-- The kind of a node without a shape of its own. -/
def unsupportedKind? : Node → Option String
  | .stmt (.unsupported kind) => some kind
  | .expr (.unsupported kind) => some kind
  | _ => none

/-- The nodes right below a node, in the order of a walk. -/
def children : Node → List Node
  | .expr (.object properties) =>
    properties.flatMap fun property => [.expr property.1, .expr property.2]
  | .expr (.call callee args) => .expr callee :: args.map .expr
  | .expr (.access base _) => [.expr base]
  | .expr (.paren inner) => [.expr inner]
  | .expr (.array items) => items.map .expr
  | .expr (.function func) => func.body.map .stmt
  | .expr (.binary _ lhs rhs) => [.expr rhs, .expr lhs]
  | .expr (.unary _ operand) => [.expr operand]
  | .expr (.index base key) => [.expr base, .expr key]
  | .expr (.ternary test yes no) => [.expr test, .expr yes, .expr no]
  | .stmt (.var _ init) => init.toList.map .expr
  | .stmt (.ret value) => value.toList.map .expr
  | .stmt (.branch test pass fail) => .expr test :: (pass ++ fail.getD []).map .stmt
  | .stmt (.forLoop init test step body) =>
    (init.toList ++ (test.toList ++ step.toList)).map .expr ++ body.map .stmt
  | .stmt (.whileLoop test body) => .expr test :: body.map .stmt
  | .stmt (.eval value) => [.expr value]
  | .stmt (.block body) => body.map .stmt
  | .stmt (.tryCatch body handlers final) =>
    (body ++ (handlers.flatten ++ final.getD [])).map .stmt
  | .stmt (.handler _ condition body) => body.map .stmt ++ condition.toList.map .expr
  | .stmt (.raise value) => [.expr value]
  | .stmt (.switchOn subject cases) => .expr subject :: cases.map .stmt
  | .stmt (.caseOf test body) => test.toList.map .expr ++ body.map .stmt
  | _ => []

theorem sizeOf_le_of_mem_stmts {child : Node} {stmts : List Stmt}
    (h : child ∈ stmts.map .stmt) : sizeOf child ≤ sizeOf stmts := by
  obtain ⟨stmt, hstmt, rfl⟩ := List.mem_map.mp h
  have hlt := List.sizeOf_lt_of_mem hstmt
  simp only [Node.stmt.sizeOf_spec]
  omega

theorem sizeOf_le_of_mem_exprs {child : Node} {exprs : List Expr}
    (h : child ∈ exprs.map .expr) : sizeOf child ≤ sizeOf exprs := by
  obtain ⟨expr, hexpr, rfl⟩ := List.mem_map.mp h
  have hlt := List.sizeOf_lt_of_mem hexpr
  simp only [Node.expr.sizeOf_spec]
  omega

theorem sizeOf_le_of_mem_expr? {child : Node} {expr? : Option Expr}
    (h : child ∈ expr?.toList.map .expr) : sizeOf child ≤ sizeOf expr? := by
  cases expr? with
  | none => simp at h
  | some expr =>
      obtain rfl : child = .expr expr := by simpa using h
      simp

theorem sizeOf_le_of_mem_stmts? {child : Node} {stmts? : Option (List Stmt)}
    (h : child ∈ (stmts?.getD []).map .stmt) : sizeOf child ≤ sizeOf stmts? := by
  cases stmts? with
  | none => simp at h
  | some stmts =>
      have hle : sizeOf child ≤ sizeOf stmts := sizeOf_le_of_mem_stmts h
      simp only [Option.some.sizeOf_spec]
      omega

theorem sizeOf_le_of_mem_blocks {child : Node} {blocks : List (List Stmt)}
    (h : child ∈ blocks.flatten.map .stmt) : sizeOf child ≤ sizeOf blocks := by
  obtain ⟨stmt, hstmt, rfl⟩ := List.mem_map.mp h
  obtain ⟨block, hblock, hmem⟩ := List.mem_flatten.mp hstmt
  have hle := sizeOf_le_of_mem_stmts (List.mem_map_of_mem hmem)
  have hlt := List.sizeOf_lt_of_mem hblock
  omega

theorem sizeOf_le_of_mem_properties {child : Node} {properties : List (Expr × Expr)}
    (h : child ∈ properties.flatMap fun property => [.expr property.1, .expr property.2]) :
    sizeOf child ≤ sizeOf properties := by
  obtain ⟨⟨key, value⟩, hproperty, hchild⟩ := List.mem_flatMap.mp h
  have hlt := List.sizeOf_lt_of_mem hproperty
  have hpair : sizeOf (key, value) = 1 + sizeOf key + sizeOf value := by simp
  rcases List.mem_cons.mp hchild with rfl | hchild
  · simp only [Node.expr.sizeOf_spec]
    omega
  · obtain rfl := List.mem_singleton.mp hchild
    simp only [Node.expr.sizeOf_spec]
    omega

theorem sizeOf_le_of_mem_body {child : Node} {func : Func}
    (h : child ∈ func.body.map .stmt) : sizeOf child ≤ sizeOf func := by
  cases func with
  | mk name params body =>
      have hle : sizeOf child ≤ sizeOf body := sizeOf_le_of_mem_stmts h
      simp only [Func.mk.sizeOf_spec]
      omega

theorem sizeOf_lt_of_mem_children {node child : Node} (h : child ∈ node.children) :
    sizeOf child < sizeOf node := by
  cases node with
  | stmt stmt =>
      cases stmt <;>
        simp only [children, List.map_append, List.mem_append, List.mem_cons, List.not_mem_nil,
          or_false] at h <;>
        simp only [Node.stmt.sizeOf_spec, Stmt.var.sizeOf_spec, Stmt.ret.sizeOf_spec,
          Stmt.branch.sizeOf_spec, Stmt.forLoop.sizeOf_spec, Stmt.whileLoop.sizeOf_spec,
          Stmt.eval.sizeOf_spec, Stmt.block.sizeOf_spec, Stmt.tryCatch.sizeOf_spec,
          Stmt.handler.sizeOf_spec, Stmt.raise.sizeOf_spec, Stmt.switchOn.sizeOf_spec,
          Stmt.caseOf.sizeOf_spec] <;>
        grind [→ sizeOf_le_of_mem_stmts, → sizeOf_le_of_mem_stmts?, → sizeOf_le_of_mem_blocks,
          → sizeOf_le_of_mem_expr?, → sizeOf_le_of_mem_exprs, Node.expr.sizeOf_spec]
  | expr expr =>
      cases expr <;>
        simp only [children, List.mem_cons, List.not_mem_nil, or_false] at h <;>
        simp only [Node.expr.sizeOf_spec, Expr.object.sizeOf_spec, Expr.call.sizeOf_spec,
          Expr.access.sizeOf_spec, Expr.paren.sizeOf_spec, Expr.array.sizeOf_spec,
          Expr.function.sizeOf_spec, Expr.binary.sizeOf_spec, Expr.unary.sizeOf_spec,
          Expr.index.sizeOf_spec, Expr.ternary.sizeOf_spec] <;>
        grind [→ sizeOf_le_of_mem_properties, → sizeOf_le_of_mem_exprs, → sizeOf_le_of_mem_body,
          Node.expr.sizeOf_spec]

/-- A node and all nodes below it, each with its level, in the order of a walk. -/
def visits (level : Nat) (node : Node) : List (Nat × Node) :=
  (level, node) :: node.children.attach.flatMap fun ⟨child, _⟩ => child.visits (level + 1)
termination_by sizeOf node
decreasing_by exact sizeOf_lt_of_mem_children (by assumption)

theorem visits_eq (level : Nat) (node : Node) :
    node.visits level =
      (level, node) :: node.children.flatMap fun child => child.visits (level + 1) := by
  rw [visits]
  simp

theorem map_snd_visits_eq (level other : Nat) (node : Node) :
    (node.visits level).map Prod.snd = (node.visits other).map Prod.snd := by
  rw [visits_eq, visits_eq other, List.map_cons, List.map_cons, List.map_flatMap,
    List.map_flatMap, List.flatMap_def, List.flatMap_def]
  congr 2
  apply List.map_congr_left
  intro child hchild
  exact map_snd_visits_eq (level + 1) (other + 1) child
termination_by sizeOf node
decreasing_by exact sizeOf_lt_of_mem_children hchild

def nodes (node : Node) : List Node := (node.visits 0).map Prod.snd

theorem map_snd_visits (level : Nat) (node : Node) :
    (node.visits level).map Prod.snd = node.nodes :=
  map_snd_visits_eq level 0 node

theorem nodes_eq (node : Node) : node.nodes = node :: node.children.flatMap nodes := by
  rw [nodes, visits_eq, List.map_cons, List.map_flatMap]
  simp only [map_snd_visits]

/-! ## What a node tells by itself -/

def func? : Node → Option Func
  | .expr (.function func) => some func
  | _ => none

def invoked? : Node → Option String
  | .expr (.call callee _) => callee.identName?
  | _ => none

/-- The name that a declaration of the sentinel variable extends. -/
def extended? (sentinel : String) : Node → Option String
  | .stmt (.var name (some init)) =>
    if name = sentinel then
      init.operand?.bind fun operand => operand.callee?.bind Expr.identName?
    else none
  | _ => none

/-- The paths that a call of a loader lists: it has two arguments, the first one an array. -/
def requiredPaths (loaders : List String) : Node → List String
  | .expr (.call callee [paths, _]) =>
    match callee.identName? with
    | some loader => if loader ∈ loaders then paths.items.filterMap Expr.text? else []
    | none => []
  | _ => []

/-- The references that a node holds, in the order in which they are noted. -/
def references (options : ScanOptions) (node : Node) : List Reference :=
  node.func?.toList.flatMap Func.ownReferences ++
    (node.extended? options.sentinel).toList.map (.mk .extension) ++
    node.invoked?.toList.map (.mk .invocation) ++
    (node.requiredPaths options.loaders).map fun path => .mk .requirement (Path.moduleName path)

end Node

namespace Func

/-- The nodes of a function's body below a number of open levels, in the order of a walk. -/
def visitsBelow (depth : Nat) (func : Func) : List (Nat × Node) :=
  func.body.flatMap fun stmt => (Node.stmt stmt).visits (depth + 1)

def visits (func : Func) : List (Nat × Node) := func.visitsBelow 0

def nodes (func : Func) : List Node := func.visits.map Prod.snd

theorem nodes_eq (func : Func) :
    func.nodes = func.body.flatMap fun stmt => (Node.stmt stmt).nodes := by
  rw [nodes, visits, visitsBelow, List.map_flatMap]
  simp only [Node.map_snd_visits]

def functions (func : Func) : List Func := func :: func.nodes.filterMap Node.func?

end Func

/-! ## Walking along visits -/

namespace Visit

/-- Why a walk ends at a visit, if it does. The level is looked at first. -/
def stop? (options : ScanOptions) (visit : Nat × Node) : Option ScanError :=
  if options.maxDepth < visit.1 then some (.tooDeep options.maxDepth)
  else visit.2.unsupportedKind?.map (.unsupported visit.2.family)

/-- How a walk along visits ends. -/
def outcome (options : ScanOptions) (visits : List (Nat × Node)) : Except ScanError Unit :=
  match visits.findSome? (stop? options) with
  | some error => .error error
  | none => .ok ()

/-- The references of the visits before the one at which a walk ends. -/
def noted (options : ScanOptions) (visits : List (Nat × Node)) : List Reference :=
  (visits.takeWhile fun visit => (stop? options visit).isNone).flatMap
    fun visit => visit.2.references options

theorem outcome_cons_of_stop {options : ScanOptions} {visit : Nat × Node} {error : ScanError}
    (h : stop? options visit = some error) (rest : List (Nat × Node)) :
    outcome options (visit :: rest) = .error error := by
  simp [outcome, h]

theorem noted_cons_of_stop {options : ScanOptions} {visit : Nat × Node} {error : ScanError}
    (h : stop? options visit = some error) (rest : List (Nat × Node)) :
    noted options (visit :: rest) = [] := by
  simp [noted, h]

theorem outcome_cons_of_pass {options : ScanOptions} {visit : Nat × Node}
    (h : stop? options visit = none) (rest : List (Nat × Node)) :
    outcome options (visit :: rest) = outcome options rest := by
  simp [outcome, h]

theorem noted_cons_of_pass {options : ScanOptions} {visit : Nat × Node}
    (h : stop? options visit = none) (rest : List (Nat × Node)) :
    noted options (visit :: rest) = visit.2.references options ++ noted options rest := by
  simp [noted, h]

/-- A walk along two lists goes on to the second only if it passes the first. -/
theorem walk_append (options : ScanOptions) (first second : List (Nat × Node)) :
    (outcome options first = .ok () ∧
      outcome options (first ++ second) = outcome options second ∧
      noted options (first ++ second) = noted options first ++ noted options second) ∨
    (∃ error, outcome options first = .error error ∧
      outcome options (first ++ second) = .error error ∧
      noted options (first ++ second) = noted options first) := by
  induction first with
  | nil => exact .inl ⟨rfl, rfl, rfl⟩
  | cons visit first ih =>
      rw [List.cons_append]
      cases h : stop? options visit with
      | some error =>
          refine .inr ⟨error, outcome_cons_of_stop h _, outcome_cons_of_stop h _, ?_⟩
          rw [noted_cons_of_stop h, noted_cons_of_stop h]
      | none =>
          simp only [outcome_cons_of_pass h, noted_cons_of_pass h]
          rcases ih with ⟨hok, houtcome, hnoted⟩ | ⟨error, herror, houtcome, hnoted⟩
          · refine .inl ⟨hok, houtcome, ?_⟩
            rw [hnoted, List.append_assoc]
          · refine .inr ⟨error, herror, houtcome, ?_⟩
            rw [hnoted]

/-- The visit is neither too deep nor to an unsupported node. -/
def Passes (options : ScanOptions) (visit : Nat × Node) : Prop :=
  visit.1 ≤ options.maxDepth ∧ visit.2.unsupportedKind? = none

theorem stop?_eq_none_iff {options : ScanOptions} {visit : Nat × Node} :
    stop? options visit = none ↔ Passes options visit := by
  unfold stop? Passes
  by_cases h : options.maxDepth < visit.1
  · rw [if_pos h]
    constructor
    · intro hnone
      cases hnone
    · intro hpass
      exact absurd hpass.1 (Nat.not_le.mpr h)
  · rw [if_neg h, Option.map_eq_none_iff]
    exact ⟨fun hkind => ⟨by omega, hkind⟩, fun hpass => hpass.2⟩

/-- Of the two reasons to end a walk at a visit, depth comes first. -/
theorem stop?_eq_some {options : ScanOptions} {visit : Nat × Node} {error : ScanError}
    (h : stop? options visit = some error) :
    (options.maxDepth < visit.1 ∧ error = .tooDeep options.maxDepth) ∨
      (visit.1 ≤ options.maxDepth ∧ ∃ kind, visit.2.unsupportedKind? = some kind ∧
        error = .unsupported visit.2.family kind) := by
  unfold stop? at h
  by_cases hlevel : options.maxDepth < visit.1
  · rw [if_pos hlevel] at h
    exact .inl ⟨hlevel, (Option.some.inj h).symm⟩
  · rw [if_neg hlevel, Option.map_eq_some_iff] at h
    obtain ⟨kind, hkind, herror⟩ := h
    exact .inr ⟨by omega, kind, hkind, herror.symm⟩

theorem outcome_eq_ok_iff {options : ScanOptions} {visits : List (Nat × Node)} :
    outcome options visits = .ok () ↔ ∀ visit ∈ visits, Passes options visit := by
  simp only [← stop?_eq_none_iff, ← List.findSome?_eq_none_iff, outcome]
  split <;> simp_all

theorem noted_of_passes {options : ScanOptions} {visits : List (Nat × Node)}
    (h : ∀ visit ∈ visits, Passes options visit) :
    noted options visits = visits.flatMap fun visit => visit.2.references options := by
  induction visits with
  | nil => rfl
  | cons visit visits ih =>
      have hvisit := stop?_eq_none_iff.mpr (h visit (by simp))
      rw [noted_cons_of_pass hvisit, ih fun other hother => h other (by simp [hother])]
      rfl

/-- A walk that does not pass all visits ends at the first one that it does not pass. -/
theorem exists_first_stop {options : ScanOptions} {visits : List (Nat × Node)}
    (h : ¬∀ visit ∈ visits, Passes options visit) :
    ∃ before visit after error, visits = before ++ visit :: after ∧
      (∀ earlier ∈ before, Passes options earlier) ∧ stop? options visit = some error ∧
      outcome options visits = .error error ∧
      noted options visits = before.flatMap fun visit => visit.2.references options := by
  induction visits with
  | nil => simp at h
  | cons visit visits ih =>
      cases hstop : stop? options visit with
      | some error =>
          refine ⟨[], visit, visits, error, rfl, by simp, hstop, ?_, ?_⟩
          · exact outcome_cons_of_stop hstop visits
          · exact noted_cons_of_stop hstop visits
      | none =>
          have hpass := stop?_eq_none_iff.mp hstop
          have hrest : ¬∀ other ∈ visits, Passes options other := by
            intro hall
            apply h
            intro other hother
            rcases List.mem_cons.mp hother with rfl | hother
            · exact hpass
            · exact hall other hother
          obtain ⟨before, first, after, error, rfl, hbefore, hfirst, houtcome, hnoted⟩ := ih hrest
          refine ⟨visit :: before, first, after, error, rfl, ?_, hfirst, ?_, ?_⟩
          · intro earlier hearlier
            rcases List.mem_cons.mp hearlier with rfl | hearlier
            · exact hpass
            · exact hbefore earlier hearlier
          · rw [outcome_cons_of_pass hstop, houtcome]
          · rw [noted_cons_of_pass hstop, hnoted]
            rfl

/-- A walk that may go deeper notes at least as much, in the same order. -/
theorem noted_prefix_of_le {options : ScanOptions} {bound : Nat} (h : options.maxDepth ≤ bound)
    (visits : List (Nat × Node)) :
    noted options visits <+: noted { options with maxDepth := bound } visits := by
  induction visits with
  | nil => exact List.prefix_refl _
  | cons visit visits ih =>
      cases hstop : stop? options visit with
      | some error =>
          rw [noted_cons_of_stop hstop]
          exact List.nil_prefix
      | none =>
          have hpass := stop?_eq_none_iff.mp hstop
          have hdeeper : stop? { options with maxDepth := bound } visit = none :=
            stop?_eq_none_iff.mpr ⟨Nat.le_trans hpass.1 h, hpass.2⟩
          rw [noted_cons_of_pass hstop, noted_cons_of_pass hdeeper]
          exact (List.prefix_append_right_inj _).mpr ih

end Visit

end ScriptGraph
