import ScriptGraph.Proofs.Script.Outcome

/-!
# Scripts without their parentheses

Parentheses tell nothing, and every test on a node looks through them. Taking
all of them away therefore leaves out visits that note nothing and lifts what
was within them to a smaller level: a scan that is not stopped for its depth
ends as before and notes the same references in the same order.
-/

namespace ScriptGraph

/-! ## Taking parentheses away -/

mutual

/-- The expression without the parentheses around it and within it. -/
def Expr.stripped : Expr → Expr
  | .paren inner => inner.stripped
  | .object properties => .object (strippedProperties properties)
  | .call callee args => .call callee.stripped (strippedExprs args)
  | .access base member => .access base.stripped member
  | .array items => .array (strippedExprs items)
  | .function func => .function func.stripped
  | .binary op lhs rhs => .binary op lhs.stripped rhs.stripped
  | .unary op operand => .unary op operand.stripped
  | .index base key => .index base.stripped key.stripped
  | .ternary test yes no => .ternary test.stripped yes.stripped no.stripped
  | expr => expr

def strippedExprs : List Expr → List Expr
  | [] => []
  | expr :: rest => expr.stripped :: strippedExprs rest

def strippedProperties : List (Expr × Expr) → List (Expr × Expr)
  | [] => []
  | (key, value) :: rest => (key.stripped, value.stripped) :: strippedProperties rest

def strippedExpr? : Option Expr → Option Expr
  | none => none
  | some expr => some expr.stripped

/-- The statement without the parentheses within it. -/
def Stmt.stripped : Stmt → Stmt
  | .var name init => .var name (strippedExpr? init)
  | .ret value => .ret (strippedExpr? value)
  | .branch test pass fail => .branch test.stripped (strippedBlock pass) (strippedBlock? fail)
  | .forLoop init test step body =>
    .forLoop (strippedExpr? init) (strippedExpr? test) (strippedExpr? step) (strippedBlock body)
  | .whileLoop test body => .whileLoop test.stripped (strippedBlock body)
  | .eval expr => .eval expr.stripped
  | .block body => .block (strippedBlock body)
  | .tryCatch body handlers final =>
    .tryCatch (strippedBlock body) (strippedBlocks handlers) (strippedBlock? final)
  | .handler exception condition body =>
    .handler exception (strippedExpr? condition) (strippedBlock body)
  | .raise value => .raise value.stripped
  | .switchOn subject cases => .switchOn subject.stripped (strippedBlock cases)
  | .caseOf test body => .caseOf (strippedExpr? test) (strippedBlock body)
  | stmt => stmt

def strippedBlock : List Stmt → List Stmt
  | [] => []
  | stmt :: rest => stmt.stripped :: strippedBlock rest

def strippedBlock? : Option (List Stmt) → Option (List Stmt)
  | none => none
  | some block => some (strippedBlock block)

def strippedBlocks : List (List Stmt) → List (List Stmt)
  | [] => []
  | block :: rest => strippedBlock block :: strippedBlocks rest

def Func.stripped : Func → Func
  | .mk name params body => .mk name params (strippedBlock body)

end

theorem strippedExprs_eq (exprs : List Expr) : strippedExprs exprs = exprs.map Expr.stripped := by
  induction exprs with
  | nil => rfl
  | cons expr rest ih => rw [strippedExprs, ih, List.map_cons]

theorem strippedProperties_eq (properties : List (Expr × Expr)) :
    strippedProperties properties =
      properties.map fun property => (property.1.stripped, property.2.stripped) := by
  induction properties with
  | nil => rfl
  | cons property rest ih => rw [strippedProperties, ih, List.map_cons]

theorem strippedExpr?_eq (expr? : Option Expr) :
    strippedExpr? expr? = expr?.map Expr.stripped := by
  cases expr? <;> rfl

theorem strippedBlock_eq (block : List Stmt) : strippedBlock block = block.map Stmt.stripped := by
  induction block with
  | nil => rfl
  | cons stmt rest ih => rw [strippedBlock, ih, List.map_cons]

theorem getD_strippedBlock? (block? : Option (List Stmt)) :
    (strippedBlock? block?).getD [] = (block?.getD []).map Stmt.stripped := by
  cases block? with
  | none => rfl
  | some block => exact strippedBlock_eq block

theorem flatten_strippedBlocks (blocks : List (List Stmt)) :
    (strippedBlocks blocks).flatten = blocks.flatten.map Stmt.stripped := by
  induction blocks with
  | nil => rfl
  | cons block rest ih =>
      rw [strippedBlocks, List.flatten_cons, ih, strippedBlock_eq, List.flatten_cons,
        List.map_append]

namespace Func

theorem name?_stripped (func : Func) : func.stripped.name? = func.name? := by
  cases func
  rfl

theorem body_stripped (func : Func) : func.stripped.body = func.body.map Stmt.stripped := by
  cases func with
  | mk name params body => exact strippedBlock_eq body

theorem ownReferences_stripped (func : Func) :
    func.stripped.ownReferences = func.ownReferences := by
  unfold ownReferences declared?
  rw [name?_stripped]

end Func

/-! ## What looks through parentheses -/

namespace Expr

/-- What looks through parentheses sees in a stripped expression what it saw before, stripped. -/
theorem apply_stripped {α : Type} {f : Expr → α} (strip : α → α)
    (hparen : ∀ inner, f (.paren inner) = f inner)
    (hother : ∀ expr, (∀ inner, expr ≠ .paren inner) → f expr.stripped = strip (f expr))
    (expr : Expr) : f expr.stripped = strip (f expr) := by
  fun_induction bare expr with
  | case1 inner ih =>
      rw [hparen, ← ih]
      rfl
  | case2 expr h => exact hother expr h

theorem identName?_stripped (expr : Expr) : expr.stripped.identName? = expr.identName? := by
  refine apply_stripped id (fun _ => rfl) (fun expr h => ?_) expr
  cases expr with
  | paren inner => exact absurd rfl (h inner)
  | _ => rfl

theorem text?_stripped (expr : Expr) : expr.stripped.text? = expr.text? := by
  refine apply_stripped id (fun _ => rfl) (fun expr h => ?_) expr
  cases expr with
  | paren inner => exact absurd rfl (h inner)
  | _ => rfl

theorem items_stripped (expr : Expr) : expr.stripped.items = expr.items.map stripped := by
  refine apply_stripped _ (fun _ => rfl) (fun expr h => ?_) expr
  cases expr with
  | paren inner => exact absurd rfl (h inner)
  | array items => exact strippedExprs_eq items
  | _ => rfl

theorem operand?_stripped (expr : Expr) : expr.stripped.operand? = expr.operand?.map stripped := by
  refine apply_stripped _ (fun _ => rfl) (fun expr h => ?_) expr
  cases expr with
  | paren inner => exact absurd rfl (h inner)
  | _ => rfl

theorem callee?_stripped (expr : Expr) : expr.stripped.callee? = expr.callee?.map stripped := by
  refine apply_stripped _ (fun _ => rfl) (fun expr h => ?_) expr
  cases expr with
  | paren inner => exact absurd rfl (h inner)
  | _ => rfl

theorem filterMap_text?_items_stripped (expr : Expr) :
    expr.stripped.items.filterMap text? = expr.items.filterMap text? := by
  rw [items_stripped, List.filterMap_map]
  congr 1
  exact funext text?_stripped

theorem stripped_ne_paren (expr inner : Expr) : expr.stripped ≠ .paren inner := by
  fun_induction bare expr with
  | case1 _ ih => exact ih
  | case2 expr h =>
      cases expr with
      | paren inner => exact absurd rfl (h inner)
      | _ =>
          intro heq
          cases heq

end Expr

/-! ## Nodes -/

namespace Node

def stripped : Node → Node
  | .stmt statement => .stmt statement.stripped
  | .expr expression => .expr expression.stripped

def isParen : Node → Bool
  | .expr (.paren _) => true
  | _ => false

theorem isParen_stripped (node : Node) : node.stripped.isParen = false := by
  cases node with
  | stmt stmt => rfl
  | expr expr =>
      have hparen := expr.stripped_ne_paren
      change (Node.expr expr.stripped).isParen = false
      cases h : expr.stripped with
      | paren inner => exact absurd h (hparen inner)
      | _ => rfl

variable {node : Node}

theorem children_stripped (h : node.isParen = false) :
    node.stripped.children = node.children.map stripped := by
  cases node with
  | stmt stmt =>
      cases stmt <;>
        simp [stripped, Stmt.stripped, children, strippedExpr?_eq, strippedBlock_eq,
          getD_strippedBlock?, flatten_strippedBlocks, Function.comp_def, Option.toList_map]
  | expr expr =>
      cases expr with
      | paren inner => cases h
      | function func => simp [stripped, Expr.stripped, children, Func.body_stripped]
      | object properties =>
          simp [stripped, Expr.stripped, children, strippedProperties_eq, List.map_flatMap,
            List.flatMap_map]
      | _ => simp [stripped, Expr.stripped, children, strippedExprs_eq]

theorem family_stripped (node : Node) : node.stripped.family = node.family := by
  cases node <;> rfl

theorem unsupportedKind?_stripped (h : node.isParen = false) :
    node.stripped.unsupportedKind? = node.unsupportedKind? := by
  cases node with
  | stmt stmt => cases stmt <;> rfl
  | expr expr =>
      cases expr with
      | paren inner => cases h
      | _ => rfl

theorem func?_stripped (h : node.isParen = false) :
    node.stripped.func? = node.func?.map Func.stripped := by
  cases node with
  | stmt stmt => rfl
  | expr expr =>
      cases expr with
      | paren inner => cases h
      | _ => rfl

theorem invoked?_stripped (h : node.isParen = false) :
    node.stripped.invoked? = node.invoked? := by
  cases node with
  | stmt stmt => rfl
  | expr expr =>
      cases expr with
      | paren inner => cases h
      | call callee args => exact callee.identName?_stripped
      | _ => rfl

theorem extended?_stripped (h : node.isParen = false) (sentinel : String) :
    node.stripped.extended? sentinel = node.extended? sentinel := by
  cases node with
  | stmt stmt =>
      cases stmt with
      | var name init =>
          cases init with
          | none => rfl
          | some init =>
              simp only [stripped, Stmt.stripped, strippedExpr?, extended?,
                Expr.operand?_stripped, Option.bind_map, Function.comp_def,
                Expr.callee?_stripped, Expr.identName?_stripped]
      | _ => rfl
  | expr expr =>
      cases expr with
      | paren inner => cases h
      | _ => rfl

theorem requiredPaths_stripped (h : node.isParen = false) (loaders : List String) :
    node.stripped.requiredPaths loaders = node.requiredPaths loaders := by
  cases node with
  | stmt stmt => rfl
  | expr expr =>
      cases expr with
      | paren inner => cases h
      | call callee args =>
          -- Only a call with two arguments can list paths.
          match args with
          | [paths, last] =>
              simp only [stripped, Expr.stripped, strippedExprs, requiredPaths,
                Expr.identName?_stripped, Expr.filterMap_text?_items_stripped]
          | [] => rfl
          | [_] => rfl
          | _ :: _ :: _ :: _ => rfl
      | _ => rfl

theorem exists_of_isParen (h : node.isParen = true) : ∃ inner, node = .expr (.paren inner) := by
  cases node with
  | stmt statement => cases h
  | expr expression =>
      cases expression with
      | paren inner => exact ⟨inner, rfl⟩
      | _ => cases h

theorem references_paren (h : node.isParen = true) (options : ScanOptions) :
    node.references options = [] := by
  obtain ⟨inner, rfl⟩ := exists_of_isParen h
  rfl

/-- A node other than parentheses tells the same without the parentheses within it. -/
theorem references_stripped (h : node.isParen = false) (options : ScanOptions) :
    node.stripped.references options = node.references options := by
  have hown : (node.func?.map Func.stripped).toList.flatMap Func.ownReferences =
      node.func?.toList.flatMap Func.ownReferences := by
    cases node.func? with
    | none => rfl
    | some func => simp [Func.ownReferences_stripped]
  unfold references
  rw [func?_stripped h, hown, extended?_stripped h, invoked?_stripped h, requiredPaths_stripped h]

end Node

/-! ## Visits -/

namespace Visit

/-- The second visits are the first ones without those of parentheses, each to the stripped node
and none of them deeper than before. -/
inductive Thinned : List (Nat × Node) → List (Nat × Node) → Prop
  | nil : Thinned [] []
  | paren {level : Nat} {node : Node} {rest others : List (Nat × Node)}
      (hnode : node.isParen = true) (hrest : Thinned rest others) :
      Thinned ((level, node) :: rest) others
  | node {level lifted : Nat} {node : Node} {rest others : List (Nat × Node)}
      (hnode : node.isParen = false) (hlevel : lifted ≤ level) (hrest : Thinned rest others) :
      Thinned ((level, node) :: rest) ((lifted, node.stripped) :: others)

/-- A walk along visits within the bound does not end for their depth. -/
theorem outcome_ne_tooDeep {options : ScanOptions} {visits : List (Nat × Node)}
    (h : ∀ visit ∈ visits, visit.1 ≤ options.maxDepth) (limit : Nat) :
    outcome options visits ≠ .error (.tooDeep limit) := by
  intro herror
  by_cases hall : ∀ visit ∈ visits, Passes options visit
  · rw [outcome_eq_ok_iff.mpr hall] at herror
    cases herror
  · obtain ⟨before, visit, after, error, rfl, -, hstop, houtcome, -⟩ := exists_first_stop hall
    rw [houtcome] at herror
    rcases stop?_eq_some hstop with ⟨hlevel, -⟩ | ⟨-, kind, -, rfl⟩
    · have hle := h visit (by simp)
      omega
    · cases herror

/-- Parentheses end a walk for their depth only. -/
theorem stop?_paren {options : ScanOptions} {level : Nat} {node : Node} {error : ScanError}
    (hnode : node.isParen = true) (h : stop? options (level, node) = some error) :
    error = .tooDeep options.maxDepth := by
  obtain ⟨inner, rfl⟩ := Node.exists_of_isParen hnode
  rcases stop?_eq_some h with ⟨-, herror⟩ | ⟨-, kind, hkind, -⟩
  · exact herror
  · cases hkind

/-- A node that is not too deep stops a walk, or lets it pass, without its parentheses too. -/
theorem stop?_stripped {options : ScanOptions} {level lifted : Nat} {node : Node}
    (hnode : node.isParen = false) (hlevel : lifted ≤ level)
    (h : stop? options (level, node) ≠ some (.tooDeep options.maxDepth)) :
    stop? options (lifted, node.stripped) = stop? options (level, node) := by
  unfold stop? at h ⊢
  by_cases hdeep : options.maxDepth < level
  · rw [if_pos hdeep] at h
    exact absurd rfl h
  · rw [if_neg hdeep, if_neg (by omega), Node.unsupportedKind?_stripped hnode,
      Node.family_stripped]

namespace Thinned

variable {visits others : List (Nat × Node)} {options : ScanOptions}

theorem append {more othersMore : List (Nat × Node)} (h : Thinned visits others)
    (hmore : Thinned more othersMore) : Thinned (visits ++ more) (others ++ othersMore) := by
  induction h with
  | nil => exact hmore
  | paren hnode _ ih => exact .paren hnode ih
  | node hnode hlevel _ ih => exact .node hnode hlevel ih

theorem flatMap {nodes : List Node} {level lifted : Nat}
    (h : ∀ node ∈ nodes, Thinned (node.visits level) (node.stripped.visits lifted)) :
    Thinned (nodes.flatMap (·.visits level))
      ((nodes.map Node.stripped).flatMap (·.visits lifted)) := by
  induction nodes with
  | nil => exact .nil
  | cons node nodes ih =>
      rw [List.map_cons, List.flatMap_cons, List.flatMap_cons]
      exact (h node List.mem_cons_self).append
        (ih fun other hother => h other (List.mem_cons_of_mem node hother))

/-- All that is left out are parentheses. -/
theorem map_snd_eq (h : Thinned visits others) :
    others.map Prod.snd =
      ((visits.map Prod.snd).filter (!·.isParen)).map Node.stripped := by
  induction h with
  | nil => rfl
  | paren hnode _ ih => simp [hnode, ih]
  | node hnode _ _ ih => simp [hnode, ih]

/-- A walk that is not stopped for its depth goes the same way along thinned visits. -/
theorem walk_eq (h : Thinned visits others)
    (hdepth : outcome options visits ≠ .error (.tooDeep options.maxDepth)) :
    outcome options others = outcome options visits ∧
      noted options others = noted options visits := by
  induction h with
  | nil => exact ⟨rfl, rfl⟩
  | @paren level node rest others hnode _ ih =>
      cases hstop : stop? options (level, node) with
      | some error =>
          rw [outcome_cons_of_stop hstop] at hdepth
          rw [stop?_paren hnode hstop] at hdepth
          exact absurd rfl hdepth
      | none =>
          rw [outcome_cons_of_pass hstop] at hdepth ⊢
          rw [noted_cons_of_pass hstop, Node.references_paren hnode, List.nil_append]
          exact ih hdepth
  | @node level lifted node rest others hnode hlevel _ ih =>
      have hsame : stop? options (lifted, node.stripped) = stop? options (level, node) := by
        apply stop?_stripped hnode hlevel
        intro hstop
        exact hdepth (outcome_cons_of_stop hstop rest)
      cases hstop : stop? options (level, node) with
      | some error =>
          rw [hstop] at hsame
          rw [outcome_cons_of_stop hstop, outcome_cons_of_stop hsame, noted_cons_of_stop hstop,
            noted_cons_of_stop hsame]
          exact ⟨rfl, rfl⟩
      | none =>
          rw [hstop] at hsame
          rw [outcome_cons_of_pass hstop] at hdepth
          rw [outcome_cons_of_pass hstop, outcome_cons_of_pass hsame, noted_cons_of_pass hstop,
            noted_cons_of_pass hsame, Node.references_stripped hnode, (ih hdepth).2]
          exact ⟨(ih hdepth).1, rfl⟩

end Thinned

end Visit

/-- The visits of a stripped node, started no deeper, are the visits of the node, thinned. -/
theorem Node.thinned_visits (node : Node) {level lifted : Nat} (h : lifted ≤ level) :
    Visit.Thinned (node.visits level) (node.stripped.visits lifted) := by
  cases hnode : node.isParen with
  | true =>
      obtain ⟨inner, heq⟩ := exists_of_isParen hnode
      have hchild : Node.expr inner ∈ node.children := by simp [heq, children]
      -- What stands in parentheses takes their place, one level above its own.
      have hinner := thinned_visits (.expr inner) (Nat.le_succ_of_le h)
      rw [heq] at hnode ⊢
      rw [visits_eq, children, List.flatMap_singleton]
      exact .paren hnode hinner
  | false =>
      rw [visits_eq, visits_eq lifted, children_stripped hnode]
      refine .node hnode h (.flatMap fun child hchild => ?_)
      exact thinned_visits child (Nat.succ_le_succ h)
termination_by sizeOf node
decreasing_by all_goals exact sizeOf_lt_of_mem_children hchild

namespace Func

variable {options : ScanOptions}

theorem thinned_visits (func : Func) : Visit.Thinned func.visits func.stripped.visits := by
  have hbody : Visit.Thinned ((func.body.map Node.stmt).flatMap (·.visits 1))
      (((func.body.map Node.stmt).map Node.stripped).flatMap (·.visits 1)) :=
    .flatMap fun node _ => node.thinned_visits (Nat.le_refl 1)
  rw [List.map_map, List.flatMap_map, List.flatMap_map] at hbody
  unfold visits visitsBelow
  rw [body_stripped, List.flatMap_map]
  exact hbody

theorem nodes_stripped (func : Func) :
    func.stripped.nodes = (func.nodes.filter (!·.isParen)).map Node.stripped :=
  func.thinned_visits.map_snd_eq

theorem isParen_of_mem_nodes_stripped {func : Func} {node : Node}
    (h : node ∈ func.stripped.nodes) : node.isParen = false := by
  rw [nodes_stripped] at h
  obtain ⟨whole, -, rfl⟩ := List.mem_map.mp h
  exact whole.isParen_stripped

/-- A script that is not too deep yields the same without its parentheses. -/
theorem references_stripped {func : Func}
    (h : (func.references options).result ≠ .error (.tooDeep options.maxDepth)) :
    func.stripped.references options = func.references options := by
  rw [result_references] at h
  obtain ⟨houtcome, hnoted⟩ := func.thinned_visits.walk_eq h
  have hresult : (func.stripped.references options).result = (func.references options).result := by
    rw [result_references, result_references, houtcome]
  have hreferences : (func.stripped.references options).references =
      (func.references options).references := by
    rw [← Array.toList_inj, toList_references, toList_references, hnoted, ownReferences_stripped]
  calc func.stripped.references options
    _ = ⟨(func.stripped.references options).result,
          (func.stripped.references options).references⟩ := rfl
    _ = ⟨(func.references options).result, (func.references options).references⟩ := by
        rw [hresult, hreferences]

end Func

namespace Graph

theorem scan_stripped_eq (graph : Graph) (path : String) {options : ScanOptions} {func : Func}
    (h : (graph.scan path options func).1.result ≠ .error (.tooDeep options.maxDepth)) :
    graph.scan path options func.stripped = graph.scan path options func := by
  unfold scan
  rw [Func.references_stripped h]

/-- Parentheses are transparent. Within the bound, a script ends as it does without them, well or
at the same unsupported node, and leaves the same graph; and a script that ends well at all ends
well without them, again with the same graph. Taking them away takes away no other node. -/
theorem scan_transparent_to_parens (graph : Graph) (path : String) (options : ScanOptions)
    (func : Func) :
    func.stripped.nodes = (func.nodes.filter (!·.isParen)).map Node.stripped ∧
    (∀ node ∈ func.stripped.nodes, node.isParen = false) ∧
    ((∀ visit ∈ func.visits, visit.1 ≤ options.maxDepth) →
      (∀ limit, (graph.scan path options func).1.result ≠ .error (.tooDeep limit)) ∧
      (graph.scan path options func.stripped).1.result =
        (graph.scan path options func).1.result ∧
      (graph.scan path options func.stripped).2 = (graph.scan path options func).2) ∧
    ((graph.scan path options func).1.result = .ok () →
      (graph.scan path options func.stripped).1.result = .ok () ∧
      (graph.scan path options func.stripped).2 = (graph.scan path options func).2) := by
  refine ⟨func.nodes_stripped, fun _ => Func.isParen_of_mem_nodes_stripped, ?_, ?_⟩
  · intro hlevels
    have hdepth : ∀ limit, (graph.scan path options func).1.result ≠ .error (.tooDeep limit) := by
      rw [result_scan]
      exact Visit.outcome_ne_tooDeep hlevels
    rw [scan_stripped_eq graph path (hdepth options.maxDepth)]
    exact ⟨hdepth, rfl, rfl⟩
  · intro hok
    have hdepth : (graph.scan path options func).1.result ≠ .error (.tooDeep options.maxDepth) := by
      rw [hok]
      exact fun heq => nomatch heq
    rw [scan_stripped_eq graph path hdepth]
    exact ⟨hok, rfl⟩

/-- Parentheses at every place that a test looks at: around an initialiser, an operand, a callee,
an array of paths and its items. -/
def wrapped : Func :=
  .wrapper [
    .var "self" (some (.paren (.unary "new" (.paren (.call (.paren (.ident "Base")) []))))),
    .eval (.call (.paren (.paren (.ident "require"))) [
      .paren (.array [.paren (.string "./a.js"), .string "b"]),
      .paren (.function (.mk (some "ready") [] [.ret (some (.paren (.ident "c")))]))])]

theorem scan_wrapped_transparent_to_parens :
    (∀ visit ∈ wrapped.visits, visit.1 ≤ ScanOptions.standard.maxDepth) ∧
    (empty.scan "main.js" .standard wrapped).1.result = .ok () ∧
    (empty.scan "main.js" .standard wrapped.stripped).1.result = .ok () ∧
    (empty.scan "main.js" .standard wrapped.stripped).2.namedEdges = [
      ⟨"main", "Base", .extension⟩, ⟨"main", "Base", .invocation⟩,
      ⟨"main", "require", .invocation⟩, ⟨"main", "a", .requirement⟩, ⟨"main", "b", .requirement⟩,
      ⟨"main", "ready", .declaration⟩] := by
  have hok : (empty.scan "main.js" .standard wrapped).1.result = .ok () := by decide +kernel
  have hlevels : ∀ visit ∈ wrapped.visits, visit.1 ≤ ScanOptions.standard.maxDepth := by
    rw [result_scan] at hok
    intro visit hvisit
    exact (Visit.outcome_eq_ok_iff.mp hok visit hvisit).1
  obtain ⟨-, -, hwithin, hwell⟩ := scan_transparent_to_parens empty "main.js" .standard wrapped
  refine ⟨hlevels, hok, (hwell hok).1, ?_⟩
  rw [(hwithin hlevels).2.2]
  decide +kernel

end Graph

end ScriptGraph
