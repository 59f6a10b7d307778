import ScriptGraph.Proofs.Reading.Forms
import ScriptGraph.Proofs.Script.Outcome
import ScriptGraph.Proofs.Script.Pruning

/-!
# What a nesting bound decides

Readings that differ only in how many levels are left give scripts that differ
only by marks. One lemma for each part of a reading says that it carries this
over from the parts of a node to the node; induction on the levels then relates
the scripts that two bounds give. So a bound decides whether a scan of a source
completes, and not what a completed scan yields.
-/

namespace ScriptGraph

open Source

/-! ## Building pruned lists -/

theorem BlockPruned.append : ∀ {block whole more others : List Stmt}, BlockPruned block whole →
    BlockPruned more others → BlockPruned (block ++ more) (whole ++ others)
  | _, _, _, _, .nil, hmore => hmore
  | _, _, _, _, .cons hother hothers, hmore => .cons hother (hothers.append hmore)
  | _, _, _, _, .cut meant hothers, hmore => by
      rw [List.append_assoc]
      exact .cut meant (hothers.append hmore)

theorem BlockPruned.map {α : Type} {first second : α → Stmt}
    (h : ∀ item, (first item).Pruned (second item)) (items : List α) :
    BlockPruned (items.map first) (items.map second) := by
  induction items with
  | nil => exact .nil
  | cons item items ih => exact .cons (h item) ih

theorem BlockPruned.flatMap {α : Type} {first second : α → List Stmt}
    (h : ∀ item, BlockPruned (first item) (second item)) (items : List α) :
    BlockPruned (items.flatMap first) (items.flatMap second) := by
  induction items with
  | nil => exact .nil
  | cons item items ih => exact (h item).append ih

theorem ExprsPruned.map {α : Type} {first second : α → Expr}
    (h : ∀ item, (first item).Pruned (second item)) (items : List α) :
    ExprsPruned (items.map first) (items.map second) := by
  induction items with
  | nil => exact .nil
  | cons item items ih => exact .cons (h item) ih

/-- Expressions that are joined one after another to a first one. -/
theorem Expr.Pruned.foldl {op : String} : ∀ {exprs others : List Expr} {first other : Expr},
    ExprsPruned exprs others → first.Pruned other →
    (exprs.foldl (fun left right => Expr.binary op left right) first).Pruned
      (others.foldl (fun left right => Expr.binary op left right) other)
  | _, _, _, _, .nil, hfirst => hfirst
  | _, _, _, _, .cons hexpr hexprs, hfirst => by
      rw [List.foldl_cons, List.foldl_cons]
      exact foldl hexprs (.binary hfirst hexpr)

/-! ## Pruned readings -/

namespace Reading

/-- The first reading gives what the second one gives, of which parts may have been cut off. -/
structure Pruned (r whole : Reading) : Prop where
  source : whole.source = r.source
  statement : ∀ tree, BlockPruned (r.statement tree) (whole.statement tree)
  expression : ∀ tree, (r.expression tree).Pruned (whole.expression tree)

namespace Pruned

variable {r whole : Reading} (h : r.Pruned whole)

include h

theorem expr? (tree? : Option Tree) :
    ExprsPruned (tree?.map r.expression).toList (tree?.map whole.expression).toList := by
  rw [Option.toList_map, Option.toList_map]
  exact .map h.expression tree?.toList

theorem body (tree : Tree) : BlockPruned (r.body tree) (whole.body tree) := by
  unfold Reading.body
  split
  · exact .flatMap h.statement tree.parts
  · exact h.statement tree

theorem body? (tree? : Option Tree) : BlockPruned (r.body? tree?) (whole.body? tree?) := by
  cases tree? with
  | none => exact .nil
  | some tree => exact h.body tree

theorem required (parent : Tree) (part? : Option Tree) :
    (r.required parent part?).Pruned (whole.required parent part?) := by
  cases part? with
  | none => exact .refl _
  | some part => exact h.expression part

theorem condition (tree : Tree) : (r.condition tree).Pruned (whole.condition tree) := by
  unfold Reading.condition
  split
  · cases tree.firstPart? with
    | none => exact h.expression tree
    | some inner => exact h.expression inner
  · exact h.expression tree

theorem requiredCondition (parent : Tree) (part? : Option Tree) :
    (r.requiredCondition parent part?).Pruned (whole.requiredCondition parent part?) := by
  cases part? with
  | none => exact .refl _
  | some part => exact h.condition part

theorem declarator (tree : Tree) : (r.declarator tree).Pruned (whole.declarator tree) := by
  unfold Reading.declarator
  split
  · cases tree.child? .name with
    | none => exact .refl _
    | some name =>
        dsimp only
        split
        · rw [h.source]
          exact .var (h.expr? _)
        · exact .refl _
  · exact .refl _

theorem declarators (tree : Tree) : BlockPruned (r.declarators tree) (whole.declarators tree) :=
  .map h.declarator tree.parts

theorem functionName (tree : Tree) : whole.functionName tree = r.functionName tree := by
  unfold Reading.functionName
  rw [h.source]

theorem params (tree : Tree) : whole.params tree = r.params tree := by
  have hparam : whole.param = r.param := by
    funext param
    rw [Reading.param, Reading.param, h.source]
  unfold Reading.params
  rw [hparam]

theorem functionBody (tree : Tree) :
    BlockPruned (r.functionBody tree) (whole.functionBody tree) := by
  unfold Reading.functionBody
  cases tree.child? .body with
  | none => exact .nil
  | some body =>
      dsimp only
      split
      · exact .flatMap h.statement body.parts
      · exact .cons (.ret (.cons (h.expression body) .nil)) .nil

theorem function (tree : Tree) :
    (Expr.function (r.function tree)).Pruned (.function (whole.function tree)) := by
  rw [Reading.function, Reading.function, h.functionName, h.params]
  exact .function (h.functionBody tree)

theorem clause? (tree? : Option Tree) :
    BlockPruned (r.clause? tree?).1 (whole.clause? tree?).1 ∧
      ExprsPruned (r.clause? tree?).2.toList (whole.clause? tree?).2.toList := by
  cases tree? with
  | none => exact ⟨.nil, .nil⟩
  | some tree =>
      rw [Reading.clause?, Reading.clause?]
      cases clauseForm tree with
      | nothing _ hread =>
          rw [hread, hread]
          exact ⟨.nil, .nil⟩
      | statement _ hread =>
          rw [hread, hread]
          exact ⟨.nil, h.expr? _⟩
      | declarators _ hread =>
          rw [hread, hread]
          exact ⟨h.declarators tree, .nil⟩
      | expression hread =>
          rw [hread, hread]
          exact ⟨.nil, .cons (h.expression tree) .nil⟩

theorem bareLoop (tree : Tree) : (r.bareLoop tree).Pruned (whole.bareLoop tree) :=
  .forLoop (h.clause? _).2 (h.clause? _).2 (h.expr? _) (h.body? _)

theorem loop (tree : Tree) : (r.loop tree).Pruned (whole.loop tree) := by
  have hhoisted : BlockPruned (r.hoisted tree) (whole.hoisted tree) :=
    (h.clause? _).1.append (h.clause? _).1
  rw [loop_eq, loop_eq, isEmpty_hoisted r whole]
  split
  · exact h.bareLoop tree
  · exact .block (hhoisted.append (.cons (h.bareLoop tree) .nil))

theorem handler (tree : Tree) : (r.handler tree).Pruned (whole.handler tree) := by
  unfold Reading.handler
  cases tree.child? .parameter with
  | none => exact .handler (h.body? _)
  | some name =>
      dsimp only
      split
      · rw [h.source]
        exact .handler (h.body? _)
      · exact .refl _

theorem guarded (tree : Tree) : (r.guarded tree).Pruned (whole.guarded tree) := by
  refine .tryCatch (h.body? _) ?_ ?_
  · cases tree.child? .handler with
    | none => exact .nil
    | some clause => exact .cons (.cons (h.handler clause) .nil) .nil
  · cases tree.child? .finalizer with
    | none => exact .nil
    | some clause => exact .cons (h.body? _) .nil

theorem switchCase (tree : Tree) : (r.switchCase tree).Pruned (whole.switchCase tree) :=
  .caseOf (h.expr? _) (.flatMap h.statement _)

theorem switch (tree : Tree) : (r.switch tree).Pruned (whole.switch tree) := by
  refine .switchOn (h.requiredCondition tree _) ?_
  cases tree.child? .body with
  | none => exact .nil
  | some body => exact .map h.switchCase body.parts

theorem branch (tree : Tree) : (r.branch tree).Pruned (whole.branch tree) := by
  refine .branch (h.requiredCondition tree _) (h.body? _) ?_
  cases (tree.child? .alternative).bind Tree.firstPart? with
  | none => exact .nil
  | some inner => exact .cons (h.body inner) .nil

theorem readStatement (tree : Tree) :
    BlockPruned (r.readStatement tree) (whole.readStatement tree) := by
  have hone {stmt other : Stmt} (hstmt : stmt.Pruned other) : BlockPruned [stmt] [other] :=
    .cons hstmt .nil
  cases statementForm tree with
  | eval _ hread =>
      rw [hread, hread]
      cases tree.firstPart? with
      | none => exact .nil
      | some inner => exact hone (.eval (h.expression inner))
  | declarators _ hread =>
      rw [hread, hread]
      exact h.declarators tree
  | function _ _ hread =>
      rw [hread, hread, h.source]
      exact hone (.var (.cons (h.function tree) .nil))
  | ret _ hread =>
      rw [hread, hread]
      exact hone (.ret (h.expr? _))
  | branch _ hread =>
      rw [hread, hread]
      exact hone (h.branch tree)
  | loop _ hread =>
      rw [hread, hread]
      exact hone (h.loop tree)
  | each _ hread =>
      rw [hread, hread]
      exact hone (.forLoop (h.expr? _) (h.expr? _) .nil (h.body? _))
  | whileLoop _ hread =>
      rw [hread, hread]
      exact hone (.whileLoop (h.requiredCondition tree _) (h.body? _))
  | block _ hread =>
      rw [hread, hread]
      exact hone (.block (.flatMap h.statement tree.parts))
  | guarded _ hread =>
      rw [hread, hread]
      exact hone (h.guarded tree)
  | breakTo _ hread =>
      rw [hread, hread, h.source]
      exact hone (.refl _)
  | continueTo _ hread =>
      rw [hread, hread, h.source]
      exact hone (.refl _)
  | raise _ _ hread =>
      rw [hread, hread]
      exact hone (.raise (h.expression _))
  | switch _ hread =>
      rw [hread, hread]
      exact hone (h.switch tree)
  | labeled _ _ hread =>
      rw [hread, hread]
      exact h.statement _
  | nothing _ hread =>
      rw [hread, hread]
      exact .nil
  | unsupported hread =>
      rw [hread, hread]
      exact hone (.refl _)

theorem template (tree : Tree) : (r.template tree).Pruned (whole.template tree) := by
  have hparts : ExprsPruned (r.substitutions tree) (whole.substitutions tree) :=
    .map h.expression _
  have htext : whole.templateText tree = r.templateText tree := by
    unfold Reading.templateText
    rw [h.source]
  unfold Reading.template
  rw [h.source, htext]
  generalize r.substitutions tree = exprs, whole.substitutions tree = others at hparts
  cases hparts with
  | nil => exact .refl _
  | cons hfirst hmore => exact .foldl (.cons hfirst hmore) (.refl _)

theorem sequence (tree : Tree) : (r.sequence tree).Pruned (whole.sequence tree) := by
  have hparts : ExprsPruned (tree.parts.map r.expression) (tree.parts.map whole.expression) :=
    .map h.expression _
  unfold Reading.sequence
  generalize tree.parts.map r.expression = exprs, tree.parts.map whole.expression = others
    at hparts
  cases hparts with
  | nil => exact .refl _
  | cons hfirst hmore => exact .foldl hmore hfirst

theorem arguments (tree? : Option Tree) :
    ExprsPruned (r.arguments tree?) (whole.arguments tree?) := by
  cases tree? with
  | none => exact .nil
  | some tree =>
      unfold Reading.arguments
      dsimp only
      split
      · exact .cons (h.template tree) .nil
      · exact .map h.expression tree.parts

theorem requiredKey (parent : Tree) (part? : Option Tree) :
    (r.requiredKey parent part?).Pruned (whole.requiredKey parent part?) := by
  cases part? with
  | none => exact .refl _
  | some part =>
      change (r.keyOf part).Pruned (whole.keyOf part)
      unfold Reading.keyOf
      split
      · exact h.required part part.firstPart?
      · exact h.expression part

theorem property (tree : Tree) :
    (r.property tree).1.Pruned (whole.property tree).1 ∧
      (r.property tree).2.Pruned (whole.property tree).2 := by
  cases propertyForm tree with
  | pair _ hread =>
      rw [hread, hread]
      exact ⟨h.requiredKey tree _, h.required tree _⟩
  | shorthand _ hread =>
      rw [hread, hread, h.source]
      exact ⟨.refl _, .refl _⟩
  | method _ hread =>
      rw [hread, hread]
      exact ⟨h.requiredKey tree _, h.function tree⟩
  | unsupported _ hread =>
      rw [hread, hread]
      exact ⟨.refl _, .refl _⟩

theorem properties (trees : List Tree) :
    PropertiesPruned (trees.map r.property) (trees.map whole.property) := by
  induction trees with
  | nil => exact .nil
  | cons tree trees ih => exact .cons (h.property tree).1 (h.property tree).2 ih

theorem readExpression (tree : Tree) :
    (r.readExpression tree).Pruned (whole.readExpression tree) := by
  cases expressionForm tree with
  | ident _ hread =>
      rw [hread, hread, h.source]
      exact .refl _
  | literal _ value _ hread =>
      rw [hread, hread, h.source]
      exact .refl _
  | template _ hread =>
      rw [hread, hread]
      exact h.template tree
  | array _ hread =>
      rw [hread, hread]
      exact .array (.map h.expression tree.parts)
  | object _ hread =>
      rw [hread, hread]
      exact .object (h.properties tree.parts)
  | function _ hread =>
      rw [hread, hread]
      exact h.function tree
  | call _ hread =>
      rw [hread, hread]
      exact .call (h.required tree _) (h.arguments _)
  | new _ hread =>
      rw [hread, hread]
      exact .unary (.call (h.required tree _) (h.arguments _))
  | member _ _ hread =>
      rw [hread, hread, h.source]
      exact .access (h.required tree _)
  | subscript _ hread =>
      rw [hread, hread]
      exact .index (h.required tree _) (h.required tree _)
  | binary _ op hread =>
      rw [hread, hread, h.source]
      exact .binary (h.required tree _) (h.required tree _)
  | unary _ op hread =>
      rw [hread, hread, h.source]
      exact .unary (h.required tree _)
  | await _ hread =>
      rw [hread, hread]
      exact .unary (h.required tree _)
  | ternary _ hread =>
      rw [hread, hread]
      exact .ternary (h.required tree _) (h.required tree _) (h.required tree _)
  | paren _ _ hread =>
      rw [hread, hread]
      exact .paren (h.expression _)
  | sequence _ hread =>
      rw [hread, hread]
      exact h.sequence tree
  | unsupported hread =>
      rw [hread, hread]
      exact .refl _

end Pruned

end Reading

/-! ## Scripts of one source within two bounds -/

theorem Reading.pruned_within (source : SourceText) {levels more : Nat} (h : levels ≤ more) :
    (within source levels).Pruned (within source more) := by
  induction levels generalizing more with
  | zero =>
      refine ⟨rfl, fun tree => ?_, fun tree => .cut _⟩
      have hcut := BlockPruned.cut (statementsOf source more tree) .nil
      rwa [List.append_nil] at hcut
  | succ levels ih =>
      obtain ⟨more, rfl⟩ : ∃ fewer, more = fewer + 1 := ⟨more - 1, by omega⟩
      have hbelow := ih (Nat.le_of_succ_le_succ h)
      exact ⟨rfl, hbelow.readStatement, hbelow.readExpression⟩

namespace Func

variable {depth deeper : Nat}

theorem pruned_ofTree (source : SourceText) (h : depth ≤ deeper) (tree : Tree) :
    BlockPruned (ofTree source depth tree).body (ofTree source deeper tree).body :=
  .flatMap (Reading.pruned_within source h).statement tree.parts

/-- A script without a mark is the script that every deeper bound gives. -/
theorem ofTree_eq_of_uncut (source : SourceText) (h : depth ≤ deeper) {tree : Tree}
    (huncut : ∀ node ∈ (ofTree source depth tree).nodes,
      node.unsupportedKind? ≠ some nestingKind) :
    ofTree source deeper tree = ofTree source depth tree := by
  have hbody : (ofTree source deeper tree).body = (ofTree source depth tree).body := by
    refine (pruned_ofTree source h tree).eq_of_uncut fun stmt hstmt node hnode => ?_
    apply huncut
    rw [nodes_eq]
    exact List.mem_flatMap.mpr ⟨stmt, hstmt, hnode⟩
  exact congrArg wrapper hbody

/-- A walk that ends well goes the same way within a deeper bound. -/
theorem references_of_ok {options : ScanOptions} (h : options.maxDepth ≤ deeper) {func : Func}
    (hok : (func.references options).result = .ok ()) :
    func.references { options with maxDepth := deeper } = func.references options := by
  rw [result_references, Visit.outcome_eq_ok_iff] at hok
  have hdeeper : ∀ visit ∈ func.visits, Visit.Passes { options with maxDepth := deeper } visit :=
    fun visit hvisit => ⟨Nat.le_trans (hok visit hvisit).1 h, (hok visit hvisit).2⟩
  have hresult : (func.references { options with maxDepth := deeper }).result =
      (func.references options).result := by
    rw [result_references, result_references, Visit.outcome_eq_ok_iff.mpr hok,
      Visit.outcome_eq_ok_iff.mpr hdeeper]
  have hlist : (func.references { options with maxDepth := deeper }).references.toList =
      (func.references options).references.toList := by
    rw [toList_references, toList_references, Visit.noted_of_passes hok,
      Visit.noted_of_passes hdeeper]
    rfl
  exact congrArg₂ ScanOutcome.mk hresult (Array.toList_inj.mp hlist)

/-- What a walk notes in a script, a walk notes in the script that a deeper bound gives. -/
theorem references_sublist_of_le (source : SourceText) (tree : Tree) {options : ScanOptions}
    (h : options.maxDepth ≤ deeper) :
    ((ofTree source options.maxDepth tree).references options).references.toList.Sublist
      ((ofTree source deeper tree).references
        { options with maxDepth := deeper }).references.toList := by
  rw [toList_references, toList_references]
  refine List.Sublist.append (.refl _) ?_
  have hfollows : Node.ListFollows 1 _ _ := (pruned_ofTree source h tree).follows
  rw [Node.ListFollows, List.flatMap_map, List.flatMap_map] at hfollows
  exact hfollows.noted_sublist h

end Func

namespace Graph

/-- The nesting bound decides whether a source is scanned to its end, and not what a scan to the
end yields. A source that has a script within one bound has one within every deeper bound; if the
scan ends well, no part was cut off, the deeper script is the same one and its scan gives the same
references and the same graph. However it ends, the edges it adds are found in their order among
those that the deeper scan adds. -/
theorem scan_independent_of_bound {graph : Graph} (hgraph : graph.Reachable) (path : String)
    (bytes : List UInt8) (options : ScanOptions) {bound : Nat} (hbound : options.maxDepth ≤ bound)
    {func : Func} (hfunc : Func.ofSource? bytes options.maxDepth = some func) :
    ∃ deeper, Func.ofSource? bytes bound = some deeper ∧
      ((graph.scan path options func).1.result = .ok () →
        (∀ node ∈ func.nodes, node.unsupportedKind? ≠ some nestingKind) ∧ deeper = func ∧
          graph.scan path { options with maxDepth := bound } deeper =
            graph.scan path options func) ∧
      ∃ added more,
        (graph.scan path options func).2.namedEdges = graph.namedEdges ++ added ∧
        (graph.scan path { options with maxDepth := bound } deeper).2.namedEdges =
          graph.namedEdges ++ more ∧
        added.Sublist more := by
  obtain ⟨tree, htree, rfl⟩ := Option.map_eq_some_iff.mp hfunc
  set source := SourceText.ofBytes bytes
  refine ⟨Func.ofTree source bound tree, by rw [Func.ofSource?, htree, Option.map_some], ?_, ?_⟩
  · intro hok
    have huncut : ∀ node ∈ (Func.ofTree source options.maxDepth tree).nodes,
        node.unsupportedKind? ≠ some nestingKind := by
      intro node hnode
      rw [Func.supported_of_ok hok node hnode]
      exact nofun
    refine ⟨huncut, Func.ofTree_eq_of_uncut source hbound huncut, ?_⟩
    rw [Func.ofTree_eq_of_uncut source hbound huncut]
    unfold Graph.scan
    rw [Func.references_of_ok hbound hok]
  · refine ⟨_, _, hgraph.wellFormed.namedEdges_scan path options _,
      hgraph.wellFormed.namedEdges_scan path _ _, ?_⟩
    exact (Func.references_sublist_of_le source tree hbound).map _

/-- A call of a loader whose first path stands one level below the second one. -/
def unevenPaths : List UInt8 := "require([('a'), 'b'], c);".toUTF8.toList

theorem scan_unevenPaths_independent_of_bound :
    empty.Reachable ∧ (⟨"self", ["require"], 4⟩ : ScanOptions).maxDepth ≤ 5 ∧
    ∃ func deeper, Func.ofSource? unevenPaths 4 = some func ∧
      Func.ofSource? unevenPaths 5 = some deeper ∧
      (empty.scan "m.js" ⟨"self", ["require"], 4⟩ func).2.namedEdges =
        [⟨"m", "require", .invocation⟩, ⟨"m", "b", .requirement⟩] ∧
      (empty.scan "m.js" ⟨"self", ["require"], 4⟩ func).2.namedEdges.Sublist
        (empty.scan "m.js" ⟨"self", ["require"], 5⟩ deeper).2.namedEdges := by
  have hsome : ((Func.ofSource? unevenPaths 4).map fun func =>
      (empty.scan "m.js" ⟨"self", ["require"], 4⟩ func).2.namedEdges) =
        some [⟨"m", "require", .invocation⟩, ⟨"m", "b", .requirement⟩] := by decide +kernel
  obtain ⟨func, hfunc, hedges⟩ := Option.map_eq_some_iff.mp hsome
  obtain ⟨deeper, hdeeper, -, added, more, hadded, hmore, hsub⟩ :=
    scan_independent_of_bound .empty "m.js" unevenPaths ⟨"self", ["require"], 4⟩
      (show 4 ≤ 5 by decide) hfunc
  refine ⟨.empty, by decide, func, deeper, hfunc, hdeeper, hedges, ?_⟩
  rw [hadded, hmore]
  exact (List.append_sublist_append_left _).mpr hsub

end Graph

end ScriptGraph
