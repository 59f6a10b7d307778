import ScriptGraph.Proofs.Script.Walk

/-!
# Scripts of which parts are cut off

A script that was read within a nesting bound is the script that a larger bound
gives, except that some expressions and some runs of statements are replaced by
the mark of what is nested too deeply. This module relates two such scripts,
whatever reading they come from: without a mark they are equal, and a scan of
the pruned one notes nothing that a scan of the other does not note.
-/

namespace ScriptGraph

/-! ## The relation -/

mutual

/-- The first expression is the second one, of which parts may have been cut off. -/
inductive Expr.Pruned : Expr → Expr → Prop
  | cut (whole : Expr) : Expr.Pruned (.unsupported nestingKind) whole
  | refl (expr : Expr) : Expr.Pruned expr expr
  | object {properties others : List (Expr × Expr)} :
      PropertiesPruned properties others → Expr.Pruned (.object properties) (.object others)
  | call {callee other : Expr} {args others : List Expr} :
      Expr.Pruned callee other → ExprsPruned args others →
      Expr.Pruned (.call callee args) (.call other others)
  | access {base other : Expr} {member : String} :
      Expr.Pruned base other → Expr.Pruned (.access base member) (.access other member)
  | paren {inner other : Expr} :
      Expr.Pruned inner other → Expr.Pruned (.paren inner) (.paren other)
  | array {items others : List Expr} :
      ExprsPruned items others → Expr.Pruned (.array items) (.array others)
  | function {name : Option String} {params : List String} {body other : List Stmt} :
      BlockPruned body other →
      Expr.Pruned (.function (.mk name params body)) (.function (.mk name params other))
  | binary {op : String} {lhs rhs left right : Expr} :
      Expr.Pruned lhs left → Expr.Pruned rhs right →
      Expr.Pruned (.binary op lhs rhs) (.binary op left right)
  | unary {op : String} {operand other : Expr} :
      Expr.Pruned operand other → Expr.Pruned (.unary op operand) (.unary op other)
  | index {base key other otherKey : Expr} :
      Expr.Pruned base other → Expr.Pruned key otherKey →
      Expr.Pruned (.index base key) (.index other otherKey)
  | ternary {test yes no otherTest otherYes otherNo : Expr} :
      Expr.Pruned test otherTest → Expr.Pruned yes otherYes → Expr.Pruned no otherNo →
      Expr.Pruned (.ternary test yes no) (.ternary otherTest otherYes otherNo)

inductive ExprsPruned : List Expr → List Expr → Prop
  | nil : ExprsPruned [] []
  | cons {expr other : Expr} {rest others : List Expr} :
      Expr.Pruned expr other → ExprsPruned rest others →
      ExprsPruned (expr :: rest) (other :: others)

inductive PropertiesPruned : List (Expr × Expr) → List (Expr × Expr) → Prop
  | nil : PropertiesPruned [] []
  | cons {key value otherKey otherValue : Expr} {rest others : List (Expr × Expr)} :
      Expr.Pruned key otherKey → Expr.Pruned value otherValue → PropertiesPruned rest others →
      PropertiesPruned ((key, value) :: rest) ((otherKey, otherValue) :: others)

/-- The first statement is the second one, of which parts may have been cut off. -/
inductive Stmt.Pruned : Stmt → Stmt → Prop
  | refl (stmt : Stmt) : Stmt.Pruned stmt stmt
  | var {name : String} {init other : Option Expr} :
      ExprsPruned init.toList other.toList → Stmt.Pruned (.var name init) (.var name other)
  | ret {value other : Option Expr} :
      ExprsPruned value.toList other.toList → Stmt.Pruned (.ret value) (.ret other)
  | branch {test otherTest : Expr} {pass otherPass : List Stmt}
      {fail otherFail : Option (List Stmt)} :
      Expr.Pruned test otherTest → BlockPruned pass otherPass →
      BlocksPruned fail.toList otherFail.toList →
      Stmt.Pruned (.branch test pass fail) (.branch otherTest otherPass otherFail)
  | forLoop {init test step otherInit otherTest otherStep : Option Expr}
      {body otherBody : List Stmt} :
      ExprsPruned init.toList otherInit.toList → ExprsPruned test.toList otherTest.toList →
      ExprsPruned step.toList otherStep.toList → BlockPruned body otherBody →
      Stmt.Pruned (.forLoop init test step body)
        (.forLoop otherInit otherTest otherStep otherBody)
  | whileLoop {test otherTest : Expr} {body otherBody : List Stmt} :
      Expr.Pruned test otherTest → BlockPruned body otherBody →
      Stmt.Pruned (.whileLoop test body) (.whileLoop otherTest otherBody)
  | eval {expr other : Expr} : Expr.Pruned expr other → Stmt.Pruned (.eval expr) (.eval other)
  | block {body other : List Stmt} :
      BlockPruned body other → Stmt.Pruned (.block body) (.block other)
  | tryCatch {body otherBody : List Stmt} {handlers otherHandlers : List (List Stmt)}
      {final otherFinal : Option (List Stmt)} :
      BlockPruned body otherBody → BlocksPruned handlers otherHandlers →
      BlocksPruned final.toList otherFinal.toList →
      Stmt.Pruned (.tryCatch body handlers final) (.tryCatch otherBody otherHandlers otherFinal)
  | handler {exception : Option String} {condition : Option Expr} {body other : List Stmt} :
      BlockPruned body other →
      Stmt.Pruned (.handler exception condition body) (.handler exception condition other)
  | raise {value other : Expr} : Expr.Pruned value other → Stmt.Pruned (.raise value) (.raise other)
  | switchOn {subject other : Expr} {cases otherCases : List Stmt} :
      Expr.Pruned subject other → BlockPruned cases otherCases →
      Stmt.Pruned (.switchOn subject cases) (.switchOn other otherCases)
  | caseOf {test otherTest : Option Expr} {body otherBody : List Stmt} :
      ExprsPruned test.toList otherTest.toList → BlockPruned body otherBody →
      Stmt.Pruned (.caseOf test body) (.caseOf otherTest otherBody)

/-- Statements in sequence, each of them pruned. A mark may stand for any number of them. -/
inductive BlockPruned : List Stmt → List Stmt → Prop
  | nil : BlockPruned [] []
  | cons {stmt other : Stmt} {rest others : List Stmt} :
      Stmt.Pruned stmt other → BlockPruned rest others →
      BlockPruned (stmt :: rest) (other :: others)
  | cut (meant : List Stmt) {rest others : List Stmt} :
      BlockPruned rest others →
      BlockPruned (.unsupported nestingKind :: rest) (meant ++ others)

inductive BlocksPruned : List (List Stmt) → List (List Stmt) → Prop
  | nil : BlocksPruned [] []
  | cons {block other : List Stmt} {rest others : List (List Stmt)} :
      BlockPruned block other → BlocksPruned rest others →
      BlocksPruned (block :: rest) (other :: others)

end

/-! ## Without a mark nothing is missing -/

namespace Node

/-- No part of the node was cut off. -/
def Uncut (node : Node) : Prop := ∀ other ∈ node.nodes, other.unsupportedKind? ≠ some nestingKind

theorem Uncut.self {node : Node} (h : node.Uncut) : node.unsupportedKind? ≠ some nestingKind := by
  apply h
  rw [nodes_eq]
  exact List.mem_cons_self

theorem Uncut.child {node child : Node} (h : node.Uncut) (hchild : child ∈ node.children) :
    child.Uncut := by
  intro other hother
  apply h
  rw [nodes_eq]
  exact List.mem_cons_of_mem _ (List.mem_flatMap.mpr ⟨child, hchild, hother⟩)

end Node

theorem option_eq_of_toList {α : Type} {first second : Option α}
    (h : first.toList = second.toList) : first = second := by
  cases first <;> cases second <;> simp_all

theorem flatten_toList {α : Type} (list? : Option (List α)) :
    list?.toList.flatten = list?.getD [] := by
  cases list? <;> simp

mutual

theorem Expr.Pruned.eq_of_uncut : ∀ {expr whole : Expr}, expr.Pruned whole →
    (Node.expr expr).Uncut → whole = expr
  | _, _, .cut _, h => absurd rfl h.self
  | _, _, .refl _, _ => rfl
  | _, _, .object hothers, h => by
      rw [hothers.eq_of_uncut fun child hchild => h.child hchild]
  | _, _, .call hother hothers, h => by
      rw [hother.eq_of_uncut (h.child (by simp [Node.children])),
        hothers.eq_of_uncut fun arg harg => h.child (by simp [Node.children, harg])]
  | _, _, .access hother, h => by rw [hother.eq_of_uncut (h.child (by simp [Node.children]))]
  | _, _, .paren hother, h => by rw [hother.eq_of_uncut (h.child (by simp [Node.children]))]
  | _, _, .array hothers, h => by
      rw [hothers.eq_of_uncut fun item hitem => h.child (by simp [Node.children, hitem])]
  | _, _, .function hother, h => by
      rw [hother.eq_of_uncut fun stmt hstmt => h.child (by simp [Node.children, Func.body, hstmt])]
  | _, _, .binary hleft hright, h => by
      rw [hleft.eq_of_uncut (h.child (by simp [Node.children])),
        hright.eq_of_uncut (h.child (by simp [Node.children]))]
  | _, _, .unary hother, h => by rw [hother.eq_of_uncut (h.child (by simp [Node.children]))]
  | _, _, .index hother hkey, h => by
      rw [hother.eq_of_uncut (h.child (by simp [Node.children])),
        hkey.eq_of_uncut (h.child (by simp [Node.children]))]
  | _, _, .ternary htest hyes hno, h => by
      rw [htest.eq_of_uncut (h.child (by simp [Node.children])),
        hyes.eq_of_uncut (h.child (by simp [Node.children])),
        hno.eq_of_uncut (h.child (by simp [Node.children]))]

theorem ExprsPruned.eq_of_uncut : ∀ {exprs whole : List Expr}, ExprsPruned exprs whole →
    (∀ expr ∈ exprs, (Node.expr expr).Uncut) → whole = exprs
  | _, _, .nil, _ => rfl
  | _, _, .cons hother hothers, h => by
      rw [hother.eq_of_uncut (h _ (by simp)),
        hothers.eq_of_uncut fun expr hexpr => h expr (by simp [hexpr])]

theorem PropertiesPruned.eq_of_uncut : ∀ {properties whole : List (Expr × Expr)},
    PropertiesPruned properties whole →
    (∀ child ∈ (Node.expr (.object properties)).children, child.Uncut) → whole = properties
  | _, _, .nil, _ => rfl
  | _, _, .cons hkey hvalue hothers, h => by
      simp only [Node.children, List.flatMap_cons, List.mem_append] at h
      rw [hkey.eq_of_uncut (h _ (by simp)), hvalue.eq_of_uncut (h _ (by simp)),
        hothers.eq_of_uncut fun child hchild => h child (.inr hchild)]

theorem Stmt.Pruned.eq_of_uncut : ∀ {stmt whole : Stmt}, stmt.Pruned whole →
    (Node.stmt stmt).Uncut → whole = stmt
  | _, _, .refl _, _ => rfl
  | _, _, .var hinit, h => by
      rw [option_eq_of_toList (hinit.eq_of_uncut fun expr hexpr => h.child (by
        simpa [Node.children] using hexpr))]
  | _, _, .ret hvalue, h => by
      rw [option_eq_of_toList (hvalue.eq_of_uncut fun expr hexpr => h.child (by
        simpa [Node.children] using hexpr))]
  | _, _, .branch htest hpass hfail, h => by
      rw [htest.eq_of_uncut (h.child (by simp [Node.children])),
        hpass.eq_of_uncut fun stmt hstmt => h.child (by simp [Node.children, hstmt]),
        option_eq_of_toList (hfail.eq_of_uncut fun stmt hstmt => h.child (by
          rw [flatten_toList] at hstmt
          simp [Node.children, hstmt]))]
  | _, _, .forLoop hinit htest hstep hbody, h => by
      rw [option_eq_of_toList (hinit.eq_of_uncut fun expr hexpr => h.child (by
          simp_all [Node.children])),
        option_eq_of_toList (htest.eq_of_uncut fun expr hexpr => h.child (by
          simp_all [Node.children])),
        option_eq_of_toList (hstep.eq_of_uncut fun expr hexpr => h.child (by
          simp_all [Node.children])),
        hbody.eq_of_uncut fun stmt hstmt => h.child (by simp [Node.children, hstmt])]
  | _, _, .whileLoop htest hbody, h => by
      rw [htest.eq_of_uncut (h.child (by simp [Node.children])),
        hbody.eq_of_uncut fun stmt hstmt => h.child (by simp [Node.children, hstmt])]
  | _, _, .eval hother, h => by rw [hother.eq_of_uncut (h.child (by simp [Node.children]))]
  | _, _, .block hbody, h => by
      rw [hbody.eq_of_uncut fun stmt hstmt => h.child (by simp [Node.children, hstmt])]
  | _, _, .tryCatch hbody hhandlers hfinal, h => by
      rw [hbody.eq_of_uncut fun stmt hstmt => h.child (by simp [Node.children, hstmt]),
        hhandlers.eq_of_uncut fun stmt hstmt => h.child (List.mem_map_of_mem (by simp_all)),
        option_eq_of_toList (hfinal.eq_of_uncut fun stmt hstmt => h.child (by
          rw [flatten_toList] at hstmt
          simp [Node.children, hstmt]))]
  | _, _, .handler hbody, h => by
      rw [hbody.eq_of_uncut fun stmt hstmt => h.child (by simp [Node.children, hstmt])]
  | _, _, .raise hother, h => by rw [hother.eq_of_uncut (h.child (by simp [Node.children]))]
  | _, _, .switchOn hsubject hcases, h => by
      rw [hsubject.eq_of_uncut (h.child (by simp [Node.children])),
        hcases.eq_of_uncut fun stmt hstmt => h.child (by simp [Node.children, hstmt])]
  | _, _, .caseOf htest hbody, h => by
      rw [option_eq_of_toList (htest.eq_of_uncut fun expr hexpr => h.child (by
          simp_all [Node.children])),
        hbody.eq_of_uncut fun stmt hstmt => h.child (by simp [Node.children, hstmt])]

theorem BlockPruned.eq_of_uncut : ∀ {block whole : List Stmt}, BlockPruned block whole →
    (∀ stmt ∈ block, (Node.stmt stmt).Uncut) → whole = block
  | _, _, .nil, _ => rfl
  | _, _, .cons hother hothers, h => by
      rw [hother.eq_of_uncut (h _ (by simp)),
        hothers.eq_of_uncut fun stmt hstmt => h stmt (by simp [hstmt])]
  | _, _, .cut _ _, h => absurd rfl (h _ List.mem_cons_self).self

theorem BlocksPruned.eq_of_uncut : ∀ {blocks whole : List (List Stmt)}, BlocksPruned blocks whole →
    (∀ stmt ∈ blocks.flatten, (Node.stmt stmt).Uncut) → whole = blocks
  | _, _, .nil, _ => rfl
  | _, _, .cons hother hothers, h => by
      rw [hother.eq_of_uncut fun stmt hstmt => h stmt (by simp_all),
        hothers.eq_of_uncut fun stmt hstmt => h stmt (by simp_all)]

end

/-! ## What pruned nodes tell -/

namespace Expr.Pruned

theorem bare : ∀ {expr whole : Expr}, expr.Pruned whole → expr.bare.Pruned whole.bare
  | _, _, .cut _ => .cut _
  | _, _, .refl _ => .refl _
  | _, _, .object hothers => .object hothers
  | _, _, .call hother hothers => .call hother hothers
  | _, _, .access hother => .access hother
  | _, _, .paren hother => hother.bare
  | _, _, .array hothers => .array hothers
  | _, _, .function hother => .function hother
  | _, _, .binary hleft hright => .binary hleft hright
  | _, _, .unary hother => .unary hother
  | _, _, .index hother hkey => .index hother hkey
  | _, _, .ternary htest hyes hno => .ternary htest hyes hno

variable {expr whole : Expr}

theorem identName? (h : expr.Pruned whole) {name : String} (hname : expr.identName? = some name) :
    whole.identName? = some name := by
  have hbare := h.bare
  rw [Expr.identName?_eq] at hname ⊢
  generalize expr.bare = inner, whole.bare = other at hbare hname ⊢
  cases hbare <;> simp_all

theorem text? (h : expr.Pruned whole) {text : String} (htext : expr.text? = some text) :
    whole.text? = some text := by
  have hbare := h.bare
  rw [Expr.text?_eq] at htext ⊢
  generalize expr.bare = inner, whole.bare = other at hbare htext ⊢
  cases hbare <;> simp_all

theorem operand? (h : expr.Pruned whole) {operand : Expr}
    (hoperand : expr.operand? = some operand) :
    ∃ other, whole.operand? = some other ∧ operand.Pruned other := by
  have hbare := h.bare
  rw [Expr.operand?_eq] at hoperand ⊢
  generalize expr.bare = inner, whole.bare = other at hbare hoperand ⊢
  cases hbare <;> simp_all [Expr.Pruned.refl]

theorem callee? (h : expr.Pruned whole) {callee : Expr} (hcallee : expr.callee? = some callee) :
    ∃ other, whole.callee? = some other ∧ callee.Pruned other := by
  have hbare := h.bare
  rw [Expr.callee?_eq] at hcallee ⊢
  generalize expr.bare = inner, whole.bare = other at hbare hcallee ⊢
  cases hbare <;> simp_all [Expr.Pruned.refl]

end Expr.Pruned

theorem ExprsPruned.filterMap_text? : ∀ {exprs whole : List Expr}, ExprsPruned exprs whole →
    (exprs.filterMap Expr.text?).Sublist (whole.filterMap Expr.text?)
  | _, _, .nil => .slnil
  | expr :: rest, other :: others, .cons hother hothers => by
      have hrest := hothers.filterMap_text?
      cases htext : expr.text? with
      | none =>
          rw [List.filterMap_cons_none htext]
          exact hrest.trans ((List.sublist_cons_self _ _).filterMap _)
      | some text =>
          rw [List.filterMap_cons_some htext, List.filterMap_cons_some (hother.text? htext)]
          exact hrest.cons_cons text

theorem Expr.Pruned.filterMap_text?_items {expr whole : Expr} (h : expr.Pruned whole) :
    (expr.items.filterMap Expr.text?).Sublist (whole.items.filterMap Expr.text?) := by
  have hbare := h.bare
  rw [Expr.items_eq, Expr.items_eq]
  generalize expr.bare = inner, whole.bare = other at hbare
  cases hbare with
  | refl => exact .refl _
  | array hothers => exact hothers.filterMap_text?
  | _ => exact List.nil_sublist _

namespace Node

/-- The second node is of the same kind and holds at least the references of the first one. -/
def Tells (node other : Node) : Prop :=
  other.unsupportedKind? = node.unsupportedKind? ∧
    ∀ options, (node.references options).Sublist (other.references options)

theorem Tells.refl (node : Node) : node.Tells node := ⟨rfl, fun _ => .refl _⟩

theorem extended?_of_pruned {name sentinel base : String} {init other : Option Expr}
    (hinit : ExprsPruned init.toList other.toList)
    (h : (Node.stmt (.var name init)).extended? sentinel = some base) :
    (Node.stmt (.var name other)).extended? sentinel = some base := by
  match init, other, hinit with
  | some init, some other, .cons hinit _ =>
      simp only [extended?] at h ⊢
      split at h
      · rename_i hname
        rw [if_pos hname]
        obtain ⟨operand, hoperand, h⟩ := Option.bind_eq_some_iff.mp h
        obtain ⟨callee, hcallee, h⟩ := Option.bind_eq_some_iff.mp h
        obtain ⟨operand', hoperand', hpruned⟩ := hinit.operand? hoperand
        obtain ⟨callee', hcallee', hpruned⟩ := hpruned.callee? hcallee
        rw [hoperand', Option.bind_some, hcallee', Option.bind_some, hpruned.identName? h]
      · cases h

theorem requiredPaths_sublist {callee other : Expr} {args others : List Expr}
    (hcallee : callee.Pruned other) (hargs : ExprsPruned args others) (loaders : List String) :
    ((Node.expr (.call callee args)).requiredPaths loaders).Sublist
      ((Node.expr (.call other others)).requiredPaths loaders) := by
  match hargs with
  | .cons hpaths (.cons _ .nil) =>
      simp only [requiredPaths]
      cases hname : callee.identName? with
      | none => exact List.nil_sublist _
      | some loader =>
          rw [hcallee.identName? hname]
          dsimp only
          split
          · exact hpaths.filterMap_text?_items
          · exact .slnil
  | .nil => exact .slnil
  | .cons _ .nil => exact .slnil
  | .cons _ (.cons _ (.cons _ _)) => exact .slnil

theorem tells_var {name : String} {init other : Option Expr}
    (hinit : ExprsPruned init.toList other.toList) :
    (Node.stmt (.var name init)).Tells (.stmt (.var name other)) := by
  refine ⟨rfl, fun options => ?_⟩
  simp only [references, func?, invoked?, requiredPaths, Option.toList_none, List.flatMap_nil,
    List.map_nil, List.nil_append, List.append_nil]
  apply List.Sublist.map
  cases hbase : (Node.stmt (.var name init)).extended? options.sentinel with
  | none => exact List.nil_sublist _
  | some base =>
      simp only [extended?_of_pruned hinit hbase, List.Sublist.refl]

theorem tells_call {callee other : Expr} {args others : List Expr} (hcallee : callee.Pruned other)
    (hargs : ExprsPruned args others) :
    (Node.expr (.call callee args)).Tells (.expr (.call other others)) := by
  refine ⟨rfl, fun options => ?_⟩
  simp only [references, func?, extended?, invoked?, Option.toList_none, List.flatMap_nil,
    List.map_nil, List.nil_append]
  apply List.Sublist.append
  · cases hname : callee.identName? with
    | none => exact List.nil_sublist _
    | some name =>
        simp only [hcallee.identName? hname, List.Sublist.refl]
  · exact (requiredPaths_sublist hcallee hargs options.loaders).map _

end Node

/-! ## Walks along pruned visits -/

namespace Visit

/-- The first visits are the second ones up to a mark, behind which anything may follow. -/
inductive Follows : List (Nat × Node) → List (Nat × Node) → Prop
  | nil : Follows [] []
  | cut {visit : Nat × Node} (rest others : List (Nat × Node))
      (hvisit : visit.2.unsupportedKind? = some nestingKind) : Follows (visit :: rest) others
  | cons {level : Nat} {node other : Node} {rest others : List (Nat × Node)}
      (hnode : node.Tells other) (hrest : Follows rest others) :
      Follows ((level, node) :: rest) ((level, other) :: others)

namespace Follows

theorem refl (visits : List (Nat × Node)) : Follows visits visits := by
  induction visits with
  | nil => exact .nil
  | cons visit visits ih => exact .cons (.refl visit.2) ih

theorem append {visits others more othersMore : List (Nat × Node)}
    (h : Follows visits others) (hmore : Follows more othersMore) :
    Follows (visits ++ more) (others ++ othersMore) := by
  induction h with
  | nil => exact hmore
  | cut rest others hvisit => exact .cut _ _ hvisit
  | cons hnode _ ih => exact .cons hnode ih

/-- A walk along the first visits notes nothing that a walk along the second ones, which may go
deeper, does not note. -/
theorem noted_sublist {visits others : List (Nat × Node)} (h : Follows visits others)
    {options : ScanOptions} {bound : Nat} (hbound : options.maxDepth ≤ bound) :
    (noted options visits).Sublist (noted { options with maxDepth := bound } others) := by
  induction h with
  | nil => exact .slnil
  | cut rest others hvisit =>
      rename_i visit
      cases hstop : stop? options visit with
      | some error =>
          rw [noted_cons_of_stop hstop]
          exact List.nil_sublist _
      | none =>
          have hpass := stop?_eq_none_iff.mp hstop
          rw [hpass.2] at hvisit
          cases hvisit
  | cons hnode hrest ih =>
      rename_i level node other rest others
      cases hstop : stop? options (level, node) with
      | some error =>
          rw [noted_cons_of_stop hstop]
          exact List.nil_sublist _
      | none =>
          have hpass := stop?_eq_none_iff.mp hstop
          have hdeeper : stop? { options with maxDepth := bound } (level, other) = none :=
            stop?_eq_none_iff.mpr ⟨Nat.le_trans hpass.1 hbound, hnode.1.trans hpass.2⟩
          rw [noted_cons_of_pass hstop, noted_cons_of_pass hdeeper]
          exact (hnode.2 options).append ih

end Follows

end Visit

namespace Node

/-- The nodes and all below them, at a level, are the other ones up to a mark. -/
def ListFollows (level : Nat) (nodes others : List Node) : Prop :=
  Visit.Follows (nodes.flatMap (visits level)) (others.flatMap (visits level))

namespace ListFollows

variable {level : Nat} {nodes others : List Node}

theorem append {more othersMore : List Node} (h : ListFollows level nodes others)
    (hmore : ListFollows level more othersMore) :
    ListFollows level (nodes ++ more) (others ++ othersMore) := by
  unfold ListFollows
  rw [List.flatMap_append, List.flatMap_append]
  exact Visit.Follows.append h hmore

theorem refl (nodes : List Node) : ListFollows level nodes nodes := Visit.Follows.refl _

theorem cut {node : Node} (hnode : node.unsupportedKind? = some nestingKind)
    (nodes others : List Node) : ListFollows level (node :: nodes) others := by
  unfold ListFollows
  rw [List.flatMap_cons, visits_eq]
  exact .cut _ _ hnode

theorem node {node other : Node} (hnode : node.Tells other)
    (hchildren : ListFollows (level + 1) node.children other.children) :
    ListFollows level [node] [other] := by
  unfold ListFollows
  rw [List.flatMap_singleton, List.flatMap_singleton, visits_eq, visits_eq]
  exact .cons hnode hchildren

/-- A node that holds no reference. -/
theorem plain {node other : Node} (hnode : ∀ options, node.references options = [])
    (hkind : other.unsupportedKind? = node.unsupportedKind?)
    (hchildren : ListFollows (level + 1) node.children other.children) :
    ListFollows level [node] [other] := by
  refine .node ⟨hkind, fun options => ?_⟩ hchildren
  rw [hnode options]
  exact List.nil_sublist _

end ListFollows

end Node

open Node in
mutual

theorem Expr.Pruned.follows {level : Nat} : ∀ {expr whole : Expr}, expr.Pruned whole →
    ListFollows level [.expr expr] [.expr whole]
  | _, _, .cut _ => .cut rfl _ _
  | _, _, .refl _ => .refl _
  | _, _, .object hothers => .plain (fun _ => rfl) rfl hothers.follows
  | _, _, .call hother hothers =>
      .node (tells_call hother hothers) (hother.follows.append hothers.follows)
  | _, _, .access hother => .plain (fun _ => rfl) rfl hother.follows
  | _, _, .paren hother => .plain (fun _ => rfl) rfl hother.follows
  | _, _, .array hothers => .plain (fun _ => rfl) rfl hothers.follows
  | _, _, .function hother => .node ⟨rfl, fun _ => .refl _⟩ hother.follows
  | _, _, .binary hleft hright =>
      .plain (fun _ => rfl) rfl (hright.follows.append hleft.follows)
  | _, _, .unary hother => .plain (fun _ => rfl) rfl hother.follows
  | _, _, .index hother hkey => .plain (fun _ => rfl) rfl (hother.follows.append hkey.follows)
  | _, _, .ternary htest hyes hno =>
      .plain (fun _ => rfl) rfl (htest.follows.append (hyes.follows.append hno.follows))

theorem ExprsPruned.follows {level : Nat} : ∀ {exprs whole : List Expr},
    ExprsPruned exprs whole → ListFollows level (exprs.map .expr) (whole.map .expr)
  | _, _, .nil => .refl _
  | _, _, .cons hother hothers => hother.follows.append hothers.follows

theorem PropertiesPruned.follows {level : Nat} : ∀ {properties whole : List (Expr × Expr)},
    PropertiesPruned properties whole →
    ListFollows level (Node.expr (.object properties)).children (Node.expr (.object whole)).children
  | _, _, .nil => .refl _
  | _, _, .cons hkey hvalue hothers =>
      hkey.follows.append (hvalue.follows.append hothers.follows)

theorem Stmt.Pruned.follows {level : Nat} : ∀ {stmt whole : Stmt}, stmt.Pruned whole →
    ListFollows level [.stmt stmt] [.stmt whole]
  | _, _, .refl _ => .refl _
  | _, _, .var hinit => .node (tells_var hinit) hinit.follows
  | _, _, .ret hvalue => .plain (fun _ => rfl) rfl hvalue.follows
  | _, _, .branch htest hpass hfail => .plain (fun _ => rfl) rfl (by
      simp only [children, ← flatten_toList, List.map_append]
      exact htest.follows.append (hpass.follows.append hfail.follows))
  | _, _, .forLoop hinit htest hstep hbody => .plain (fun _ => rfl) rfl (by
      simp only [children, List.map_append]
      exact (hinit.follows.append (htest.follows.append hstep.follows)).append hbody.follows)
  | _, _, .whileLoop htest hbody =>
      .plain (fun _ => rfl) rfl (htest.follows.append hbody.follows)
  | _, _, .eval hother => .plain (fun _ => rfl) rfl hother.follows
  | _, _, .block hbody => .plain (fun _ => rfl) rfl hbody.follows
  | _, _, .tryCatch hbody hhandlers hfinal => .plain (fun _ => rfl) rfl (by
      simp only [children, ← flatten_toList, List.map_append]
      exact hbody.follows.append (hhandlers.follows.append hfinal.follows))
  | _, _, .handler hbody => .plain (fun _ => rfl) rfl (hbody.follows.append (.refl _))
  | _, _, .raise hother => .plain (fun _ => rfl) rfl hother.follows
  | _, _, .switchOn hsubject hcases =>
      .plain (fun _ => rfl) rfl (hsubject.follows.append hcases.follows)
  | _, _, .caseOf htest hbody => .plain (fun _ => rfl) rfl (htest.follows.append hbody.follows)

theorem BlockPruned.follows {level : Nat} : ∀ {block whole : List Stmt},
    BlockPruned block whole → ListFollows level (block.map .stmt) (whole.map .stmt)
  | _, _, .nil => .refl _
  | _, _, .cons hother hothers => hother.follows.append hothers.follows
  | _, _, .cut _ _ => .cut rfl _ _

theorem BlocksPruned.follows {level : Nat} : ∀ {blocks whole : List (List Stmt)},
    BlocksPruned blocks whole →
    ListFollows level (blocks.flatten.map .stmt) (whole.flatten.map .stmt)
  | _, _, .nil => .refl _
  | _, _, .cons hother hothers => by
      rw [List.flatten_cons, List.flatten_cons, List.map_append, List.map_append]
      exact hother.follows.append hothers.follows

end

end ScriptGraph
