import ScriptGraph.Proofs.Script.Visits

/-!
# A scan walks along the visits of its script

Each step of a scan is described by the visits it makes: it ends as a walk along
them ends, adds the references that such a walk notes, and leaves the number of
open levels as it was. The description is put together from the parts of a step,
one lemma for each way of putting steps together, and then carried over the
whole tree, one case for each shape.
-/

namespace ScriptGraph

/-! ## Expressions without their parentheses -/

namespace Expr

theorem bare_ne_paren (expr inner : Expr) : expr.bare ≠ .paren inner := by
  fun_induction bare expr with
  | case1 _ ih => exact ih
  | case2 _ h => exact h inner

/-- What looks through parentheses is decided by the expression within them. -/
theorem apply_bare {α : Type} {f : Expr → α} (h : ∀ inner, f (.paren inner) = f inner)
    (expr : Expr) : f expr.bare = f expr := by
  fun_induction bare expr with
  | case1 inner ih => rw [h, ih]
  | case2 => rfl

theorem identName?_eq (expr : Expr) :
    expr.identName? = match expr.bare with
      | .ident name => some name
      | _ => none := by
  have hbare := bare_ne_paren expr
  rw [← apply_bare (f := identName?) (fun _ => rfl) expr]
  cases h : expr.bare <;> simp_all [identName?]

theorem text?_eq (expr : Expr) :
    expr.text? = match expr.bare with
      | .string text => some text
      | _ => none := by
  have hbare := bare_ne_paren expr
  rw [← apply_bare (f := text?) (fun _ => rfl) expr]
  cases h : expr.bare <;> simp_all [text?]

theorem items_eq (expr : Expr) :
    expr.items = match expr.bare with
      | .array items => items
      | _ => [] := by
  have hbare := bare_ne_paren expr
  rw [← apply_bare (f := items) (fun _ => rfl) expr]
  cases h : expr.bare <;> simp_all [items]

theorem operand?_eq (expr : Expr) :
    expr.operand? = match expr.bare with
      | .unary _ operand => some operand
      | _ => none := by
  have hbare := bare_ne_paren expr
  rw [← apply_bare (f := operand?) (fun _ => rfl) expr]
  cases h : expr.bare <;> simp_all [operand?]

theorem callee?_eq (expr : Expr) :
    expr.callee? = match expr.bare with
      | .call callee _ => some callee
      | _ => none := by
  have hbare := bare_ne_paren expr
  rw [← apply_bare (f := callee?) (fun _ => rfl) expr]
  cases h : expr.bare <;> simp_all [callee?]

end Expr

namespace Scan

theorem requiredPaths_bare (expr : Expr) :
    requiredPaths expr.bare = expr.items.filterMap Expr.text? := by
  rw [Expr.items_eq, funext Expr.text?_eq]
  cases expr.bare <;> rfl

theorem extendedName?_eq (init : Expr) :
    extendedName? init =
      init.operand?.bind fun operand => operand.callee?.bind Expr.identName? := by
  unfold extendedName?
  rw [Expr.operand?_eq]
  cases init.bare with
  | unary op operand =>
      dsimp only [Option.bind_some]
      rw [Expr.callee?_eq]
      cases operand.bare with
      | call callee args => exact (Expr.identName?_eq callee).symm
      | _ => rfl
  | _ => rfl

theorem bind_of_ok {first : Scan Unit} {second : Unit → Scan Unit} {walk after : Walk}
    (h : first walk = (.ok (), after)) : (first >>= second) walk = second () after := by
  simp [bind, ExceptT.bind, ExceptT.mk, ExceptT.bindCont, StateT.bind, h]

theorem bind_of_error {first : Scan Unit} {second : Unit → Scan Unit} {walk after : Walk}
    {error : ScanError} (h : first walk = (.error error, after)) :
    (first >>= second) walk = (.error error, after) := by
  simp [bind, ExceptT.bind, ExceptT.mk, ExceptT.bindCont, StateT.bind, h]
  rfl

/-! ## Steps that only note references -/

/-- The step adds the given references and goes on. -/
def Notes (step : Scan Unit) (references : List Reference) : Prop :=
  ∀ walk : Walk, step walk = (.ok (), { walk with found := walk.found ++ references.toArray })

namespace Notes

theorem skip : Notes (pure ()) [] := by
  intro walk
  change _ = (Except.ok (), Walk.mk walk.depth (walk.found ++ #[]))
  rw [Array.append_empty]
  rfl

theorem note (relation : Relation) (target : String) :
    Notes (Scan.note relation target) [⟨relation, target⟩] := by
  intro walk
  change (Except.ok (), Walk.mk walk.depth (walk.found.push ⟨relation, target⟩)) = _
  rw [Array.push_eq_append]

theorem append {first second : Scan Unit} {references more : List Reference}
    (hfirst : Notes first references) (hsecond : Notes second more) :
    Notes (do first; second) (references ++ more) := by
  intro walk
  rw [bind_of_ok (hfirst walk), hsecond]
  simp [Array.append_assoc]

theorem forM {α : Type} (items : List α) (step : α → Scan Unit) (reference : α → Reference)
    (hstep : ∀ item ∈ items, Notes (step item) [reference item]) :
    Notes (items.forM step) (items.map reference) := by
  induction items with
  | nil => exact skip
  | cons item items ih =>
      have hfirst := hstep item (by simp)
      have hrest := ih fun other hother => hstep other (by simp [hother])
      exact hfirst.append hrest

theorem noteDeclaration (func : Func) :
    Notes (match func.name? with
      | some name => Scan.noteDeclaration name
      | none => pure ()) func.ownReferences := by
  unfold Func.ownReferences Func.declared?
  cases func.name? with
  | none => exact skip
  | some name =>
      by_cases h : name ≠ Func.wrapperName ∧ Func.anonymousMark ∉ name.toList
      · have hname : (name == Func.wrapperName ||
            name.toList.contains Func.anonymousMark) = false := by simp [h]
        simp only [Scan.noteDeclaration, hname, Option.filter_some, decide_eq_true h, if_true]
        exact note .declaration name
      · have hname : (name == Func.wrapperName ||
            name.toList.contains Func.anonymousMark) = true := by
          rw [Bool.or_eq_true, beq_iff_eq, List.contains_iff_mem]
          exact Decidable.of_not_not fun hneither => h (not_or.mp hneither)
        simp only [Scan.noteDeclaration, hname, Option.filter_some, decide_eq_false h, if_true]
        exact skip

theorem noteExtension (options : ScanOptions) (name : String) (init : Option Expr) :
    Notes (Scan.noteExtension options name init)
      ((Node.stmt (.var name init)).references options) := by
  have hreferences : (Node.stmt (.var name init)).references options =
      ((Node.stmt (.var name init)).extended? options.sentinel).toList.map (.mk .extension) := by
    simp [Node.references, Node.func?, Node.invoked?, Node.requiredPaths]
  rw [hreferences]
  unfold Scan.noteExtension
  by_cases hname : name = options.sentinel
  · rw [if_pos (beq_iff_eq.mpr hname)]
    cases init with
    | none => exact skip
    | some init =>
        have hextended : (Node.stmt (.var name (some init))).extended? options.sentinel =
            (some init).bind extendedName? := by
          rw [Option.bind_some, extendedName?_eq]
          simp [Node.extended?, hname]
        rw [hextended]
        cases (some init).bind extendedName? with
        | none => exact skip
        | some base => exact note .extension base
  · have hextended : (Node.stmt (.var name init)).extended? options.sentinel = none := by
      cases init <;> simp [Node.extended?, hname]
    rw [hextended, if_neg (by simpa using hname)]
    exact skip

theorem noteRequirements (options : ScanOptions) {callee : Expr} {name : String}
    (hname : callee.identName? = some name) (args : List Expr) :
    Notes (Scan.noteRequirements options name args)
      (((Node.expr (.call callee args)).requiredPaths options.loaders).map
        fun path => .mk .requirement (Path.moduleName path)) := by
  unfold Scan.noteRequirements
  split
  · rename_i first second
    simp only [Node.requiredPaths, hname, ← requiredPaths_bare]
    by_cases hloader : name ∈ options.loaders
    · rw [if_pos hloader, if_pos (List.contains_iff_mem.mpr hloader)]
      exact forM _ _ _ fun path _ => note .requirement (Path.moduleName path)
    · rw [if_neg hloader, if_neg (by simpa using hloader)]
      exact skip
  · rename_i hargs
    have hnone : (Node.expr (.call callee args)).requiredPaths options.loaders = [] := by
      unfold Node.requiredPaths
      split
      · rename_i heq
        cases heq
        exact absurd rfl (hargs _ _)
      · rfl
    rw [hnone]
    exact skip

theorem noteCall (options : ScanOptions) (callee : Expr) (args : List Expr) :
    Notes (Scan.noteCall options callee args)
      ((Node.expr (.call callee args)).references options) := by
  have hreferences : (Node.expr (.call callee args)).references options =
      callee.identName?.toList.map (.mk .invocation) ++
        ((Node.expr (.call callee args)).requiredPaths options.loaders).map
          fun path => .mk .requirement (Path.moduleName path) := by
    simp [Node.references, Node.func?, Node.extended?, Node.invoked?]
  have hname := callee.identName?_eq
  rw [hreferences]
  unfold Scan.noteCall
  split
  · rename_i name hbare
    rw [hbare] at hname
    rw [hname]
    exact (note .invocation name).append (noteRequirements options hname args)
  · rename_i hother
    have hnone : callee.identName? = none := by
      rw [hname]
      split
      · rename_i name hbare
        exact absurd hbare (hother name)
      · rfl
    have hpaths : (Node.expr (.call callee args)).requiredPaths options.loaders = [] := by
      unfold Node.requiredPaths
      split
      · rename_i heq
        cases heq
        rw [hnone]
      · rfl
    rw [hnone, hpaths]
    exact skip

end Notes

/-! ## Steps that make visits -/

/-- From any number of open levels, the step does what a walk along the visits does. -/
def Traces (options : ScanOptions) (step : Scan Unit) (depth : Nat)
    (visits : List (Nat × Node)) : Prop :=
  ∀ found, step ⟨depth, found⟩ =
    (Visit.outcome options visits, ⟨depth, found ++ (Visit.noted options visits).toArray⟩)

namespace Traces

variable {options : ScanOptions} {depth : Nat}

theorem nil : Traces options (pure ()) depth [] := by
  intro found
  exact Notes.skip ⟨depth, found⟩

theorem append {first second : Scan Unit} {visits more : List (Nat × Node)}
    (hfirst : Traces options first depth visits) (hsecond : Traces options second depth more) :
    Traces options (do first; second) depth (visits ++ more) := by
  intro found
  rcases Visit.walk_append options visits more with
    ⟨hok, houtcome, hnoted⟩ | ⟨error, herror, houtcome, hnoted⟩
  · have hstep := hfirst found
    rw [hok] at hstep
    rw [bind_of_ok hstep, hsecond, houtcome, hnoted]
    simp [Array.append_assoc]
  · have hstep := hfirst found
    rw [herror] at hstep
    rw [bind_of_error hstep, houtcome, hnoted]

/-- A node that is too deep is not looked at. -/
theorem tooDeep (step : Scan Unit) {node : Node} {visits : List (Nat × Node)}
    (h : options.maxDepth ≤ depth) :
    Traces options (deeper options step) depth ((depth + 1, node) :: visits) := by
  intro found
  have hstop : Visit.stop? options (depth + 1, node) = some (.tooDeep options.maxDepth) := by
    simp only [Visit.stop?]
    rw [if_pos (by omega)]
  rw [Visit.outcome_cons_of_stop hstop, Visit.noted_cons_of_stop hstop]
  simp [deeper, h]

/-- A supported node notes its references and goes on to what is below it. -/
theorem node {notes below : Scan Unit} {node : Node} {visits : List (Nat × Node)}
    (hnode : node.unsupportedKind? = none) (hnotes : Notes notes (node.references options))
    (hbelow : Traces options below (depth + 1) visits) :
    Traces options (deeper options (do notes; below)) depth ((depth + 1, node) :: visits) := by
  by_cases hdepth : options.maxDepth ≤ depth
  · exact tooDeep _ hdepth
  · intro found
    have hpass : Visit.stop? options (depth + 1, node) = none := by
      simp only [Visit.stop?]
      rw [if_neg (by omega), hnode, Option.map_none]
    rw [Visit.outcome_cons_of_pass hpass, Visit.noted_cons_of_pass hpass]
    simp only [deeper, if_neg hdepth]
    rw [bind_of_ok (hnotes _), hbelow]
    simp [Array.append_assoc]

/-- A node that holds no reference goes on at once. -/
theorem plain {below : Scan Unit} {node : Node} {visits : List (Nat × Node)}
    (hnode : node.unsupportedKind? = none) (hreferences : node.references options = [])
    (hbelow : Traces options below (depth + 1) visits) :
    Traces options (deeper options below) depth ((depth + 1, node) :: visits) := by
  have hnotes : Notes (pure ()) (node.references options) := by
    rw [hreferences]
    exact .skip
  exact Traces.node hnode hnotes hbelow

/-- An unsupported node ends the walk unless its depth already does. -/
theorem unsupported (node : Node) {kind : String} {visits : List (Nat × Node)}
    (hnode : node.unsupportedKind? = some kind) :
    Traces options (deeper options (throw (.unsupported node.family kind))) depth
      ((depth + 1, node) :: visits) := by
  by_cases hdepth : options.maxDepth ≤ depth
  · exact tooDeep _ hdepth
  · intro found
    have hstop : Visit.stop? options (depth + 1, node) =
        some (.unsupported node.family kind) := by
      simp only [Visit.stop?]
      rw [if_neg (by omega), hnode, Option.map_some]
    rw [Visit.outcome_cons_of_stop hstop, Visit.noted_cons_of_stop hstop]
    simp only [deeper, if_neg hdepth]
    rw [Array.append_empty]
    rfl

end Traces

end Scan

/-! ## The whole tree -/

section Tree

open Scan

variable (options : ScanOptions)

/-- A function is a note of its name followed by its body. -/
theorem Func.scan_eq (func : Func) :
    func.scan options =
      (match func.name? with
        | some name => noteDeclaration name
        | none => pure ()) >>= fun _ => scanBlock options func.body := by
  cases func with
  | mk name params body => cases name <;> rfl

mutual

theorem Expr.traces_scan (depth : Nat) : (expr : Expr) →
    Traces options (expr.scan options) depth ((Node.expr expr).visits (depth + 1))
  | .object properties => by
      rw [Expr.scan, Node.visits_eq]
      exact .plain rfl rfl (traces_scanProperties (depth + 1) properties)
  | .ident _ => by
      rw [Expr.scan, Node.visits_eq]
      exact .plain rfl rfl .nil
  | .call callee args => by
      rw [Expr.scan, Node.visits_eq]
      simp only [Node.children, List.flatMap_cons, List.flatMap_map]
      exact .node rfl (.noteCall options callee args)
        ((callee.traces_scan (depth + 1)).append (traces_scanExprs (depth + 1) args))
  | .access base _ => by
      rw [Expr.scan, Node.visits_eq]
      simp only [Node.children, List.flatMap_singleton]
      exact .plain rfl rfl (base.traces_scan (depth + 1))
  | .null => by
      rw [Expr.scan, Node.visits_eq]
      exact .plain rfl rfl .nil
  | .string _ => by
      rw [Expr.scan, Node.visits_eq]
      exact .plain rfl rfl .nil
  | .number _ => by
      rw [Expr.scan, Node.visits_eq]
      exact .plain rfl rfl .nil
  | .boolean _ => by
      rw [Expr.scan, Node.visits_eq]
      exact .plain rfl rfl .nil
  | .paren inner => by
      rw [Expr.scan, Node.visits_eq]
      simp only [Node.children, List.flatMap_singleton]
      exact .plain rfl rfl (inner.traces_scan (depth + 1))
  | .array items => by
      rw [Expr.scan, Node.visits_eq]
      simp only [Node.children, List.flatMap_map]
      exact .plain rfl rfl (traces_scanExprs (depth + 1) items)
  | .regex _ _ => by
      rw [Expr.scan, Node.visits_eq]
      exact .plain rfl rfl .nil
  | .function func => by
      rw [Expr.scan, Node.visits_eq]
      simp only [Node.children, List.flatMap_map]
      exact func.traces_deeper_scan depth
  | .binary _ lhs rhs => by
      rw [Expr.scan, Node.visits_eq]
      simp only [Node.children, List.flatMap_cons, List.flatMap_nil, List.append_nil]
      exact .plain rfl rfl ((rhs.traces_scan (depth + 1)).append (lhs.traces_scan (depth + 1)))
  | .unary _ operand => by
      rw [Expr.scan, Node.visits_eq]
      simp only [Node.children, List.flatMap_singleton]
      exact .plain rfl rfl (operand.traces_scan (depth + 1))
  | .index base key => by
      rw [Expr.scan, Node.visits_eq]
      simp only [Node.children, List.flatMap_cons, List.flatMap_nil, List.append_nil]
      exact .plain rfl rfl ((base.traces_scan (depth + 1)).append (key.traces_scan (depth + 1)))
  | .ternary test yes no => by
      rw [Expr.scan, Node.visits_eq]
      simp only [Node.children, List.flatMap_cons, List.flatMap_nil, List.append_nil]
      exact .plain rfl rfl ((test.traces_scan (depth + 1)).append
        ((yes.traces_scan (depth + 1)).append (no.traces_scan (depth + 1))))
  | .unsupported kind => by
      rw [Expr.scan, Node.visits_eq]
      exact .unsupported (.expr (.unsupported kind)) rfl

theorem traces_scanExprs (depth : Nat) : (exprs : List Expr) →
    Traces options (scanExprs options exprs) depth
      (exprs.flatMap fun expr => (Node.expr expr).visits (depth + 1))
  | [] => by
      rw [scanExprs]
      exact .nil
  | expr :: rest => by
      rw [scanExprs, List.flatMap_cons]
      exact (expr.traces_scan depth).append (traces_scanExprs depth rest)

theorem traces_scanProperties (depth : Nat) : (properties : List (Expr × Expr)) →
    Traces options (scanProperties options properties) depth
      ((Node.expr (.object properties)).children.flatMap fun child => child.visits (depth + 1))
  | [] => by
      rw [scanProperties]
      exact .nil
  | (key, value) :: rest => by
      rw [scanProperties]
      exact (key.traces_scan depth).append
        ((value.traces_scan depth).append (traces_scanProperties depth rest))

theorem traces_scanExpr? (depth : Nat) : (expr? : Option Expr) →
    Traces options (scanExpr? options expr?) depth
      (expr?.toList.flatMap fun expr => (Node.expr expr).visits (depth + 1))
  | none => by
      rw [scanExpr?]
      exact .nil
  | some expr => by
      rw [scanExpr?, Option.toList_some, List.flatMap_singleton]
      exact expr.traces_scan depth

theorem Stmt.traces_scan (depth : Nat) : (stmt : Stmt) →
    Traces options (stmt.scan options) depth ((Node.stmt stmt).visits (depth + 1))
  | .var name init => by
      rw [Stmt.scan, Node.visits_eq]
      simp only [Node.children, List.flatMap_map]
      exact .node rfl (.noteExtension options name init) (traces_scanExpr? (depth + 1) init)
  | .ret value => by
      rw [Stmt.scan, Node.visits_eq]
      simp only [Node.children, List.flatMap_map]
      exact .plain rfl rfl (traces_scanExpr? (depth + 1) value)
  | .branch test pass fail => by
      rw [Stmt.scan, Node.visits_eq]
      simp only [Node.children, List.flatMap_cons, List.flatMap_map, List.flatMap_append]
      exact .plain rfl rfl ((test.traces_scan (depth + 1)).append
        ((traces_scanBlock (depth + 1) pass).append (traces_scanBlock? (depth + 1) fail)))
  | .forLoop init test step body => by
      rw [Stmt.scan, Node.visits_eq]
      simp only [Node.children, List.flatMap_map, List.flatMap_append, List.append_assoc]
      exact .plain rfl rfl ((traces_scanExpr? (depth + 1) init).append
        ((traces_scanExpr? (depth + 1) test).append
          ((traces_scanExpr? (depth + 1) step).append (traces_scanBlock (depth + 1) body))))
  | .whileLoop test body => by
      rw [Stmt.scan, Node.visits_eq]
      simp only [Node.children, List.flatMap_cons, List.flatMap_map]
      exact .plain rfl rfl
        ((test.traces_scan (depth + 1)).append (traces_scanBlock (depth + 1) body))
  | .eval expr => by
      rw [Stmt.scan, Node.visits_eq]
      simp only [Node.children, List.flatMap_singleton]
      exact .plain rfl rfl (expr.traces_scan (depth + 1))
  | .block body => by
      rw [Stmt.scan, Node.visits_eq]
      simp only [Node.children, List.flatMap_map]
      exact .plain rfl rfl (traces_scanBlock (depth + 1) body)
  | .tryCatch body handlers final => by
      rw [Stmt.scan, Node.visits_eq]
      simp only [Node.children, List.flatMap_map, List.flatMap_append]
      exact .plain rfl rfl ((traces_scanBlock (depth + 1) body).append
        ((traces_scanBlocks (depth + 1) handlers).append (traces_scanBlock? (depth + 1) final)))
  | .handler _ condition body => by
      rw [Stmt.scan, Node.visits_eq]
      simp only [Node.children, List.flatMap_map, List.flatMap_append]
      exact .plain rfl rfl
        ((traces_scanBlock (depth + 1) body).append (traces_scanExpr? (depth + 1) condition))
  | .breakTo _ => by
      rw [Stmt.scan, Node.visits_eq]
      exact .plain rfl rfl .nil
  | .continueTo _ => by
      rw [Stmt.scan, Node.visits_eq]
      exact .plain rfl rfl .nil
  | .raise value => by
      rw [Stmt.scan, Node.visits_eq]
      simp only [Node.children, List.flatMap_singleton]
      exact .plain rfl rfl (value.traces_scan (depth + 1))
  | .switchOn subject cases => by
      rw [Stmt.scan, Node.visits_eq]
      simp only [Node.children, List.flatMap_cons, List.flatMap_map]
      exact .plain rfl rfl
        ((subject.traces_scan (depth + 1)).append (traces_scanBlock (depth + 1) cases))
  | .caseOf test body => by
      rw [Stmt.scan, Node.visits_eq]
      simp only [Node.children, List.flatMap_map, List.flatMap_append]
      exact .plain rfl rfl
        ((traces_scanExpr? (depth + 1) test).append (traces_scanBlock (depth + 1) body))
  | .unsupported kind => by
      rw [Stmt.scan, Node.visits_eq]
      exact .unsupported (.stmt (.unsupported kind)) rfl

theorem traces_scanBlock (depth : Nat) : (block : List Stmt) →
    Traces options (scanBlock options block) depth
      (block.flatMap fun stmt => (Node.stmt stmt).visits (depth + 1))
  | [] => by
      rw [scanBlock]
      exact .nil
  | stmt :: rest => by
      rw [scanBlock, List.flatMap_cons]
      exact (stmt.traces_scan depth).append (traces_scanBlock depth rest)

theorem traces_scanBlock? (depth : Nat) : (block? : Option (List Stmt)) →
    Traces options (scanBlock? options block?) depth
      ((block?.getD []).flatMap fun stmt => (Node.stmt stmt).visits (depth + 1))
  | none => by
      rw [scanBlock?]
      exact .nil
  | some block => by
      rw [scanBlock?]
      exact traces_scanBlock depth block

theorem traces_scanBlocks (depth : Nat) : (blocks : List (List Stmt)) →
    Traces options (scanBlocks options blocks) depth
      (blocks.flatten.flatMap fun stmt => (Node.stmt stmt).visits (depth + 1))
  | [] => by
      rw [scanBlocks]
      exact .nil
  | block :: rest => by
      rw [scanBlocks, List.flatten_cons, List.flatMap_append]
      exact (traces_scanBlock depth block).append (traces_scanBlocks depth rest)

/-- A function within a script: its name is noted on its own level, its body one level below. -/
theorem Func.traces_deeper_scan (depth : Nat) : (func : Func) →
    Traces options (deeper options (func.scan options)) depth
      ((depth + 1, .expr (.function func)) ::
        func.body.flatMap fun stmt => (Node.stmt stmt).visits (depth + 1 + 1))
  | .mk name params body => by
      have hnotes := Notes.noteDeclaration (.mk name params body)
      have hreferences : (Node.expr (.function (.mk name params body))).references options =
          (Func.mk name params body).ownReferences := by
        simp [Node.references, Node.func?, Node.extended?, Node.invoked?, Node.requiredPaths]
      rw [← hreferences] at hnotes
      rw [Func.scan_eq]
      exact .node rfl hnotes (traces_scanBlock (depth + 1) body)

end

/-- A function makes the visits of its body after noting its own name. -/
theorem Func.scan_apply (func : Func) (depth : Nat) (found : Array Reference) :
    func.scan options ⟨depth, found⟩ =
      (Visit.outcome options (func.visitsBelow depth),
        ⟨depth, found ++ (func.ownReferences ++
          Visit.noted options (func.visitsBelow depth)).toArray⟩) := by
  have hbody := traces_scanBlock options depth func.body
  rw [Func.scan_eq, bind_of_ok (Notes.noteDeclaration func _), hbody]
  simp only [List.append_toArray, Array.append_assoc]
  rfl

theorem Func.result_references (func : Func) :
    (func.references options).result = Visit.outcome options func.visits := by
  simp only [Func.references, Walk.start, Func.scan_apply]
  rfl

theorem Func.toList_references (func : Func) :
    (func.references options).references.toList =
      func.ownReferences ++ Visit.noted options func.visits := by
  simp only [Func.references, Walk.start, Func.scan_apply]
  simp [Func.visits]

end Tree

end ScriptGraph
