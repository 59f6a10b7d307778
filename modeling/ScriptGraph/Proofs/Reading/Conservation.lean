import ScriptGraph.Proofs.Reading.Tally
import ScriptGraph.Proofs.Script.Exactness

/-!
# Calls and functions of a tree and of its script

Reading a grammatical tree neither loses nor doubles a call or a function, as
long as nothing in the script is unsupported: whatever calls and functions count
for, the sum over the nodes of the tree is the sum over the nodes of the script.
One lemma for each part of a reading carries this over from the parts of a node
to the node.
-/

namespace ScriptGraph

open Source

/-! ## Readings that lose and double nothing -/

open Node

namespace Reading

/-- The name that a function is read with counts for what its node counts for. -/
theorem elim_function {w : Weights} (r : Reading) {tree : Tree} (htree : tree.Grammatical r.source)
    (hkind : tree.kind ∈ Tree.functionKinds) :
    (r.function tree).declared?.elim 0 w.function =
      (tree.declared? r.source).elim 0 w.function := by
  have hmadeUp : Func.anonymousMark ∈ (madeUpName tree).toList := by
    simp [madeUpName, String.toList_append]
  have hfunction : (r.function tree).name? = some (r.functionName tree) := rfl
  rw [Func.elim_declared? hfunction, Tree.declared?, if_pos hkind]
  unfold Reading.functionName
  cases hname : tree.child? .name with
  | none => exact if_pos hmadeUp
  | some name =>
      dsimp only
      rw [Option.filter_some]
      by_cases hkinds : (name.kind == .identifier || name.kind == .propertyIdentifier) = true
      · have hidentifier : name.kind = .identifier ∨ name.kind = .propertyIdentifier := by
          simpa using hkinds
        have haside : Tree.isAside tree.kind (some .name) name.kind = false := by
          rcases hidentifier with hidentifier | hidentifier <;> simp [Tree.isAside, hidentifier]
        have hplain : Func.anonymousMark ∉ (r.source.text name).toList :=
          (htree.child (Tree.mem_children_of_child? hname) haside).conforms.spelled hidentifier
        simp only [hkinds, if_true]
        exact if_neg hplain
      · simp only [hkinds]
        exact if_pos hmadeUp

/-- What the reading makes of a grammatical part counts for what the part counts for, and has the
name that the part has, unless something in it is unsupported. -/
structure Conserving (r : Reading) (w : Weights) : Prop where
  statement : ∀ tree, tree.Grammatical r.source →
    Yields w ((r.statement tree).map .stmt) (tree.total (w.on r.source))
  expression : ∀ tree, tree.Grammatical r.source →
    Yields w [.expr (r.expression tree)] (tree.total (w.on r.source))
  name : ∀ tree, tree.Grammatical r.source → (Node.expr (r.expression tree)).Supported →
    (r.expression tree).identName? = tree.namedBy? r.source

namespace Conserving

variable {r : Reading} {w : Weights} (h : r.Conserving w)

include h

theorem exprs {trees : List Tree} (htrees : ∀ tree ∈ trees, tree.Grammatical r.source) :
    Yields w ((trees.map r.expression).map .expr)
      ((trees.map (Tree.total (w.on r.source))).sum) := by
  rw [List.map_map]
  exact .map fun tree htree => h.expression tree (htrees tree htree)

theorem expr? {tree? : Option Tree} (htree : ∀ tree ∈ tree?, tree.Grammatical r.source) :
    Yields w ((tree?.map r.expression).toList.map .expr)
      ((tree?.map (Tree.total (w.on r.source))).getD 0) := by
  cases tree? with
  | none => exact .nil
  | some tree => exact h.expression tree (htree tree rfl)

theorem statements {trees : List Tree} (htrees : ∀ tree ∈ trees, tree.Grammatical r.source) :
    Yields w ((trees.flatMap r.statement).map .stmt)
      ((trees.map (Tree.total (w.on r.source))).sum) := by
  rw [List.map_flatMap]
  exact .flatMap fun tree htree => h.statement tree (htrees tree htree)

/-- The parts of a node that only has parts. -/
theorem statementsIn {tree : Tree} (htree : tree.Grammatical r.source)
    (hkind : tree.kind ∉ Tree.tellingKinds)
    (hrule : tree.kind.rule? = some (.parts .many)) :
    Yields w ((r.statementsIn tree).map .stmt) (tree.total (w.on r.source)) := by
  obtain ⟨htotal, hparts, -⟩ := htree.total_parts (Tree.on_of_plain w r.source) hrule rfl
  refine (h.statements fun part hpart => (hparts part hpart).1).congr ?_
  rw [htotal, Tree.on_eq_zero w r.source hkind, Nat.zero_add]

theorem body {tree : Tree} (htree : tree.Grammatical r.source) :
    Yields w ((r.body tree).map .stmt) (tree.total (w.on r.source)) := by
  unfold Reading.body
  split
  · rename_i hkind
    rw [beq_iff_eq] at hkind
    exact h.statementsIn htree (by rw [hkind]; decide) (by rw [hkind]; rfl)
  · exact h.statement tree htree

theorem body? {tree? : Option Tree} (htree : ∀ tree ∈ tree?, tree.Grammatical r.source) :
    Yields w ((r.body? tree?).map .stmt)
      ((tree?.map (Tree.total (w.on r.source))).getD 0) := by
  cases tree? with
  | none => exact .nil
  | some tree => exact h.body (htree tree rfl)

theorem required (parent : Tree) {part? : Option Tree}
    (hpart : ∀ part ∈ part?, part.Grammatical r.source) :
    Yields w [.expr (r.required parent part?)]
      ((part?.map (Tree.total (w.on r.source))).getD 0) := by
  cases part? with
  | none => exact .unsupported rfl
  | some part => exact h.expression part (hpart part rfl)

/-- The parentheses around a condition count for nothing. -/
theorem condition {tree : Tree} (htree : tree.Grammatical r.source) :
    Yields w [.expr (r.condition tree)] (tree.total (w.on r.source)) := by
  unfold Reading.condition
  split
  · rename_i hkind
    rw [beq_iff_eq] at hkind
    obtain ⟨htotal, hfirst⟩ := htree.sum_firstPart (by rw [hkind]; decide) (by rw [hkind]; rfl)
    cases hinner : tree.firstPart? with
    | none => exact h.expression tree htree
    | some inner =>
        rw [hinner] at htotal
        exact (h.expression inner (hfirst inner hinner)).congr htotal
  · exact h.expression tree htree

theorem requiredCondition (parent : Tree) {part? : Option Tree}
    (hpart : ∀ part ∈ part?, part.Grammatical r.source) :
    Yields w [.expr (r.requiredCondition parent part?)]
      ((part?.map (Tree.total (w.on r.source))).getD 0) := by
  cases part? with
  | none => exact .unsupported rfl
  | some part => exact h.condition (hpart part rfl)

/-! ### Parts in fields -/

section Fields

variable {tree : Tree} (field : Field) (htree : tree.Grammatical r.source)
  (hfield : tree.kind.reads field = true)

include htree hfield

theorem exprIn :
    Yields w (((tree.child? field).map r.expression).toList.map .expr)
      (tree.totalIn (w.on r.source) field) :=
  (h.expr? fun _ hpart => htree.of_child? hfield hpart).congr (htree.totalIn_eq hfield)

theorem bodyIn :
    Yields w ((r.body? (tree.child? field)).map .stmt)
      (tree.totalIn (w.on r.source) field) :=
  (h.body? fun _ hpart => htree.of_child? hfield hpart).congr (htree.totalIn_eq hfield)

theorem requiredIn :
    Yields w [.expr (r.required tree (tree.child? field))]
      (tree.totalIn (w.on r.source) field) :=
  (h.required tree fun _ hpart => htree.of_child? hfield hpart).congr (htree.totalIn_eq hfield)

theorem conditionIn :
    Yields w [.expr (r.requiredCondition tree (tree.child? field))]
      (tree.totalIn (w.on r.source) field) :=
  (h.requiredCondition tree fun _ hpart => htree.of_child? hfield hpart).congr
    (htree.totalIn_eq hfield)

end Fields

/-! ### Statements -/

theorem declarator {tree : Tree} (htree : tree.Grammatical r.source) :
    Yields w [.stmt (r.declarator tree)] (tree.total (w.on r.source)) := by
  unfold Reading.declarator
  split
  · rename_i hkind
    rw [beq_iff_eq] at hkind
    have hrule : tree.kind.rule? = some (.fields [.any .name, .any .value]) := by rw [hkind]; rfl
    have htotal : tree.total (w.on r.source) =
        tree.totalIn (w.on r.source) .name + (tree.totalIn (w.on r.source) .value + 0) :=
      htree.sum_fields (by rw [hkind]; decide) hrule
    cases hname : tree.child? .name with
    | none => exact .unsupported rfl
    | some name =>
        dsimp only
        split
        · rename_i hidentifier
          rw [beq_iff_eq] at hidentifier
          have hleaf : tree.totalIn (w.on r.source) .name = 0 := by
            refine htree.totalIn_leaf (by rw [hkind]; rfl) fun part hpart => ?_
            obtain rfl : name = part := Option.some.inj (hname.symm.trans hpart)
            rw [hidentifier]
            decide
          exact .plain rfl ((h.exprIn .value htree (by rw [hkind]; rfl)).congr (by omega))
        · exact .unsupported rfl
  · exact .unsupported rfl

theorem declarators {tree : Tree} (htree : tree.Grammatical r.source)
    (hkind : tree.kind = .variableDeclaration ∨ tree.kind = .lexicalDeclaration) :
    Yields w ((r.declarators tree).map .stmt) (tree.total (w.on r.source)) := by
  have hrule : tree.kind.rule? = some (.parts .many) := by
    rcases hkind with hkind | hkind <;> rw [hkind] <;> rfl
  have hon : w.on r.source tree = 0 := by
    apply Tree.on_eq_zero
    rcases hkind with hkind | hkind <;> rw [hkind] <;> decide
  obtain ⟨htotal, hparts, -⟩ := htree.total_parts (Tree.on_of_plain w r.source) hrule rfl
  rw [Reading.declarators, List.map_map]
  refine (Yields.map fun part hpart => h.declarator (hparts part hpart).1).congr ?_
  rw [htotal, hon, Nat.zero_add]

theorem functionBody {tree : Tree} (htree : tree.Grammatical r.source)
    (hbody : tree.kind.reads .body = true) :
    Yields w ((r.functionBody tree).map .stmt) (tree.totalIn (w.on r.source) .body) := by
  rw [htree.totalIn_eq hbody]
  unfold Reading.functionBody
  cases hpart : tree.child? .body with
  | none => exact .nil
  | some body =>
      have hgrammatical := htree.of_child? hbody hpart
      dsimp only
      split
      · rename_i hkind
        rw [beq_iff_eq] at hkind
        exact h.statementsIn hgrammatical (by rw [hkind]; decide) (by rw [hkind]; rfl)
      · exact .plain rfl (h.expression body hgrammatical)

theorem function {tree : Tree} (htree : tree.Grammatical r.source)
    (hkind : tree.kind ∈ Tree.functionKinds) (hbody : tree.kind.reads .body = true) :
    Yields w [.expr (.function (r.function tree))]
      ((tree.declared? r.source).elim 0 w.function + tree.totalIn (w.on r.source) .body) := by
  rw [← elim_function r htree hkind]
  exact .function _ (h.functionBody htree hbody)

/-- A function that is no method: its name and its parameters count for nothing. -/
theorem ownFunction {tree : Tree} (htree : tree.Grammatical r.source)
    (hkind : tree.kind ∈ Tree.functionKinds) (hmethod : tree.kind ≠ .methodDefinition) :
    Yields w [.expr (.function (r.function tree))] (tree.total (w.on r.source)) := by
  have hon := Tree.on_of_function w r.source hkind
  have hslots : ∃ field, tree.kind.rule? = some (.fields [.of field [.identifier],
      .of .parameters [.formalParameters], .any .body]) ∧ tree.kind.reads field = true := by
    simp only [Tree.functionKinds, List.mem_cons, List.not_mem_nil, or_false] at hkind
    rcases hkind with hkind | hkind | hkind | hkind | hkind | hkind
    · exact ⟨.name, by rw [hkind]; exact ⟨rfl, rfl⟩⟩
    · exact ⟨.name, by rw [hkind]; exact ⟨rfl, rfl⟩⟩
    · exact ⟨.name, by rw [hkind]; exact ⟨rfl, rfl⟩⟩
    · exact ⟨.name, by rw [hkind]; exact ⟨rfl, rfl⟩⟩
    · exact ⟨.parameter, by rw [hkind]; exact ⟨rfl, rfl⟩⟩
    · exact absurd hkind hmethod
  obtain ⟨field, hrule, hfield⟩ := hslots
  have hbody : tree.kind.reads .body = true := by
    simp [Kind.reads, hrule, Rule.fields, Slot.any, Slot.of, Kind.isOrdinary]
  have htotal : tree.total (w.on r.source) = w.on r.source tree +
      (tree.totalIn (w.on r.source) field + (tree.totalIn (w.on r.source) .parameters +
        (tree.totalIn (w.on r.source) .body + 0))) :=
    htree.total_fields (Tree.on_of_plain w r.source) hrule
  have hleaf : tree.totalIn (w.on r.source) field = 0 :=
    htree.totalIn_of hrule List.mem_cons_self hfield (by decide)
  have hparameters : tree.totalIn (w.on r.source) .parameters = 0 :=
    htree.totalIn_parameters hrule (List.mem_cons_of_mem _ List.mem_cons_self)
  exact (h.function htree hkind hbody).congr (by omega)

/-- The variables that a clause of a loop declares and the expression that it is. -/
theorem clause? {tree? : Option Tree} (htree : ∀ tree ∈ tree?, tree.Grammatical r.source) :
    ∃ declared tested,
      Yields w ((r.clause? tree?).1.map .stmt) declared ∧
      Yields w ((r.clause? tree?).2.toList.map .expr) tested ∧
      declared + tested = (tree?.map (Tree.total (w.on r.source))).getD 0 := by
  cases tree? with
  | none => exact ⟨0, 0, .nil, .nil, rfl⟩
  | some tree =>
      have hgrammatical := htree tree rfl
      rw [Reading.clause?]
      cases clauseForm tree with
      | nothing hkind hread =>
          have htotal : tree.total (w.on r.source) = 0 :=
            hgrammatical.sum_leaf (by rw [hkind]; decide)
          rw [hread]
          exact ⟨0, 0, .nil, .nil, htotal.symm⟩
      | statement hkind hread =>
          obtain ⟨htotal, hfirst⟩ :=
            hgrammatical.sum_firstPart (w := w) (by rw [hkind]; decide) (by rw [hkind]; rfl)
          rw [hread]
          exact ⟨0, _, .nil, h.expr? hfirst, by rw [Nat.zero_add, ← htotal]; rfl⟩
      | declarators hkind hread =>
          rw [hread]
          exact ⟨_, 0, h.declarators hgrammatical hkind, .nil, rfl⟩
      | expression hread =>
          rw [hread]
          exact ⟨0, _, .nil, h.expression tree hgrammatical, Nat.zero_add _⟩

theorem loop {tree : Tree} (htree : tree.Grammatical r.source)
    (hkind : tree.kind = .forStatement) :
    Yields w [.stmt (r.loop tree)] (tree.total (w.on r.source)) := by
  have hrule : tree.kind.rule? = some (.fields [.any .initializer, .any .condition,
      .any .increment, .any .body]) := by rw [hkind]; rfl
  have htotal : tree.total (w.on r.source) =
      tree.totalIn (w.on r.source) .initializer + (tree.totalIn (w.on r.source) .condition +
        (tree.totalIn (w.on r.source) .increment + (tree.totalIn (w.on r.source) .body + 0))) :=
    htree.sum_fields (by rw [hkind]; decide) hrule
  have hinitializer : tree.kind.reads .initializer = true := by rw [hkind]; rfl
  have hcondition : tree.kind.reads .condition = true := by rw [hkind]; rfl
  obtain ⟨declared, init, hdeclared, hinit, hfirst⟩ :=
    h.clause? fun _ hpart => htree.of_child? hinitializer hpart
  obtain ⟨declaredToo, test, hdeclaredToo, htest, hsecond⟩ :=
    h.clause? fun _ hpart => htree.of_child? hcondition hpart
  rw [← htree.totalIn_eq hinitializer] at hfirst
  rw [← htree.totalIn_eq hcondition] at hsecond
  have hhoisted : Yields w ((r.hoisted tree).map .stmt) (declared + declaredToo) := by
    rw [Reading.hoisted, List.map_append]
    exact hdeclared.append hdeclaredToo
  have hloop : Yields w [.stmt (r.bareLoop tree)] (init +
      (test + tree.totalIn (w.on r.source) .increment) + tree.totalIn (w.on r.source) .body) := by
    refine .plain rfl ?_
    rw [Reading.bareLoop, Node.children, List.map_append, List.map_append]
    exact (hinit.append (htest.append (h.exprIn .increment htree (by rw [hkind]; rfl)))).append
      (h.bodyIn .body htree (by rw [hkind]; rfl))
  -- What the clauses declare moves in front of the loop; a loop without declarations stays alone.
  rw [loop_eq]
  split
  · rename_i hempty
    rw [List.isEmpty_iff.mp hempty] at hhoisted
    have hzero := hhoisted.eq_zero
    exact hloop.congr (by omega)
  · refine .plain rfl ?_
    rw [Node.children, List.map_append]
    exact (hhoisted.append hloop).congr (by omega)

theorem handler {tree : Tree} (htree : tree.Grammatical r.source)
    (hkind : tree.kind = .catchClause) :
    Yields w [.stmt (r.handler tree)] (tree.total (w.on r.source)) := by
  have hrule : tree.kind.rule? = some (.fields [.any .parameter, .any .body]) := by
    rw [hkind]; rfl
  have htotal : tree.total (w.on r.source) =
      tree.totalIn (w.on r.source) .parameter + (tree.totalIn (w.on r.source) .body + 0) :=
    htree.sum_fields (by rw [hkind]; decide) hrule
  have hbody := (h.bodyIn .body htree (by rw [hkind]; rfl)).append .nil
  unfold Reading.handler
  cases hname : tree.child? .parameter with
  | none =>
      have hnone : tree.totalIn (w.on r.source) .parameter = 0 := by
        rw [Tree.totalIn, hname]
        rfl
      exact .plain rfl (hbody.congr (by omega))
  | some name =>
      dsimp only
      split
      · rename_i hidentifier
        rw [beq_iff_eq] at hidentifier
        have hleaf : tree.totalIn (w.on r.source) .parameter = 0 := by
          refine htree.totalIn_leaf (by rw [hkind]; rfl) fun part hpart => ?_
          obtain rfl : name = part := Option.some.inj (hname.symm.trans hpart)
          rw [hidentifier]
          decide
        exact .plain rfl (hbody.congr (by omega))
      · exact .unsupported rfl

theorem guarded {tree : Tree} (htree : tree.Grammatical r.source)
    (hkind : tree.kind = .tryStatement) :
    Yields w [.stmt (r.guarded tree)] (tree.total (w.on r.source)) := by
  have hrule : tree.kind.rule? = some (.fields [.any .body, .of .handler [.catchClause],
      .of .finalizer [.finallyClause]]) := by rw [hkind]; rfl
  have htotal : tree.total (w.on r.source) = tree.totalIn (w.on r.source) .body +
      (tree.totalIn (w.on r.source) .handler + (tree.totalIn (w.on r.source) .finalizer + 0)) :=
    htree.sum_fields (by rw [hkind]; decide) hrule
  have hhandler : tree.kind.reads .handler = true := by rw [hkind]; rfl
  have hfinalizer : tree.kind.reads .finalizer = true := by rw [hkind]; rfl
  have hhandlers : Yields w
      (((((tree.child? .handler).map fun clause => [r.handler clause]).toList).flatten).map .stmt)
      (tree.totalIn (w.on r.source) .handler) := by
    rw [htree.totalIn_eq hhandler]
    cases hclause : tree.child? .handler with
    | none => exact .nil
    | some clause =>
        have hadmits := htree.admits_of_child? hrule
          (List.mem_cons_of_mem _ List.mem_cons_self) hclause
        exact h.handler (htree.of_child? hhandler hclause) (by simpa [Slot.of] using hadmits)
  have hfinal : Yields w
      ((((tree.child? .finalizer).map fun clause => r.body? (clause.child? .body)).getD []).map
        .stmt) (tree.totalIn (w.on r.source) .finalizer) := by
    rw [htree.totalIn_eq hfinalizer]
    cases hclause : tree.child? .finalizer with
    | none => exact .nil
    | some clause =>
        have hadmits := htree.admits_of_child? hrule
          (List.mem_cons_of_mem _ (List.mem_cons_of_mem _ List.mem_cons_self)) hclause
        have hfinally : clause.kind = .finallyClause := by simpa [Slot.of] using hadmits
        have hgrammatical := htree.of_child? hfinalizer hclause
        have hclauseRule : clause.kind.rule? = some (.fields [.any .body]) := by
          rw [hfinally]; rfl
        have hclauseTotal : clause.total (w.on r.source) =
            clause.totalIn (w.on r.source) .body + 0 :=
          hgrammatical.sum_fields (by rw [hfinally]; decide) hclauseRule
        exact (h.bodyIn .body hgrammatical (by rw [hfinally]; rfl)).congr hclauseTotal
  refine .plain rfl ?_
  rw [Reading.guarded, Node.children, List.map_append, List.map_append]
  exact ((h.bodyIn .body htree (by rw [hkind]; rfl)).append (hhandlers.append hfinal)).congr
    (by omega)

theorem switchCase {tree : Tree} (htree : tree.Grammatical r.source)
    (hkind : tree.kind = .switchCase ∨ tree.kind = .switchDefault) :
    Yields w [.stmt (r.switchCase tree)] (tree.total (w.on r.source)) := by
  obtain ⟨slot, hrule, hfield, hreads⟩ : ∃ slot : Slot,
      tree.kind.rule? = some ⟨[slot], .many, Kind.isOrdinary⟩ ∧ slot.field = .value ∧
        tree.kind.reads .value = true := by
    rcases hkind with hkind | hkind <;> rw [hkind] <;> exact ⟨_, rfl, rfl, rfl⟩
  have hforIn : tree.kind ≠ .forInStatement := by
    rcases hkind with hkind | hkind <;> rw [hkind] <;> decide
  have hmethod : tree.kind ≠ .methodDefinition := by
    rcases hkind with hkind | hkind <;> rw [hkind] <;> decide
  have hon : w.on r.source tree = 0 := by
    apply Tree.on_eq_zero
    rcases hkind with hkind | hkind <;> rw [hkind] <;> decide
  have htotal := htree.total_of_rule (Tree.on_of_plain w r.source) hrule
  rw [htree.sum_others hrule rfl hforIn hmethod, hon] at htotal
  simp only [List.map_cons, List.map_nil, List.sum_cons, List.sum_nil, hfield] at htotal
  have hvalue : (tree.partsIn .value).length ≤ 1 :=
    hfield ▸ (htree.fits hrule).atMostOne slot List.mem_cons_self
  have hgrammatical : ∀ part ∈ tree.others [.value], part.Grammatical r.source := by
    intro part hpart
    refine (htree.of_mem_others hrule rfl hforIn hmethod ?_).1
    simpa only [List.map_cons, List.map_nil, hfield] using hpart
  rw [Reading.switchCase, Tree.partsWithout_eq_others hvalue]
  exact .plain rfl (((h.exprIn .value htree hreads).append (h.statements hgrammatical)).congr
    (by omega))

theorem switch {tree : Tree} (htree : tree.Grammatical r.source)
    (hkind : tree.kind = .switchStatement) :
    Yields w [.stmt (r.switch tree)] (tree.total (w.on r.source)) := by
  have hrule : tree.kind.rule? = some (.fields [.any .value, .of .body [.switchBody]]) := by
    rw [hkind]; rfl
  have htotal : tree.total (w.on r.source) =
      tree.totalIn (w.on r.source) .value + (tree.totalIn (w.on r.source) .body + 0) :=
    htree.sum_fields (by rw [hkind]; decide) hrule
  have hbody : tree.kind.reads .body = true := by rw [hkind]; rfl
  refine .plain rfl (Yields.congr
    ((h.conditionIn .value htree (by rw [hkind]; rfl)).append ?_) htotal)
  rw [htree.totalIn_eq hbody]
  cases hpart : tree.child? .body with
  | none => exact .nil
  | some body =>
      have hadmits := htree.admits_of_child? hrule
        (List.mem_cons_of_mem _ List.mem_cons_self) hpart
      have hswitchBody : body.kind = .switchBody := by simpa [Slot.of] using hadmits
      have hbodyRule : body.kind.rule? = some (.partsOf [.switchCase, .switchDefault]) := by
        rw [hswitchBody]; rfl
      obtain ⟨hbodyTotal, hparts, -⟩ :=
        (htree.of_child? hbody hpart).total_parts (Tree.on_of_plain w r.source) hbodyRule rfl
      dsimp only
      rw [List.map_map]
      refine (Yields.map fun part hpart => h.switchCase (hparts part hpart).1
        (by simpa using (hparts part hpart).2)).congr ?_
      rw [Option.map_some, Option.getD_some, hbodyTotal,
        Tree.on_eq_zero w r.source (by rw [hswitchBody]; decide)]
      exact Nat.zero_add _

theorem branch {tree : Tree} (htree : tree.Grammatical r.source)
    (hkind : tree.kind = .ifStatement) :
    Yields w [.stmt (r.branch tree)] (tree.total (w.on r.source)) := by
  have hrule : tree.kind.rule? = some (.fields [.any .condition, .any .consequence,
      .of .alternative [.elseClause]]) := by rw [hkind]; rfl
  have htotal : tree.total (w.on r.source) = tree.totalIn (w.on r.source) .condition +
      (tree.totalIn (w.on r.source) .consequence +
        (tree.totalIn (w.on r.source) .alternative + 0)) :=
    htree.sum_fields (by rw [hkind]; decide) hrule
  have halternative : tree.kind.reads .alternative = true := by rw [hkind]; rfl
  have hfail : Yields w
      (((((tree.child? .alternative).bind Tree.firstPart?).map r.body).getD []).map .stmt)
      (tree.totalIn (w.on r.source) .alternative) := by
    rw [htree.totalIn_eq halternative]
    cases hclause : tree.child? .alternative with
    | none => exact .nil
    | some clause =>
        have hadmits := htree.admits_of_child? hrule
          (List.mem_cons_of_mem _ (List.mem_cons_of_mem _ List.mem_cons_self)) hclause
        have helse : clause.kind = .elseClause := by simpa [Slot.of] using hadmits
        obtain ⟨hclauseTotal, hfirst⟩ := (htree.of_child? halternative hclause).sum_firstPart
          (w := w) (by rw [helse]; decide) (by rw [helse]; rfl)
        rw [Option.bind_some, Option.map_some, Option.getD_some, hclauseTotal]
        cases hinner : clause.firstPart? with
        | none => exact .nil
        | some inner => exact h.body (hfirst inner hinner)
  refine .plain rfl ?_
  rw [Reading.branch, Node.children, List.map_append]
  exact ((h.conditionIn .condition htree (by rw [hkind]; rfl)).append
    ((h.bodyIn .consequence htree (by rw [hkind]; rfl)).append hfail)).congr (by omega)

theorem readStatement {tree : Tree} (htree : tree.Grammatical r.source) :
    Yields w ((r.readStatement tree).map .stmt) (tree.total (w.on r.source)) := by
  cases statementForm tree with
  | eval hkind hread =>
      obtain ⟨htotal, hfirst⟩ := htree.sum_firstPart (w := w) (by rw [hkind]; decide)
        (by rw [hkind]; rfl)
      rw [hread, htotal]
      cases hinner : tree.firstPart? with
      | none => exact .nil
      | some inner => exact .plain rfl (h.expression inner (hfirst inner hinner))
  | declarators hkind hread =>
      rw [hread]
      exact h.declarators htree hkind
  | function hkind hname hread =>
      rw [hread]
      refine .plain rfl (h.ownFunction htree ?_ ?_)
      · rcases hkind with hkind | hkind <;> rw [hkind] <;> decide
      · rcases hkind with hkind | hkind <;> rw [hkind] <;> decide
  | ret hkind hread =>
      obtain ⟨htotal, hfirst⟩ := htree.sum_firstPart (w := w) (by rw [hkind]; decide)
        (by rw [hkind]; rfl)
      rw [hread, htotal]
      exact .plain rfl (h.expr? hfirst)
  | branch hkind hread =>
      rw [hread]
      exact h.branch htree hkind
  | loop hkind hread =>
      rw [hread]
      exact h.loop htree hkind
  | each hkind hread =>
      have hrule : tree.kind.rule? = some (.fields [.any .left, .any .value, .any .right,
          .any .body]) := by rw [hkind]; rfl
      have htotal : tree.total (w.on r.source) = tree.totalIn (w.on r.source) .left +
          (tree.totalIn (w.on r.source) .value + (tree.totalIn (w.on r.source) .right +
            (tree.totalIn (w.on r.source) .body + 0))) :=
        htree.sum_fields (by rw [hkind]; decide) hrule
      have hvalue : tree.totalIn (w.on r.source) .value = 0 :=
        Tree.totalIn_aside fun part _ => by simp [Tree.isAside, hkind]
      rw [hread]
      refine .plain rfl ?_
      rw [Node.children, List.map_append, List.map_append]
      exact (((h.exprIn .left htree (by rw [hkind]; rfl)).append
        ((h.exprIn .right htree (by rw [hkind]; rfl)).append .nil)).append
          (h.bodyIn .body htree (by rw [hkind]; rfl))).congr (by omega)
  | whileLoop hkind hread =>
      have hrule : tree.kind.rule? = some (.fields [.any .condition, .any .body]) := by
        rcases hkind with hkind | hkind <;> rw [hkind] <;> rfl
      have hplain : tree.kind ∉ Tree.tellingKinds := by
        rcases hkind with hkind | hkind <;> rw [hkind] <;> decide
      have hcondition : tree.kind.reads .condition = true := by
        rcases hkind with hkind | hkind <;> rw [hkind] <;> rfl
      have hbody : tree.kind.reads .body = true := by
        rcases hkind with hkind | hkind <;> rw [hkind] <;> rfl
      have htotal : tree.total (w.on r.source) = tree.totalIn (w.on r.source) .condition +
          (tree.totalIn (w.on r.source) .body + 0) := htree.sum_fields hplain hrule
      rw [hread]
      exact .plain rfl (((h.conditionIn .condition htree hcondition).append
        (h.bodyIn .body htree hbody)).congr htotal)
  | block hkind hread =>
      rw [hread]
      exact .plain rfl (h.statementsIn htree (by rw [hkind]; decide) (by rw [hkind]; rfl))
  | guarded hkind hread =>
      rw [hread]
      exact h.guarded htree hkind
  | breakTo hkind hread | continueTo hkind hread =>
      have hrule : tree.kind.rule? = some (.fields [.of .label [.statementIdentifier]]) := by
        rw [hkind]; rfl
      have htotal : tree.total (w.on r.source) = tree.totalIn (w.on r.source) .label + 0 :=
        htree.sum_fields (by rw [hkind]; decide) hrule
      rw [htree.totalIn_of hrule List.mem_cons_self (by rw [hkind]; rfl) (by decide)] at htotal
      rw [hread, htotal]
      exact .leaf rfl rfl
  | raise hkind hinner hread =>
      obtain ⟨htotal, hfirst⟩ := htree.sum_firstPart (w := w) (by rw [hkind]; decide)
        (by rw [hkind]; rfl)
      rw [hread, htotal, hinner]
      exact .plain rfl (h.expression _ (hfirst _ hinner))
  | switch hkind hread =>
      rw [hread]
      exact h.switch htree hkind
  | labeled hkind hbody hread =>
      have hrule : tree.kind.rule? = some (.fields [.of .label [.statementIdentifier],
          .any .body]) := by rw [hkind]; rfl
      have htotal : tree.total (w.on r.source) = tree.totalIn (w.on r.source) .label +
          (tree.totalIn (w.on r.source) .body + 0) :=
        htree.sum_fields (by rw [hkind]; decide) hrule
      have hlabel : tree.totalIn (w.on r.source) .label = 0 :=
        htree.totalIn_of hrule List.mem_cons_self (by rw [hkind]; rfl) (by decide)
      have hreads : tree.kind.reads .body = true := by rw [hkind]; rfl
      have hin := htree.totalIn_eq (f := w.on r.source) hreads
      rw [hbody, Option.map_some, Option.getD_some] at hin
      rw [hread]
      exact (h.statement _ (htree.of_child? hreads hbody)).congr (by omega)
  | nothing hkind hread =>
      rw [hread]
      refine Yields.nil.congr ?_
      rcases hkind with hkind | hcomment | ⟨hkind, hbody⟩
      · exact htree.sum_leaf (by rw [hkind]; decide)
      · exact htree.sum_plain (by rw [Tree.isSubstantial, hcomment, Bool.not_true, Bool.and_false])
      · have hrule : tree.kind.rule? = some (.fields [.of .label [.statementIdentifier],
            .any .body]) := by rw [hkind]; rfl
        have htotal : tree.total (w.on r.source) = tree.totalIn (w.on r.source) .label +
            (tree.totalIn (w.on r.source) .body + 0) :=
          htree.sum_fields (by rw [hkind]; decide) hrule
        have hnone : tree.totalIn (w.on r.source) .body = 0 := by
          rw [Tree.totalIn, hbody]
          rfl
        rw [htotal, hnone,
          htree.totalIn_of hrule List.mem_cons_self (by rw [hkind]; rfl) (by decide)]
  | unsupported hread =>
      rw [hread]
      exact .unsupported rfl

/-! ### Expressions -/

theorem template {tree : Tree} (htree : tree.Grammatical r.source)
    (hkind : tree.kind = .templateString) :
    Yields w [.expr (r.template tree)] (tree.total (w.on r.source)) := by
  have hrule : tree.kind.rule? = some (.partsOf [.stringFragment, .escapeSequence,
      .templateSubstitution]) := by rw [hkind]; rfl
  obtain ⟨htotal, hparts, -⟩ := htree.total_parts (Tree.on_of_plain w r.source) hrule rfl
  obtain ⟨hsum, hinner⟩ := Tree.sum_substituted (w := w) fun part hpart =>
    ⟨(hparts part hpart).1, List.contains_iff_mem.mp (hparts part hpart).2⟩
  rw [Tree.on_eq_zero w r.source (by rw [hkind]; decide), Nat.zero_add, hsum] at htotal
  rw [htotal]
  have hsubstitutions : r.substitutions tree = (Tree.substituted tree.parts).map r.expression :=
    rfl
  rw [Reading.template, hsubstitutions]
  generalize Tree.substituted tree.parts = inners at hinner
  cases inners with
  | nil => exact .leaf rfl rfl
  | cons first more =>
      have htext : Yields w [.expr (.string (r.templateText tree))] 0 := .leaf rfl rfl
      have hfold : Yields w [.expr (((first :: more).map r.expression).foldl
          (fun text part => Expr.binary "+" text part) (.string (r.templateText tree)))]
          (0 + ((first :: more).map (Tree.total (w.on r.source))).sum) :=
        .foldl (fun inner hmem => h.expression inner (hinner inner hmem)) htext
      exact hfold.congr (Nat.zero_add _).symm

theorem sequence {tree : Tree} (htree : tree.Grammatical r.source)
    (hkind : tree.kind = .sequenceExpression) :
    Yields w [.expr (r.sequence tree)] (tree.total (w.on r.source)) := by
  have hrule : tree.kind.rule? = some (.parts .several) := by rw [hkind]; rfl
  obtain ⟨htotal, hparts, -⟩ := htree.total_parts (Tree.on_of_plain w r.source) hrule rfl
  rw [Tree.on_eq_zero w r.source (by rw [hkind]; decide), Nat.zero_add] at htotal
  rw [htotal]
  unfold Reading.sequence
  generalize tree.parts = parts at hparts
  cases parts with
  | nil => exact .unsupported rfl
  | cons first more =>
      exact .foldl
        (fun part hpart => h.expression part (hparts part (List.mem_cons_of_mem _ hpart)).1)
        (h.expression first (hparts first List.mem_cons_self).1)

theorem argumentsIn {tree : Tree} (htree : tree.Grammatical r.source)
    (hfield : tree.kind.reads .arguments = true)
    (hkinds : ∀ part ∈ tree.child? .arguments,
      part.kind = .arguments ∨ part.kind = .templateString) :
    Yields w ((r.arguments (tree.child? .arguments)).map .expr)
      (tree.totalIn (w.on r.source) .arguments) := by
  rw [htree.totalIn_eq hfield]
  cases hargs : tree.child? .arguments with
  | none => exact .nil
  | some args =>
      have hgrammatical := htree.of_child? hfield hargs
      unfold Reading.arguments
      dsimp only
      rcases hkinds args hargs with hkind | hkind
      · have hrule : args.kind.rule? = some (.parts .many) := by rw [hkind]; rfl
        obtain ⟨htotal, hparts, -⟩ :=
          hgrammatical.total_parts (Tree.on_of_plain w r.source) hrule rfl
        rw [if_neg (by simp [hkind])]
        refine (h.exprs fun part hpart => (hparts part hpart).1).congr ?_
        rw [Option.map_some, Option.getD_some, htotal,
          Tree.on_eq_zero w r.source (by rw [hkind]; decide), Nat.zero_add]
      · rw [if_pos (by simp [hkind])]
        exact h.template hgrammatical hkind

theorem keyIn {tree : Tree} (field : Field) (htree : tree.Grammatical r.source)
    (hfield : tree.kind.reads field = true) :
    Yields w [.expr (r.requiredKey tree (tree.child? field))]
      (tree.totalIn (w.on r.source) field) := by
  rw [htree.totalIn_eq hfield]
  cases hkey : tree.child? field with
  | none => exact .unsupported rfl
  | some key =>
      have hgrammatical := htree.of_child? hfield hkey
      change Yields w [.expr (r.keyOf key)] (key.total (w.on r.source))
      unfold Reading.keyOf
      split
      · rename_i hkind
        rw [beq_iff_eq] at hkind
        obtain ⟨htotal, hfirst⟩ := hgrammatical.sum_firstPart (w := w) (by rw [hkind]; decide)
          (by rw [hkind]; rfl)
        rw [htotal]
        exact h.required key hfirst
      · exact h.expression key hgrammatical

/-- A method in an object: the marks in front of it stand aside. -/
theorem method {tree : Tree} (htree : tree.Grammatical r.source)
    (hkind : tree.kind = .methodDefinition) :
    Yields w [.expr (r.requiredKey tree (tree.child? .name)), .expr (.function (r.function tree))]
      (tree.total (w.on r.source)) := by
  have hfunction : tree.kind ∈ Tree.functionKinds := by rw [hkind]; decide
  have hrule : tree.kind.rule? = some ⟨[.any .name, .of .parameters [.formalParameters],
      .any .body], .many, (· == .decorator)⟩ := by rw [hkind]; rfl
  have hbeside : ((tree.partsBeside [.name, .parameters, .body]).map
      (Tree.share (w.on r.source) tree.kind)).sum = 0 := by
    rw [List.sum_eq_zero_iff_forall_eq_nat]
    intro value hvalue
    obtain ⟨child, hchild, rfl⟩ := List.mem_map.mp hvalue
    have hdecorator : child.2.kind = .decorator := by
      simpa using (htree.fits hrule).admittedBeside child hchild
    rw [Tree.share, hdecorator, hkind]
    rfl
  have htotal : tree.total (w.on r.source) = w.on r.source tree +
      (tree.totalIn (w.on r.source) .name + (tree.totalIn (w.on r.source) .parameters +
        (tree.totalIn (w.on r.source) .body + 0))) +
      ((tree.partsBeside [.name, .parameters, .body]).map
        (Tree.share (w.on r.source) tree.kind)).sum :=
    htree.total_of_rule (Tree.on_of_plain w r.source) hrule
  have hparameters : tree.totalIn (w.on r.source) .parameters = 0 :=
    htree.totalIn_parameters hrule (List.mem_cons_of_mem _ List.mem_cons_self)
  have hon := Tree.on_of_function w r.source hfunction
  exact ((h.keyIn .name htree (by rw [hkind]; rfl)).append
    (h.function htree hfunction (by rw [hkind]; rfl))).congr (by omega)

theorem property {tree : Tree} (htree : tree.Grammatical r.source) :
    Yields w [.expr (r.property tree).1, .expr (r.property tree).2]
      (tree.total (w.on r.source)) := by
  cases propertyForm tree with
  | pair hkind hread =>
      have hrule : tree.kind.rule? = some (.fields [.any .key, .any .value]) := by rw [hkind]; rfl
      have htotal : tree.total (w.on r.source) = tree.totalIn (w.on r.source) .key +
          (tree.totalIn (w.on r.source) .value + 0) :=
        htree.sum_fields (by rw [hkind]; decide) hrule
      rw [hread]
      exact ((h.keyIn .key htree (by rw [hkind]; rfl)).append
        (h.requiredIn .value htree (by rw [hkind]; rfl))).congr htotal
  | shorthand hkind hread =>
      rw [hread, htree.sum_leaf (by rw [hkind]; decide)]
      exact (Yields.leaf rfl rfl).append (.leaf rfl rfl)
  | method hkind hread =>
      rw [hread]
      exact h.method htree hkind
  | unsupported _ hread =>
      rw [hread]
      exact ((Yields.unsupported rfl).append (.leaf rfl rfl)).congr (Nat.add_zero _).symm

theorem object {tree : Tree} (htree : tree.Grammatical r.source) (hkind : tree.kind = .object) :
    Yields w [.expr (.object (tree.parts.map r.property))] (tree.total (w.on r.source)) := by
  have hrule : tree.kind.rule? = some (.parts .many) := by rw [hkind]; rfl
  obtain ⟨htotal, hparts, -⟩ := htree.total_parts (Tree.on_of_plain w r.source) hrule rfl
  rw [Tree.on_eq_zero w r.source (by rw [hkind]; decide), Nat.zero_add] at htotal
  refine .plain rfl ?_
  rw [Node.children, List.flatMap_map, htotal]
  exact .flatMap fun part hpart => h.property (hparts part hpart).1

/-- A call and what it calls. -/
theorem call {tree : Tree} {field : Field} (htree : tree.Grammatical r.source)
    (hfield : tree.kind.reads field = true) (harguments : tree.kind.reads .arguments = true)
    (hkinds : ∀ part ∈ tree.child? .arguments,
      part.kind = .arguments ∨ part.kind = .templateString) :
    Yields w [.expr (.call (r.required tree (tree.child? field))
        (r.arguments (tree.child? .arguments)))]
      (((tree.child? field).bind (Tree.namedBy? r.source)).elim 0 w.call +
        (tree.totalIn (w.on r.source) field + tree.totalIn (w.on r.source) .arguments)) := by
  -- The call counts by the name of what is called, which is known once that is supported.
  refine .call (fun hsupported => ?_) ((h.requiredIn field htree hfield).append
    (h.argumentsIn htree harguments hkinds))
  cases hcallee : tree.child? field with
  | none =>
      rw [hcallee] at hsupported
      cases hsupported.self
  | some callee =>
      rw [hcallee] at hsupported
      exact h.name callee (htree.of_child? hfield hcallee) hsupported

theorem readExpression {tree : Tree} (htree : tree.Grammatical r.source) :
    Yields w [.expr (r.readExpression tree)] (tree.total (w.on r.source)) := by
  cases expressionForm tree with
  | ident hkind hread =>
      have hleaf : ∀ kind ∈ namingKinds, kind ∈ Tree.leafKinds := by decide
      rw [hread, htree.sum_leaf (hleaf _ hkind)]
      exact .leaf rfl rfl
  | literal hkind value hvalue hread =>
      have hweight : (Node.expr (value r.source)).weight w = 0 := by
        have hliteral := hvalue r.source
        generalize value r.source = expr at hliteral
        cases hliteral <;> rfl
      rw [hread, htree.sum_literal hkind]
      exact .leaf hweight (hvalue r.source).children_eq
  | template hkind hread =>
      rw [hread]
      exact h.template htree hkind
  | array hkind hread =>
      have hrule : tree.kind.rule? = some (.parts .many) := by rw [hkind]; rfl
      obtain ⟨htotal, hparts, -⟩ := htree.total_parts (Tree.on_of_plain w r.source) hrule rfl
      rw [Tree.on_eq_zero w r.source (by rw [hkind]; decide), Nat.zero_add] at htotal
      rw [hread, htotal]
      exact .plain rfl (h.exprs fun part hpart => (hparts part hpart).1)
  | object hkind hread =>
      rw [hread]
      exact h.object htree hkind
  | function hkind hread =>
      rw [hread]
      refine h.ownFunction htree ?_ ?_
      · rcases hkind with hkind | hkind | hkind <;> rw [hkind] <;> decide
      · rcases hkind with hkind | hkind | hkind <;> rw [hkind] <;> decide
  | call hkind hread =>
      have hrule : tree.kind.rule? = some (.fields [.any .function,
          .of .arguments [.arguments, .templateString], .chain]) := by rw [hkind]; rfl
      have htotal : tree.total (w.on r.source) = w.on r.source tree +
          (tree.totalIn (w.on r.source) .function +
            (tree.totalIn (w.on r.source) .arguments +
              (tree.totalIn (w.on r.source) .optionalChain + 0))) :=
        htree.total_fields (Tree.on_of_plain w r.source) hrule
      rw [htree.totalIn_chain hrule (by simp [Rule.fields]) (by rw [hkind]; rfl)] at htotal
      have hon : w.on r.source tree =
          ((tree.child? .function).bind (Tree.namedBy? r.source)).elim 0 w.call := by
        rw [Weights.on, Tree.called?, Tree.declared?, hkind, if_neg (by decide)]
        rfl
      rw [hread]
      refine (h.call htree (by rw [hkind]; rfl) (by rw [hkind]; rfl) fun part hpart => ?_).congr
        (by omega)
      simpa [Slot.of] using
        htree.admits_of_child? hrule (List.mem_cons_of_mem _ List.mem_cons_self) hpart
  | new hkind hread =>
      have hrule : tree.kind.rule? = some (.fields [.any .constructor,
          .of .arguments [.arguments]]) := by rw [hkind]; rfl
      have htotal : tree.total (w.on r.source) = w.on r.source tree +
          (tree.totalIn (w.on r.source) .constructor +
            (tree.totalIn (w.on r.source) .arguments + 0)) :=
        htree.total_fields (Tree.on_of_plain w r.source) hrule
      have hon : w.on r.source tree =
          ((tree.child? .constructor).bind (Tree.namedBy? r.source)).elim 0 w.call := by
        rw [Weights.on, Tree.called?, Tree.declared?, hkind, if_neg (by decide)]
        rfl
      rw [hread]
      refine .plain rfl ((h.call htree (by rw [hkind]; rfl) (by rw [hkind]; rfl)
        fun part hpart => .inl ?_).congr (by omega))
      simpa [Slot.of] using
        htree.admits_of_child? hrule (List.mem_cons_of_mem _ List.mem_cons_self) hpart
  | member hkind hmember hread =>
      have hrule : tree.kind.rule? = some (.fields [.any .object,
          .of .property [.propertyIdentifier, .privatePropertyIdentifier], .chain]) := by
        rw [hkind]; rfl
      have htotal : tree.total (w.on r.source) = tree.totalIn (w.on r.source) .object +
          (tree.totalIn (w.on r.source) .property +
            (tree.totalIn (w.on r.source) .optionalChain + 0)) :=
        htree.sum_fields (by rw [hkind]; decide) hrule
      rw [htree.totalIn_of hrule (List.mem_cons_of_mem _ List.mem_cons_self)
        (by rw [hkind]; rfl) (by decide),
        htree.totalIn_chain hrule (by simp [Rule.fields]) (by rw [hkind]; rfl)] at htotal
      rw [hread, htotal]
      exact .plain rfl (h.requiredIn .object htree (by rw [hkind]; rfl))
  | subscript hkind hread =>
      have hrule : tree.kind.rule? = some (.fields [.any .object, .any .index, .chain]) := by
        rw [hkind]; rfl
      have htotal : tree.total (w.on r.source) = tree.totalIn (w.on r.source) .object +
          (tree.totalIn (w.on r.source) .index +
            (tree.totalIn (w.on r.source) .optionalChain + 0)) :=
        htree.sum_fields (by rw [hkind]; decide) hrule
      rw [htree.totalIn_chain hrule (by simp [Rule.fields]) (by rw [hkind]; rfl)] at htotal
      rw [hread]
      exact .plain rfl (((h.requiredIn .object htree (by rw [hkind]; rfl)).append
        (h.requiredIn .index htree (by rw [hkind]; rfl))).congr htotal)
  | binary hkind op hread =>
      have hrule : tree.kind.rule? = some (.fields [.any .left, .any .right]) := by
        rcases hkind with hkind | hkind | hkind <;> rw [hkind] <;> rfl
      have hplain : tree.kind ∉ Tree.tellingKinds := by
        rcases hkind with hkind | hkind | hkind <;> rw [hkind] <;> decide
      have hreads : tree.kind.reads .left = true ∧ tree.kind.reads .right = true := by
        rcases hkind with hkind | hkind | hkind <;> rw [hkind] <;> decide
      have htotal : tree.total (w.on r.source) = tree.totalIn (w.on r.source) .left +
          (tree.totalIn (w.on r.source) .right + 0) := htree.sum_fields hplain hrule
      rw [hread]
      exact .plain rfl (((h.requiredIn .right htree hreads.2).append
        (h.requiredIn .left htree hreads.1)).congr (by omega))
  | unary hkind op hread =>
      have hrule : tree.kind.rule? = some (.fields [.any .argument]) := by
        rcases hkind with hkind | hkind <;> rw [hkind] <;> rfl
      have hplain : tree.kind ∉ Tree.tellingKinds := by
        rcases hkind with hkind | hkind <;> rw [hkind] <;> decide
      have hreads : tree.kind.reads .argument = true := by
        rcases hkind with hkind | hkind <;> rw [hkind] <;> decide
      have htotal : tree.total (w.on r.source) = tree.totalIn (w.on r.source) .argument + 0 :=
        htree.sum_fields hplain hrule
      rw [hread]
      exact .plain rfl ((h.requiredIn .argument htree hreads).congr htotal)
  | await hkind hread =>
      obtain ⟨htotal, hfirst⟩ := htree.sum_firstPart (w := w) (by rw [hkind]; decide)
        (by rw [hkind]; rfl)
      rw [hread, htotal]
      exact .plain rfl (h.required tree hfirst)
  | ternary hkind hread =>
      have hrule : tree.kind.rule? = some (.fields [.any .condition, .any .consequence,
          .any .alternative]) := by rw [hkind]; rfl
      have htotal : tree.total (w.on r.source) = tree.totalIn (w.on r.source) .condition +
          (tree.totalIn (w.on r.source) .consequence +
            (tree.totalIn (w.on r.source) .alternative + 0)) :=
        htree.sum_fields (by rw [hkind]; decide) hrule
      rw [hread]
      exact .plain rfl (((h.requiredIn .condition htree (by rw [hkind]; rfl)).append
        ((h.requiredIn .consequence htree (by rw [hkind]; rfl)).append
          (h.requiredIn .alternative htree (by rw [hkind]; rfl)))).congr htotal)
  | paren hkind hinner hread =>
      obtain ⟨htotal, hfirst⟩ := htree.sum_firstPart (w := w) (by rw [hkind]; decide)
        (by rw [hkind]; rfl)
      rw [hread, htotal, hinner]
      exact .plain rfl (h.expression _ (hfirst _ hinner))
  | sequence hkind hread =>
      rw [hread]
      exact h.sequence htree hkind
  | unsupported hread =>
      rw [hread]
      exact .unsupported rfl

/-- A node is read as a name only if it is one. -/
theorem identName?_readExpression {tree : Tree} (htree : tree.Grammatical r.source)
    (hsupported : (Node.expr (r.readExpression tree)).Supported) :
    (r.readExpression tree).identName? = tree.namedBy? r.source := by
  have hnone : tree.kind ∉ Kind.parenthesizedExpression :: namingKinds →
      tree.namedBy? r.source = none := by
    intro hkind
    rw [List.mem_cons, not_or] at hkind
    rw [Tree.namedBy?_eq, if_neg hkind.1, if_neg hkind.2]
  cases expressionForm tree with
  | ident hkind hread =>
      have hparen : tree.kind ≠ .parenthesizedExpression := by
        intro heq
        rw [heq] at hkind
        exact absurd hkind (by decide)
      rw [hread, Tree.namedBy?_eq, if_neg hparen, if_pos hkind]
      rfl
  | paren hkind hinner hread =>
      obtain ⟨-, hfirst⟩ := htree.sum_firstPart (w := w) (by rw [hkind]; decide)
        (by rw [hkind]; rfl)
      rw [hread] at hsupported ⊢
      rw [Tree.namedBy?_eq, if_pos hkind, hinner, Option.bind_some]
      exact h.name _ (hfirst _ hinner) (hsupported.child (by simp [Node.children]))
  | unsupported hread =>
      rw [hread] at hsupported
      cases hsupported.self
  | literal hkind value hvalue hread =>
      have hother : ∀ kind ∈ literalKinds, kind ∉ Kind.parenthesizedExpression :: namingKinds := by
        decide
      rw [hread, hnone (hother _ hkind), (hvalue r.source).identName?_eq]
  | template hkind hread =>
      rw [hread, hnone (by rw [hkind]; decide)]
      unfold Reading.template
      split
      · rfl
      · exact Expr.identName?_foldl _ _ rfl
  | sequence hkind hread =>
      have hrule : tree.kind.rule? = some (.parts .several) := by rw [hkind]; rfl
      obtain ⟨-, -, hcount⟩ := htree.total_parts (Tree.on_of_plain w r.source) hrule rfl
      rw [hread, hnone (by rw [hkind]; decide)]
      -- A single operand would be read as itself, and could be a name.
      unfold Reading.sequence
      generalize tree.parts = parts at hcount
      rcases parts with - | ⟨first, - | ⟨second, more⟩⟩
      · cases hcount
      · cases hcount
      · have hjoined : (Expr.binary "," (r.expression first) (r.expression second)).identName? =
          none := rfl
        exact Expr.identName?_foldl _ (more.map r.expression) hjoined
  | function hkind hread =>
      rw [hread, hnone (by rcases hkind with hkind | hkind | hkind <;> rw [hkind] <;> decide)]
      rfl
  | binary hkind op hread =>
      rw [hread, hnone (by rcases hkind with hkind | hkind | hkind <;> rw [hkind] <;> decide)]
      rfl
  | unary hkind op hread =>
      rw [hread, hnone (by rcases hkind with hkind | hkind <;> rw [hkind] <;> decide)]
      rfl
  | array hkind hread | object hkind hread | call hkind hread | new hkind hread
  | member hkind _ hread | subscript hkind hread | await hkind hread | ternary hkind hread =>
      rw [hread, hnone (by rw [hkind]; decide)]
      rfl

end Conserving

theorem conserving_within (source : SourceText) (w : Weights) (levels : Nat) :
    (within source levels).Conserving w := by
  induction levels with
  | zero =>
      -- With no level left there is only the mark, which is unsupported.
      exact ⟨fun _ _ => .unsupported rfl, fun _ _ => .unsupported rfl,
        fun _ _ hsupported => nomatch hsupported.self⟩
  | succ levels ih =>
      exact ⟨fun _ htree => ih.readStatement htree, fun _ htree => ih.readExpression htree,
        fun _ htree => ih.identName?_readExpression htree⟩

end Reading

/-! ## Scripts of grammatical trees -/

/-- In a script without an unsupported node as much is called and declared as in its tree. -/
theorem Func.sum_nodes_ofTree (w : Weights) {source : SourceText} {depth : Nat} {tree : Tree}
    (hprogram : tree.kind = .program) (htree : tree.Grammatical source)
    (hsupported : ∀ node ∈ (Func.ofTree source depth tree).nodes, node.unsupportedKind? = none) :
    ((Func.ofTree source depth tree).nodes.map (Node.weight w)).sum =
      tree.total (w.on source) := by
  have hyields := (Reading.conserving_within source w depth).statementsIn htree
    (by rw [hprogram]; decide) (by rw [hprogram]; rfl)
  have hnodes : (Func.ofTree source depth tree).nodes =
      (((Reading.within source depth).statementsIn tree).map .stmt).flatMap Node.nodes := by
    rw [Func.nodes_eq, List.flatMap_map]
    rfl
  rw [hnodes] at hsupported ⊢
  rw [Node.sum_flatMap_nodes]
  exact hyields fun node hnode other hother =>
    hsupported other (List.mem_flatMap.mpr ⟨node, hnode, hother⟩)

theorem sum_indicator {α : Type} (items : List α) (tell? : α → Option String) (name : String) :
    (items.map fun item => (tell? item).elim 0 fun told => if told = name then 1 else 0).sum =
      items.countP fun item => tell? item = some name := by
  induction items with
  | nil => rfl
  | cons item items ih =>
      rw [List.map_cons, List.sum_cons, ih, List.countP_cons, Nat.add_comm]
      congr 1
      cases tell? item <;> simp

theorem elim_zero {α : Type} (told? : Option α) : told?.elim 0 (fun _ => 0) = 0 := by
  cases told? <;> rfl

namespace Weights

def calls (name : String) : Weights := ⟨fun told => if told = name then 1 else 0, fun _ => 0, rfl⟩

def functions (name : String) (h : name ≠ Func.wrapperName) : Weights :=
  ⟨fun _ => 0, fun told => if told = name then 1 else 0, if_neg h.symm⟩

end Weights

namespace Func

variable {source : SourceText} {depth : Nat} {tree : Tree} {options : ScanOptions}

theorem count_invocations_ofTree (hprogram : tree.kind = .program)
    (htree : tree.Grammatical source)
    (hok : ((ofTree source depth tree).references options).result = .ok ()) (name : String) :
    ((ofTree source depth tree).references options).references.toList.count ⟨.invocation, name⟩ =
      tree.nodes.countP fun node => node.called? source = some name := by
  have hsum := sum_nodes_ofTree (.calls name) hprogram htree (supported_of_ok hok)
  unfold Node.weight Tree.total Weights.on Weights.calls at hsum
  simp only [elim_zero, Nat.add_zero, sum_indicator] at hsum
  rw [count_references_of_ok hok, ownReferences, Reference.count_map_mk, if_neg (by decide),
    Nat.zero_add, ← hsum]
  exact count_flatMap_toList Node.invoked? _ name

theorem count_declarations_ofTree (hprogram : tree.kind = .program)
    (htree : tree.Grammatical source)
    (hok : ((ofTree source depth tree).references options).result = .ok ()) {name : String}
    (hname : name ≠ wrapperName) :
    ((ofTree source depth tree).references options).references.toList.count ⟨.declaration, name⟩ =
      tree.nodes.countP fun node => node.declared? source = some name := by
  have hsum := sum_nodes_ofTree (.functions name hname) hprogram htree (supported_of_ok hok)
  unfold Node.weight Tree.total Weights.on Weights.functions at hsum
  simp only [elim_zero, Nat.zero_add, sum_indicator] at hsum
  have hown : (ofTree source depth tree).declared? = none := by
    rw [declared?]
    rfl
  have htold : ∀ node : Node, node.told options .declaration =
      (node.func?.bind declared?).toList := by
    intro node
    cases hfunc : node.func? <;> simp [Node.told, hfunc]
  rw [count_references_of_ok hok, ownReferences, hown]
  simp only [htold]
  rw [← hsum, ← count_flatMap_toList]
  simp

end Func

namespace Graph

/-- A scan of a grammatical source that ends well loses and doubles nothing. To every name lead as
many edges of calls as the tree has calls and new objects that name it, whatever parentheses stand
around the name, and as many edges of declarations as it has functions and methods of that name;
parameters, first values in loops over a collection and marks in front of methods do not count. -/
theorem scan_conserves_relations {graph : Graph} (hgraph : graph.Reachable) (path : String)
    (options : ScanOptions) (source : SourceText) (depth : Nat) {tree : Tree}
    (hprogram : tree.kind = .program) (htree : tree.Grammatical source)
    (hok : (graph.scan path options (Func.ofTree source depth tree)).1.result = .ok ()) :
    ∃ added : List Edge,
      (graph.scan path options (Func.ofTree source depth tree)).2.edges.toList =
        graph.edges.toList ++ added ∧
      (∀ edge ∈ added, (graph.scan path options (Func.ofTree source depth tree)).2.nameAt?
        edge.source = some (Path.moduleName path)) ∧
      ∀ name,
        (graph.scan path options (Func.ofTree source depth tree)).2.countTo added .invocation name =
          (tree.nodes.countP fun node => node.called? source = some name) ∧
        (name ≠ "runScript" →
          (graph.scan path options (Func.ofTree source depth tree)).2.countTo added .declaration
            name = tree.nodes.countP fun node => node.declared? source = some name) := by
  obtain ⟨added, hadded, hsource, hcount⟩ :=
    hgraph.wellFormed.exists_added_scan path options (Func.ofTree source depth tree)
  refine ⟨added, hadded, hsource, fun name => ⟨?_, fun hname => ?_⟩⟩
  · rw [hcount]
    exact Func.count_invocations_ofTree hprogram htree hok name
  · rw [hcount]
    exact Func.count_declarations_ofTree hprogram htree hok hname

/-- A script that calls `f` in parentheses, in a loop's first clause, as a new object and within a
template, and names a method after it. -/
def callsOfF : SourceText := .ofBytes
  ("function f(a = f()) \x7b return \x7b f() \x7b\x7d, k: x => (f)(x) \x7d; \x7d" ++
    "for (let i = f(); i;) new f, h`$\x7bf(1)\x7d`;").toUTF8.toList

theorem scan_callsOfF_conserves_relations :
    ∃ tree, parse? callsOfF.glyphs.toList = some tree ∧ empty.Reachable ∧ tree.kind = .program ∧
      tree.Grammatical callsOfF ∧
      (empty.scan "m.js" .standard (Func.ofTree callsOfF 1024 tree)).1.result = .ok () ∧
      ∃ added,
        (empty.scan "m.js" .standard (Func.ofTree callsOfF 1024 tree)).2.edges.toList =
          empty.edges.toList ++ added ∧
        (empty.scan "m.js" .standard (Func.ofTree callsOfF 1024 tree)).2.countTo added .invocation
          "f" = 4 ∧
        (empty.scan "m.js" .standard (Func.ofTree callsOfF 1024 tree)).2.countTo added .declaration
          "f" = 2 := by
  have hparsed : ((parse? callsOfF.glyphs.toList).map fun tree => (tree.kind,
      decide (tree.Grammatical callsOfF),
      (empty.scan "m.js" .standard (Func.ofTree callsOfF 1024 tree)).1.result,
      (tree.nodes.countP fun node => node.called? callsOfF = some "f"),
      tree.nodes.countP fun node => node.declared? callsOfF = some "f")) =
        some (.program, true, .ok (), 4, 2) := by decide +kernel
  obtain ⟨tree, htree, hfacts⟩ := Option.map_eq_some_iff.mp hparsed
  obtain ⟨hkind, hgrammatical, hok, hcalls, hdeclared⟩ := by
    simpa only [Prod.mk.injEq, decide_eq_true_eq] using hfacts
  obtain ⟨added, hadded, -, hcount⟩ := scan_conserves_relations .empty "m.js" .standard callsOfF
    1024 hkind hgrammatical hok
  refine ⟨tree, htree, .empty, hkind, hgrammatical, hok, added, hadded, ?_, ?_⟩
  · rw [(hcount "f").1, hcalls]
  · rw [(hcount "f").2 (by decide), hdeclared]

end Graph

end ScriptGraph
