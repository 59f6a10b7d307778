import Mathlib.Data.List.Forall2
import ScriptGraph.Proofs.Reading.Shape

/-!
# Trees that no reading tells apart

A reading looks at a node in few ways: at its kind and its stretch of the source,
at the part in a field, at its parts in order and, if it is a function, at the
names of its parameters. Whatever relation between trees says that two nodes look
the same in these ways, and that their parts are related again, the trees it
relates have the same script within every bound.
-/

namespace ScriptGraph

open Source

theorem map_eq_of_forall₂ {α β : Type} {R : α → α → Prop} {f : α → β} {items others : List α}
    (h : List.Forall₂ R items others) (hf : ∀ a b, R a b → f b = f a) :
    others.map f = items.map f := by
  induction h with
  | nil => rfl
  | cons hrel _ ih => rw [List.map_cons, List.map_cons, hf _ _ hrel, ih]

theorem map_eq_of_rel {α β : Type} {R : α → α → Prop} {f : α → β} {item? other? : Option α}
    (h : Option.Rel R item? other?) (hf : ∀ a b, R a b → f b = f a) :
    other?.map f = item?.map f := by
  cases h with
  | none => rfl
  | some hrel => rw [Option.map_some, Option.map_some, hf _ _ hrel]

theorem rel_head?_of_forall₂ {α : Type} {R : α → α → Prop} {items others : List α}
    (h : List.Forall₂ R items others) : Option.Rel R items.head? others.head? := by
  cases h with
  | nil => exact .none
  | cons hrel _ => exact .some hrel

theorem forall₂_eraseP {α : Type} {R : α → α → Prop} {p : α → Bool} {items others : List α}
    (h : List.Forall₂ R items others) (hp : ∀ a b, R a b → p b = p a) :
    List.Forall₂ R (items.eraseP p) (others.eraseP p) := by
  induction h with
  | nil => exact .nil
  | @cons item _ _ _ hrel hrest ih =>
      rw [List.eraseP_cons, List.eraseP_cons, hp _ _ hrel]
      cases p item with
      | true => exact hrest
      | false => exact .cons hrel ih

theorem SourceText.text_congr (source : SourceText) {tree other : Tree}
    (h : other.span = tree.span) : source.text other = source.text tree := by
  rw [text, text, h]

namespace Source.Tree

/-- Two relations between nodes that a reading cannot tell apart. The parts of close nodes
correspond to each other; of nodes that are only alike the parts may differ, if the nodes are lists
of parameters. -/
structure Likeness (Like Close : Tree → Tree → Prop) : Prop where
  like_of_close : ∀ {tree other}, Close tree other → Like tree other
  close_of_like : ∀ {tree other}, Like tree other → tree.kind ≠ .formalParameters →
    Close tree other
  kind_eq : ∀ {tree other}, Like tree other → other.kind = tree.kind
  span_eq : ∀ {tree other}, Like tree other → other.span = tree.span
  child? : ∀ {tree other}, Close tree other → ∀ field, field ≠ .parameters →
    Option.Rel Close (tree.child? field) (other.child? field)
  parts : ∀ {tree other}, Close tree other → List.Forall₂ Like tree.parts other.parts
  partsWithout : ∀ {tree other}, Close tree other → ∀ field,
    List.Forall₂ Like (tree.partsWithout field) (other.partsWithout field)
  /-- Cases are read as cases whatever their kind is, so they have to be close. -/
  cases : ∀ {tree other}, Close tree other → tree.kind = .switchStatement →
    Option.Rel (fun body body' => List.Forall₂ Close body.parts body'.parts)
      (tree.child? .body) (other.child? .body)
  params : ∀ {tree other}, Close tree other → tree.kind ∈ functionKinds → ∀ r : Reading,
    r.params other = r.params tree

namespace Likeness

variable {Like Close : Tree → Tree → Prop} (h : Likeness Like Close)
  {tree other : Tree} (htree : Close tree other)

include h htree

theorem close_kind : other.kind = tree.kind := h.kind_eq (h.like_of_close htree)

theorem close_span : other.span = tree.span := h.span_eq (h.like_of_close htree)

theorem part? (field : Field) (hfield : field ≠ .parameters) :
    Option.Rel Like (tree.child? field) (other.child? field) := by
  have hpart := h.child? htree field hfield
  generalize tree.child? field = part?, other.child? field = part'? at hpart
  cases hpart with
  | none => exact .none
  | some hpart => exact .some (h.like_of_close hpart)

theorem firstPart? : Option.Rel Like tree.firstPart? other.firstPart? :=
  rel_head?_of_forall₂ (h.parts htree)

end Likeness

end Source.Tree

namespace Reading

/-- The reading makes the same of parts that are alike. -/
structure Blind (r : Reading) (Like Close : Tree → Tree → Prop) : Prop
    extends Tree.Likeness Like Close where
  statement : ∀ {tree other : Tree}, Like tree other → r.statement other = r.statement tree
  expression : ∀ {tree other : Tree}, Like tree other → r.expression other = r.expression tree

namespace Blind

variable {r : Reading} {Like Close : Tree → Tree → Prop} (h : r.Blind Like Close)

include h

/-! ### Parts -/

theorem statementsIn {tree other : Tree} (htree : Close tree other) :
    r.statementsIn other = r.statementsIn tree := by
  rw [Reading.statementsIn, Reading.statementsIn, List.flatMap_def, List.flatMap_def,
    map_eq_of_forall₂ (h.parts htree) fun _ _ => h.statement]

theorem body {tree other : Tree} (htree : Like tree other) : r.body other = r.body tree := by
  rw [Reading.body, Reading.body, h.kind_eq htree, h.statement htree]
  split
  · rename_i hkind
    exact h.statementsIn (h.close_of_like htree (by simp_all))
  · rfl

theorem body? {tree? other? : Option Tree} (htree : Option.Rel Like tree? other?) :
    r.body? other? = r.body? tree? := by
  cases htree with
  | none => rfl
  | some htree => exact h.body htree

theorem expr? {tree? other? : Option Tree} (htree : Option.Rel Like tree? other?) :
    other?.map r.expression = tree?.map r.expression :=
  map_eq_of_rel htree fun _ _ => h.expression

theorem exprs {tree other : Tree} (htree : Close tree other) :
    other.parts.map r.expression = tree.parts.map r.expression :=
  map_eq_of_forall₂ (h.parts htree) fun _ _ => h.expression

theorem required {parent parent' : Tree} (hparent : Close parent parent')
    {part? part'? : Option Tree} (hpart : Option.Rel Like part? part'?) :
    r.required parent' part'? = r.required parent part? := by
  cases hpart with
  | none => rw [Reading.required, Reading.required, h.close_kind hparent]
  | some hpart => exact h.expression hpart

theorem condition {tree other : Tree} (htree : Like tree other) :
    r.condition other = r.condition tree := by
  rw [Reading.condition, Reading.condition, h.kind_eq htree, h.expression htree]
  split
  · rename_i hkind
    have hinner := h.firstPart? (h.close_of_like htree (by simp_all))
    generalize tree.firstPart? = inner?, other.firstPart? = inner'? at hinner
    cases hinner with
    | none => rfl
    | some hinner => exact h.expression hinner
  · rfl

theorem requiredCondition {parent parent' : Tree} (hparent : Close parent parent')
    {part? part'? : Option Tree} (hpart : Option.Rel Like part? part'?) :
    r.requiredCondition parent' part'? = r.requiredCondition parent part? := by
  cases hpart with
  | none => rw [Reading.requiredCondition, Reading.requiredCondition, h.close_kind hparent]
  | some hpart => exact h.condition hpart

/-! ### Statements -/

theorem declarator {tree other : Tree} (htree : Like tree other) :
    r.declarator other = r.declarator tree := by
  rw [Reading.declarator, Reading.declarator, h.kind_eq htree]
  split
  · rename_i hkind
    have hclose := h.close_of_like htree (by simp_all)
    rw [h.expr? (h.part? hclose .value (by decide))]
    have hname := h.child? hclose .name (by decide)
    generalize tree.child? .name = name?, other.child? .name = name'? at hname
    cases hname with
    | none => rfl
    | some hname => simp only [h.close_kind hname, r.source.text_congr (h.close_span hname)]
  · rfl

theorem declarators {tree other : Tree} (htree : Close tree other) :
    r.declarators other = r.declarators tree :=
  map_eq_of_forall₂ (h.parts htree) fun _ _ => h.declarator

theorem function {tree other : Tree} (htree : Close tree other)
    (hkind : tree.kind ∈ Tree.functionKinds) : r.function other = r.function tree := by
  have hmadeUp : madeUpName other = madeUpName tree := by
    rw [madeUpName, h.close_span htree, madeUpName]
  have hname : r.functionName other = r.functionName tree := by
    have hname := h.child? htree .name (by decide)
    rw [functionName, functionName, hmadeUp]
    generalize tree.child? .name = name?, other.child? .name = name'? at hname
    cases hname with
    | none => rfl
    | some hname => simp only [h.close_kind hname, r.source.text_congr (h.close_span hname)]
  have hbody : r.functionBody other = r.functionBody tree := by
    have hbody := h.child? htree .body (by decide)
    rw [functionBody, functionBody]
    generalize tree.child? .body = body?, other.child? .body = body'? at hbody
    cases hbody with
    | none => rfl
    | some hbody =>
        simp only [h.close_kind hbody, h.statementsIn hbody, h.expression (h.like_of_close hbody)]
  rw [Reading.function, Reading.function, hname, hbody, h.params htree hkind r]

theorem clause {tree other : Tree} (htree : Close tree other) :
    r.clause other = r.clause tree := by
  rw [Reading.clause, Reading.clause, h.close_kind htree, h.expr? (h.firstPart? htree),
    h.declarators htree, h.expression (h.like_of_close htree)]

theorem clause? {tree? other? : Option Tree} (htree : Option.Rel Close tree? other?) :
    r.clause? other? = r.clause? tree? := by
  cases htree with
  | none => rfl
  | some htree => exact h.clause htree

theorem loop {tree other : Tree} (htree : Close tree other) : r.loop other = r.loop tree := by
  rw [Reading.loop, Reading.loop, h.clause? (h.child? htree .initializer (by decide)),
    h.clause? (h.child? htree .condition (by decide)),
    h.expr? (h.part? htree .increment (by decide)), h.body? (h.part? htree .body (by decide))]

theorem handler {tree other : Tree} (htree : Close tree other) :
    r.handler other = r.handler tree := by
  rw [Reading.handler, Reading.handler, h.body? (h.part? htree .body (by decide))]
  have hname := h.child? htree .parameter (by decide)
  generalize tree.child? .parameter = name?, other.child? .parameter = name'? at hname
  cases hname with
  | none => rfl
  | some hname => simp only [h.close_kind hname, r.source.text_congr (h.close_span hname)]

theorem guarded {tree other : Tree} (htree : Close tree other) :
    r.guarded other = r.guarded tree := by
  rw [Reading.guarded, Reading.guarded, h.body? (h.part? htree .body (by decide)),
    map_eq_of_rel (h.child? htree .handler (by decide)) fun _ _ hclause => by
      rw [h.handler hclause],
    map_eq_of_rel (h.child? htree .finalizer (by decide)) fun _ _ hclause =>
      h.body? (h.part? hclause .body (by decide))]

theorem switchCase {tree other : Tree} (htree : Close tree other) :
    r.switchCase other = r.switchCase tree := by
  rw [Reading.switchCase, Reading.switchCase, h.expr? (h.part? htree .value (by decide)),
    List.flatMap_def, List.flatMap_def,
    map_eq_of_forall₂ (h.partsWithout htree .value) fun _ _ => h.statement]

theorem switch {tree other : Tree} (htree : Close tree other)
    (hkind : tree.kind = .switchStatement) : r.switch other = r.switch tree := by
  rw [Reading.switch, Reading.switch,
    h.requiredCondition htree (h.part? htree .value (by decide))]
  have hcases := h.cases htree hkind
  generalize tree.child? .body = body?, other.child? .body = body'? at hcases
  cases hcases with
  | none => rfl
  | some hcases => simp only [map_eq_of_forall₂ hcases fun _ _ => h.switchCase]

theorem branch {tree other : Tree} (htree : Close tree other) :
    r.branch other = r.branch tree := by
  have helse : ((other.child? .alternative).bind Tree.firstPart?).map r.body =
      ((tree.child? .alternative).bind Tree.firstPart?).map r.body := by
    have hclause := h.child? htree .alternative (by decide)
    generalize tree.child? .alternative = clause?, other.child? .alternative = clause'? at hclause
    cases hclause with
    | none => rfl
    | some hclause => exact map_eq_of_rel (h.firstPart? hclause) fun _ _ => h.body
  rw [Reading.branch, Reading.branch, helse,
    h.requiredCondition htree (h.part? htree .condition (by decide)),
    h.body? (h.part? htree .consequence (by decide))]

theorem readStatement {tree other : Tree} (htree : Like tree other) :
    r.readStatement other = r.readStatement tree := by
  by_cases hlist : tree.kind = .formalParameters
  · simp only [Reading.readStatement, h.kind_eq htree, hlist]
  replace htree := h.close_of_like htree hlist
  unfold Reading.readStatement
  rw [h.close_kind htree]
  cases hkind : tree.kind with
  | expressionStatement =>
      exact congrArg Option.toList (map_eq_of_rel (h.firstPart? htree) fun _ _ hinner => by
        rw [h.expression hinner])
  | variableDeclaration | lexicalDeclaration => exact h.declarators htree
  | functionDeclaration | generatorFunctionDeclaration =>
      have hfunction := h.function htree (by rw [hkind]; decide)
      have hname := h.child? htree .name (by decide)
      generalize tree.child? .name = name?, other.child? .name = name'? at hname
      cases hname with
      | none => rfl
      | some hname => simp only [hfunction, r.source.text_congr (h.close_span hname)]
  | returnStatement => simp only [h.expr? (h.firstPart? htree)]
  | ifStatement => simp only [h.branch htree]
  | forStatement => simp only [h.loop htree]
  | forInStatement =>
      simp only [h.expr? (h.part? htree .left (by decide)),
        h.expr? (h.part? htree .right (by decide)), h.body? (h.part? htree .body (by decide))]
  | whileStatement | doStatement =>
      simp only [h.requiredCondition htree (h.part? htree .condition (by decide)),
        h.body? (h.part? htree .body (by decide))]
  | statementBlock => simp only [h.statementsIn htree]
  | tryStatement => simp only [h.guarded htree]
  | breakStatement | continueStatement =>
      simp only [map_eq_of_rel (h.child? htree .label (by decide)) fun _ _ hlabel =>
        r.source.text_congr (h.close_span hlabel)]
  | throwStatement =>
      have hinner := h.firstPart? htree
      generalize tree.firstPart? = inner?, other.firstPart? = inner'? at hinner
      cases hinner with
      | none => rfl
      | some hinner => simp only [h.expression hinner]
  | switchStatement => simp only [h.switch htree hkind]
  | labeledStatement =>
      have hbody := h.part? htree .body (by decide)
      generalize tree.child? .body = body?, other.child? .body = body'? at hbody
      cases hbody with
      | none => rfl
      | some hbody => exact h.statement hbody
  | _ => rfl

/-! ### Expressions -/

theorem template {tree other : Tree} (htree : Close tree other) :
    r.template other = r.template tree := by
  have hfilter : ∀ p : Kind → Bool, List.Forall₂ Like
      (tree.parts.filter fun part => p part.kind) (other.parts.filter fun part => p part.kind) :=
    fun p => List.rel_filter (fun part part' hpart => by simp only [h.kind_eq hpart])
      (h.parts htree)
  have htext : r.templateText other = r.templateText tree :=
    congrArg String.join (map_eq_of_forall₂ (hfilter (· != .templateSubstitution)) fun _ _ hpart =>
      r.source.text_congr (h.span_eq hpart))
  have hsubstitutions : r.substitutions other = r.substitutions tree := by
    have hkinds := (List.forall₂_and_left _ _).mpr
      ⟨fun part hpart => (List.mem_filter.mp hpart).2, hfilter (· == .templateSubstitution)⟩
    exact map_eq_of_forall₂ (List.rel_filterMap (fun part part' hpart =>
      h.firstPart? (h.close_of_like hpart.2 (by simp_all))) hkinds) fun _ _ => h.expression
  rw [Reading.template, Reading.template, htext, hsubstitutions,
    r.source.text_congr (h.close_span htree)]

theorem sequence {tree other : Tree} (htree : Close tree other) :
    r.sequence other = r.sequence tree := by
  rw [Reading.sequence, Reading.sequence, h.exprs htree, h.close_kind htree]

theorem arguments {tree? other? : Option Tree} (htree : Option.Rel Close tree? other?) :
    r.arguments other? = r.arguments tree? := by
  cases htree with
  | none => rfl
  | some htree =>
      simp only [Reading.arguments, h.close_kind htree, h.exprs htree, h.template htree]

theorem requiredKey {parent parent' : Tree} (hparent : Close parent parent')
    {part? part'? : Option Tree} (hpart : Option.Rel Like part? part'?) :
    r.requiredKey parent' part'? = r.requiredKey parent part? := by
  cases hpart with
  | none => rw [Reading.requiredKey, Reading.requiredKey, h.close_kind hparent]
  | some hpart =>
      rw [Reading.requiredKey, Reading.requiredKey, keyOf, keyOf, h.kind_eq hpart,
        h.expression hpart]
      split
      · rename_i hkind
        have hclose := h.close_of_like hpart (by simp_all)
        exact h.required hclose (h.firstPart? hclose)
      · rfl

theorem property {tree other : Tree} (htree : Like tree other) :
    r.property other = r.property tree := by
  by_cases hlist : tree.kind = .formalParameters
  · simp only [Reading.property, h.kind_eq htree, hlist]
  replace htree := h.close_of_like htree hlist
  unfold Reading.property
  rw [h.close_kind htree]
  cases hkind : tree.kind with
  | pair =>
      simp only [h.requiredKey htree (h.part? htree .key (by decide)),
        h.required htree (h.part? htree .value (by decide))]
  | shorthandPropertyIdentifier => simp only [r.source.text_congr (h.close_span htree)]
  | methodDefinition =>
      simp only [h.requiredKey htree (h.part? htree .name (by decide)),
        h.function htree (by rw [hkind]; decide)]
  | _ => rfl

theorem readExpression {tree other : Tree} (htree : Like tree other) :
    r.readExpression other = r.readExpression tree := by
  by_cases hlist : tree.kind = .formalParameters
  · simp only [Reading.readExpression, h.kind_eq htree, hlist]
  replace htree := h.close_of_like htree hlist
  have htext := r.source.text_congr (h.close_span htree)
  have htext? : ∀ field, field ≠ .parameters →
      r.text? (other.child? field) = r.text? (tree.child? field) := by
    intro field hfield
    have hpart := h.part? htree field hfield
    generalize tree.child? field = part?, other.child? field = part'? at hpart
    cases hpart with
    | none => rfl
    | some hpart => exact r.source.text_congr (h.span_eq hpart)
  have hrequired : ∀ field, field ≠ .parameters → r.required other (other.child? field) =
      r.required tree (tree.child? field) := fun field hfield =>
    h.required htree (h.part? htree field hfield)
  unfold Reading.readExpression
  rw [h.close_kind htree]
  cases hkind : tree.kind with
  | identifier | thisExpression | superExpression | undefinedExpression | propertyIdentifier
  | privatePropertyIdentifier | shorthandPropertyIdentifier | string | number =>
      simp only [htext]
  | templateString => exact h.template htree
  | regex => simp (disch := decide) only [htext?]
  | array => simp only [h.exprs htree]
  | object => simp only [map_eq_of_forall₂ (h.parts htree) fun _ _ => h.property]
  | functionExpression | generatorFunction | arrowFunction =>
      simp only [h.function htree (by rw [hkind]; decide)]
  | callExpression | newExpression =>
      simp (disch := decide) only [hrequired, h.arguments (h.child? htree .arguments (by decide))]
  | memberExpression =>
      have hmember := h.part? htree .property (by decide)
      generalize tree.child? .property = member?, other.child? .property = member'? at hmember
      cases hmember with
      | none => rfl
      | some hmember =>
          simp (disch := decide) only [hrequired, r.source.text_congr (h.span_eq hmember)]
  | subscriptExpression | assignmentExpression | augmentedAssignmentExpression | binaryExpression
  | unaryExpression | updateExpression | ternaryExpression =>
      simp (disch := decide) only [htext?, hrequired]
  | awaitExpression => simp only [h.required htree (h.firstPart? htree)]
  | parenthesizedExpression =>
      have hinner := h.firstPart? htree
      generalize tree.firstPart? = inner?, other.firstPart? = inner'? at hinner
      cases hinner with
      | none => rfl
      | some hinner => simp only [h.expression hinner]
  | sequenceExpression => exact h.sequence htree
  | _ => rfl

end Blind

end Reading

namespace Source.Tree.Likeness

variable {Like Close : Tree → Tree → Prop} (h : Likeness Like Close)

include h

theorem blind_within (source : SourceText) (levels : Nat) :
    (Reading.within source levels).Blind Like Close := by
  induction levels with
  | zero => exact ⟨h, fun _ => rfl, fun _ => rfl⟩
  | succ levels ih => exact ⟨h, ih.readStatement, ih.readExpression⟩

/-- Trees that no reading tells apart have one script. -/
theorem ofTree_eq {tree other : Tree} (htree : Close tree other) (source : SourceText)
    (depth : Nat) : Func.ofTree source depth other = Func.ofTree source depth tree :=
  congrArg Func.wrapper ((h.blind_within source depth).statementsIn htree)

end Source.Tree.Likeness

end ScriptGraph
