import ScriptGraph.Proofs.Reading.Shape

/-!
# What scripts of trees look like

The type of scripts has room for more than a reading ever makes: functions
without names, cases outside of a switch, any number of handlers in any place,
unsupported nodes of any kind. A reading uses none of it. One lemma for each
part of a reading says that what it makes of a node is regular if what it makes
of the node's parts is, and induction on the levels does the rest.
-/

namespace ScriptGraph

open Source

/-! ## Nodes and names of a tree -/

namespace Source.Tree

/-- A node of a tree: the tree itself, or a part of one of its nodes. -/
inductive Holds (tree : Tree) : Tree → Prop
  | self : Holds tree tree
  | part {node part : Tree} {place : Option Field} (h : Holds tree node)
      (hpart : (place, part) ∈ node.children) : Holds tree part

namespace Holds

variable {tree node : Tree} (h : tree.Holds node)

include h

theorem child? {field : Field} : ∀ part ∈ node.child? field, tree.Holds part :=
  fun _ hpart => h.part (mem_children_of_child? hpart)

theorem parts : ∀ part ∈ node.parts, tree.Holds part := by
  intro part hpart
  obtain ⟨place, hmem⟩ := mem_children_of_mem_parts hpart
  exact h.part hmem

theorem firstPart? : ∀ part ∈ node.firstPart?, tree.Holds part :=
  fun part hpart => h.parts part (mem_parts_of_firstPart? hpart)

end Holds

/-- A function or method of the tree has the name: the text of an identifier, or of the name of a
property, that stands where its name stands. -/
def Names (source : SourceText) (tree : Tree) (name : String) : Prop :=
  ∃ node part, tree.Holds node ∧ node.kind ∈ functionKinds ∧ node.child? .name = some part ∧
    (part.kind = .identifier ∨ part.kind = .propertyIdentifier) ∧ source.text part = name

end Source.Tree

/-! ## Regular nodes of a script -/

namespace Stmt

def isCase : Stmt → Bool
  | .caseOf _ _ => true
  | _ => false

def isHandler : Stmt → Bool
  | .handler _ _ _ => true
  | _ => false

theorem isHandler_of_isCase {stmt : Stmt} (h : stmt.isCase = true) : stmt.isHandler = false := by
  cases stmt with
  | caseOf => rfl
  | _ => cases h

end Stmt

namespace Node

/-- Whether a node may stand in any block: it is neither a case nor a handler. -/
def isFree : Node → Bool
  | .stmt inner => !inner.isCase && !inner.isHandler
  | .expr _ => true

/-- What is so of every node, and of how nodes stand right below it, in the script of a tree. -/
structure Regular (source : SourceText) (tree : Tree) (node : Node) : Prop where
  /-- A function has a name, one of the tree or a made-up one. -/
  named : ∀ func, node = .expr (.function func) → ∃ name, func.name? = some name ∧
    (tree.Names source name ∨ Func.anonymousMark ∈ name.toList)
  /-- Every entry of a switch is a case. -/
  entries : ∀ subject cases, node = .stmt (.switchOn subject cases) →
    ∀ entry ∈ cases, entry.isCase = true
  /-- Cases stand nowhere else. -/
  casePlace : ∀ stmt, .stmt stmt ∈ node.children → stmt.isCase = true →
    ∃ subject cases, node = .stmt (.switchOn subject cases)
  /-- A `try` has at most one handler block. It holds one statement, a handler without a condition
  or an unsupported one, and the other blocks of the `try` hold no handler. -/
  handlers : ∀ body handlers final, node = .stmt (.tryCatch body handlers final) →
    (handlers = [] ∨ ∃ entry, handlers = [[entry]] ∧
      ((∃ exception inner, entry = .handler exception none inner) ∨
        ∃ kind, entry = .unsupported kind)) ∧
    ∀ stmt ∈ body ++ final.getD [], stmt.isHandler = false
  /-- Handlers stand nowhere else. -/
  handlerPlace : ∀ stmt, .stmt stmt ∈ node.children → stmt.isHandler = true →
    ∃ body handlers final, node = .stmt (.tryCatch body handlers final)
  /-- An unsupported node has the kind of a node of the tree, or was cut off. -/
  origin : ∀ kind, node.unsupportedKind? = some kind →
    kind = nestingKind ∨ ∃ part, tree.Holds part ∧ kind = part.kind.label

/-- Whether a node has a form for which nothing but its place matters. -/
def isPlain : Node → Bool
  | .expr (.function _) => false
  | .expr (.unsupported _) => false
  | .stmt (.switchOn _ _) => false
  | .stmt (.tryCatch _ _ _) => false
  | .stmt (.unsupported _) => false
  | _ => true

/-- A node and all nodes below it are regular. -/
def Settled (source : SourceText) (tree : Tree) (node : Node) : Prop :=
  ∀ inner ∈ node.nodes, inner.Regular source tree

/-- The nodes may stand in any block, and they and all nodes below them are regular. -/
def Sound (source : SourceText) (tree : Tree) (nodes : List Node) : Prop :=
  ∀ node ∈ nodes, node.isFree = true ∧ node.Settled source tree

variable {source : SourceText} {tree : Tree} {nodes : List Node}

theorem isCase_of_isFree {inner : Stmt} (h : (Node.stmt inner).isFree = true) :
    inner.isCase = false := by
  simpa using (Bool.and_eq_true_iff.mp h).1

theorem isHandler_of_isFree {inner : Stmt} (h : (Node.stmt inner).isFree = true) :
    inner.isHandler = false := by
  simpa using (Bool.and_eq_true_iff.mp h).2

theorem Settled.node {node : Node} (hnode : node.Regular source tree)
    (hbelow : ∀ child ∈ node.children, child.Settled source tree) :
    node.Settled source tree := by
  intro inner hinner
  rw [nodes_eq] at hinner
  rcases List.mem_cons.mp hinner with rfl | hinner
  · exact hnode
  · obtain ⟨child, hchild, hinner⟩ := List.mem_flatMap.mp hinner
    exact hbelow child hchild inner hinner

namespace Sound

theorem nil : Sound source tree [] := by simp [Sound]

theorem append {more : List Node} (h : Sound source tree nodes) (hmore : Sound source tree more) :
    Sound source tree (nodes ++ more) :=
  List.forall_mem_append.mpr ⟨h, hmore⟩

theorem singleton {node : Node} (hfree : node.isFree = true) (h : node.Settled source tree) :
    Sound source tree [node] := by
  intro other hother
  obtain rfl := List.mem_singleton.mp hother
  exact ⟨hfree, h⟩

theorem settled (h : Sound source tree nodes) : ∀ node ∈ nodes, node.Settled source tree :=
  fun node hnode => (h node hnode).2

theorem isCase (h : Sound source tree nodes) {inner : Stmt} (hinner : .stmt inner ∈ nodes) :
    inner.isCase = false :=
  isCase_of_isFree (h _ hinner).1

theorem isHandler (h : Sound source tree nodes) {inner : Stmt} (hinner : .stmt inner ∈ nodes) :
    inner.isHandler = false :=
  isHandler_of_isFree (h _ hinner).1

end Sound

/-- A node of a plain form is regular if what is below it may stand in any block. -/
theorem Regular.plain {node : Node} (hplain : node.isPlain = true)
    (hbelow : Sound source tree node.children) : node.Regular source tree where
  named func hnode := by
    subst hnode
    cases hplain
  entries subject cases hnode := by
    subst hnode
    cases hplain
  casePlace inner hinner hcase := by
    rw [hbelow.isCase hinner] at hcase
    cases hcase
  handlers body handlers final hnode := by
    subst hnode
    cases hplain
  handlerPlace inner hinner hhandler := by
    rw [hbelow.isHandler hinner] at hhandler
    cases hhandler
  origin kind hkind := by
    unfold unsupportedKind? at hkind
    split at hkind
    · cases hplain
    · cases hplain
    · cases hkind

theorem Settled.plain {node : Node} (hplain : node.isPlain = true)
    (hbelow : Sound source tree node.children) : node.Settled source tree :=
  .node (.plain hplain hbelow) hbelow.settled

namespace Sound

theorem node {node : Node} (hfree : node.isFree = true) (hplain : node.isPlain = true)
    (hbelow : Sound source tree node.children) : Sound source tree [node] :=
  singleton hfree (.plain hplain hbelow)

theorem unsupported {node : Node} {kind : String} (hkind : node.unsupportedKind? = some kind)
    (horigin : kind = nestingKind ∨ ∃ part, tree.Holds part ∧ kind = part.kind.label) :
    Sound source tree [node] := by
  have hform : node = .stmt (.unsupported kind) ∨ node = .expr (.unsupported kind) := by
    unfold unsupportedKind? at hkind
    split at hkind <;> simp_all
  have hchildren : node.children = [] := by
    rcases hform with rfl | rfl <;> rfl
  have hregular : node.Regular source tree := by
    refine ⟨?_, ?_, ?_, ?_, ?_, ?_⟩
    · rcases hform with rfl | rfl <;> exact nofun
    · rcases hform with rfl | rfl <;> exact nofun
    · simp [hchildren]
    · rcases hform with rfl | rfl <;> exact nofun
    · simp [hchildren]
    · intro other hother
      obtain rfl : kind = other := Option.some.inj (hkind.symm.trans hother)
      exact horigin
  refine singleton ?_ (.node hregular (by simp [hchildren]))
  rcases hform with rfl | rfl <;> rfl

/-- Expressions that are joined one after another to a first one. -/
theorem foldl {op : String} {exprs : List Expr} (hexprs : Sound source tree (exprs.map .expr)) :
    ∀ {first : Expr}, Sound source tree [.expr first] →
      Sound source tree
        [.expr (exprs.foldl (fun left right => Expr.binary op left right) first)] := by
  induction exprs with
  | nil => exact fun hfirst => hfirst
  | cons expr exprs ih =>
      intro first hfirst
      rw [List.map_cons, ← List.singleton_append] at hexprs
      obtain ⟨hexpr, hexprs⟩ := List.forall_mem_append.mp hexprs
      exact ih hexprs (.node rfl rfl (append hexpr hfirst))

end Sound

end Node

/-! ## Readings that make regular nodes -/

open Node

namespace Reading

theorem IsLiteral.isPlain_eq {expr : Expr} (h : IsLiteral expr) :
    (Node.expr expr).isPlain = true := by
  cases h <;> rfl

/-- The blocks of handlers of a `try`. -/
def handlerBlocks (r : Reading) (tree : Tree) : List Block :=
  ((tree.child? .handler).map fun clause => [r.handler clause]).toList

/-- The block that a `try` ends with. -/
def finalBlock? (r : Reading) (tree : Tree) : Option Block :=
  (tree.child? .finalizer).map fun clause => r.body? (clause.child? .body)

theorem guarded_eq (r : Reading) (tree : Tree) :
    r.guarded tree =
      .tryCatch (r.body? (tree.child? .body)) (r.handlerBlocks tree) (r.finalBlock? tree) := rfl

def entries (r : Reading) (tree : Tree) : List Stmt :=
  ((tree.child? .body).map fun body => body.parts.map r.switchCase).getD []

theorem switch_eq (r : Reading) (tree : Tree) :
    r.switch tree =
      .switchOn (r.requiredCondition tree (tree.child? .value)) (r.entries tree) := by
  unfold Reading.switch entries
  cases tree.child? .body <;> rfl

theorem anonymousMark_mem_madeUpName (tree : Tree) :
    Func.anonymousMark ∈ (madeUpName tree).toList := by
  simp [madeUpName, String.toList_append]

/-- What the reading makes of nodes of a tree is sound. -/
structure Keeps (r : Reading) (whole : Tree) : Prop where
  statement : ∀ tree, whole.Holds tree →
    Sound r.source whole ((r.statement tree).map .stmt)
  expression : ∀ tree, whole.Holds tree → Sound r.source whole [.expr (r.expression tree)]

namespace Keeps

variable {r : Reading} {whole tree : Tree} (h : r.Keeps whole)

include h

theorem exprs {trees : List Tree} (htrees : ∀ tree ∈ trees, whole.Holds tree) :
    Sound r.source whole ((trees.map r.expression).map .expr) := by
  intro node hnode
  obtain ⟨expr, hexpr, rfl⟩ := List.mem_map.mp hnode
  obtain ⟨tree, htree, rfl⟩ := List.mem_map.mp hexpr
  exact h.expression tree (htrees tree htree) _ List.mem_cons_self

theorem expr? {tree? : Option Tree} (htree : ∀ tree ∈ tree?, whole.Holds tree) :
    Sound r.source whole ((tree?.map r.expression).toList.map .expr) := by
  rw [Option.toList_map]
  exact h.exprs fun tree hmem => htree tree (Option.mem_toList.mp hmem)

theorem statements {trees : List Tree} (htrees : ∀ tree ∈ trees, whole.Holds tree) :
    Sound r.source whole ((trees.flatMap r.statement).map .stmt) := by
  intro node hnode
  obtain ⟨stmt, hstmt, rfl⟩ := List.mem_map.mp hnode
  obtain ⟨tree, htree, hstmt⟩ := List.mem_flatMap.mp hstmt
  exact h.statement tree (htrees tree htree) _ (List.mem_map_of_mem hstmt)

theorem body (htree : whole.Holds tree) :
    Sound r.source whole ((r.body tree).map .stmt) := by
  unfold Reading.body
  split
  · exact h.statements htree.parts
  · exact h.statement tree htree

theorem body? {tree? : Option Tree} (htree : ∀ tree ∈ tree?, whole.Holds tree) :
    Sound r.source whole ((r.body? tree?).map .stmt) := by
  cases tree? with
  | none => exact .nil
  | some tree => exact h.body (htree tree rfl)

theorem required {parent : Tree} (hparent : whole.Holds parent) {part? : Option Tree}
    (hpart : ∀ part ∈ part?, whole.Holds part) :
    Sound r.source whole [.expr (r.required parent part?)] := by
  cases part? with
  | none => exact .unsupported rfl (.inr ⟨parent, hparent, rfl⟩)
  | some part => exact h.expression part (hpart part rfl)

theorem requiredChild (htree : whole.Holds tree) (field : Field) :
    Sound r.source whole [.expr (r.required tree (tree.child? field))] :=
  h.required htree htree.child?

theorem condition (htree : whole.Holds tree) :
    Sound r.source whole [.expr (r.condition tree)] := by
  unfold Reading.condition
  split
  · cases hinner : tree.firstPart? with
    | none => exact h.expression tree htree
    | some inner => exact h.expression inner (htree.firstPart? inner hinner)
  · exact h.expression tree htree

theorem requiredCondition (htree : whole.Holds tree) (field : Field) :
    Sound r.source whole [.expr (r.requiredCondition tree (tree.child? field))] := by
  cases hpart : tree.child? field with
  | none => exact .unsupported rfl (.inr ⟨tree, htree, rfl⟩)
  | some part => exact h.condition (htree.child? part hpart)

theorem declarator (htree : whole.Holds tree) :
    Sound r.source whole [.stmt (r.declarator tree)] := by
  unfold Reading.declarator
  split
  · cases hname : tree.child? .name with
    | none => exact .unsupported rfl (.inr ⟨tree, htree, rfl⟩)
    | some name =>
        dsimp only
        split
        · exact .node rfl rfl (h.expr? htree.child?)
        · exact .unsupported rfl (.inr ⟨name, htree.child? name hname, rfl⟩)
  · exact .unsupported rfl (.inr ⟨tree, htree, rfl⟩)

theorem declarators (htree : whole.Holds tree) :
    Sound r.source whole ((r.declarators tree).map .stmt) := by
  intro node hnode
  obtain ⟨stmt, hstmt, rfl⟩ := List.mem_map.mp hnode
  obtain ⟨part, hpart, rfl⟩ := List.mem_map.mp hstmt
  exact h.declarator (htree.parts part hpart) _ List.mem_cons_self

/-! ### Functions -/

omit h in
/-- A function is named by a node of the tree or by a made-up name. -/
theorem functionName (r : Reading) (htree : whole.Holds tree)
    (hkind : tree.kind ∈ Tree.functionKinds) :
    whole.Names r.source (r.functionName tree) ∨
      Func.anonymousMark ∈ (r.functionName tree).toList := by
  unfold Reading.functionName
  cases hname : tree.child? .name with
  | none => exact .inr (anonymousMark_mem_madeUpName tree)
  | some name =>
      dsimp only
      split
      · rename_i hidentifier
        refine .inl ⟨tree, name, htree, hkind, hname, ?_, rfl⟩
        simpa using hidentifier
      · exact .inr (anonymousMark_mem_madeUpName tree)

theorem functionBody (htree : whole.Holds tree) :
    Sound r.source whole ((r.functionBody tree).map .stmt) := by
  unfold Reading.functionBody
  cases hbody : tree.child? .body with
  | none => exact .nil
  | some body =>
      have hholds := htree.child? body hbody
      dsimp only
      split
      · exact h.statements hholds.parts
      · exact .node rfl rfl (h.expression body hholds)

theorem function (htree : whole.Holds tree) (hkind : tree.kind ∈ Tree.functionKinds) :
    Sound r.source whole [.expr (.function (r.function tree))] := by
  have hbody := h.functionBody htree
  have hregular : (Node.expr (.function (r.function tree))).Regular r.source whole := by
    refine ⟨?_, nofun, ?_, nofun, ?_, nofun⟩
    · intro func hfunc
      cases hfunc
      exact ⟨r.functionName tree, rfl, functionName r htree hkind⟩
    · intro stmt hstmt hcase
      rw [hbody.isCase hstmt] at hcase
      cases hcase
    · intro stmt hstmt hhandler
      rw [hbody.isHandler hstmt] at hhandler
      cases hhandler
  exact .singleton rfl (.node hregular hbody.settled)

/-! ### Loops, handlers and cases -/

theorem clause? {tree? : Option Tree} (htree : ∀ tree ∈ tree?, whole.Holds tree) :
    Sound r.source whole ((r.clause? tree?).1.map .stmt) ∧
      Sound r.source whole ((r.clause? tree?).2.toList.map .expr) := by
  cases tree? with
  | none => exact ⟨.nil, .nil⟩
  | some tree =>
      have hholds := htree tree rfl
      rw [Reading.clause?]
      cases clauseForm tree with
      | nothing _ hread =>
          rw [hread]
          exact ⟨.nil, .nil⟩
      | statement _ hread =>
          rw [hread]
          exact ⟨.nil, h.expr? hholds.firstPart?⟩
      | declarators _ hread =>
          rw [hread]
          exact ⟨h.declarators hholds, .nil⟩
      | expression hread =>
          rw [hread]
          exact ⟨.nil, h.expression tree hholds⟩

theorem bareLoop (htree : whole.Holds tree) :
    Sound r.source whole [.stmt (r.bareLoop tree)] := by
  refine .node rfl rfl ?_
  rw [Reading.bareLoop, Node.children, List.map_append, List.map_append]
  exact ((h.clause? htree.child?).2.append
    ((h.clause? htree.child?).2.append (h.expr? htree.child?))).append (h.body? htree.child?)

/-- What a loop declares stands in a block with it, as any statement may. -/
theorem loop (htree : whole.Holds tree) : Sound r.source whole [.stmt (r.loop tree)] := by
  rw [loop_eq]
  split
  · exact h.bareLoop htree
  · refine .node rfl rfl ?_
    rw [Node.children, Reading.hoisted, List.map_append, List.map_append]
    exact ((h.clause? htree.child?).1.append (h.clause? htree.child?).1).append
      (h.bareLoop htree)

theorem handler (htree : whole.Holds tree) :
    ((∃ exception inner, r.handler tree = .handler exception none inner) ∨
      ∃ kind, r.handler tree = .unsupported kind) ∧
    (Node.stmt (r.handler tree)).Settled r.source whole := by
  have hbody : Sound r.source whole ((r.body? (tree.child? .body)).map .stmt ++ []) :=
    (h.body? htree.child?).append .nil
  unfold Reading.handler
  cases hname : tree.child? .parameter with
  | none => exact ⟨.inl ⟨_, _, rfl⟩, .plain rfl hbody⟩
  | some name =>
      dsimp only
      split
      · exact ⟨.inl ⟨_, _, rfl⟩, .plain rfl hbody⟩
      · have hunsupported : Sound r.source whole [.stmt (.unsupported name.kind.label)] :=
          .unsupported rfl (.inr ⟨name, htree.child? name hname, rfl⟩)
        exact ⟨.inr ⟨_, rfl⟩, hunsupported.settled _ List.mem_cons_self⟩

/-- A `try` has at most one handler block, with one statement in it. -/
theorem handlerBlocks (htree : whole.Holds tree) :
    (r.handlerBlocks tree = [] ∨ ∃ entry, r.handlerBlocks tree = [[entry]] ∧
      ((∃ exception inner, entry = .handler exception none inner) ∨
        ∃ kind, entry = .unsupported kind)) ∧
    ∀ stmt ∈ (r.handlerBlocks tree).flatten,
      stmt.isCase = false ∧ (Node.stmt stmt).Settled r.source whole := by
  unfold Reading.handlerBlocks
  cases hhandler : tree.child? .handler with
  | none => exact ⟨.inl rfl, by simp⟩
  | some clause =>
      obtain ⟨hform, hsettled⟩ := h.handler (htree.child? clause hhandler)
      refine ⟨.inr ⟨r.handler clause, rfl, hform⟩, fun stmt hstmt => ?_⟩
      obtain rfl : stmt = r.handler clause := by simpa using hstmt
      refine ⟨?_, hsettled⟩
      rcases hform with ⟨exception, inner, heq⟩ | ⟨kind, heq⟩ <;> rw [heq] <;> rfl

theorem finalBlock? (htree : whole.Holds tree) :
    Sound r.source whole (((r.finalBlock? tree).getD []).map .stmt) := by
  unfold Reading.finalBlock?
  cases hfinal : tree.child? .finalizer with
  | none => exact .nil
  | some clause => exact h.body? (htree.child? clause hfinal).child?

theorem guarded (htree : whole.Holds tree) :
    Sound r.source whole [.stmt (r.guarded tree)] := by
  obtain ⟨hform, hhandlers⟩ := h.handlerBlocks htree
  have hpart : ∀ part ∈ tree.child? .body, whole.Holds part := htree.child?
  have hbody := h.body? hpart
  have hfinal := h.finalBlock? htree
  -- A statement right below stands in one of the two blocks, or is the handler.
  have hbelow : ∀ {stmt : Stmt}, .stmt stmt ∈ (Node.stmt (r.guarded tree)).children →
      stmt.isCase = false ∧ (Node.stmt stmt).Settled r.source whole := by
    intro stmt hstmt
    rw [guarded_eq, Node.children, List.map_append, List.map_append, List.mem_append,
      List.mem_append] at hstmt
    rcases hstmt with hstmt | hstmt | hstmt
    · exact ⟨hbody.isCase hstmt, hbody.settled _ hstmt⟩
    · exact hhandlers stmt (by simpa using hstmt)
    · exact ⟨hfinal.isCase hstmt, hfinal.settled _ hstmt⟩
  have hregular : (Node.stmt (r.guarded tree)).Regular r.source whole := by
    refine ⟨nofun, nofun, ?_, ?_, fun _ _ _ => ⟨_, _, _, rfl⟩, nofun⟩
    · intro stmt hstmt hcase
      rw [(hbelow hstmt).1] at hcase
      cases hcase
    · intro body handlers final hguarded
      cases hguarded
      refine ⟨hform, fun stmt hstmt => ?_⟩
      rcases List.mem_append.mp hstmt with hstmt | hstmt
      · exact hbody.isHandler (List.mem_map_of_mem hstmt)
      · exact hfinal.isHandler (List.mem_map_of_mem hstmt)
  refine .singleton rfl (.node hregular fun child hchild => ?_)
  obtain ⟨stmt, -, rfl⟩ := List.mem_map.mp hchild
  exact (hbelow hchild).2

theorem switchCase (htree : whole.Holds tree) :
    (Node.stmt (r.switchCase tree)).Settled r.source whole := by
  refine .plain rfl ((h.expr? htree.child?).append (h.statements fun part hpart => ?_))
  exact htree.parts part (Tree.mem_parts_of_mem_partsWithout hpart)

/-- The entries of a switch are cases. -/
theorem entries (htree : whole.Holds tree) :
    ∀ entry ∈ r.entries tree,
      entry.isCase = true ∧ (Node.stmt entry).Settled r.source whole := by
  intro entry hentry
  unfold Reading.entries at hentry
  cases hbody : tree.child? .body with
  | none => simp [hbody] at hentry
  | some body =>
      rw [hbody, Option.map_some, Option.getD_some] at hentry
      obtain ⟨clause, hclause, rfl⟩ := List.mem_map.mp hentry
      exact ⟨rfl, h.switchCase ((htree.child? body hbody).parts clause hclause)⟩

theorem switch (htree : whole.Holds tree) :
    Sound r.source whole [.stmt (r.switch tree)] := by
  have hentries := h.entries htree
  rw [switch_eq]
  have hregular : (Node.stmt (.switchOn (r.requiredCondition tree (tree.child? .value))
      (r.entries tree))).Regular r.source whole := by
    refine ⟨nofun, ?_, fun _ _ _ => ⟨_, _, rfl⟩, nofun, ?_, nofun⟩
    · intro subject cases hswitch entry hentry
      cases hswitch
      exact (hentries entry hentry).1
    · intro stmt hstmt hhandler
      obtain ⟨entry, hentry, heq⟩ : ∃ entry ∈ r.entries tree, Node.stmt entry = .stmt stmt := by
        simpa [Node.children] using hstmt
      cases heq
      rw [Stmt.isHandler_of_isCase (hentries stmt hentry).1] at hhandler
      cases hhandler
  refine .singleton rfl (.node hregular fun child hchild => ?_)
  rcases List.mem_cons.mp hchild with rfl | hchild
  · exact (h.requiredCondition htree .value).settled _ List.mem_cons_self
  · obtain ⟨entry, hentry, rfl⟩ := List.mem_map.mp hchild
    exact (hentries entry hentry).2

theorem branch (htree : whole.Holds tree) :
    Sound r.source whole [.stmt (r.branch tree)] := by
  refine .node rfl rfl ?_
  rw [Reading.branch, Node.children, List.map_append]
  refine (h.requiredCondition htree .condition).append ((h.body? htree.child?).append ?_)
  cases halternative : tree.child? .alternative with
  | none => exact .nil
  | some clause =>
      rw [Option.bind_some]
      cases hinner : clause.firstPart? with
      | none => exact .nil
      | some inner =>
          exact h.body ((htree.child? clause halternative).firstPart? inner hinner)

theorem readStatement (htree : whole.Holds tree) :
    Sound r.source whole ((r.readStatement tree).map .stmt) := by
  cases statementForm tree with
  | eval _ hread =>
      rw [hread]
      cases hinner : tree.firstPart? with
      | none => exact .nil
      | some inner => exact .node rfl rfl (h.expression inner (htree.firstPart? inner hinner))
  | declarators _ hread =>
      rw [hread]
      exact h.declarators htree
  | function hkind _ hread =>
      have hfunction : tree.kind ∈ Tree.functionKinds := by
        rcases hkind with hkind | hkind <;> simp [hkind, Tree.functionKinds]
      rw [hread]
      exact .node rfl rfl (h.function htree hfunction)
  | ret _ hread =>
      rw [hread]
      exact .node rfl rfl (h.expr? htree.firstPart?)
  | branch _ hread =>
      rw [hread]
      exact h.branch htree
  | loop _ hread =>
      rw [hread]
      exact h.loop htree
  | each _ hread =>
      rw [hread]
      refine .node rfl rfl ?_
      rw [Node.children, List.map_append, List.map_append]
      exact ((h.expr? htree.child?).append ((h.expr? htree.child?).append .nil)).append
        (h.body? htree.child?)
  | whileLoop _ hread =>
      rw [hread]
      exact .node rfl rfl ((h.requiredCondition htree .condition).append (h.body? htree.child?))
  | block _ hread =>
      rw [hread]
      exact .node rfl rfl (h.statements htree.parts)
  | guarded _ hread =>
      rw [hread]
      exact h.guarded htree
  | breakTo _ hread =>
      rw [hread]
      exact .node rfl rfl .nil
  | continueTo _ hread =>
      rw [hread]
      exact .node rfl rfl .nil
  | raise _ hinner hread =>
      rw [hread]
      exact .node rfl rfl (h.expression _ (htree.firstPart? _ hinner))
  | switch _ hread =>
      rw [hread]
      exact h.switch htree
  | labeled _ hbody hread =>
      rw [hread]
      exact h.statement _ (htree.child? _ hbody)
  | nothing _ hread =>
      rw [hread]
      exact .nil
  | unsupported hread =>
      rw [hread]
      exact .unsupported rfl (.inr ⟨tree, htree, rfl⟩)

/-! ### Expressions -/

theorem template (htree : whole.Holds tree) :
    Sound r.source whole [.expr (r.template tree)] := by
  have hparts : Sound r.source whole ((r.substitutions tree).map .expr) := by
    refine h.exprs fun inner hinner => ?_
    obtain ⟨part, hpart, hfirst⟩ := List.mem_filterMap.mp hinner
    exact (htree.parts part (List.mem_filter.mp hpart).1).firstPart? inner hfirst
  unfold Reading.template
  generalize r.substitutions tree = exprs at hparts
  cases exprs with
  | nil => exact .node rfl rfl .nil
  | cons first more => exact .foldl hparts (.node rfl rfl .nil)

theorem sequence (htree : whole.Holds tree) :
    Sound r.source whole [.expr (r.sequence tree)] := by
  have hparts := h.exprs htree.parts
  unfold Reading.sequence
  generalize tree.parts.map r.expression = exprs at hparts
  cases exprs with
  | nil => exact .unsupported rfl (.inr ⟨tree, htree, rfl⟩)
  | cons first more =>
      rw [List.map_cons, ← List.singleton_append] at hparts
      obtain ⟨hfirst, hmore⟩ := List.forall_mem_append.mp hparts
      exact Sound.foldl hmore hfirst

theorem arguments (htree : whole.Holds tree) :
    Sound r.source whole ((r.arguments (tree.child? .arguments)).map .expr) := by
  cases hargs : tree.child? .arguments with
  | none => exact .nil
  | some args =>
      have hholds := htree.child? args hargs
      unfold Reading.arguments
      dsimp only
      split
      · exact h.template hholds
      · exact h.exprs hholds.parts

theorem requiredKey (htree : whole.Holds tree) (field : Field) :
    Sound r.source whole [.expr (r.requiredKey tree (tree.child? field))] := by
  cases hkey : tree.child? field with
  | none => exact .unsupported rfl (.inr ⟨tree, htree, rfl⟩)
  | some key =>
      have hholds := htree.child? key hkey
      change Sound r.source whole [.expr (r.keyOf key)]
      unfold Reading.keyOf
      split
      · exact h.required hholds hholds.firstPart?
      · exact h.expression key hholds

theorem property (htree : whole.Holds tree) :
    Sound r.source whole [.expr (r.property tree).1, .expr (r.property tree).2] := by
  cases propertyForm tree with
  | pair _ hread =>
      rw [hread]
      exact (h.requiredKey htree .key).append (h.requiredChild htree .value)
  | shorthand _ hread =>
      rw [hread]
      exact Sound.append (.node rfl rfl .nil) (.node rfl rfl .nil)
  | method hkind hread =>
      rw [hread]
      exact (h.requiredKey htree .name).append
        (h.function htree (by simp [hkind, Tree.functionKinds]))
  | unsupported _ hread =>
      rw [hread]
      exact Sound.append (.unsupported rfl (.inr ⟨tree, htree, rfl⟩)) (.node rfl rfl .nil)

theorem object (htree : whole.Holds tree) :
    Sound r.source whole [.expr (.object (tree.parts.map r.property))] := by
  refine .node rfl rfl fun node hnode => ?_
  obtain ⟨property, hproperty, hnode⟩ := List.mem_flatMap.mp hnode
  obtain ⟨part, hpart, rfl⟩ := List.mem_map.mp hproperty
  exact h.property (htree.parts part hpart) node hnode

theorem readExpression (htree : whole.Holds tree) :
    Sound r.source whole [.expr (r.readExpression tree)] := by
  cases expressionForm tree with
  | ident _ hread =>
      rw [hread]
      exact .node rfl rfl .nil
  | literal _ value hvalue hread =>
      rw [hread]
      refine .node rfl (hvalue r.source).isPlain_eq ?_
      rw [(hvalue r.source).children_eq]
      exact .nil
  | template _ hread =>
      rw [hread]
      exact h.template htree
  | array _ hread =>
      rw [hread]
      exact .node rfl rfl (h.exprs htree.parts)
  | object _ hread =>
      rw [hread]
      exact h.object htree
  | function hkind hread =>
      have hfunction : tree.kind ∈ Tree.functionKinds := by
        rcases hkind with hkind | hkind | hkind <;> simp [hkind, Tree.functionKinds]
      rw [hread]
      exact h.function htree hfunction
  | call _ hread =>
      rw [hread]
      exact .node rfl rfl ((h.requiredChild htree .function).append (h.arguments htree))
  | new _ hread =>
      rw [hread]
      exact .node rfl rfl
        (.node rfl rfl ((h.requiredChild htree .constructor).append (h.arguments htree)))
  | member _ _ hread =>
      rw [hread]
      exact .node rfl rfl (h.requiredChild htree .object)
  | subscript _ hread =>
      rw [hread]
      exact .node rfl rfl ((h.requiredChild htree .object).append (h.requiredChild htree .index))
  | binary _ op hread =>
      rw [hread]
      exact .node rfl rfl ((h.requiredChild htree .right).append (h.requiredChild htree .left))
  | unary _ op hread =>
      rw [hread]
      exact .node rfl rfl (h.requiredChild htree .argument)
  | await _ hread =>
      rw [hread]
      exact .node rfl rfl (h.required htree htree.firstPart?)
  | ternary _ hread =>
      rw [hread]
      exact .node rfl rfl ((h.requiredChild htree .condition).append
        ((h.requiredChild htree .consequence).append (h.requiredChild htree .alternative)))
  | paren _ hinner hread =>
      rw [hread]
      exact .node rfl rfl (h.expression _ (htree.firstPart? _ hinner))
  | sequence _ hread =>
      rw [hread]
      exact h.sequence htree
  | unsupported hread =>
      rw [hread]
      exact .unsupported rfl (.inr ⟨tree, htree, rfl⟩)

end Keeps

theorem keeps_within (source : SourceText) (whole : Tree) (levels : Nat) :
    (within source levels).Keeps whole := by
  induction levels with
  | zero => exact ⟨fun _ _ => .unsupported rfl (.inl rfl), fun _ _ => .unsupported rfl (.inl rfl)⟩
  | succ levels ih => exact ⟨fun _ => ih.readStatement, fun _ => ih.readExpression⟩

end Reading

/-! ## Scripts of trees -/

namespace Func

theorem sound_ofTree (source : SourceText) (maxDepth : Nat) (tree : Tree) :
    Sound source tree ((ofTree source maxDepth tree).body.map .stmt) :=
  (Reading.keeps_within source tree maxDepth).statements Tree.Holds.self.parts

/-- The script of any tree, within any bound, is the wrapper. No case and no handler stands right in
its body, and every node of it is regular. -/
theorem ofTree_is_regular (source : SourceText) (maxDepth : Nat) (tree : Tree) :
    (ofTree source maxDepth tree).name? = some wrapperName ∧
    (ofTree source maxDepth tree).params = [] ∧
    (∀ stmt ∈ (ofTree source maxDepth tree).body,
      stmt.isCase = false ∧ stmt.isHandler = false) ∧
    ∀ node ∈ (ofTree source maxDepth tree).nodes, node.Regular source tree := by
  have hsound := sound_ofTree source maxDepth tree
  refine ⟨rfl, rfl, fun stmt hstmt => ?_, fun node hnode => ?_⟩
  · have hmem := List.mem_map_of_mem (f := Node.stmt) hstmt
    exact ⟨hsound.isCase hmem, hsound.isHandler hmem⟩
  · rw [nodes_eq] at hnode
    obtain ⟨stmt, hstmt, hnode⟩ := List.mem_flatMap.mp hnode
    exact hsound.settled _ (List.mem_map_of_mem hstmt) node hnode

end Func

end ScriptGraph
