import ScriptGraph.Proofs.Reading.Forms
import ScriptGraph.Proofs.Script.Outcome
import ScriptGraph.Proofs.Script.Pruning

/-!
# Levels of a tree and levels of its script

A reading counts the levels of the concrete tree, a walk counts those of the
script. Most nodes take one level in both. Some become more than one node, one
below the other, and add levels to the paths through them: to every path, or only
to those into certain parts. A script from which a bound cut nothing off takes at
most the levels of the bound and the most that are added along one path of its
tree.
-/

namespace ScriptGraph

open Source

/-! ## Levels that nodes of a script take -/

namespace Node

/-- The node and all nodes below it take at most this many levels. -/
def Fits : Nat → Node → Prop
  | 0, _ => False
  | levels + 1, node => ∀ child ∈ node.children, child.Fits levels

theorem Fits.mono {levels more : Nat} {node : Node} (hfits : node.Fits levels)
    (h : levels ≤ more) : node.Fits more := by
  induction levels generalizing more node with
  | zero => exact hfits.elim
  | succ levels ih =>
      obtain ⟨more, rfl⟩ : ∃ fewer, more = fewer + 1 := ⟨more - 1, by omega⟩
      intro child hchild
      exact ih (hfits child hchild) (by omega)

theorem Fits.level_lt {levels start : Nat} {node : Node} (h : node.Fits levels) :
    ∀ visit ∈ node.visits start, visit.1 < start + levels := by
  induction levels generalizing start node with
  | zero => exact h.elim
  | succ levels ih =>
      intro visit hvisit
      rw [visits_eq] at hvisit
      rcases List.mem_cons.mp hvisit with rfl | hvisit
      · exact Nat.lt_add_of_pos_right (Nat.succ_pos levels)
      · obtain ⟨child, hchild, hvisit⟩ := List.mem_flatMap.mp hvisit
        have hlt := ih (h child hchild) visit hvisit
        omega

/-- Each of the nodes from which nothing was cut off takes at most this many levels. -/
def AllFit (levels : Nat) (nodes : List Node) : Prop :=
  ∀ node ∈ nodes, node.Uncut → node.Fits levels

/-- Each of some expressions leaves one level of the room for each of those after it. -/
def InTurn (room : Nat) : List Expr → Prop
  | [] => True
  | first :: more =>
    (∃ levels, AllFit levels [.expr first] ∧ levels + more.length ≤ room) ∧ InTurn room more

namespace AllFit

variable {levels : Nat} {nodes : List Node}

theorem nil : AllFit levels [] := by simp [AllFit]

theorem append {more : List Node} (h : AllFit levels nodes) (hmore : AllFit levels more) :
    AllFit levels (nodes ++ more) :=
  List.forall_mem_append.mpr ⟨h, hmore⟩

theorem mono {more : Nat} (hnodes : AllFit levels nodes) (h : levels ≤ more) :
    AllFit more nodes :=
  fun node hnode huncut => (hnodes node hnode huncut).mono h

theorem node {node : Node} (h : AllFit levels node.children) : AllFit (levels + 1) [node] := by
  intro other hother huncut
  obtain rfl := List.mem_singleton.mp hother
  exact fun child hchild => h child hchild (huncut.child hchild)

theorem leaf {node : Node} (hchildren : node.children = []) (h : 0 < levels) :
    AllFit levels [node] := by
  obtain ⟨fewer, rfl⟩ : ∃ fewer, levels = fewer + 1 := ⟨levels - 1, by omega⟩
  refine .node ?_
  rw [hchildren]
  exact .nil

/-- Joined to a first one, the last of some expressions stands right below the result, and each one
before it a level further down. -/
theorem foldl {op : String} {room : Nat} {exprs : List Expr} (hexprs : InTurn room exprs)
    {first : Expr} (hfirst : AllFit levels [.expr first])
    (hroom : levels + exprs.length ≤ room + 1) :
    AllFit (room + 1)
      [.expr (exprs.foldl (fun left right => Expr.binary op left right) first)] := by
  induction exprs generalizing levels first with
  | nil => exact hfirst.mono hroom
  | cons expr exprs ih =>
      -- What has been joined so far and the next expression stand side by side.
      obtain ⟨⟨others, hexpr, hothers⟩, hexprs⟩ := hexprs
      have hjoined : AllFit (max levels others + 1) [.expr (.binary op first expr)] :=
        .node ((hexpr.mono (Nat.le_max_right _ _)).append (hfirst.mono (Nat.le_max_left _ _)))
      rw [List.length_cons] at hroom
      exact ih hexprs hjoined (by omega)

/-- A leaf beside an expression takes no room of its own. -/
theorem binary_leaf {op : String} {leaf expr : Expr} (hleaf : (Node.expr leaf).children = [])
    (h : AllFit levels [.expr expr]) : AllFit (levels + 1) [.expr (.binary op leaf expr)] := by
  intro node hnode huncut
  obtain rfl := List.mem_singleton.mp hnode
  have hfits : (Node.expr expr).Fits levels :=
    h _ List.mem_cons_self (huncut.child (by simp [children]))
  have hboth : AllFit levels (Node.expr (.binary op leaf expr)).children := by
    refine h.append (.leaf hleaf ?_)
    cases levels with
    | zero => exact hfits.elim
    | succ levels => exact Nat.succ_pos levels
  exact hboth.node _ List.mem_cons_self huncut

end AllFit

end Node

/-! ## Levels that are added along a path -/

namespace Source.Tree

/-- The fields in place of whose missing part an unsupported node is put. -/
def requiredFields : Kind → List Field
  | .ifStatement | .whileStatement | .doStatement => [.condition]
  | .switchStatement => [.value]
  | .pair => [.key, .value]
  | .callExpression => [.function]
  | .newExpression => [.constructor]
  | .memberExpression => [.object]
  | .subscriptExpression => [.object, .index]
  | .assignmentExpression | .augmentedAssignmentExpression | .binaryExpression => [.left, .right]
  | .unaryExpression | .updateExpression => [.argument]
  | .ternaryExpression => [.condition, .consequence, .alternative]
  | _ => []

def lacksPart (tree : Tree) : Bool :=
  ((requiredFields tree.kind).any fun field => (tree.child? field).isNone) ||
    ([Kind.awaitExpression, .computedPropertyName].contains tree.kind && tree.firstPart?.isNone)

def declares (tree : Tree) : Bool :=
  (tree.kind == .variableDeclaration || tree.kind == .lexicalDeclaration) && !tree.parts.isEmpty

/-- The levels that a node adds to every path through it. -/
def levelsAt (tree : Tree) : Nat :=
  match tree.kind with
  | .newExpression => 1
  | .functionDeclaration | .generatorFunctionDeclaration => (tree.child? .name).isSome.toNat
  | .forStatement =>
    ((tree.child? .initializer).any declares || (tree.child? .condition).any declares).toNat
  | _ => 0

/-- The operand that a part of a comma sequence or of a template is. -/
def operand? (kind : Kind) (child : Option Field × Tree) : Option Tree :=
  match kind with
  | .sequenceExpression => if child.2.isSubstantial then some child.2 else none
  | .templateString =>
    if child.2.kind == .templateSubstitution then child.2.firstPart? else none
  | _ => none

def operandsAfter (kind : Kind) (child : Option Field × Tree) (rest : List (Option Field × Tree)) :
    Nat :=
  if (operand? kind child).isSome then (rest.filterMap (operand? kind)).length else 0

/-- The levels that are added to the paths from a node into one of its parts, given with the parts
that follow it. -/
def levelsInto (tree : Tree) (child : Option Field × Tree) (rest : List (Option Field × Tree)) :
    Nat :=
  match tree.kind with
  | .tryStatement => (child.1 == some .handler).toNat
  -- The cases are parts of the body.
  | .switchStatement => (child.1 == some .body && !child.2.parts.isEmpty).toNat
  | .object => (child.2.isSubstantial && child.2.kind != .pair).toNat
  | .functionDeclaration | .generatorFunctionDeclaration | .functionExpression
  | .generatorFunction | .arrowFunction | .methodDefinition =>
    (child.1 == some .body && child.2.kind != .statementBlock).toNat
  | .callExpression | .newExpression =>
    (child.1 == some .arguments && child.2.kind == .templateString).toNat
  -- The first operand of a sequence stands beside the second one.
  | .sequenceExpression =>
    min (operandsAfter .sequenceExpression child rest) (tree.parts.length - 2)
  | .templateString => operandsAfter .templateString child rest
  | _ => 0

theorem levelsInto_of_function {tree : Tree} (hkind : tree.kind ∈ functionKinds)
    (child : Option Field × Tree) (rest : List (Option Field × Tree)) :
    tree.levelsInto child rest =
      (child.1 == some .body && child.2.kind != .statementBlock).toNat := by
  simp only [functionKinds, List.mem_cons, List.not_mem_nil, or_false] at hkind
  rcases hkind with hkind | hkind | hkind | hkind | hkind | hkind <;> rw [levelsInto, hkind]

mutual

/-- The most levels that are added along one path from a node down, whether or not its nodes are
read. A path may end at a part that is missing. -/
def surplus : Tree → Nat
  | .node kind span children =>
    (node kind span children).levelsAt +
      max (node kind span children).lacksPart.toNat
        (surplusAmong (node kind span children) children)

def surplusAmong (tree : Tree) : List (Option Field × Tree) → Nat
  | [] => 0
  | (place, part) :: rest =>
    max (tree.levelsInto (place, part) rest + part.surplus) (surplusAmong tree rest)

end

def surplusBelow (tree : Tree) : Nat := surplusAmong tree tree.children

theorem surplus_eq (tree : Tree) :
    tree.surplus = tree.levelsAt + max tree.lacksPart.toNat tree.surplusBelow := by
  cases tree
  rfl

theorem levelsAt_add_surplusBelow_le (tree : Tree) :
    tree.levelsAt + tree.surplusBelow ≤ tree.surplus := by
  rw [surplus_eq]
  omega

theorem surplusBelow_le (tree : Tree) : tree.surplusBelow ≤ tree.surplus :=
  Nat.le_trans (Nat.le_add_left _ _) tree.levelsAt_add_surplusBelow_le

theorem le_surplusAmong (tree : Tree) (front : List (Option Field × Tree))
    (child : Option Field × Tree) (rest : List (Option Field × Tree)) :
    tree.levelsInto child rest + child.2.surplus ≤
      surplusAmong tree (front ++ child :: rest) := by
  induction front with
  | nil => exact Nat.le_max_left _ _
  | cons other front ih => exact Nat.le_trans ih (Nat.le_max_right _ _)

/-- What is added on the way into a part and below it is added below the node. -/
theorem into_add_surplus_le {tree part : Tree} {place : Option Field}
    (hpart : (place, part) ∈ tree.children) {count : Nat}
    (hcount : ∀ rest, count ≤ tree.levelsInto (place, part) rest) :
    count + part.surplus ≤ tree.surplusBelow := by
  obtain ⟨front, rest, hchildren⟩ := List.append_of_mem hpart
  have hle := tree.le_surplusAmong front (place, part) rest
  have hinto := hcount rest
  rw [← hchildren] at hle
  exact Nat.le_trans (Nat.add_le_add_right hinto _) hle

theorem surplus_le_of_mem {tree part : Tree} {place : Option Field}
    (hpart : (place, part) ∈ tree.children) : part.surplus ≤ tree.surplusBelow := by
  have hle : 0 + part.surplus ≤ tree.surplusBelow :=
    into_add_surplus_le hpart fun _ => Nat.zero_le _
  rwa [Nat.zero_add] at hle

theorem surplus_le_of_child? {tree : Tree} {field : Field} :
    ∀ part ∈ tree.child? field, part.surplus ≤ tree.surplusBelow :=
  fun _ hpart => surplus_le_of_mem (mem_children_of_child? hpart)

theorem surplus_le_of_mem_parts {tree : Tree} :
    ∀ part ∈ tree.parts, part.surplus ≤ tree.surplusBelow := by
  intro part hpart
  obtain ⟨place, hmem⟩ := mem_children_of_mem_parts hpart
  exact surplus_le_of_mem hmem

theorem surplus_le_of_firstPart? {tree : Tree} :
    ∀ part ∈ tree.firstPart?, part.surplus ≤ tree.surplusBelow :=
  fun part hpart => surplus_le_of_mem_parts part (mem_parts_of_firstPart? hpart)

theorem child?_surplus_le {tree : Tree} {field : Field} :
    ∀ part ∈ tree.child? field, part.surplus ≤ tree.surplus :=
  fun part hpart => Nat.le_trans (surplus_le_of_child? part hpart) tree.surplusBelow_le

theorem firstPart?_surplus_le {tree : Tree} :
    ∀ part ∈ tree.firstPart?, part.surplus ≤ tree.surplus :=
  fun part hpart => Nat.le_trans (surplus_le_of_firstPart? part hpart) tree.surplusBelow_le

theorem lacksPart_of_child?_eq_none {tree : Tree} {field : Field}
    (hfield : field ∈ requiredFields tree.kind) (h : tree.child? field = none) :
    tree.lacksPart = true := by
  rw [lacksPart, Bool.or_eq_true, List.any_eq_true]
  exact .inl ⟨field, hfield, by rw [h]; rfl⟩

theorem lacksPart_of_firstPart?_eq_none {tree : Tree}
    (hkind : tree.kind = .awaitExpression ∨ tree.kind = .computedPropertyName)
    (h : tree.firstPart? = none) : tree.lacksPart = true := by
  rw [lacksPart, Bool.or_eq_true]
  refine .inr ?_
  rcases hkind with hkind | hkind <;> rw [hkind, h] <;> rfl

/-- A missing part leaves room for what is put in its place. -/
theorem levelsAt_lt_of_lacksPart {tree : Tree} (h : tree.lacksPart = true) :
    tree.levelsAt < tree.surplus := by
  rw [surplus_eq, h, Bool.toNat_true]
  omega

theorem surplus_pos_of_child?_eq_none {tree : Tree} {field : Field}
    (hfield : field ∈ requiredFields tree.kind) (h : tree.child? field = none) :
    0 < tree.surplus :=
  Nat.zero_lt_of_lt (levelsAt_lt_of_lacksPart (lacksPart_of_child?_eq_none hfield h))

theorem surplus_pos_of_firstPart?_eq_none {tree : Tree}
    (hkind : tree.kind = .awaitExpression ∨ tree.kind = .computedPropertyName)
    (h : tree.firstPart? = none) : 0 < tree.surplus :=
  Nat.zero_lt_of_lt (levelsAt_lt_of_lacksPart (lacksPart_of_firstPart?_eq_none hkind h))

/-! ### Operands -/

theorem exists_split_of_filterMap {α β : Type} {f : α → Option β} {items : List α}
    {front back : List β} {b : β} (h : items.filterMap f = front ++ b :: back) :
    ∃ before a after, items = before ++ a :: after ∧ f a = some b ∧ after.filterMap f = back := by
  obtain ⟨before, more, rfl, -, hmore⟩ := List.filterMap_eq_append_iff.mp h
  obtain ⟨skipped, a, after, rfl, -, ha, hafter⟩ := List.filterMap_eq_cons_iff.mp hmore
  exact ⟨before ++ skipped, a, after, by rw [List.append_assoc], ha, hafter⟩

def operands (tree : Tree) : List Tree := tree.children.filterMap (operand? tree.kind)

theorem operandsAfter_add_surplus_le {tree : Tree} {front back : List Tree} {inner : Tree}
    (h : tree.operands = front ++ inner :: back) :
    ∃ child rest, operandsAfter tree.kind child rest = back.length ∧
      inner.surplus ≤ child.2.surplus ∧
      tree.levelsInto child rest + child.2.surplus ≤ tree.surplusBelow := by
  obtain ⟨before, child, after, hchildren, hchild, hback⟩ := exists_split_of_filterMap h
  have hinner : inner.surplus ≤ child.2.surplus := by
    unfold operand? at hchild
    split at hchild
    · split at hchild
      · obtain rfl := Option.some.inj hchild
        exact Nat.le_refl _
      · cases hchild
    · split at hchild
      · exact firstPart?_surplus_le inner hchild
      · cases hchild
    · cases hchild
  refine ⟨child, after, ?_, hinner, ?_⟩
  · rw [operandsAfter, hchild, Option.isSome_some, if_pos rfl, hback]
  · rw [surplusBelow, hchildren]
    exact tree.le_surplusAmong before child after

end Source.Tree

/-! ## Readings that leave room -/

open Node

namespace Reading

/-- What the reading makes of a part takes the levels given and those that the part adds. -/
structure Fitting (r : Reading) (levels : Nat) : Prop where
  statement : ∀ tree, AllFit (levels + tree.surplus) ((r.statement tree).map .stmt)
  expression : ∀ tree, AllFit (levels + tree.surplus) [.expr (r.expression tree)]

theorem declares_of_clause? {r : Reading} {tree? : Option Tree}
    (h : (r.clause? tree?).1 ≠ []) : tree?.any Tree.declares = true := by
  cases tree? with
  | none => exact absurd rfl h
  | some tree =>
      rw [Reading.clause?] at h
      cases clauseForm tree with
      | declarators hkind hread =>
          have hparts : tree.parts ≠ [] := by
            rw [hread] at h
            exact fun hnone => h (by rw [Reading.declarators, hnone]; rfl)
          rcases hkind with hkind | hkind <;> simp [Tree.declares, hkind, hparts]
      | nothing _ hread | statement _ hread | expression hread =>
          rw [hread] at h
          exact absurd rfl h

/-- A loop with anything before it declares variables in one of its clauses. -/
theorem declares_of_hoisted {r : Reading} {tree : Tree}
    (h : ¬(r.hoisted tree).isEmpty = true) :
    ((tree.child? .initializer).any Tree.declares ||
      (tree.child? .condition).any Tree.declares) = true := by
  rw [List.isEmpty_iff, Reading.hoisted, List.append_eq_nil_iff, not_and_or] at h
  rw [Bool.or_eq_true]
  exact h.imp declares_of_clause? declares_of_clause?

theorem parts_eq_operands {tree : Tree} (hkind : tree.kind = .sequenceExpression) :
    tree.parts = tree.operands := by
  rw [Tree.parts, Tree.operands, hkind]
  induction tree.children with
  | nil => rfl
  | cons child children ih =>
      rw [List.map_cons, List.filter_cons, List.filterMap_cons, Tree.operand?, ih]
      split <;> rfl

theorem substitutions_eq_operands (r : Reading) {tree : Tree}
    (hkind : tree.kind = .templateString) :
    r.substitutions tree = tree.operands.map r.expression := by
  rw [Reading.substitutions, Tree.parts, Tree.operands, hkind, List.filter_filter,
    List.filterMap_filter, List.filterMap_map]
  congr 2
  funext child
  by_cases hchild : child.2.kind = .templateSubstitution
  · have hsubstantial : child.2.isSubstantial = true := by
      rw [Tree.isSubstantial, hchild]
      rfl
    simp [Tree.operand?, hchild, hsubstantial]
  · simp [Tree.operand?, hchild]

namespace Fitting

variable {r : Reading} {levels room : Nat} (h : r.Fitting levels)

include h

theorem exprs {trees : List Tree} (htrees : ∀ tree ∈ trees, tree.surplus ≤ room) :
    AllFit (levels + room) ((trees.map r.expression).map .expr) := by
  induction trees with
  | nil => exact .nil
  | cons tree trees ih =>
      have htree := htrees tree List.mem_cons_self
      exact ((h.expression tree).mono (by omega)).append
        (ih fun other hother => htrees other (List.mem_cons_of_mem _ hother))

theorem expr? {tree? : Option Tree} (htree : ∀ tree ∈ tree?, tree.surplus ≤ room) :
    AllFit (levels + room) ((tree?.map r.expression).toList.map .expr) := by
  rw [Option.toList_map]
  exact h.exprs fun tree hmem => htree tree (Option.mem_toList.mp hmem)

theorem statements {trees : List Tree} (htrees : ∀ tree ∈ trees, tree.surplus ≤ room) :
    AllFit (levels + room) ((trees.flatMap r.statement).map .stmt) := by
  induction trees with
  | nil => exact .nil
  | cons tree trees ih =>
      have htree := htrees tree List.mem_cons_self
      rw [List.flatMap_cons, List.map_append]
      exact ((h.statement tree).mono (by omega)).append
        (ih fun other hother => htrees other (List.mem_cons_of_mem _ hother))

theorem body {tree : Tree} (htree : tree.surplus ≤ room) :
    AllFit (levels + room) ((r.body tree).map .stmt) := by
  unfold Reading.body
  split
  · have hbelow := tree.surplusBelow_le
    exact (h.statements Tree.surplus_le_of_mem_parts).mono (by omega)
  · exact (h.statement tree).mono (by omega)

theorem body? {tree? : Option Tree} (htree : ∀ tree ∈ tree?, tree.surplus ≤ room) :
    AllFit (levels + room) ((r.body? tree?).map .stmt) := by
  cases tree? with
  | none => exact .nil
  | some tree => exact h.body (htree tree rfl)

theorem required (parent : Tree) {part? : Option Tree}
    (hpart : ∀ part ∈ part?, part.surplus ≤ room) (hnone : part? = none → 0 < room) :
    AllFit (levels + room) [.expr (r.required parent part?)] := by
  cases part? with
  | none =>
      have hroom := hnone rfl
      exact .leaf rfl (by omega)
  | some part =>
      have hle := hpart part rfl
      exact (h.expression part).mono (by omega)

theorem requiredChild {tree : Tree} {field : Field}
    (hfield : field ∈ Tree.requiredFields tree.kind) :
    AllFit (levels + tree.surplus) [.expr (r.required tree (tree.child? field))] :=
  h.required tree Tree.child?_surplus_le (Tree.surplus_pos_of_child?_eq_none hfield)

theorem condition {tree : Tree} (htree : tree.surplus ≤ room) :
    AllFit (levels + room) [.expr (r.condition tree)] := by
  unfold Reading.condition
  split
  · cases hinner : tree.firstPart? with
    | none => exact (h.expression tree).mono (by omega)
    | some inner =>
        have hle := Tree.firstPart?_surplus_le inner hinner
        exact (h.expression inner).mono (by omega)
  · exact (h.expression tree).mono (by omega)

theorem requiredCondition (parent : Tree) {part? : Option Tree}
    (hpart : ∀ part ∈ part?, part.surplus ≤ room) (hnone : part? = none → 0 < room) :
    AllFit (levels + room) [.expr (r.requiredCondition parent part?)] := by
  cases part? with
  | none =>
      have hroom := hnone rfl
      exact .leaf rfl (by omega)
  | some part => exact h.condition (hpart part rfl)

theorem requiredConditionChild {tree : Tree} {field : Field}
    (hfield : field ∈ Tree.requiredFields tree.kind) :
    AllFit (levels + tree.surplus) [.expr (r.requiredCondition tree (tree.child? field))] :=
  h.requiredCondition tree Tree.child?_surplus_le (Tree.surplus_pos_of_child?_eq_none hfield)

theorem declarator (tree : Tree) :
    AllFit (levels + tree.surplus + 1) [.stmt (r.declarator tree)] := by
  unfold Reading.declarator
  split
  · cases tree.child? .name with
    | none => exact .leaf rfl (by omega)
    | some name =>
        dsimp only
        split
        · exact .node (h.expr? Tree.child?_surplus_le)
        · exact .leaf rfl (by omega)
  · exact .leaf rfl (by omega)

theorem declarators {tree : Tree} (htree : tree.surplusBelow ≤ room) :
    AllFit (levels + room + 1) ((r.declarators tree).map .stmt) := by
  have hparts : ∀ part ∈ tree.parts, part.surplus ≤ room :=
    fun part hpart => Nat.le_trans (Tree.surplus_le_of_mem_parts part hpart) htree
  unfold Reading.declarators
  generalize tree.parts = parts at hparts
  induction parts with
  | nil => exact .nil
  | cons part parts ih =>
      have hpart := hparts part List.mem_cons_self
      exact ((h.declarator part).mono (by omega)).append
        (ih fun other hother => hparts other (List.mem_cons_of_mem _ hother))

theorem functionBody {tree : Tree} (hkind : tree.kind ∈ Tree.functionKinds) :
    AllFit (levels + tree.surplusBelow) ((r.functionBody tree).map .stmt) := by
  unfold Reading.functionBody
  cases hbody : tree.child? .body with
  | none => exact .nil
  | some body =>
      have hmem := Tree.mem_children_of_child? hbody
      dsimp only
      split
      · have hle := Tree.surplus_le_of_mem hmem
        have hbelow := body.surplusBelow_le
        exact (h.statements Tree.surplus_le_of_mem_parts).mono (by omega)
      · rename_i hblock
        have hconcise : (body.kind != .statementBlock) = true := by simpa using hblock
        have hle : 1 + body.surplus ≤ tree.surplusBelow :=
          Tree.into_add_surplus_le hmem fun rest => by
            simp [Tree.levelsInto_of_function hkind, hconcise]
        exact (AllFit.node (h.expression body)).mono (by omega)

theorem function {tree : Tree} (hkind : tree.kind ∈ Tree.functionKinds) :
    AllFit (levels + tree.surplusBelow + 1) [.expr (.function (r.function tree))] :=
  .node (h.functionBody hkind)

theorem clause? {tree? : Option Tree} (htree : ∀ tree ∈ tree?, tree.surplus ≤ room) :
    AllFit (levels + room + 1) ((r.clause? tree?).1.map .stmt) ∧
      AllFit (levels + room) ((r.clause? tree?).2.toList.map .expr) := by
  cases tree? with
  | none => exact ⟨.nil, .nil⟩
  | some tree =>
      have hle := htree tree rfl
      have hbelow := tree.surplusBelow_le
      rw [Reading.clause?]
      cases clauseForm tree with
      | nothing _ hread =>
          rw [hread]
          exact ⟨.nil, .nil⟩
      | statement _ hread =>
          rw [hread]
          exact ⟨.nil, (h.expr? Tree.surplus_le_of_firstPart?).mono (by omega)⟩
      | declarators _ hread =>
          rw [hread]
          exact ⟨h.declarators (by omega), .nil⟩
      | expression hread =>
          rw [hread]
          exact ⟨.nil, (h.expression tree).mono (by omega)⟩

theorem bareLoop (tree : Tree) :
    AllFit (levels + tree.surplusBelow + 1) [.stmt (r.bareLoop tree)] := by
  refine .node ?_
  rw [Reading.bareLoop, Node.children, List.map_append, List.map_append]
  exact ((h.clause? Tree.surplus_le_of_child?).2.append
    ((h.clause? Tree.surplus_le_of_child?).2.append (h.expr? Tree.surplus_le_of_child?))).append
      (h.body? Tree.surplus_le_of_child?)

theorem handler (tree : Tree) :
    AllFit (levels + tree.surplusBelow + 1) [.stmt (r.handler tree)] := by
  have hbody : AllFit (levels + tree.surplusBelow)
      ((r.body? (tree.child? .body)).map .stmt ++ []) :=
    (h.body? Tree.surplus_le_of_child?).append .nil
  unfold Reading.handler
  cases tree.child? .parameter with
  | none => exact .node hbody
  | some name =>
      dsimp only
      split
      · exact .node hbody
      · exact .leaf rfl (by omega)

theorem switchCase (tree : Tree) :
    AllFit (levels + tree.surplusBelow + 1) [.stmt (r.switchCase tree)] := by
  refine .node ((h.expr? Tree.surplus_le_of_child?).append (h.statements fun part hpart => ?_))
  exact Tree.surplus_le_of_mem_parts part (Tree.mem_parts_of_mem_partsWithout hpart)

theorem loop {tree : Tree} (hkind : tree.kind = .forStatement) :
    AllFit (levels + tree.surplus + 1) [.stmt (r.loop tree)] := by
  have hle := tree.levelsAt_add_surplusBelow_le
  rw [loop_eq]
  split
  · exact (h.bareLoop tree).mono (by omega)
  · rename_i hhoisted
    have hlevels : tree.levelsAt = 1 := by
      simp only [Tree.levelsAt, hkind, declares_of_hoisted hhoisted, Bool.toNat_true]
    refine .node ?_
    rw [Node.children, Reading.hoisted, List.map_append, List.map_append]
    exact (((h.clause? Tree.surplus_le_of_child?).1.append
      (h.clause? Tree.surplus_le_of_child?).1).append (h.bareLoop tree)).mono (by omega)

theorem guarded {tree : Tree} (hkind : tree.kind = .tryStatement) :
    AllFit (levels + tree.surplusBelow + 1) [.stmt (r.guarded tree)] := by
  refine .node ?_
  rw [Reading.guarded, Node.children, List.map_append, List.map_append]
  refine (h.body? Tree.surplus_le_of_child?).append (.append ?_ ?_)
  · cases hhandler : tree.child? .handler with
    | none => exact .nil
    | some clause =>
        have hle : 1 + clause.surplus ≤ tree.surplusBelow :=
          Tree.into_add_surplus_le (Tree.mem_children_of_child? hhandler) fun rest => by
            simp [Tree.levelsInto, hkind]
        have hclause := clause.surplusBelow_le
        exact (h.handler clause).mono (by omega)
  · cases hfinal : tree.child? .finalizer with
    | none => exact .nil
    | some clause =>
        have hle := Tree.surplus_le_of_child? clause hfinal
        have hclause := clause.surplusBelow_le
        exact (h.body? Tree.surplus_le_of_child?).mono (by omega)

theorem cases {tree : Tree} (hkind : tree.kind = .switchStatement) {body : Tree}
    (hbody : tree.child? .body = some body) :
    AllFit (levels + tree.surplusBelow) ((body.parts.map r.switchCase).map .stmt) := by
  intro node hnode
  obtain ⟨stmt, hstmt, rfl⟩ := List.mem_map.mp hnode
  obtain ⟨clause, hclause, rfl⟩ := List.mem_map.mp hstmt
  have hparts : body.parts.isEmpty = false := by simpa using List.ne_nil_of_mem hclause
  have hle : 1 + body.surplus ≤ tree.surplusBelow :=
    Tree.into_add_surplus_le (Tree.mem_children_of_child? hbody) fun rest => by
      simp [Tree.levelsInto, hkind, hparts]
  have hbelow := body.surplusBelow_le
  have hclauseLe := Tree.surplus_le_of_mem_parts clause hclause
  have hclauseBelow := clause.surplusBelow_le
  exact (h.switchCase clause).mono (by omega) _ List.mem_cons_self

theorem switch {tree : Tree} (hkind : tree.kind = .switchStatement) :
    AllFit (levels + tree.surplus + 1) [.stmt (r.switch tree)] := by
  have hbelow := tree.surplusBelow_le
  have hvalue : AllFit (levels + tree.surplus)
      [.expr (r.requiredCondition tree (tree.child? .value))] :=
    h.requiredConditionChild (by simp [hkind, Tree.requiredFields])
  refine .node (hvalue.append ?_)
  cases hbody : tree.child? .body with
  | none => exact .nil
  | some body => exact (h.cases hkind hbody).mono (by omega)

theorem branch {tree : Tree} (hkind : tree.kind = .ifStatement) :
    AllFit (levels + tree.surplus + 1) [.stmt (r.branch tree)] := by
  refine .node ?_
  rw [Reading.branch, Node.children, List.map_append]
  refine (h.requiredConditionChild (by simp [hkind, Tree.requiredFields])).append
    ((h.body? Tree.child?_surplus_le).append ?_)
  cases halternative : tree.child? .alternative with
  | none => exact .nil
  | some clause =>
      rw [Option.bind_some]
      cases hinner : clause.firstPart? with
      | none => exact .nil
      | some inner =>
          have hle := Tree.child?_surplus_le clause halternative
          have hinnerLe := Tree.firstPart?_surplus_le inner hinner
          exact h.body (by omega)

theorem readStatement (tree : Tree) :
    AllFit (levels + 1 + tree.surplus) ((r.readStatement tree).map .stmt) := by
  have hbelow := tree.surplusBelow_le
  rw [Nat.add_right_comm]
  cases statementForm tree with
  | eval _ hread =>
      rw [hread]
      cases hinner : tree.firstPart? with
      | none => exact .nil
      | some inner =>
          have hle := Tree.firstPart?_surplus_le inner hinner
          exact .node ((h.expression inner).mono (by omega))
  | declarators _ hread =>
      rw [hread]
      exact h.declarators hbelow
  | function hkind hname hread =>
      have hle := tree.levelsAt_add_surplusBelow_le
      have hlevels : tree.levelsAt = 1 := by
        rcases hkind with hkind | hkind <;> simp [Tree.levelsAt, hkind, hname]
      have hfunction : tree.kind ∈ Tree.functionKinds := by
        rcases hkind with hkind | hkind <;> rw [hkind] <;> decide
      rw [hread]
      exact .node ((h.function hfunction).mono (by omega))
  | ret _ hread =>
      rw [hread]
      exact .node (h.expr? Tree.firstPart?_surplus_le)
  | branch hkind hread =>
      rw [hread]
      exact h.branch hkind
  | loop hkind hread =>
      rw [hread]
      exact h.loop hkind
  | each _ hread =>
      rw [hread]
      refine .node ?_
      rw [Node.children, List.map_append, List.map_append]
      exact ((h.expr? Tree.child?_surplus_le).append
        ((h.expr? Tree.child?_surplus_le).append .nil)).append (h.body? Tree.child?_surplus_le)
  | whileLoop hkind hread =>
      rw [hread]
      have hfield : Field.condition ∈ Tree.requiredFields tree.kind := by
        rcases hkind with hkind | hkind <;> simp [hkind, Tree.requiredFields]
      exact .node ((h.requiredConditionChild hfield).append (h.body? Tree.child?_surplus_le))
  | block _ hread =>
      rw [hread]
      exact .node ((h.statements Tree.surplus_le_of_mem_parts).mono (by omega))
  | guarded hkind hread =>
      rw [hread]
      exact (h.guarded hkind).mono (by omega)
  | breakTo _ hread =>
      rw [hread]
      exact .leaf rfl (by omega)
  | continueTo _ hread =>
      rw [hread]
      exact .leaf rfl (by omega)
  | raise _ hinner hread =>
      rw [hread]
      have hle := Tree.firstPart?_surplus_le _ hinner
      exact .node ((h.expression _).mono (by omega))
  | switch hkind hread =>
      rw [hread]
      exact h.switch hkind
  | labeled _ hbody hread =>
      rw [hread]
      have hle := Tree.child?_surplus_le _ hbody
      exact (h.statement _).mono (by omega)
  | nothing _ hread =>
      rw [hread]
      exact .nil
  | unsupported hread =>
      rw [hread]
      exact .leaf rfl (by omega)

theorem inTurn {trees : List Tree} (htrees : ∀ front tree back,
    trees = front ++ tree :: back → tree.surplus + back.length ≤ room) :
    InTurn (levels + room) (trees.map r.expression) := by
  induction trees with
  | nil => trivial
  | cons tree trees ih =>
      have htree := htrees [] tree trees rfl
      refine ⟨⟨_, h.expression tree, by rw [List.length_map]; omega⟩, ih ?_⟩
      intro front other back hother
      exact htrees (tree :: front) other back (by rw [hother, List.cons_append])

theorem template {tree : Tree} (hkind : tree.kind = .templateString) :
    AllFit (levels + tree.surplusBelow + 1) [.expr (r.template tree)] := by
  have hoperands : InTurn (levels + tree.surplusBelow) (r.substitutions tree) := by
    rw [substitutions_eq_operands r hkind]
    refine h.inTurn fun front inner back hsplit => ?_
    obtain ⟨child, rest, hafter, hinner, hle⟩ := Tree.operandsAfter_add_surplus_le hsplit
    simp only [Tree.levelsInto, hkind] at hle hafter
    omega
  -- The text stands beside the first substitution, which is read and so takes a level at least.
  unfold Reading.template
  generalize r.substitutions tree = exprs at hoperands
  cases exprs with
  | nil => exact .leaf rfl (by omega)
  | cons first more =>
      obtain ⟨⟨fewer, hfirst, hfewer⟩, hmore⟩ := hoperands
      exact AllFit.foldl hmore (AllFit.binary_leaf rfl hfirst) (by omega)

theorem sequence {tree : Tree} (hkind : tree.kind = .sequenceExpression) :
    AllFit (levels + tree.surplusBelow + 1) [.expr (r.sequence tree)] := by
  have hparts : ∀ front part back, tree.parts = front ++ part :: back →
      part.surplus + min back.length (tree.parts.length - 2) ≤ tree.surplusBelow := by
    intro front part back hsplit
    rw [parts_eq_operands hkind] at hsplit
    obtain ⟨child, rest, hafter, hinner, hle⟩ := Tree.operandsAfter_add_surplus_le hsplit
    simp only [Tree.levelsInto, hkind] at hle hafter
    omega
  unfold Reading.sequence
  cases hsplit : tree.parts with
  | nil => exact .leaf rfl (by omega)
  | cons first more =>
      rw [hsplit] at hparts
      have hfirst := hparts [] first more rfl
      -- Behind the first operand the number of operands left is never above the cap.
      have hmore : InTurn (levels + tree.surplusBelow) (more.map r.expression) := by
        refine h.inTurn fun front part back hback => ?_
        have hpart := hparts (first :: front) part back (by rw [hback, List.cons_append])
        rw [hback] at hpart
        simp only [List.length_cons, List.length_append] at hpart
        omega
      simp only [List.length_cons] at hfirst
      exact AllFit.foldl hmore (h.expression first) (by rw [List.length_map]; omega)

theorem arguments {tree : Tree}
    (hkind : tree.kind = .callExpression ∨ tree.kind = .newExpression) :
    AllFit (levels + tree.surplusBelow) ((r.arguments (tree.child? .arguments)).map .expr) := by
  cases hargs : tree.child? .arguments with
  | none => exact .nil
  | some args =>
      have hmem := Tree.mem_children_of_child? hargs
      have hbelow := args.surplusBelow_le
      unfold Reading.arguments
      dsimp only
      split
      · rename_i htemplate
        have hle : 1 + args.surplus ≤ tree.surplusBelow :=
          Tree.into_add_surplus_le hmem fun rest => by
            rcases hkind with hkind | hkind <;> simp_all [Tree.levelsInto]
        exact (h.template (by simpa using htemplate)).mono (by omega)
      · have hle := Tree.surplus_le_of_mem hmem
        exact (h.exprs Tree.surplus_le_of_mem_parts).mono (by omega)

theorem requiredKey (parent : Tree) {key? : Option Tree}
    (hkey : ∀ key ∈ key?, key.surplus ≤ room) (hnone : key? = none → 0 < room) :
    AllFit (levels + room) [.expr (r.requiredKey parent key?)] := by
  cases key? with
  | none =>
      have hroom := hnone rfl
      exact .leaf rfl (by omega)
  | some key =>
      have hle := hkey key rfl
      change AllFit (levels + room) [.expr (r.keyOf key)]
      unfold Reading.keyOf
      split
      · rename_i hkind
        refine h.required key (fun part hpart => ?_) fun hnone => ?_
        · exact Nat.le_trans (Tree.firstPart?_surplus_le part hpart) hle
        · exact Nat.lt_of_lt_of_le
            (Tree.surplus_pos_of_firstPart?_eq_none (.inr (by simpa using hkind)) hnone) hle
      · exact (h.expression key).mono (by omega)

/-- A member that is no pair takes a level of its own. -/
theorem property {tree : Tree} (htree : tree.surplus + (tree.kind != .pair).toNat ≤ room) :
    AllFit (levels + room) [.expr (r.property tree).1, .expr (r.property tree).2] := by
  have hbelow := tree.surplusBelow_le
  cases propertyForm tree with
  | pair hkind hread =>
      have hkey : AllFit (levels + tree.surplus)
          [.expr (r.requiredKey tree (tree.child? .key))] :=
        h.requiredKey tree Tree.child?_surplus_le
          (Tree.surplus_pos_of_child?_eq_none (by simp [hkind, Tree.requiredFields]))
      rw [hread]
      exact (hkey.append (h.requiredChild (by simp [hkind, Tree.requiredFields]))).mono (by omega)
  | shorthand hkind hread =>
      have hone : (tree.kind != .pair).toNat = 1 := by simp [hkind]
      rw [hread]
      exact (AllFit.leaf rfl (by omega)).append (.leaf rfl (by omega))
  | method hkind hread =>
      have hone : (tree.kind != .pair).toNat = 1 := by simp [hkind]
      have hkey : AllFit (levels + room) [.expr (r.requiredKey tree (tree.child? .name))] := by
        refine h.requiredKey tree (fun part hpart => ?_) fun _ => by omega
        have hle := Tree.child?_surplus_le part hpart
        omega
      rw [hread]
      exact hkey.append ((h.function (by rw [hkind]; decide)).mono (by omega))
  | unsupported hkind hread =>
      have hone : (tree.kind != .pair).toNat = 1 := by simp [hkind]
      rw [hread]
      exact (AllFit.leaf rfl (by omega)).append (.leaf rfl (by omega))

theorem object {tree : Tree} (hkind : tree.kind = .object) :
    AllFit (levels + tree.surplusBelow + 1) [.expr (.object (tree.parts.map r.property))] := by
  refine .node fun node hnode => ?_
  obtain ⟨property, hproperty, hnode⟩ := List.mem_flatMap.mp hnode
  obtain ⟨part, hpart, rfl⟩ := List.mem_map.mp hproperty
  obtain ⟨place, hmem⟩ := Tree.mem_children_of_mem_parts hpart
  have hsubstantial : part.isSubstantial = true := (List.mem_filter.mp hpart).2
  have hle : (part.kind != .pair).toNat + part.surplus ≤ tree.surplusBelow :=
    Tree.into_add_surplus_le hmem fun rest => by
      simp [Tree.levelsInto, hkind, hsubstantial]
  exact h.property (by omega) node hnode

theorem readExpression (tree : Tree) :
    AllFit (levels + 1 + tree.surplus) [.expr (r.readExpression tree)] := by
  have hbelow := tree.surplusBelow_le
  rw [Nat.add_right_comm]
  cases expressionForm tree with
  | ident _ hread =>
      rw [hread]
      exact .leaf rfl (by omega)
  | literal _ value hvalue hread =>
      rw [hread]
      exact .leaf (hvalue r.source).children_eq (by omega)
  | template hkind hread =>
      rw [hread]
      exact (h.template hkind).mono (by omega)
  | array _ hread =>
      rw [hread]
      exact .node ((h.exprs Tree.surplus_le_of_mem_parts).mono (by omega))
  | object hkind hread =>
      rw [hread]
      exact (h.object hkind).mono (by omega)
  | function hkind hread =>
      have hfunction : tree.kind ∈ Tree.functionKinds := by
        rcases hkind with hkind | hkind | hkind <;> rw [hkind] <;> decide
      rw [hread]
      exact (h.function hfunction).mono (by omega)
  | call hkind hread =>
      rw [hread]
      exact .node ((h.requiredChild (by simp [hkind, Tree.requiredFields])).append
        ((h.arguments (.inl hkind)).mono (by omega)))
  | new hkind hread =>
      have hlevels : tree.levelsAt = 1 := by simp [Tree.levelsAt, hkind]
      have hle := tree.levelsAt_add_surplusBelow_le
      have hcallee : AllFit (levels + (tree.surplus - 1))
          [.expr (r.required tree (tree.child? .constructor))] := by
        refine h.required tree (fun part hpart => ?_) fun hnone => ?_
        · have hpartLe := Tree.surplus_le_of_child? part hpart
          omega
        · have hlt := Tree.levelsAt_lt_of_lacksPart (Tree.lacksPart_of_child?_eq_none
            (by simp [hkind, Tree.requiredFields]) hnone)
          omega
      have hcall : AllFit (levels + (tree.surplus - 1) + 1)
          [.expr (.call (r.required tree (tree.child? .constructor))
            (r.arguments (tree.child? .arguments)))] :=
        .node (hcallee.append ((h.arguments (.inr hkind)).mono (by omega)))
      rw [hread]
      exact .node (hcall.mono (by omega))
  | member hkind _ hread =>
      rw [hread]
      exact .node (h.requiredChild (by simp [hkind, Tree.requiredFields]))
  | subscript hkind hread =>
      rw [hread]
      exact .node ((h.requiredChild (by simp [hkind, Tree.requiredFields])).append
        (h.requiredChild (by simp [hkind, Tree.requiredFields])))
  | binary hkind op hread =>
      have hfields : Tree.requiredFields tree.kind = [.left, .right] := by
        rcases hkind with hkind | hkind | hkind <;> rw [hkind] <;> rfl
      rw [hread]
      exact .node ((h.requiredChild (by simp [hfields])).append
        (h.requiredChild (by simp [hfields])))
  | unary hkind op hread =>
      have hfields : Tree.requiredFields tree.kind = [.argument] := by
        rcases hkind with hkind | hkind <;> rw [hkind] <;> rfl
      rw [hread]
      exact .node (h.requiredChild (by simp [hfields]))
  | await hkind hread =>
      rw [hread]
      exact .node (h.required tree Tree.firstPart?_surplus_le
        (Tree.surplus_pos_of_firstPart?_eq_none (.inl hkind)))
  | ternary hkind hread =>
      rw [hread]
      exact .node ((h.requiredChild (by simp [hkind, Tree.requiredFields])).append
        ((h.requiredChild (by simp [hkind, Tree.requiredFields])).append
          (h.requiredChild (by simp [hkind, Tree.requiredFields]))))
  | paren _ hinner hread =>
      have hle := Tree.firstPart?_surplus_le _ hinner
      rw [hread]
      exact .node ((h.expression _).mono (by omega))
  | sequence hkind hread =>
      rw [hread]
      exact (h.sequence hkind).mono (by omega)
  | unsupported hread =>
      rw [hread]
      exact .leaf rfl (by omega)

end Fitting

theorem fitting_within (source : SourceText) (levels : Nat) :
    (within source levels).Fitting levels := by
  induction levels with
  | zero =>
      -- With no level left there is only the mark, which is cut off.
      refine ⟨fun tree node hnode huncut => ?_, fun tree node hnode huncut => ?_⟩
      · obtain rfl := List.mem_singleton.mp hnode
        exact absurd rfl huncut.self
      · obtain rfl := List.mem_singleton.mp hnode
        exact absurd rfl huncut.self
  | succ levels ih => exact ⟨ih.readStatement, ih.readExpression⟩

end Reading

/-! ## Scripts that are not too deep -/

/-- A script from which nothing was cut off takes the levels of the bound and those that its tree
adds. -/
theorem Func.level_le_of_uncut (source : SourceText) {depth : Nat} {tree : Tree}
    (huncut : ∀ node ∈ (Func.ofTree source depth tree).nodes,
      node.unsupportedKind? ≠ some nestingKind) :
    ∀ visit ∈ (Func.ofTree source depth tree).visits, visit.1 ≤ depth + tree.surplus := by
  intro visit hvisit
  obtain ⟨stmt, hstmt, hvisit⟩ := List.mem_flatMap.mp hvisit
  have hfits : (Node.stmt stmt).Fits (depth + tree.surplusBelow) := by
    refine (Reading.fitting_within source depth).statements Tree.surplus_le_of_mem_parts _
      (List.mem_map_of_mem hstmt) fun node hnode => huncut node ?_
    rw [nodes_eq]
    exact List.mem_flatMap.mpr ⟨stmt, hstmt, hnode⟩
  have hlt := hfits.level_lt visit hvisit
  have hbelow := tree.surplusBelow_le
  omega

namespace Graph

/-- If lowering a tree within a bound cut nothing off, then no scan of its script ends for depth
whose bound is larger by the most levels that are added along one path of the tree. Added are one
level at each `new`, at each declaration of a named function and at each loop whose clauses declare
variables; one on the way into a handler, into a switch that has cases, into a member of an object
that is no pair, into a body that is an expression and into a template behind a callee; on the way
into an operand of a comma sequence one for each operand after it, where the first counts like the
second; on the way into a substitution of a template one for each substitution after it; and one at
the end of a path if a part is missing there. -/
theorem scan_deep_enough (graph : Graph) (path : String) (source : SourceText) (depth : Nat)
    (tree : Tree) (options : ScanOptions)
    (huncut : ∀ node ∈ (Func.ofTree source depth tree).nodes,
      node.unsupportedKind? ≠ some nestingKind)
    (hbound : depth + tree.surplus ≤ options.maxDepth) (limit : Nat) :
    (graph.scan path options (Func.ofTree source depth tree)).1.result ≠
      .error (.tooDeep limit) := by
  rw [result_scan]
  intro hresult
  have hfails : Visit.outcome options (Func.ofTree source depth tree).visits ≠ .ok () := by
    rw [hresult]
    exact nofun
  obtain ⟨before, visit, after, error, hvisits, -, hstop, houtcome, -⟩ :=
    Visit.exists_first_stop (mt Visit.outcome_eq_ok_iff.mpr hfails)
  obtain rfl : error = .tooDeep limit := by
    rw [houtcome] at hresult
    exact Except.error.inj hresult
  have hle := Func.level_le_of_uncut source huncut visit (by simp [hvisits])
  rcases Visit.stop?_eq_some hstop with ⟨hlevel, -⟩ | ⟨-, kind, -, herror⟩
  · omega
  · cases herror

-- The inner handler stands in the outer body, so no path leads into both.
example : (parse? (SourceText.ofBytes
    "try\x7btry\x7bf()\x7dcatch(e)\x7b\x7d\x7dcatch(e)\x7b\x7d".toUTF8.toList).glyphs.toList).map
      Tree.surplus = some 1 := by decide +kernel

/-- Three operands between commas, which become two operators one below the other. -/
def threeOperands : SourceText := .ofBytes "a,b,c;".toUTF8.toList

theorem exists_tree_threeOperands :
    ∃ tree, parse? threeOperands.glyphs.toList = some tree ∧ tree.surplus = 1 ∧
      (∀ node ∈ (Func.ofTree threeOperands 3 tree).nodes,
        node.unsupportedKind? ≠ some nestingKind) ∧
      (empty.scan "m.js" { ScanOptions.standard with maxDepth := 3 }
        (Func.ofTree threeOperands 3 tree)).1.result = .error (.tooDeep 3) := by
  have hparsed : ((parse? threeOperands.glyphs.toList).map fun tree => (tree.surplus,
      (empty.scan "m.js" .standard (Func.ofTree threeOperands 3 tree)).1.result,
      (empty.scan "m.js" { ScanOptions.standard with maxDepth := 3 }
        (Func.ofTree threeOperands 3 tree)).1.result)) =
          some (1, .ok (), .error (.tooDeep 3)) := by decide +kernel
  obtain ⟨tree, htree, hfacts⟩ := Option.map_eq_some_iff.mp hparsed
  obtain ⟨hsurplus, hok, htooDeep⟩ := by simpa only [Prod.mk.injEq] using hfacts
  refine ⟨tree, htree, hsurplus, fun node hnode => ?_, htooDeep⟩
  rw [Func.supported_of_ok hok node hnode]
  exact nofun

/-- Within the bound that cut nothing off, a scan may end for depth. -/
theorem scan_threeOperands_too_deep :
    ∃ tree, parse? threeOperands.glyphs.toList = some tree ∧
      (∀ node ∈ (Func.ofTree threeOperands 3 tree).nodes,
        node.unsupportedKind? ≠ some nestingKind) ∧
      (empty.scan "m.js" { ScanOptions.standard with maxDepth := 3 }
        (Func.ofTree threeOperands 3 tree)).1.result = .error (.tooDeep 3) := by
  obtain ⟨tree, htree, -, huncut, htooDeep⟩ := exists_tree_threeOperands
  exact ⟨tree, htree, huncut, htooDeep⟩

theorem scan_threeOperands_deep_enough :
    ∃ tree, parse? threeOperands.glyphs.toList = some tree ∧
      (∀ node ∈ (Func.ofTree threeOperands 3 tree).nodes,
        node.unsupportedKind? ≠ some nestingKind) ∧
      3 + tree.surplus ≤ ({ ScanOptions.standard with maxDepth := 4 } : ScanOptions).maxDepth ∧
      ∀ limit, (empty.scan "m.js" { ScanOptions.standard with maxDepth := 4 }
        (Func.ofTree threeOperands 3 tree)).1.result ≠ .error (.tooDeep limit) := by
  obtain ⟨tree, htree, hsurplus, huncut, -⟩ := exists_tree_threeOperands
  have hbound : 3 + tree.surplus ≤
      ({ ScanOptions.standard with maxDepth := 4 } : ScanOptions).maxDepth :=
    Nat.le_of_eq (congrArg (3 + ·) hsurplus)
  exact ⟨tree, htree, huncut, hbound,
    scan_deep_enough empty "m.js" threeOperands 3 tree _ huncut hbound⟩

end Graph

end ScriptGraph
