import ScriptGraph.Proofs.Reading.Shape

/-!
# Sums over the calls and functions of scripts and trees

Each call and each named function counts for a number that its name is given.
These numbers are added up over the nodes of a script, in a form that speaks
only of scripts without anything unsupported, and over the nodes of a
grammatical tree, in a form that says what each kind of node adds.
-/

namespace ScriptGraph

open Source

/-- What calls and functions count for, by the name that is called or declared. The wrapper's name
counts for nothing. -/
structure Weights where
  call : String → Nat
  function : String → Nat
  function_wrapper : function Func.wrapperName = 0

/-- Made-up names count for nothing, and neither does the wrapper's. -/
theorem Func.elim_declared? {w : Weights} {func : Func} {name : String}
    (hname : func.name? = some name) :
    func.declared?.elim 0 w.function =
      if anonymousMark ∈ name.toList then 0 else w.function name := by
  rw [declared?, hname, Option.filter_some]
  by_cases hmark : anonymousMark ∈ name.toList
  · simp [hmark]
  · by_cases hwrapper : name = wrapperName
    · simp [hwrapper, w.function_wrapper]
    · simp [hmark, hwrapper]

/-! ## Sums over scripts -/

namespace Node

def weight (w : Weights) (node : Node) : Nat :=
  node.invoked?.elim 0 w.call + (node.func?.bind Func.declared?).elim 0 w.function

/-- The sum over a node and all nodes below it. -/
def tally (w : Weights) (node : Node) : Nat := (node.nodes.map (weight w)).sum

theorem sum_flatMap_nodes (w : Weights) (nodes : List Node) :
    ((nodes.flatMap Node.nodes).map (weight w)).sum = (nodes.map (tally w)).sum := by
  induction nodes with
  | nil => rfl
  | cons node nodes ih =>
      rw [List.flatMap_cons, List.map_append, List.sum_append_nat, ih]
      rfl

theorem tally_eq (w : Weights) (node : Node) :
    node.tally w = node.weight w + (node.children.map (tally w)).sum := by
  rw [tally, nodes_eq, List.map_cons, List.sum_cons, sum_flatMap_nodes]

/-- Neither the node nor any node below it is unsupported. -/
def Supported (node : Node) : Prop := ∀ other ∈ node.nodes, other.unsupportedKind? = none

theorem Supported.self {node : Node} (h : node.Supported) : node.unsupportedKind? = none := by
  apply h
  rw [nodes_eq]
  exact List.mem_cons_self

theorem Supported.child {node child : Node} (h : node.Supported) (hchild : child ∈ node.children) :
    child.Supported := by
  intro other hother
  apply h
  rw [nodes_eq]
  exact List.mem_cons_of_mem _ (List.mem_flatMap.mpr ⟨child, hchild, hother⟩)

/-- The sum over the nodes is the count, unless one of them is unsupported. -/
def Yields (w : Weights) (nodes : List Node) (count : Nat) : Prop :=
  (∀ node ∈ nodes, node.Supported) → (nodes.map (tally w)).sum = count

namespace Yields

variable {w : Weights} {nodes : List Node} {count : Nat}

theorem nil : Yields w [] 0 := fun _ => rfl

theorem eq_zero (h : Yields w [] count) : count = 0 := (h (by simp)).symm

theorem congr (h : Yields w nodes count) {other : Nat} (heq : other = count) :
    Yields w nodes other := heq ▸ h

theorem append {more : List Node} {countMore : Nat} (h : Yields w nodes count)
    (hmore : Yields w more countMore) : Yields w (nodes ++ more) (count + countMore) := by
  intro hsupported
  obtain ⟨hnodes, hothers⟩ := List.forall_mem_append.mp hsupported
  rw [List.map_append, List.sum_append_nat, h hnodes, hmore hothers]

theorem node {node : Node} (h : Yields w node.children count) :
    Yields w [node] (node.weight w + count) := by
  intro hsupported
  have hnode := hsupported node List.mem_cons_self
  rw [List.map_singleton, List.sum_singleton, tally_eq, h fun child hchild => hnode.child hchild]

/-- A node that counts for nothing by itself. -/
theorem plain {node : Node} (hweight : node.weight w = 0) (h : Yields w node.children count) :
    Yields w [node] count :=
  h.node.congr (by rw [hweight, Nat.zero_add])

theorem leaf {node : Node} (hweight : node.weight w = 0) (hchildren : node.children = []) :
    Yields w [node] 0 :=
  plain hweight (hchildren ▸ nil)

theorem unsupported {node : Node} {kind : String} (h : node.unsupportedKind? = some kind) :
    Yields w [node] count := by
  intro hsupported
  have hself := (hsupported node List.mem_cons_self).self
  rw [h] at hself
  cases hself

/-- A call, whose callee is a name only if nothing in it is unsupported. -/
theorem call {callee : Expr} {args : List Expr} {name? : Option String}
    (hname : (Node.expr callee).Supported → callee.identName? = name?)
    (h : Yields w (Node.expr (.call callee args)).children count) :
    Yields w [.expr (.call callee args)] (name?.elim 0 w.call + count) := by
  intro hsupported
  have hcallee : (Node.expr callee).Supported :=
    (hsupported _ List.mem_cons_self).child (by simp [children])
  rw [h.node hsupported, weight, invoked?, hname hcallee]
  rfl

theorem function (func : Func) (h : Yields w (func.body.map .stmt) count) :
    Yields w [.expr (.function func)] (func.declared?.elim 0 w.function + count) :=
  h.node.congr (by simp [weight, invoked?, func?])

theorem map {α : Type} {read : α → Node} {f : α → Nat} {items : List α}
    (h : ∀ item ∈ items, Yields w [read item] (f item)) :
    Yields w (items.map read) ((items.map f).sum) := by
  induction items with
  | nil => exact nil
  | cons item items ih =>
      exact (h item List.mem_cons_self).append
        (ih fun other hother => h other (List.mem_cons_of_mem _ hother))

theorem flatMap {α : Type} {read : α → List Node} {f : α → Nat} {items : List α}
    (h : ∀ item ∈ items, Yields w (read item) (f item)) :
    Yields w (items.flatMap read) ((items.map f).sum) := by
  induction items with
  | nil => exact nil
  | cons item items ih =>
      exact (h item List.mem_cons_self).append
        (ih fun other hother => h other (List.mem_cons_of_mem _ hother))

/-- Joining expressions to a first one adds what they count for. -/
theorem foldl {α : Type} {op : String} {read : α → Expr} {f : α → Nat} {items : List α}
    (h : ∀ item ∈ items, Yields w [.expr (read item)] (f item)) {first : Expr} {start : Nat}
    (hfirst : Yields w [.expr first] start) :
    Yields w [.expr ((items.map read).foldl (fun left right => Expr.binary op left right) first)]
      (start + (items.map f).sum) := by
  induction items generalizing first start with
  | nil => exact hfirst
  | cons item items ih =>
      have hjoined : Yields w [.expr (.binary op first (read item))] (f item + start) :=
        plain rfl ((h item List.mem_cons_self).append hfirst)
      refine (ih (fun other hother => h other (List.mem_cons_of_mem _ hother)) hjoined).congr ?_
      rw [List.map_cons, List.sum_cons]
      omega

end Yields

end Node

theorem Expr.identName?_foldl (op : String) (exprs : List Expr) {first : Expr}
    (h : first.identName? = none) :
    (exprs.foldl (fun left right => Expr.binary op left right) first).identName? = none := by
  induction exprs generalizing first with
  | nil => exact h
  | cons expr exprs ih => exact ih rfl

/-! ## Sums over trees -/

def Weights.on (w : Weights) (source : SourceText) (tree : Tree) : Nat :=
  (tree.called? source).elim 0 w.call + (tree.declared? source).elim 0 w.function

namespace Source.Tree

/-- Kinds of nodes that may count for something by themselves. -/
def tellingKinds : List Kind := .callExpression :: .newExpression :: functionKinds

theorem on_eq_zero (w : Weights) (source : SourceText) {tree : Tree}
    (h : tree.kind ∉ tellingKinds) : w.on source tree = 0 := by
  have hcalled : tree.called? source = none := by
    unfold called?
    split
    case h_3 => rfl
    all_goals
      rename_i hkind
      rw [hkind] at h
      exact absurd (by decide) h
  have hdeclared : tree.declared? source = none :=
    if_neg fun hkind => h (by simp [tellingKinds, hkind])
  rw [Weights.on, hcalled, hdeclared]
  rfl

theorem on_of_function (w : Weights) (source : SourceText) {tree : Tree}
    (h : tree.kind ∈ functionKinds) :
    w.on source tree = (tree.declared? source).elim 0 w.function := by
  have hcalled : tree.called? source = none := by
    unfold called?
    split
    case h_3 => rfl
    all_goals
      rename_i hkind
      rw [hkind] at h
      exact absurd h (by decide)
  rw [Weights.on, hcalled]
  exact Nat.zero_add _

theorem on_of_plain (w : Weights) (source : SourceText) :
    ∀ tree : Tree, tree.isSubstantial = false → w.on source tree = 0 := by
  have hkinds : ∀ kind ∈ tellingKinds, (kind.isNamed && !kind.isComment) = true := by decide
  intro tree h
  apply on_eq_zero
  intro hkind
  rw [isSubstantial, hkinds _ hkind] at h
  cases h

def leafKinds : List Kind :=
  [.identifier, .thisExpression, .superExpression, .undefinedExpression, .propertyIdentifier,
    .privatePropertyIdentifier, .shorthandPropertyIdentifier, .statementIdentifier, .number,
    .trueLiteral, .falseLiteral, .nullLiteral, .stringFragment, .escapeSequence,
    .htmlCharacterReference, .regexPattern, .regexFlags, .optionalChain, .emptyStatement]

theorem rule?_of_mem_leafKinds {kind : Kind} (h : kind ∈ leafKinds) :
    kind.rule? = some (.fields []) := by
  revert h
  cases kind <;> first | exact fun _ => rfl | exact fun h => absurd h (by simp [leafKinds])

theorem not_mem_tellingKinds {kind : Kind} (h : kind ∈ leafKinds) : kind ∉ tellingKinds := by
  have hall : ∀ kind ∈ leafKinds, kind ∉ tellingKinds := by decide
  exact hall kind h

namespace Grammatical

variable {w : Weights} {source : SourceText} {tree : Tree} (h : tree.Grammatical source)

include h

theorem sum_leaf (hkind : tree.kind ∈ leafKinds) : tree.total (w.on source) = 0 := by
  rw [h.total_leaf (on_of_plain w source) (rule?_of_mem_leafKinds hkind),
    on_eq_zero w source (not_mem_tellingKinds hkind)]

theorem sum_plain (hplain : tree.isSubstantial = false) : tree.total (w.on source) = 0 := by
  rw [total_of_plain h.conforms hplain, on_of_plain w source tree hplain]

theorem sum_fields (hkind : tree.kind ∉ tellingKinds) {slots : List Slot}
    (hrule : tree.kind.rule? = some (.fields slots)) :
    tree.total (w.on source) =
      (slots.map fun slot => tree.totalIn (w.on source) slot.field).sum := by
  rw [h.total_fields (on_of_plain w source) hrule, on_eq_zero w source hkind, Nat.zero_add]

theorem sum_firstPart (hkind : tree.kind ∉ tellingKinds)
    (hrule : tree.kind.rule? = some (.parts .optional)) :
    tree.total (w.on source) = (tree.firstPart?.map (total (w.on source))).getD 0 ∧
      ∀ part ∈ tree.firstPart?, part.Grammatical source := by
  obtain ⟨htotal, hfirst⟩ := h.total_firstPart (on_of_plain w source) hrule
  rw [on_eq_zero w source hkind, Nat.zero_add] at htotal
  exact ⟨htotal, hfirst⟩

/-- Nothing counts in a field that only leaves may stand in. -/
theorem totalIn_leaf {field : Field} (hfield : tree.kind.reads field = true)
    (hleaf : ∀ part ∈ tree.child? field, part.kind ∈ leafKinds) :
    tree.totalIn (w.on source) field = 0 := by
  rw [h.totalIn_eq hfield]
  cases hpart : tree.child? field with
  | none => rfl
  | some part => exact (h.of_child? hfield hpart).sum_leaf (hleaf part hpart)

theorem totalIn_of {field : Field} {kinds : List Kind} {rule : Rule}
    (hrule : tree.kind.rule? = some rule) (hslot : .of field kinds ∈ rule.slots)
    (hfield : tree.kind.reads field = true) (hkinds : ∀ kind ∈ kinds, kind ∈ leafKinds) :
    tree.totalIn (w.on source) field = 0 := by
  refine h.totalIn_leaf hfield fun part hpart => hkinds part.kind ?_
  exact List.contains_iff_mem.mp (h.admits_of_child? hrule hslot hpart)

theorem totalIn_chain {rule : Rule} (hrule : tree.kind.rule? = some rule)
    (hslot : .chain ∈ rule.slots) (hfield : tree.kind.reads .optionalChain = true) :
    tree.totalIn (w.on source) .optionalChain = 0 :=
  h.totalIn_of hrule hslot hfield (by decide)

/-- Lists of parameters stand aside. -/
theorem totalIn_parameters {rule : Rule} (hrule : tree.kind.rule? = some rule)
    (hslot : .of .parameters [.formalParameters] ∈ rule.slots) :
    tree.totalIn (w.on source) .parameters = 0 := by
  refine totalIn_aside fun part hpart => ?_
  have hkind := List.contains_iff_mem.mp (h.admits_of_child? hrule hslot hpart)
  rw [List.mem_singleton.mp hkind]
  rfl

end Grammatical

/-- What a literal is spelled with counts for nothing. -/
theorem Grammatical.sum_literal {w : Weights} {source : SourceText} {tree : Tree}
    (h : tree.Grammatical source) (hkind : tree.kind ∈ Reading.literalKinds) :
    tree.total (w.on source) = 0 := by
  simp only [Reading.literalKinds, List.mem_cons, List.not_mem_nil, or_false] at hkind
  rcases hkind with hkind | hkind | hkind | hkind | hkind | hkind
  case inr.inr.inr.inr.inr =>
    have hrule : tree.kind.rule? = some (.fields [.of .pattern [.regexPattern],
        .of .flags [.regexFlags]]) := by rw [hkind]; rfl
    have htotal : tree.total (w.on source) = tree.totalIn (w.on source) .pattern +
        (tree.totalIn (w.on source) .flags + 0) := h.sum_fields (by rw [hkind]; decide) hrule
    rw [htotal, h.totalIn_of hrule List.mem_cons_self (by rw [hkind]; rfl) (by decide),
      h.totalIn_of hrule (List.mem_cons_of_mem _ List.mem_cons_self) (by rw [hkind]; rfl)
        (by decide)]
  case inl =>
    have hrule : tree.kind.rule? = some (.partsOf [.stringFragment, .escapeSequence,
        .htmlCharacterReference]) := by rw [hkind]; rfl
    obtain ⟨htotal, hparts, -⟩ := h.total_parts (on_of_plain w source) hrule rfl
    rw [htotal, on_eq_zero w source (by rw [hkind]; decide), Nat.zero_add,
      List.sum_eq_zero_iff_forall_eq_nat]
    intro value hvalue
    obtain ⟨part, hpart, rfl⟩ := List.mem_map.mp hvalue
    have hleaf : ∀ kind ∈ [Kind.stringFragment, .escapeSequence, .htmlCharacterReference],
        kind ∈ leafKinds := by decide
    exact (hparts part hpart).1.sum_leaf (hleaf _ (List.contains_iff_mem.mp (hparts part hpart).2))
  all_goals exact h.sum_leaf (by rw [hkind]; decide)

def substituted (parts : List Tree) : List Tree :=
  (parts.filter fun part => part.kind == .templateSubstitution).filterMap firstPart?

/-- Of the parts of a template only what is substituted counts. -/
theorem sum_substituted {w : Weights} {source : SourceText} {parts : List Tree}
    (h : ∀ part ∈ parts, part.Grammatical source ∧
      part.kind ∈ [Kind.stringFragment, .escapeSequence, .templateSubstitution]) :
    (parts.map (total (w.on source))).sum = ((substituted parts).map (total (w.on source))).sum ∧
      ∀ inner ∈ substituted parts, inner.Grammatical source := by
  induction parts with
  | nil => exact ⟨rfl, by simp [substituted]⟩
  | cons part parts ih =>
      obtain ⟨hpart, hkind⟩ := h part List.mem_cons_self
      obtain ⟨hsum, hinner⟩ := ih fun other hother => h other (List.mem_cons_of_mem _ hother)
      by_cases hsubstitution : part.kind = .templateSubstitution
      · obtain ⟨htotal, hfirst⟩ := hpart.sum_firstPart (w := w) (by rw [hsubstitution]; decide)
          (by rw [hsubstitution]; rfl)
        have hcons : substituted (part :: parts) = part.firstPart?.toList ++ substituted parts := by
          rw [substituted, List.filter_cons_of_pos (by simp [hsubstitution]), List.filterMap_cons]
          cases part.firstPart? <;> rfl
        rw [hcons, List.map_cons, List.sum_cons, List.map_append, List.sum_append_nat, hsum, htotal]
        refine ⟨?_, fun inner hmem => ?_⟩
        · cases part.firstPart? <;> rfl
        · rcases List.mem_append.mp hmem with hmem | hmem
          · exact hfirst inner (Option.mem_toList.mp hmem)
          · exact hinner inner hmem
      · have hleaf : part.kind ∈ leafKinds := by
          simp only [List.mem_cons, hsubstitution, List.not_mem_nil, or_false] at hkind
          rcases hkind with hkind | hkind <;> rw [hkind] <;> decide
        have hcons : substituted (part :: parts) = substituted parts := by
          rw [substituted, List.filter_cons_of_neg (by simp [hsubstitution])]
          rfl
        rw [hcons, List.map_cons, List.sum_cons, hpart.sum_leaf hleaf, Nat.zero_add]
        exact ⟨hsum, hinner⟩

end Source.Tree

end ScriptGraph
