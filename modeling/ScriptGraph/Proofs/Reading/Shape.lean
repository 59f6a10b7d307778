import Mathlib.Algebra.GroupWithZero.Nat
import ScriptGraph.Proofs.Reading.Forms

/-!
# The shapes that the grammar gives to nodes

Which parts a node of each kind has: at most one in each of certain fields, and a
number of parts beside these. Kinds that no script has a shape for have no rule
here. The nodes of a tree are listed without what stands aside: lists of
parameters, first values in loops over a collection, and the marks in front of
methods. Of a node that follows its rule, whatever is added up over its parts is
the sum over its fields and the parts beside them.
-/

namespace ScriptGraph

namespace Source

/-! ## Rules -/

/-- How many parts may stand beside the fields of a node: none, at most one, any number, or at least
two. -/
inductive Arity where
  | zero
  | optional
  | many
  | several
  deriving DecidableEq, Repr, Inhabited

def Arity.admits : Arity → Nat → Bool
  | .zero, count => count == 0
  | .optional, count => count ≤ 1
  | .many, _ => true
  | .several, count => 2 ≤ count

/-- A field in which at most one part stands. -/
structure Slot where
  field : Field
  /-- Of which kinds the part may be. -/
  admits : Kind → Bool

structure Rule where
  slots : List Slot
  /-- How many parts stand outside of the slots. -/
  arity : Arity
  /-- Of which kinds these parts may be. -/
  admits : Kind → Bool

/-- Whether nodes of a kind may stand where no kind is called for: lists of parameters and marks in
front of methods may not. -/
def Kind.isOrdinary (kind : Kind) : Bool := kind != .formalParameters && kind != .decorator

namespace Slot

def any (field : Field) : Slot := ⟨field, Kind.isOrdinary⟩

def of (field : Field) (kinds : List Kind) : Slot := ⟨field, kinds.contains⟩

/-- The field for the sign of a link that may be missing. -/
def chain : Slot := of .optionalChain [.optionalChain]

end Slot

namespace Rule

def fields (slots : List Slot) : Rule := ⟨slots, .zero, fun _ => false⟩

def parts (arity : Arity) : Rule := ⟨[], arity, Kind.isOrdinary⟩

def partsOf (kinds : List Kind) : Rule := ⟨[], .many, kinds.contains⟩

end Rule

open Slot in
/-- The rule for nodes of a kind, unless scripts have no shape for them. -/
def Kind.rule? : Kind → Option Rule
  | .program | .statementBlock | .variableDeclaration | .lexicalDeclaration | .array | .object
  | .arguments => some (.parts .many)
  | .expressionStatement | .throwStatement | .elseClause | .parenthesizedExpression
  | .awaitExpression | .templateSubstitution | .computedPropertyName | .returnStatement =>
    some (.parts .optional)
  | .sequenceExpression => some (.parts .several)
  | .switchBody => some (.partsOf [.switchCase, .switchDefault])
  | .string => some (.partsOf [.stringFragment, .escapeSequence, .htmlCharacterReference])
  | .templateString => some (.partsOf [.stringFragment, .escapeSequence, .templateSubstitution])
  | .identifier | .thisExpression | .superExpression | .undefinedExpression
  | .propertyIdentifier | .privatePropertyIdentifier | .shorthandPropertyIdentifier
  | .statementIdentifier | .number | .trueLiteral | .falseLiteral | .nullLiteral
  | .stringFragment | .escapeSequence | .htmlCharacterReference | .regexPattern | .regexFlags
  | .optionalChain | .emptyStatement => some (.fields [])
  | .regex => some (.fields [of .pattern [.regexPattern], of .flags [.regexFlags]])
  | .variableDeclarator => some (.fields [any .name, any .value])
  | .functionDeclaration | .generatorFunctionDeclaration | .functionExpression
  | .generatorFunction =>
    some (.fields [of .name [.identifier], of .parameters [.formalParameters], any .body])
  | .arrowFunction =>
    some (.fields [of .parameter [.identifier], of .parameters [.formalParameters], any .body])
  | .methodDefinition =>
    some ⟨[any .name, of .parameters [.formalParameters], any .body],
      .many, (· == .decorator)⟩
  | .ifStatement =>
    some (.fields [any .condition, any .consequence, of .alternative [.elseClause]])
  | .forStatement =>
    some (.fields [any .initializer, any .condition, any .increment, any .body])
  | .forInStatement =>
    some (.fields [any .left, any .value, any .right, any .body])
  | .whileStatement | .doStatement => some (.fields [any .condition, any .body])
  | .tryStatement =>
    some (.fields [any .body, of .handler [.catchClause], of .finalizer [.finallyClause]])
  | .catchClause => some (.fields [any .parameter, any .body])
  | .finallyClause => some (.fields [any .body])
  | .breakStatement | .continueStatement => some (.fields [of .label [.statementIdentifier]])
  | .labeledStatement => some (.fields [of .label [.statementIdentifier], any .body])
  | .switchStatement => some (.fields [any .value, of .body [.switchBody]])
  | .switchCase => some ⟨[any .value], .many, Kind.isOrdinary⟩
  | .switchDefault => some ⟨[of .value []], .many, Kind.isOrdinary⟩
  | .pair => some (.fields [any .key, any .value])
  | .callExpression =>
    some (.fields [any .function, of .arguments [.arguments, .templateString], chain])
  | .newExpression => some (.fields [any .constructor, of .arguments [.arguments]])
  | .memberExpression =>
    some (.fields [any .object,
      of .property [.propertyIdentifier, .privatePropertyIdentifier], chain])
  | .subscriptExpression => some (.fields [any .object, any .index, chain])
  | .assignmentExpression | .augmentedAssignmentExpression | .binaryExpression =>
    some (.fields [any .left, any .right])
  | .unaryExpression | .updateExpression => some (.fields [any .argument])
  | .ternaryExpression =>
    some (.fields [any .condition, any .consequence, any .alternative])
  | _ => none

namespace Tree

def partsIn (tree : Tree) (field : Field) : List (Option Field × Tree) :=
  tree.children.filter fun child => child.1 == some field

/-- The parts, named and no remarks, that stand in none of the fields. -/
def partsBeside (tree : Tree) (fields : List Field) : List (Option Field × Tree) :=
  tree.children.filter fun child =>
    child.2.isSubstantial && !fields.any fun field => child.1 == some field

def others (tree : Tree) (fields : List Field) : List Tree :=
  (tree.partsBeside fields).map Prod.snd

theorem parts_eq_others (tree : Tree) : tree.parts = tree.others [] := by
  rw [parts, others, partsBeside, List.filter_map]
  simp only [List.any_nil, Bool.not_false, Bool.and_true]
  rfl

theorem eraseP_eq_filter {α : Type} {p : α → Bool} {items : List α}
    (h : (items.filter p).length ≤ 1) : items.eraseP p = items.filter fun item => !p item := by
  induction items with
  | nil => rfl
  | cons item items ih =>
      cases hitem : p item with
      | true =>
          have hnone : items.filter p = [] := by
            rw [List.filter_cons_of_pos hitem, List.length_cons] at h
            exact List.length_eq_zero_iff.mp (by omega)
          have hall : items.filter (fun item => !p item) = items := by
            rw [List.filter_eq_self]
            simpa using hnone
          rw [List.eraseP_cons_of_pos hitem, List.filter_cons_of_neg (by simp [hitem]), hall]
      | false =>
          rw [List.filter_cons_of_neg (by simp [hitem])] at h
          rw [List.eraseP_cons_of_neg (by simp [hitem]), List.filter_cons_of_pos (by simp [hitem]),
            ih h]

theorem partsWithout_eq_others {tree : Tree} {field : Field}
    (h : (tree.partsIn field).length ≤ 1) : tree.partsWithout field = tree.others [field] := by
  rw [partsWithout, eraseP_eq_filter h, others, partsBeside, List.filter_map, List.filter_filter]
  simp only [List.any_cons, List.any_nil, Bool.or_false]
  rfl

end Tree

/-- The node has the parts that the rule gives it. -/
structure Rule.Fits (rule : Rule) (tree : Tree) : Prop where
  atMostOne : ∀ slot ∈ rule.slots, (tree.partsIn slot.field).length ≤ 1
  admitted : ∀ slot ∈ rule.slots, ∀ part ∈ tree.partsIn slot.field,
    slot.admits part.2.kind = true
  countBeside : rule.arity.admits (tree.partsBeside (rule.slots.map Slot.field)).length = true
  admittedBeside : ∀ part ∈ tree.partsBeside (rule.slots.map Slot.field),
    rule.admits part.2.kind = true

instance (rule : Rule) (tree : Tree) : Decidable (rule.Fits tree) :=
  decidable_of_iff
    ((∀ slot ∈ rule.slots, (tree.partsIn slot.field).length ≤ 1) ∧
      (∀ slot ∈ rule.slots, ∀ part ∈ tree.partsIn slot.field, slot.admits part.2.kind = true) ∧
      rule.arity.admits (tree.partsBeside (rule.slots.map Slot.field)).length = true ∧
      ∀ part ∈ tree.partsBeside (rule.slots.map Slot.field), rule.admits part.2.kind = true)
    ⟨fun ⟨h₁, h₂, h₃, h₄⟩ => ⟨h₁, h₂, h₃, h₄⟩, fun ⟨h₁, h₂, h₃, h₄⟩ => ⟨h₁, h₂, h₃, h₄⟩⟩

namespace Tree

/-! ## Nodes that do not stand aside -/

/-- Whether a part of a node stands aside: a list of parameters, the first value in a loop over a
collection, or a mark in front of a method. -/
def isAside (parent : Kind) (place : Option Field) (kind : Kind) : Bool :=
  kind == .formalParameters || (parent == .forInStatement && place == some .value) ||
    (parent == .methodDefinition && kind == .decorator)

mutual

/-- A node and all nodes below it, except those that stand aside. -/
def nodes : Tree → List Tree
  | .node kind span children => .node kind span children :: nodesAmong kind children

def nodesAmong (parent : Kind) : List (Option Field × Tree) → List Tree
  | [] => []
  | (place, part) :: rest =>
    (if isAside parent place part.kind then [] else part.nodes) ++ nodesAmong parent rest

end

def nodesOf (parent : Kind) (child : Option Field × Tree) : List Tree :=
  if isAside parent child.1 child.2.kind then [] else child.2.nodes

theorem nodesAmong_eq (parent : Kind) (children : List (Option Field × Tree)) :
    nodesAmong parent children = children.flatMap (nodesOf parent) := by
  induction children with
  | nil => rfl
  | cons child children ih => rw [nodesAmong, ih, List.flatMap_cons, nodesOf]

theorem nodes_eq (tree : Tree) :
    tree.nodes = tree :: tree.children.flatMap (nodesOf tree.kind) := by
  cases tree with
  | node kind span children => rw [nodes, nodesAmong_eq, Tree.children, Tree.kind]

mutual

/-- The name that a node is, in any number of parentheses. -/
def namedBy? (source : SourceText) : Tree → Option String
  | .node kind span children =>
    if kind = .parenthesizedExpression then namedByFirst? source children
    else if kind ∈ Reading.namingKinds then some (source.text (.node kind span children))
    else none

/-- The name that the first named part that is no remark is. -/
def namedByFirst? (source : SourceText) : List (Option Field × Tree) → Option String
  | [] => none
  | (_, part) :: rest =>
    if part.isSubstantial then part.namedBy? source else namedByFirst? source rest

end

theorem namedByFirst?_eq (source : SourceText) (tree : Tree) :
    namedByFirst? source tree.children = tree.firstPart?.bind (namedBy? source) := by
  unfold firstPart? parts
  induction tree.children with
  | nil => rfl
  | cons child children ih =>
      rw [namedByFirst?, List.map_cons, List.filter_cons]
      split
      · rfl
      · exact ih

theorem namedBy?_eq (source : SourceText) (tree : Tree) :
    tree.namedBy? source =
      if tree.kind = .parenthesizedExpression then tree.firstPart?.bind (namedBy? source)
      else if tree.kind ∈ Reading.namingKinds then some (source.text tree) else none := by
  rw [← namedByFirst?_eq]
  cases tree
  rfl

/-- The name that a call calls or a new object is made with. -/
def called? (source : SourceText) (tree : Tree) : Option String :=
  match tree.kind with
  | .callExpression => (tree.child? .function).bind (namedBy? source)
  | .newExpression => (tree.child? .constructor).bind (namedBy? source)
  | _ => none

/-- The name that a function or a method has of its own. -/
def declared? (source : SourceText) (tree : Tree) : Option String :=
  if tree.kind ∈ functionKinds then
    ((tree.child? .name).filter fun name =>
      name.kind == .identifier || name.kind == .propertyIdentifier).map source.text
  else none

/-! ## Grammatical trees -/

/-- The node follows the rule of its kind. Remarks and operators have no parts, and no identifier
holds the mark of made-up names. -/
structure Conforms (source : SourceText) (tree : Tree) : Prop where
  fits : ∀ rule ∈ tree.kind.rule?, rule.Fits tree
  plain : tree.isSubstantial = false → tree.children = []
  spelled : tree.kind = .identifier ∨ tree.kind = .propertyIdentifier →
    Func.anonymousMark ∉ (source.text tree).toList

instance (source : SourceText) (tree : Tree) : Decidable (tree.Conforms source) :=
  decidable_of_iff
    ((∀ rule ∈ tree.kind.rule?, rule.Fits tree) ∧
      (tree.isSubstantial = false → tree.children.isEmpty = true) ∧
      (tree.kind = .identifier ∨ tree.kind = .propertyIdentifier →
        Func.anonymousMark ∉ (source.text tree).toList))
    ⟨fun ⟨h₁, h₂, h₃⟩ => ⟨h₁, fun h => List.isEmpty_iff.mp (h₂ h), h₃⟩,
      fun ⟨h₁, h₂, h₃⟩ => ⟨h₁, fun h => List.isEmpty_iff.mpr (h₂ h), h₃⟩⟩

/-- Every node that does not stand aside follows its rule. -/
def Grammatical (source : SourceText) (tree : Tree) : Prop :=
  ∀ node ∈ tree.nodes, node.Conforms source

instance (source : SourceText) (tree : Tree) : Decidable (tree.Grammatical source) :=
  inferInstanceAs (Decidable (∀ node ∈ tree.nodes, node.Conforms source))

namespace Grammatical

variable {source : SourceText} {tree : Tree}

theorem conforms (h : tree.Grammatical source) : tree.Conforms source := by
  apply h
  rw [nodes_eq]
  exact List.mem_cons_self

theorem child (h : tree.Grammatical source) {child : Option Field × Tree}
    (hchild : child ∈ tree.children) (haside : isAside tree.kind child.1 child.2.kind = false) :
    child.2.Grammatical source := by
  intro node hnode
  apply h
  rw [nodes_eq]
  refine List.mem_cons_of_mem _ (List.mem_flatMap.mpr ⟨child, hchild, ?_⟩)
  rw [nodesOf, haside]
  exact hnode

end Grammatical

/-! ## Adding up over the nodes of a tree -/

def total (f : Tree → Nat) (tree : Tree) : Nat := (tree.nodes.map f).sum

def share (f : Tree → Nat) (parent : Kind) (child : Option Field × Tree) : Nat :=
  if isAside parent child.1 child.2.kind then 0 else child.2.total f

def totalIn (f : Tree → Nat) (tree : Tree) (field : Field) : Nat :=
  ((tree.child? field).map fun part => share f tree.kind (some field, part)).getD 0

theorem total_eq (f : Tree → Nat) (tree : Tree) :
    tree.total f = f tree + (tree.children.map (share f tree.kind)).sum := by
  have hshare : ∀ children : List (Option Field × Tree),
      ((children.flatMap (nodesOf tree.kind)).map f).sum =
        (children.map (share f tree.kind)).sum := by
    intro children
    induction children with
    | nil => rfl
    | cons child children ih =>
        have hchild : ((nodesOf tree.kind child).map f).sum = share f tree.kind child := by
          unfold nodesOf share
          split <;> rfl
        rw [List.flatMap_cons, List.map_append, List.sum_append_nat, ih, hchild, List.map_cons,
          List.sum_cons]
  rw [total, nodes_eq, List.map_cons, List.sum_cons, hshare]

theorem sum_map_filter_add {α : Type} (f : α → Nat) (p : α → Bool) (items : List α) :
    (items.map f).sum =
      ((items.filter p).map f).sum + ((items.filter fun item => !p item).map f).sum := by
  induction items with
  | nil => rfl
  | cons item items ih =>
      cases h : p item with
      | true => simp [h, ih, Nat.add_assoc]
      | false => simp [h, ih, Nat.add_left_comm]

/-- A sum over the parts of a node is the sum over any fields and over the parts in none of
them. -/
theorem sum_by_fields (f : Option Field × Tree → Nat) (children : List (Option Field × Tree)) :
    ∀ {fields : List Field}, fields.Nodup →
      (children.map f).sum =
        (fields.map fun field =>
          ((children.filter fun child => child.1 == some field).map f).sum).sum +
        ((children.filter fun child =>
          !fields.any fun field => child.1 == some field).map f).sum
  | [], _ => by
      have hall : (children.filter fun child =>
          !([] : List Field).any fun field => child.1 == some field) = children :=
        List.filter_eq_self.mpr fun _ _ => rfl
      rw [hall, List.map_nil, List.sum_nil, Nat.zero_add]
  | field :: fields, h => by
      obtain ⟨hfield, hfields⟩ := List.nodup_cons.mp h
      have hin : ∀ child : Option Field × Tree,
          (child.1 == some field && !fields.any fun other => child.1 == some other) =
            (child.1 == some field) := by
        intro child
        by_cases hchild : child.1 = some field
        · have hother : fields.any (fun other => child.1 == some other) = false := by
            rw [List.any_eq_false]
            intro other hmem hsame
            rw [hchild, beq_iff_eq, Option.some.injEq] at hsame
            exact hfield (hsame ▸ hmem)
          rw [hother, Bool.not_false, Bool.and_true]
        · simp [hchild]
      have hout : ∀ child : Option Field × Tree,
          (!(child.1 == some field) && !fields.any fun other => child.1 == some other) =
            !(field :: fields).any fun other => child.1 == some other := by
        intro child
        rw [List.any_cons, Bool.not_or]
      rw [sum_by_fields f children hfields, List.map_cons, List.sum_cons,
        sum_map_filter_add f (fun child => child.1 == some field)
          (children.filter fun child => !fields.any fun other => child.1 == some other),
        List.filter_filter, List.filter_filter]
      simp only [hin, hout]
      omega

theorem sum_partsIn {tree : Tree} {field : Field} (h : (tree.partsIn field).length ≤ 1)
    (f : Option Field × Tree → Nat) :
    ((tree.partsIn field).map f).sum =
      ((tree.child? field).map fun part => f (some field, part)).getD 0 := by
  have hhead : tree.child? field = ((tree.partsIn field).head?).map Prod.snd := by
    rw [child?, partsIn, List.head?_filter]
  have hplace : ∀ child ∈ tree.partsIn field, child.1 = some field := by
    intro child hchild
    simpa using (List.mem_filter.mp hchild).2
  rw [hhead]
  match tree.partsIn field, h, hplace with
  | [], _, _ => rfl
  | [(place, part)], _, hplace =>
      obtain rfl : place = some field := hplace _ List.mem_cons_self
      rfl

end Tree

/-- Whether parts may stand in a field, and no part there stands aside. -/
def Kind.reads (kind : Kind) (field : Field) : Bool :=
  !(kind == .forInStatement && field == .value) &&
    kind.rule?.any fun rule => rule.slots.any fun slot =>
      slot.field == field && !slot.admits .formalParameters && !slot.admits .decorator

theorem Kind.nodup_fields (kind : Kind) :
    ∀ rule ∈ kind.rule?, (rule.slots.map Slot.field).Nodup := by
  cases kind <;> first | decide | nofun

namespace Tree

variable {source : SourceText} {tree : Tree} {f : Tree → Nat}

/-- A remark or an operator counts for itself alone. -/
theorem total_of_plain (hconforms : tree.Conforms source) (h : tree.isSubstantial = false) :
    tree.total f = f tree := by
  rw [total_eq, hconforms.plain h]
  rfl

/-- Nothing is added by a part that stands aside. -/
theorem totalIn_aside {field : Field}
    (haside : ∀ part ∈ tree.child? field, isAside tree.kind (some field) part.kind = true) :
    tree.totalIn f field = 0 := by
  cases hpart : tree.child? field with
  | none =>
      rw [totalIn, hpart]
      rfl
  | some part =>
      rw [totalIn, hpart, Option.map_some, share, haside part hpart]
      rfl

namespace Grammatical

variable (h : tree.Grammatical source)

include h

theorem fits {rule : Rule} (hrule : tree.kind.rule? = some rule) : rule.Fits tree :=
  h.conforms.fits rule hrule

theorem total_of_rule (hplain : ∀ tree, tree.isSubstantial = false → f tree = 0) {rule : Rule}
    (hrule : tree.kind.rule? = some rule) :
    tree.total f = f tree + (rule.slots.map fun slot => tree.totalIn f slot.field).sum +
      ((tree.partsBeside (rule.slots.map Slot.field)).map (share f tree.kind)).sum := by
  have hin : ∀ slot ∈ rule.slots, ((tree.partsIn slot.field).map (share f tree.kind)).sum =
      tree.totalIn f slot.field :=
    fun slot hslot => sum_partsIn ((h.fits hrule).atMostOne slot hslot) _
  -- Beside the slots, remarks and operators count for nothing.
  have hbeside : ∀ children : List (Option Field × Tree), (∀ child ∈ children,
      child ∈ tree.children) → (children.map (share f tree.kind)).sum =
        ((children.filter fun child => child.2.isSubstantial).map (share f tree.kind)).sum := by
    intro children hchildren
    rw [sum_map_filter_add _ (fun child => child.2.isSubstantial), Nat.add_eq_left,
      List.sum_eq_zero_iff_forall_eq_nat]
    intro value hvalue
    obtain ⟨child, hchild, rfl⟩ := List.mem_map.mp hvalue
    obtain ⟨hmem, hsubstantial⟩ := List.mem_filter.mp hchild
    rw [Bool.not_eq_true'] at hsubstantial
    unfold share
    split
    · rfl
    · rename_i haside
      have hchild := h.child (hchildren child hmem) (Bool.eq_false_iff.mpr haside)
      rw [total_of_plain hchild.conforms hsubstantial, hplain _ hsubstantial]
  rw [total_eq, sum_by_fields _ _ (tree.kind.nodup_fields rule hrule), List.map_map,
    hbeside _ fun child hchild => (List.mem_filter.mp hchild).1, List.filter_filter,
    ← Nat.add_assoc]
  congr 2
  exact congrArg List.sum (List.map_congr_left hin)

/-- A node with slots only counts for itself and for the parts in them. -/
theorem total_fields (hplain : ∀ tree, tree.isSubstantial = false → f tree = 0)
    {slots : List Slot} (hrule : tree.kind.rule? = some (.fields slots)) :
    tree.total f = f tree + (slots.map fun slot => tree.totalIn f slot.field).sum := by
  have hbeside : tree.partsBeside (slots.map Slot.field) = [] := by
    simpa [Rule.fields, Arity.admits] using (h.fits hrule).countBeside
  have htotal := h.total_of_rule hplain hrule
  simp only [Rule.fields, hbeside, List.map_nil, List.sum_nil, Nat.add_zero] at htotal
  exact htotal

/-- A node without parts counts for itself alone. -/
theorem total_leaf (hplain : ∀ tree, tree.isSubstantial = false → f tree = 0)
    (hrule : tree.kind.rule? = some (.fields [])) : tree.total f = f tree :=
  h.total_fields hplain hrule

/-! ### Parts in slots -/

theorem admits_of_child? {rule : Rule} (hrule : tree.kind.rule? = some rule) {slot : Slot}
    (hslot : slot ∈ rule.slots) {part : Tree} (hpart : tree.child? slot.field = some part) :
    slot.admits part.kind = true :=
  (h.fits hrule).admitted slot hslot (some slot.field, part)
    (List.mem_filter.mpr ⟨mem_children_of_child? hpart, by simp⟩)

theorem isAside_of_reads {field : Field} (hfield : tree.kind.reads field = true) {part : Tree}
    (hpart : tree.child? field = some part) :
    isAside tree.kind (some field) part.kind = false := by
  obtain ⟨hplace, hslots⟩ := Bool.and_eq_true_iff.mp hfield
  obtain ⟨rule, hrule, hslots⟩ := Option.any_eq_true _ _ |>.mp hslots
  obtain ⟨slot, hslot, hmatch⟩ := List.any_eq_true.mp hslots
  obtain ⟨⟨rfl, hparameters⟩, hdecorator⟩ : (slot.field = field ∧
      slot.admits .formalParameters = false) ∧ slot.admits .decorator = false := by
    simpa using hmatch
  have hadmits := h.admits_of_child? hrule hslot hpart
  have hkind : part.kind ≠ .formalParameters := fun heq => by simp [← heq, hadmits] at hparameters
  have hkind' : part.kind ≠ .decorator := fun heq => by simp [← heq, hadmits] at hdecorator
  rw [isAside, beq_eq_false_iff_ne.mpr hkind, beq_eq_false_iff_ne.mpr hkind', Bool.false_or,
    Bool.and_false, Bool.or_false, Option.some_beq_some]
  rwa [Bool.not_eq_true'] at hplace

theorem of_child? {field : Field} (hfield : tree.kind.reads field = true) {part : Tree}
    (hpart : tree.child? field = some part) : part.Grammatical source :=
  h.child (mem_children_of_child? hpart) (h.isAside_of_reads hfield hpart)

theorem totalIn_eq {field : Field} (hfield : tree.kind.reads field = true) :
    tree.totalIn f field = ((tree.child? field).map (total f)).getD 0 := by
  cases hpart : tree.child? field with
  | none =>
      rw [totalIn, hpart]
      rfl
  | some part =>
      rw [totalIn, hpart, Option.map_some, Option.map_some, share,
        h.isAside_of_reads hfield hpart]
      rfl

/-! ### Parts beside the slots -/

theorem isAside_of_mem_partsBeside {rule : Rule} (hrule : tree.kind.rule? = some rule)
    (hadmits : rule.admits .formalParameters = false) (hparent : tree.kind ≠ .forInStatement)
    (hparent' : tree.kind ≠ .methodDefinition) {child : Option Field × Tree}
    (hchild : child ∈ tree.partsBeside (rule.slots.map Slot.field)) :
    isAside tree.kind child.1 child.2.kind = false := by
  have hkind : child.2.kind ≠ .formalParameters := by
    intro heq
    have hadmitted := (h.fits hrule).admittedBeside child hchild
    rw [heq, hadmits] at hadmitted
    cases hadmitted
  simp [isAside, hkind, hparent, hparent']

theorem of_mem_others {rule : Rule} (hrule : tree.kind.rule? = some rule)
    (hadmits : rule.admits .formalParameters = false) (hparent : tree.kind ≠ .forInStatement)
    (hparent' : tree.kind ≠ .methodDefinition) {part : Tree}
    (hpart : part ∈ tree.others (rule.slots.map Slot.field)) :
    part.Grammatical source ∧ rule.admits part.kind = true := by
  obtain ⟨child, hchild, rfl⟩ := List.mem_map.mp hpart
  exact ⟨h.child (List.mem_filter.mp hchild).1
    (h.isAside_of_mem_partsBeside hrule hadmits hparent hparent' hchild),
    (h.fits hrule).admittedBeside child hchild⟩

theorem sum_others {rule : Rule} (hrule : tree.kind.rule? = some rule)
    (hadmits : rule.admits .formalParameters = false) (hparent : tree.kind ≠ .forInStatement)
    (hparent' : tree.kind ≠ .methodDefinition) :
    ((tree.partsBeside (rule.slots.map Slot.field)).map (share f tree.kind)).sum =
      ((tree.others (rule.slots.map Slot.field)).map (total f)).sum := by
  rw [others, List.map_map]
  refine congrArg List.sum (List.map_congr_left fun child hchild => ?_)
  rw [share, h.isAside_of_mem_partsBeside hrule hadmits hparent hparent' hchild]
  rfl

/-- A node without slots counts for itself and for its parts, which follow their rules. -/
theorem total_parts (hplain : ∀ tree, tree.isSubstantial = false → f tree = 0) {arity : Arity}
    {admits : Kind → Bool} (hrule : tree.kind.rule? = some ⟨[], arity, admits⟩)
    (hadmits : admits .formalParameters = false) :
    tree.total f = f tree + (tree.parts.map (total f)).sum ∧
      (∀ part ∈ tree.parts, part.Grammatical source ∧ admits part.kind = true) ∧
      arity.admits tree.parts.length = true := by
  have hparent : tree.kind ≠ .forInStatement := fun hkind => by
    rw [hkind] at hrule
    cases hrule
  have hparent' : tree.kind ≠ .methodDefinition := fun hkind => by
    rw [hkind] at hrule
    cases hrule
  rw [parts_eq_others]
  refine ⟨?_, fun part hpart => h.of_mem_others hrule hadmits hparent hparent' hpart, ?_⟩
  · rw [h.total_of_rule hplain hrule, h.sum_others hrule hadmits hparent hparent']
    rfl
  · rw [others, List.length_map]
    exact (h.fits hrule).countBeside

/-- A node with at most one part counts for itself and for that part. -/
theorem total_firstPart (hplain : ∀ tree, tree.isSubstantial = false → f tree = 0)
    (hrule : tree.kind.rule? = some (.parts .optional)) :
    tree.total f = f tree + (tree.firstPart?.map (total f)).getD 0 ∧
      ∀ part ∈ tree.firstPart?, part.Grammatical source := by
  obtain ⟨htotal, hparts, hcount⟩ := h.total_parts hplain hrule rfl
  refine ⟨?_, fun part hpart => (hparts part (mem_parts_of_firstPart? hpart)).1⟩
  rw [htotal, firstPart?]
  match tree.parts, hcount with
  | [], _ => rfl
  | [part], _ => rfl

end Grammatical

end Tree

end Source

end ScriptGraph
