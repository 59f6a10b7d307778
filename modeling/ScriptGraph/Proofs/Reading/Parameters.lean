import ScriptGraph.Proofs.Reading.Likeness
import ScriptGraph.Proofs.Script.Outcome

/-!
# Parameters are read for their names only

Of a list of parameters a reading takes the names that they bind. Whatever else
stands there, such as a default value with a call in it, is passed over: the
script of a tree is the script of the tree in which every parameter is reduced
to the name that it binds, and no scan can tell the two apart.
-/

namespace ScriptGraph

open Source

namespace Source.Tree

/-! ## Trees with bare parameters -/

/-- A parameter reduced to the name that it binds. -/
def bareParameter (tree : Tree) : Tree :=
  if tree.isSubstantial then leaf .identifier (Reading.boundBy tree).span else tree

def bareList (tree : Tree) : Tree :=
  .node tree.kind tree.span (tree.children.map fun child => (child.1, child.2.bareParameter))

def isParameterList (parent : Kind) (place : Option Field) (kind : Kind) : Bool :=
  functionKinds.contains parent && place == some .parameters && kind == .formalParameters

/-- Whether a part of a node stays as it is: the one parameter of a function without a list, and
what no grammar puts in its place. -/
def staysAsIs (parent : Kind) (place : Option Field) (kind : Kind) : Bool :=
  place == some .parameter || place == some .parameters ||
    (parent == .switchStatement && place == some .body && kind != .switchBody)

mutual

/-- The tree in which every parameter in a function's list is reduced to the name that it binds. -/
def withBareParameters : Tree → Tree
  | .node kind span children => .node kind span (bareAmong kind children)

def bareAmong (parent : Kind) : List (Option Field × Tree) → List (Option Field × Tree)
  | [] => []
  | (place, part) :: rest =>
    (place, if isParameterList parent place part.kind then part.bareList
      else if staysAsIs parent place part.kind then part
      else part.withBareParameters) :: bareAmong parent rest

end

def barePart (parent : Kind) (child : Option Field × Tree) : Tree :=
  if isParameterList parent child.1 child.2.kind then child.2.bareList
  else if staysAsIs parent child.1 child.2.kind then child.2
  else child.2.withBareParameters

theorem bareAmong_eq (parent : Kind) (children : List (Option Field × Tree)) :
    bareAmong parent children = children.map fun child => (child.1, barePart parent child) := by
  induction children with
  | nil => rfl
  | cons child children ih => rw [bareAmong, ih, List.map_cons, barePart]

theorem children_withBareParameters (tree : Tree) :
    tree.withBareParameters.children =
      tree.children.map fun child => (child.1, barePart tree.kind child) := by
  cases tree
  rw [withBareParameters, children, bareAmong_eq]
  rfl

/-- The second node is the first one, with bare parameters or as it is. -/
def Trimmed (tree other : Tree) : Prop := other = tree.withBareParameters ∨ other = tree

/-- The same as far as it can be read: of lists of parameters nothing is. -/
def Similar (tree other : Tree) : Prop :=
  tree.Trimmed other ∨
    tree.kind = .formalParameters ∧ other.kind = tree.kind ∧ other.span = tree.span

namespace Trimmed

variable {tree other : Tree} (h : tree.Trimmed other)

include h

theorem kind_eq : other.kind = tree.kind := by
  rcases h with rfl | rfl
  · cases tree
    rfl
  · rfl

theorem span_eq : other.span = tree.span := by
  rcases h with rfl | rfl
  · cases tree
    rfl
  · rfl

end Trimmed

namespace Similar

variable {tree other : Tree} (h : tree.Similar other)

include h

theorem kind_eq : other.kind = tree.kind := by
  rcases h with h | ⟨-, h, -⟩
  · exact h.kind_eq
  · exact h

theorem span_eq : other.span = tree.span := by
  rcases h with h | ⟨-, -, h⟩
  · exact h.span_eq
  · exact h

theorem isSubstantial_eq : other.isSubstantial = tree.isSubstantial := by
  rw [isSubstantial, h.kind_eq, isSubstantial]

theorem trimmed (hkind : tree.kind ≠ .formalParameters) : tree.Trimmed other :=
  h.resolve_right fun hlist => hkind hlist.1

end Similar

theorem forall₂_substantial {R : Tree → Tree → Prop}
    (hR : ∀ {part other : Tree}, R part other → part.Similar other)
    {children others : List (Option Field × Tree)}
    (h : List.Forall₂ (fun child child' => child'.1 = child.1 ∧ R child.2 child'.2)
      children others) :
    List.Forall₂ R ((children.map Prod.snd).filter isSubstantial)
      ((others.map Prod.snd).filter isSubstantial) := by
  refine List.rel_filter (fun part part' hpart => ?_)
    (List.rel_map (fun child child' hchild => hchild.2) h)
  simp only [(hR hpart).isSubstantial_eq]

theorem trimmed_barePart {parent : Kind} (child : Option Field × Tree)
    (h : isParameterList parent child.1 child.2.kind = false) :
    child.2.Trimmed (barePart parent child) := by
  rw [barePart, h]
  split
  · contradiction
  · split
    · exact .inr rfl
    · exact .inl rfl

theorem similar_barePart (parent : Kind) (child : Option Field × Tree) :
    child.2.Similar (barePart parent child) := by
  cases h : isParameterList parent child.1 child.2.kind with
  | false => exact .inl (trimmed_barePart child h)
  | true =>
      have hkind : child.2.kind = .formalParameters := by
        simp only [isParameterList, Bool.and_eq_true, beq_iff_eq] at h
        exact h.2
      rw [barePart, h]
      exact .inr ⟨hkind, rfl, rfl⟩

theorem isParameterList_eq_false {parent : Kind} {place : Option Field} (kind : Kind)
    (h : parent ∉ functionKinds ∨ place ≠ some .parameters) :
    isParameterList parent place kind = false := by
  rcases h with h | h <;> simp [isParameterList, h]

theorem child?_withBareParameters (tree : Tree) (field : Field) :
    tree.withBareParameters.child? field =
      (tree.child? field).map fun part => barePart tree.kind (some field, part) := by
  rw [child?, children_withBareParameters, List.find?_map, child?, Option.map_map, Option.map_map]
  cases hfind : tree.children.find? fun child => child.1 == some field with
  | none =>
      have hnone : tree.children.find? ((fun child => child.1 == some field) ∘
          fun child => (child.1, barePart tree.kind child)) = none := hfind
      rw [hnone]
      rfl
  | some child =>
      have hsome : tree.children.find? ((fun child => child.1 == some field) ∘
          fun child => (child.1, barePart tree.kind child)) = some child := hfind
      have hplace : child.1 = some field := by simpa using List.find?_some hfind
      rw [hsome, Option.map_some, Option.map_some, Function.comp_apply, Function.comp_apply,
        ← hplace]

namespace Trimmed

variable {tree other : Tree} (h : tree.Trimmed other)

include h

theorem child?_of {R : Tree → Tree → Prop} (hrefl : ∀ tree, R tree tree) (field : Field)
    (hpart : ∀ part, R part (barePart tree.kind (some field, part))) :
    Option.Rel R (tree.child? field) (other.child? field) := by
  rcases h with rfl | rfl
  · rw [child?_withBareParameters]
    cases tree.child? field with
    | none => exact .none
    | some part => exact .some (hpart part)
  · cases other.child? field with
    | none => exact .none
    | some part => exact .some (hrefl part)

theorem child? (field : Field) (hfield : field ≠ .parameters) :
    Option.Rel Trimmed (tree.child? field) (other.child? field) :=
  h.child?_of (fun _ => .inr rfl) field fun part => trimmed_barePart (some field, part)
    (isParameterList_eq_false _ (.inr fun heq => hfield (Option.some.inj heq)))

/-- The parts of a node correspond to each other in whatever way a part and what it becomes do. -/
theorem children_of {R : Tree → Tree → Prop} (hrefl : ∀ tree, R tree tree)
    (hpart : ∀ child ∈ tree.children, R child.2 (barePart tree.kind child)) :
    List.Forall₂ (fun child child' : Option Field × Tree => child'.1 = child.1 ∧ R child.2 child'.2)
      tree.children other.children := by
  rcases h with rfl | rfl
  · rw [children_withBareParameters, List.forall₂_map_right_iff, List.forall₂_same]
    exact fun child hchild => ⟨rfl, hpart child hchild⟩
  · exact List.forall₂_same.mpr fun child _ => ⟨rfl, hrefl child.2⟩

theorem parts_of_not_function (hkind : tree.kind ∉ functionKinds) :
    List.Forall₂ Trimmed tree.parts other.parts := by
  have hchildren := h.children_of (fun _ => .inr rfl) fun child _ =>
    trimmed_barePart child (isParameterList_eq_false _ (.inl hkind))
  exact forall₂_substantial .inl hchildren

theorem similar_children :
    List.Forall₂ (fun child child' : Option Field × Tree =>
      child'.1 = child.1 ∧ child.2.Similar child'.2) tree.children other.children :=
  h.children_of (fun _ => .inl (.inr rfl)) fun child _ => similar_barePart _ child

theorem parts : List.Forall₂ Similar tree.parts other.parts :=
  forall₂_substantial id h.similar_children

theorem partsWithout (field : Field) :
    List.Forall₂ Similar (tree.partsWithout field) (other.partsWithout field) :=
  forall₂_substantial id
    (forall₂_eraseP h.similar_children fun child child' hchild => by simp only [hchild.1])

theorem cases (hkind : tree.kind = .switchStatement) :
    Option.Rel (fun body body' => List.Forall₂ Trimmed body.parts body'.parts)
      (tree.child? .body) (other.child? .body) := by
  have hrefl : ∀ body : Tree, List.Forall₂ Trimmed body.parts body.parts := fun body =>
    List.forall₂_same.mpr fun part _ => .inr rfl
  refine h.child?_of hrefl .body fun body => ?_
  rw [hkind]
  by_cases hbody : body.kind = .switchBody
  · have htrimmed : body.Trimmed (barePart .switchStatement (some .body, body)) :=
      trimmed_barePart _ (isParameterList_eq_false _ (.inl (by decide)))
    exact htrimmed.parts_of_not_function (by rw [hbody]; decide)
  · have hsame : barePart .switchStatement (some .body, body) = body := by
      simp [barePart, isParameterList, staysAsIs, hbody]
    rw [hsame]
    exact hrefl body

end Trimmed

end Source.Tree

/-! ## Readings that pass over parameters -/

namespace Reading

/-- Parameters reduced to the names that they bind have the same names. -/
theorem params_bareList (r : Reading) (list : Tree) :
    list.bareList.parts.map r.param = list.parts.map r.param := by
  have hsubstantial : ∀ tree : Tree, tree.bareParameter.isSubstantial = tree.isSubstantial := by
    intro tree
    unfold Tree.bareParameter
    split
    · simp_all [Tree.isSubstantial, Tree.leaf, Tree.kind, Kind.isNamed, Kind.isComment]
    · rfl
  have hparts : list.bareList.parts = list.parts.map Tree.bareParameter := by
    unfold Tree.parts Tree.bareList
    rw [Tree.children, List.map_map, List.filter_map, List.filter_map, List.map_map]
    simp only [Function.comp_def, hsubstantial]
  rw [hparts, List.map_map]
  refine List.map_congr_left fun part hpart => ?_
  have hpart : part.isSubstantial = true := (List.mem_filter.mp hpart).2
  rw [Function.comp_apply, Tree.bareParameter, if_pos hpart]
  exact r.source.text_congr rfl

theorem params_eq (r : Reading) {tree other : Tree} (h : tree.Trimmed other)
    (hkind : tree.kind ∈ Tree.functionKinds) : r.params other = r.params tree := by
  rcases h with rfl | rfl
  · -- A single parameter stays as it is; of a list the bound names stay.
    have hsingle : tree.withBareParameters.child? .parameter = tree.child? .parameter := by
      rw [Tree.child?_withBareParameters]
      cases tree.child? .parameter with
      | none => rfl
      | some part => simp [Tree.barePart, Tree.isParameterList, Tree.staysAsIs]
    rw [params, hsingle, params, Tree.child?_withBareParameters]
    cases tree.child? .parameter with
    | some single => rfl
    | none =>
        cases tree.child? .parameters with
        | none => rfl
        | some list =>
            by_cases hlist : list.kind = .formalParameters
            · have hbare : Tree.barePart tree.kind (some .parameters, list) = list.bareList := by
                simp [Tree.barePart, Tree.isParameterList, hkind, hlist]
              simp only [Option.map_some, hbare]
              exact params_bareList r list
            · simp [Tree.barePart, Tree.isParameterList, Tree.staysAsIs, hlist]
  · rfl

end Reading

theorem Source.Tree.likeness_trimmed : Tree.Likeness Tree.Similar Tree.Trimmed where
  like_of_close := .inl
  close_of_like h := h.trimmed
  kind_eq h := h.kind_eq
  span_eq h := h.span_eq
  child? h := h.child?
  parts h := h.parts
  partsWithout h := h.partsWithout
  cases h := h.cases
  params h hkind r := r.params_eq h hkind

theorem Func.ofTree_withBareParameters (source : SourceText) (depth : Nat) (tree : Tree) :
    Func.ofTree source depth tree.withBareParameters = Func.ofTree source depth tree :=
  Tree.likeness_trimmed.ofTree_eq (.inl rfl) source depth

namespace Graph

/-- A scan takes no notice of what stands in parameters besides the names that they bind: reduced to
these names, the parameters of all functions yield the same result and the same graph. A call in a
default value neither adds an edge nor fails the scan. -/
theorem scan_withBareParameters (graph : Graph) (path : String) (options : ScanOptions)
    (source : SourceText) (depth : Nat) (tree : Tree) :
    graph.scan path options (Func.ofTree source depth tree.withBareParameters) =
      graph.scan path options (Func.ofTree source depth tree) := by
  rw [Func.ofTree_withBareParameters]

/-- A function that calls another one where its parameter has no value. -/
def callInDefault : List UInt8 := "function f(a = g()) \x7b\x7d".toUTF8.toList

/-- The scan ends well, and no edge leads to the function that is called. -/
theorem scan_callInDefault_drops_call :
    (Func.ofSource? callInDefault ScanOptions.standard.maxDepth).map (fun func =>
      ((empty.scan "m.js" .standard func).1.result,
        (empty.scan "m.js" .standard func).2.namedEdges)) =
      some (.ok (), [⟨"m", "f", .declaration⟩]) := by decide +kernel

end Graph

end ScriptGraph
