import ScriptGraph.Proofs.Reading.Likeness

/-!
# Remarks leave no trace in a script

Remarks may stand among the parts of any node. A reading asks for the part in a
field, and remarks stand in none, or for the named parts that are no remarks, and
so it makes the same of a tree whatever remarks are put into it.
-/

namespace ScriptGraph

open Source

namespace Source.Tree

/-- Parts with remarks put among them, where each part becomes one that is related to it. -/
inductive Interspersed (R : Tree → Tree → Prop) :
    List (Option Field × Tree) → List (Option Field × Tree) → Prop
  | nil : Interspersed R [] []
  | remark {remark : Tree} (hremark : remark.kind.isComment = true)
      {children others : List (Option Field × Tree)} (h : Interspersed R children others) :
      Interspersed R children ((none, remark) :: others)
  | part (place : Option Field) {part other : Tree} (hpart : R part other)
      {children others : List (Option Field × Tree)} (h : Interspersed R children others) :
      Interspersed R ((place, part) :: children) ((place, other) :: others)

/-- The second tree is the first one with remarks put among the parts of any of its nodes. -/
inductive Remarked : Tree → Tree → Prop
  | node (kind : Kind) (span : Span) {children others : List (Option Field × Tree)}
      (h : Interspersed Remarked children others) :
      Remarked (.node kind span children) (.node kind span others)

theorem isSubstantial_of_isComment {tree : Tree} (h : tree.kind.isComment = true) :
    tree.isSubstantial = false := by
  rw [isSubstantial, h, Bool.not_true, Bool.and_false]

namespace Interspersed

variable {R : Tree → Tree → Prop} {children others : List (Option Field × Tree)}

theorem refl (h : ∀ child ∈ children, R child.2 child.2) : Interspersed R children children := by
  induction children with
  | nil => exact .nil
  | cons child children ih =>
      obtain ⟨hchild, hrest⟩ := List.forall_mem_cons.mp h
      exact .part child.1 hchild (ih hrest)

theorem find? (h : Interspersed R children others) (field : Field) :
    Option.Rel R ((children.find? fun child => child.1 == some field).map Prod.snd)
      ((others.find? fun child => child.1 == some field).map Prod.snd) := by
  induction h with
  | nil => exact .none
  | remark _ _ ih => exact ih
  | part place hpart _ ih =>
      rw [List.find?_cons, List.find?_cons]
      cases place == some field with
      | true => exact .some hpart
      | false => exact ih

theorem eraseP (h : Interspersed R children others) (field : Field) :
    Interspersed R (children.eraseP fun child => child.1 == some field)
      (others.eraseP fun child => child.1 == some field) := by
  induction h with
  | nil => exact .nil
  | remark hremark _ ih => exact .remark hremark ih
  | part place hpart hrest ih =>
      rw [List.eraseP_cons, List.eraseP_cons]
      cases place == some field with
      | true => exact hrest
      | false => exact .part place hpart ih

theorem substantial (h : Interspersed R children others)
    (hR : ∀ {part other}, R part other → other.isSubstantial = part.isSubstantial) :
    List.Forall₂ R ((children.map Prod.snd).filter isSubstantial)
      ((others.map Prod.snd).filter isSubstantial) := by
  induction h with
  | nil => exact .nil
  | remark hremark _ ih =>
      rw [List.map_cons, List.filter_cons_of_neg (by
        rw [isSubstantial_of_isComment hremark]; exact Bool.false_ne_true)]
      exact ih
  | part place hpart _ ih =>
      rw [List.map_cons, List.map_cons, List.filter_cons, List.filter_cons, hR hpart]
      split
      · exact .cons hpart ih
      · exact ih

end Interspersed

/-- What holds of a node if it holds of its parts holds of every node. -/
@[elab_as_elim]
theorem inductionOnParts {motive : Tree → Prop} (tree : Tree)
    (step : ∀ tree : Tree, (∀ child ∈ tree.children, motive child.2) → motive tree) :
    motive tree :=
  step tree fun child hchild =>
    have hlt : sizeOf child.2 < sizeOf tree := by
      obtain ⟨kind, span, children⟩ := tree
      have hmem : sizeOf child < sizeOf children := List.sizeOf_lt_of_mem hchild
      obtain ⟨place, part⟩ := child
      simp only [Prod.mk.sizeOf_spec, node.sizeOf_spec] at *
      omega
    inductionOnParts child.2 step
termination_by sizeOf tree

namespace Remarked

theorem refl (tree : Tree) : Remarked tree tree := by
  induction tree using inductionOnParts with
  | step tree ih =>
      obtain ⟨kind, span, children⟩ := tree
      exact .node kind span (.refl ih)

theorem insertAmong {remark : Tree} (hremark : remark.kind.isComment = true)
    {children : List (Option Field × Tree)}
    (hinsert : ∀ child ∈ children, child.2.Remarked (insert remark child.2)) :
    Interspersed Remarked children (insertAmong remark children) := by
  have hkept : ∀ parts : List (Option Field × Tree), Interspersed Remarked parts parts :=
    fun parts => .refl fun part _ => refl part.2
  induction children with
  | nil => exact .remark hremark .nil
  | cons child children ih =>
      obtain ⟨place, part⟩ := child
      obtain ⟨hpart, hrest⟩ := List.forall_mem_cons.mp hinsert
      rw [Tree.insertAmong]
      split
      · exact .part place hpart (hkept children)
      · split
        · exact .remark hremark (hkept _)
        · exact .part place (refl part) (ih hrest)

theorem insert {remark : Tree} (hremark : remark.kind.isComment = true) (tree : Tree) :
    tree.Remarked (insert remark tree) := by
  induction tree using inductionOnParts with
  | step tree ih =>
      obtain ⟨kind, span, children⟩ := tree
      rw [Tree.insert]
      exact .node kind span (insertAmong hremark ih)

variable {tree other : Tree} (h : tree.Remarked other)

include h

theorem kind_eq : other.kind = tree.kind := by
  cases h
  rfl

theorem span_eq : other.span = tree.span := by
  cases h
  rfl

theorem isSubstantial_eq : other.isSubstantial = tree.isSubstantial := by
  rw [isSubstantial, h.kind_eq, isSubstantial]

theorem children : Interspersed Remarked tree.children other.children := by
  cases h with
  | node kind span h => exact h

theorem child? (field : Field) : Option.Rel Remarked (tree.child? field) (other.child? field) :=
  h.children.find? field

theorem parts : List.Forall₂ Remarked tree.parts other.parts :=
  h.children.substantial isSubstantial_eq

theorem partsWithout (field : Field) :
    List.Forall₂ Remarked (tree.partsWithout field) (other.partsWithout field) :=
  (h.children.eraseP field).substantial isSubstantial_eq

theorem cases : Option.Rel (fun body body' => List.Forall₂ Remarked body.parts body'.parts)
    (tree.child? .body) (other.child? .body) := by
  have hbody := h.child? .body
  generalize tree.child? .body = body?, other.child? .body = body'? at hbody
  cases hbody with
  | none => exact .none
  | some hbody => exact .some hbody.parts

end Remarked

end Source.Tree

namespace Reading

theorem boundByLeft_eq (whole tree : Tree) :
    boundByLeft whole tree.children = (tree.child? .left).elim whole boundBy := by
  rw [Tree.child?]
  induction tree.children with
  | nil => rfl
  | cons child children ih =>
      obtain ⟨place, part⟩ := child
      simp only [boundByLeft, List.find?_cons, ih]
      cases place == some Field.left <;> rfl

theorem boundByFirst_eq (whole tree : Tree) :
    boundByFirst whole tree.children = tree.firstPart?.elim whole boundBy := by
  rw [Tree.firstPart?, Tree.parts]
  induction tree.children with
  | nil => rfl
  | cons child children ih =>
      rw [boundByFirst, List.map_cons, List.filter_cons, ih]
      split <;> rfl

theorem boundBy_eq (tree : Tree) :
    boundBy tree =
      match tree.kind with
      | .assignmentPattern => (tree.child? .left).elim tree boundBy
      | .restPattern => tree.firstPart?.elim tree boundBy
      | _ => tree := by
  rw [← boundByLeft_eq tree tree, ← boundByFirst_eq tree tree]
  obtain ⟨kind, span, children⟩ := tree
  cases kind <;> rfl

end Reading

namespace Source.Tree.Remarked

theorem boundBy {tree other : Tree} (h : tree.Remarked other) :
    (Reading.boundBy tree).Remarked (Reading.boundBy other) := by
  induction tree using inductionOnParts generalizing other with
  | step tree ih =>
      have helim : ∀ {part? part'? : Option Tree}, Option.Rel Remarked part? part'? →
          (∀ part ∈ part?, ∃ place, (place, part) ∈ tree.children) →
          (part?.elim tree Reading.boundBy).Remarked (part'?.elim other Reading.boundBy) := by
        intro part? part'? hpart hmem
        cases hpart with
        | none => exact h
        | some hpart =>
            obtain ⟨place, hchild⟩ := hmem _ rfl
            exact ih _ hchild hpart
      rw [Reading.boundBy_eq, Reading.boundBy_eq other, h.kind_eq]
      split
      · exact helim (h.child? .left) fun part hpart => ⟨_, mem_children_of_child? hpart⟩
      · exact helim (rel_head?_of_forall₂ h.parts) fun part hpart =>
          mem_children_of_mem_parts (mem_parts_of_firstPart? hpart)
      · exact h

theorem params {tree other : Tree} (h : tree.Remarked other) (r : Reading) :
    r.params other = r.params tree := by
  have hparam : ∀ part part' : Tree, part.Remarked part' → r.param part' = r.param part :=
    fun part part' hpart => r.source.text_congr hpart.boundBy.span_eq
  have hsingle := h.child? .parameter
  have hlist := h.child? .parameters
  rw [Reading.params, Reading.params]
  generalize tree.child? .parameter = single?, other.child? .parameter = single'? at hsingle
  generalize tree.child? .parameters = list?, other.child? .parameters = list'? at hlist
  cases hsingle with
  | some hsingle => exact congrArg (fun name => [name]) (hparam _ _ hsingle)
  | none =>
      cases hlist with
      | none => rfl
      | some hlist => exact map_eq_of_forall₂ hlist.parts hparam

end Source.Tree.Remarked

theorem Source.Tree.likeness_remarked : Tree.Likeness Tree.Remarked Tree.Remarked where
  like_of_close h := h
  close_of_like h _ := h
  kind_eq h := h.kind_eq
  span_eq h := h.span_eq
  child? h field _ := h.child? field
  parts h := h.parts
  partsWithout h := h.partsWithout
  cases h _ := h.cases
  params h _ r := h.params r

/-- The remarks that are put back into the tree of a source do not change its script. -/
theorem Func.ofTree_insertAll (source : SourceText) (depth : Nat) (remarks : List Remark)
    (tree : Tree) :
    Func.ofTree source depth (remarks.foldr (fun remark => Tree.insert remark.tree) tree) =
      Func.ofTree source depth tree := by
  induction remarks with
  | nil => rfl
  | cons remark remarks ih =>
      have hremark : remark.tree.kind.isComment = true := remark.kind.2
      rw [List.foldr_cons, ← ih]
      exact Tree.likeness_remarked.ofTree_eq (.insert hremark _) source depth

/-- Remarks do not change what a tree is read into: with any number of them put among the parts of
any of its nodes, a tree has the same script within every bound. -/
theorem Func.ofTree_eq_of_remarked {tree other : Tree} (h : tree.Remarked other)
    (source : SourceText) (depth : Nat) :
    Func.ofTree source depth other = Func.ofTree source depth tree :=
  Tree.likeness_remarked.ofTree_eq h source depth

/-- A branch with remarks before its condition, before its statement and before what stands behind
`else`, as it has in `if(a)b;else c;`. -/
def Source.Tree.branchWith (remarks : List (Option Field × Tree)) : Tree :=
  .node .program ⟨0, 14, 0⟩ (remarks ++ [(none, .node .ifStatement ⟨0, 14, 0⟩ [
    (some .condition, .node .parenthesizedExpression ⟨2, 5, 0⟩
      (remarks ++ [(none, .leaf .identifier ⟨3, 4, 0⟩)])),
    (some .consequence, .node .expressionStatement ⟨5, 7, 0⟩
      (remarks ++ [(none, .leaf .identifier ⟨5, 6, 0⟩)])),
    (some .alternative, .node .elseClause ⟨7, 14, 0⟩
      (remarks ++ [(none, .node .expressionStatement ⟨12, 14, 0⟩
        [(none, .leaf .identifier ⟨12, 13, 0⟩)])]))])])

theorem Func.ofTree_branchWith_remark :
    let remarks := [(none, Tree.leaf .comment ⟨0, 2, 0⟩), (none, Tree.leaf .htmlComment ⟨0, 4, 0⟩)]
    let source := SourceText.ofBytes "if(a)b;else c;".toUTF8.toList
    (Tree.branchWith []).Remarked (Tree.branchWith remarks) ∧
    Func.ofTree source 3 (Tree.branchWith remarks) =
      .wrapper [.branch (.ident "a") [.eval (.ident "b")] (some [.eval (.ident "c")])] := by
  intro remarks source
  have hfront : ∀ {part other : Tree}, part.Remarked other →
      Tree.Interspersed Tree.Remarked [(none, part)] (remarks ++ [(none, other)]) :=
    fun hpart => .remark rfl (.remark rfl (.part none hpart .nil))
  have h : (Tree.branchWith []).Remarked (Tree.branchWith remarks) := by
    refine .node _ _ (hfront (.node _ _ ?_))
    exact .part (some .condition) (.node _ _ (hfront (.refl _)))
      (.part (some .consequence) (.node _ _ (hfront (.refl _)))
        (.part (some .alternative) (.node _ _ (hfront (.refl _))) .nil))
  have hscript : Func.ofTree source 3 (Tree.branchWith []) =
      .wrapper [.branch (.ident (source.text (.leaf .identifier ⟨3, 4, 0⟩)))
        [.eval (.ident (source.text (.leaf .identifier ⟨5, 6, 0⟩)))]
        (some [.eval (.ident (source.text (.leaf .identifier ⟨12, 13, 0⟩)))])] := rfl
  have ha : source.text (.leaf .identifier ⟨3, 4, 0⟩) = "a" := by decide +kernel
  have hb : source.text (.leaf .identifier ⟨5, 6, 0⟩) = "b" := by decide +kernel
  have hc : source.text (.leaf .identifier ⟨12, 13, 0⟩) = "c" := by decide +kernel
  refine ⟨h, ?_⟩
  rw [Func.ofTree_eq_of_remarked h, hscript, ha, hb, hc]

end ScriptGraph
