import ScriptGraph.Proofs.Script.Exactness

/-!
# Extensions announce calls

A declaration of the sentinel variable is noted as an extension by looking ahead
at its initialiser, before the walk gets there. From then on the walk owes the
invocation that the call in the initialiser makes. On the way to the call stand
only parentheses and unary operators, which a walk passes unless they are too
deep; so the debt is paid before anything else is noted, and a walk that ends
for another reason than depth owes nothing.
-/

namespace ScriptGraph

/-! ## Nodes in front of a call -/

/-- A call of a name stands at the node, or behind parentheses and unary operators only. -/
inductive Node.LeadsTo (name : String) : Node → Prop
  | call {callee : Expr} (h : callee.identName? = some name) (args : List Expr) :
      LeadsTo name (.expr (.call callee args))
  | paren {inner : Expr} (h : LeadsTo name (.expr inner)) : LeadsTo name (.expr (.paren inner))
  | unary (op : String) {operand : Expr} (h : LeadsTo name (.expr operand)) :
      LeadsTo name (.expr (.unary op operand))

namespace Node.LeadsTo

variable {name : String}

theorem of_callee? {expr : Expr} (h : expr.callee?.bind Expr.identName? = some name) :
    LeadsTo name (.expr expr) := by
  fun_induction Expr.callee? expr with
  | case1 callee args => exact .call h args
  | case2 inner ih => exact .paren (ih h)
  | case3 expr => cases h

theorem of_operand? {expr : Expr}
    (h : (expr.operand?.bind fun operand => operand.callee?.bind Expr.identName?) = some name) :
    LeadsTo name (.expr expr) := by
  fun_induction Expr.operand? expr with
  | case1 op operand => exact .unary op (of_callee? h)
  | case2 inner ih => exact .paren (ih h)
  | case3 expr => cases h

/-- What a declaration extends is called in its initialiser. -/
theorem of_extended? {node : Node} {sentinel : String} (h : node.extended? sentinel = some name) :
    ∃ declared init, node = .stmt (.var declared (some init)) ∧ LeadsTo name (.expr init) := by
  unfold Node.extended? at h
  split at h
  · rename_i declared init
    split at h
    · exact ⟨declared, init, rfl, of_operand? h⟩
    · cases h
  · cases h

end Node.LeadsTo

/-! ## Debts of a walk -/

namespace Visit

/-- How many announced invocations may be missing at the end of a walk. -/
def arrears : Except ScanError Unit → Nat
  | .error (.tooDeep _) => 1
  | _ => 0

/-- A walk along the visits pays for the extensions that it notes, and for one noted before if a
name is owed; what is missing at its end is within the arrears. -/
def Settles (options : ScanOptions) (owed : Option String) (visits : List (Nat × Node)) : Prop :=
  ∀ name,
    owed.toList.count name + (noted options visits).count ⟨.extension, name⟩ ≤
      (noted options visits).count ⟨.invocation, name⟩ + arrears (outcome options visits)

namespace Settles

variable {options : ScanOptions}

theorem nil : Settles options none [] := by
  intro name
  simp [noted]

theorem append {first second : List (Nat × Node)} (hfirst : Settles options none first)
    (hsecond : Settles options none second) : Settles options none (first ++ second) := by
  intro name
  have hone := hfirst name
  have htwo := hsecond name
  rcases walk_append options first second with
    ⟨hok, houtcome, hnoted⟩ | ⟨error, herror, houtcome, hnoted⟩
  · rw [hok] at hone
    simp only [arrears, Nat.add_zero] at hone
    rw [houtcome, hnoted, List.count_append, List.count_append]
    omega
  · rw [houtcome, hnoted, ← herror]
    exact hone

theorem flatMap {α : Type} {items : List α} {visitsOf : α → List (Nat × Node)}
    (h : ∀ item ∈ items, Settles options none (visitsOf item)) :
    Settles options none (items.flatMap visitsOf) := by
  induction items with
  | nil => exact nil
  | cons item items ih =>
      have hrest := ih fun other hother => h other (List.mem_cons_of_mem item hother)
      rw [List.flatMap_cons]
      exact (h item List.mem_cons_self).append hrest

/-- One visit takes up what is owed, adds what its node extends, pays what its node invokes and
leaves the rest to the visits behind it. -/
theorem cons {owed later : Option String} {level : Nat} {node : Node}
    {visits : List (Nat × Node)} (hsupported : owed = none ∨ node.unsupportedKind? = none)
    (hnode : ∀ name,
      owed.toList.count name + (node.extended? options.sentinel).toList.count name ≤
        node.invoked?.toList.count name + later.toList.count name)
    (hlater : Settles options later visits) : Settles options owed ((level, node) :: visits) := by
  intro name
  cases hstop : stop? options (level, node) with
  | some error =>
      rw [noted_cons_of_stop hstop, outcome_cons_of_stop hstop]
      -- Nothing is paid any more: a stop by depth leaves the debt as arrears, and no other stop
      -- comes while there is a debt.
      rcases stop?_eq_some hstop with ⟨-, rfl⟩ | ⟨-, kind, hkind, -⟩
      · have hone : owed.toList.count name ≤ 1 :=
          Nat.le_trans List.count_le_length owed.length_toList_le
        simpa [arrears] using hone
      · obtain rfl : owed = none := by
          rcases hsupported with h | h
          · exact h
          · rw [h] at hkind
            cases hkind
        simp
  | none =>
      have hnow := hnode name
      have hrest := hlater name
      rw [noted_cons_of_pass hstop, outcome_cons_of_pass hstop, List.count_append,
        List.count_append, Node.count_references, Node.count_references]
      simp only [Node.told]
      omega

end Settles

end Visit

open Visit

theorem Node.settles_visits (options : ScanOptions) (level : Nat) (node : Node) :
    Settles options none (node.visits level) ∧
      ∀ name, node.LeadsTo name → Settles options (some name) (node.visits level) := by
  -- Both parts go by recursion on the node: a declaration needs the second one of its initialiser,
  -- and a call that pays has arguments with debts of their own.
  have hbelow : ∀ child ∈ node.children,
      Settles options none (child.visits (level + 1)) ∧
        ∀ name, child.LeadsTo name → Settles options (some name) (child.visits (level + 1)) :=
    fun child hchild => settles_visits options (level + 1) child
  have hchildren := Settles.flatMap fun child hchild => (hbelow child hchild).1
  rw [visits_eq]
  constructor
  · cases hextended : node.extended? options.sentinel with
    | none => exact hchildren.cons (.inl rfl) (by simp [hextended])
    | some name =>
        obtain ⟨declared, init, rfl, hleads⟩ := LeadsTo.of_extended? hextended
        have hinit := (hbelow (.expr init) (by simp [children])).2 name hleads
        simp only [children, Option.toList_some, List.map_cons, List.map_nil,
          List.flatMap_singleton]
        exact hinit.cons (.inl rfl) (by simp [hextended, invoked?])
  · intro name hleads
    cases hleads with
    | call h args => exact hchildren.cons (.inr rfl) (by simp [extended?, invoked?, h])
    | paren h =>
        have hinner := (hbelow _ (by simp [children])).2 name h
        simp only [children, List.flatMap_singleton]
        exact hinner.cons (.inr rfl) (by simp [extended?, invoked?])
    | unary op h =>
        have hoperand := (hbelow _ (by simp [children])).2 name h
        simp only [children, List.flatMap_singleton]
        exact hoperand.cons (.inr rfl) (by simp [extended?, invoked?])
termination_by sizeOf node
decreasing_by exact sizeOf_lt_of_mem_children hchild

theorem Func.count_extension_le (options : ScanOptions) (func : Func) (name : String) :
    (func.references options).references.toList.count ⟨.extension, name⟩ ≤
      (func.references options).references.toList.count ⟨.invocation, name⟩ +
        arrears (func.references options).result := by
  have hbody : Settles options none func.visits :=
    .flatMap fun stmt _ => (Node.settles_visits options 1 (.stmt stmt)).1
  have hown : ∀ relation, relation ≠ .declaration →
      func.ownReferences.count ⟨relation, name⟩ = 0 := by
    intro relation hrelation
    rw [ownReferences, Reference.count_map_mk, if_neg hrelation.symm]
  have hcount := hbody name
  rw [func.toList_references, func.result_references, List.count_append, List.count_append,
    hown .extension (by decide), hown .invocation (by decide)]
  simpa using hcount

end ScriptGraph
