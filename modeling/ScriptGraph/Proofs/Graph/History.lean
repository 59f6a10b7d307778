import Mathlib.Data.List.Induction
import ScriptGraph.Proofs.Graph.Registry

/-!
# Histories of a graph

A history is the list of calls made on a graph that started empty. Whatever the
calls and their order, as long as edges are only added between numbers that
earlier calls have returned, the graph can be read off its history: its names
are the names referred to, in the order of their first mention, its roles are
the roles referred to, and its edges are the edges added, one for one.
-/

namespace ScriptGraph

inductive Call where
  | refer (name : String) (role : Role)
  | relate (source target : Nat) (relation : Relation)
  deriving DecidableEq, Repr

namespace Call

def name? : Call → Option String
  | .refer name _ => some name
  | .relate _ _ _ => none

/-- The names that calls refer to, in the order of their first mention. -/
def mentioned (calls : List Call) : List String := (calls.filterMap name?).eraseDups

def edge? : Call → Option Edge
  | .refer _ _ => none
  | .relate source target relation => some ⟨source, target, relation⟩

end Call

theorem Call.mentioned_concat_refer (calls : List Call) (name : String) (role : Role) :
    mentioned (calls ++ [.refer name role]) =
      if name ∈ mentioned calls then mentioned calls else mentioned calls ++ [name] := by
  have hlast : [Call.refer name role].filterMap name? = [name] := rfl
  unfold mentioned
  rw [List.filterMap_append, List.eraseDups_append, hlast]
  generalize calls.filterMap name? = names
  by_cases h : name ∈ names
  · simp [List.removeAll, List.mem_eraseDups, h]
  · simp [List.removeAll, List.mem_eraseDups, List.eraseDups_cons, h]

namespace Graph

/-- The number that a call returns, if it returns one, and the graph after it. -/
def perform (graph : Graph) : Call → Option Nat × Graph
  | .refer name role =>
    let (id, graph) := graph.refer name role
    (some id, graph)
  | .relate source target relation => (none, graph.relate source target relation)

def after (graph : Graph) (calls : List Call) : Graph :=
  calls.foldl (fun graph call => (graph.perform call).2) graph

def replies (graph : Graph) : List Call → List (Option Nat)
  | [] => []
  | call :: rest => (graph.perform call).1 :: (graph.perform call).2.replies rest

/-- Edges are only added between numbers that earlier calls have returned. -/
def Legal (calls : List Call) : Prop :=
  ∀ before source target relation rest,
    calls = before ++ .relate source target relation :: rest →
      some source ∈ empty.replies before ∧ some target ∈ empty.replies before

@[simp] theorem after_nil (graph : Graph) : graph.after [] = graph := rfl

theorem after_append (graph : Graph) (calls more : List Call) :
    graph.after (calls ++ more) = (graph.after calls).after more := by
  simp [after]

theorem after_concat (graph : Graph) (calls : List Call) (call : Call) :
    graph.after (calls ++ [call]) = ((graph.after calls).perform call).2 := by
  simp [after]

theorem replies_append (graph : Graph) (calls more : List Call) :
    graph.replies (calls ++ more) = graph.replies calls ++ (graph.after calls).replies more := by
  induction calls generalizing graph with
  | nil => rfl
  | cons call calls ih =>
      simp only [List.cons_append, replies, ih]
      rfl

@[simp] theorem length_replies (graph : Graph) (calls : List Call) :
    (graph.replies calls).length = calls.length := by
  induction calls generalizing graph with
  | nil => rfl
  | cons call calls ih => simp [replies, ih]

theorem growth_perform (graph : Graph) (call : Call) : Growth graph (graph.perform call).2 := by
  cases call with
  | refer name role => exact growth_refer graph name role
  | relate source target relation => exact growth_relate graph source target relation

theorem growth_after (graph : Graph) (calls : List Call) : Growth graph (graph.after calls) := by
  induction calls generalizing graph with
  | nil => exact .refl graph
  | cons call calls ih => exact (growth_perform graph call).trans (ih _)

theorem edges_after (graph : Graph) (calls : List Call) :
    (graph.after calls).edges.toList = graph.edges.toList ++ calls.filterMap Call.edge? := by
  induction calls generalizing graph with
  | nil => simp
  | cons call calls ih =>
      change ((graph.perform call).2.after calls).edges.toList = _
      rw [ih]
      cases call with
      | refer name role => simp [perform, List.filterMap_cons, Call.edge?]
      | relate source target relation =>
          simp [perform, relate, Call.edge?]

namespace Legal

theorem nil : Legal [] := by
  intro before source target relation rest h
  simp at h

theorem of_concat {calls : List Call} {call : Call} (h : Legal (calls ++ [call])) :
    Legal calls := by
  intro before source target relation rest hcalls
  apply h before source target relation (rest ++ [call])
  simp [hcalls]

theorem concat {calls : List Call} {call : Call} (h : Legal calls)
    (hcall : ∀ edge ∈ call.edge?,
      some edge.source ∈ empty.replies calls ∧ some edge.target ∈ empty.replies calls) :
    Legal (calls ++ [call]) := by
  intro before source target relation rest heq
  rcases List.eq_nil_or_concat rest with rfl | ⟨others, last, rfl⟩
  · obtain ⟨rfl, hlast⟩ := List.append_inj' heq rfl
    obtain rfl := List.head_eq_of_cons_eq hlast
    exact hcall ⟨source, target, relation⟩ rfl
  · rw [List.concat_eq_append, ← List.cons_append, ← List.append_assoc] at heq
    exact h before source target relation others (List.append_inj' heq rfl).1

theorem concat_refer {calls : List Call} (h : Legal calls) (name : String) (role : Role) :
    Legal (calls ++ [.refer name role]) := by
  apply h.concat
  intro edge hedge
  cases hedge

/-- Along a legal history the invariant holds, and every number that was returned is in use. -/
theorem wellFormed_after_and_lt {calls : List Call} (h : Legal calls) :
    (empty.after calls).WellFormed ∧
      ∀ id, some id ∈ empty.replies calls → id < (empty.after calls).vertices.size := by
  -- The last call is legal because its numbers were returned before and are still in use.
  induction calls using List.reverseRecOn with
  | nil => exact ⟨WellFormed.empty, by simp [replies]⟩
  | append_singleton calls call ih =>
      obtain ⟨hgraph, hlt⟩ := ih h.of_concat
      rw [after_concat, replies_append]
      cases call with
      | refer name role =>
          refine ⟨hgraph.refer name role, ?_⟩
          intro id hid
          rcases List.mem_append.mp hid with hid | hid
          · exact Nat.lt_of_lt_of_le (hlt id hid) (size_le_size_refer _ name role)
          · have heq : id = ((empty.after calls).refer name role).1 := by
              simpa [replies, perform] using hid
            rw [heq]
            exact hgraph.lt_size_refer name role
      | relate source target relation =>
          obtain ⟨hsource, htarget⟩ := h calls source target relation [] rfl
          refine ⟨hgraph.relate relation (hlt source hsource) (hlt target htarget), ?_⟩
          intro id hid
          rcases List.mem_append.mp hid with hid | hid
          · exact hlt id hid
          · simp [replies, perform] at hid

theorem wellFormed_after {calls : List Call} (h : Legal calls) :
    (empty.after calls).WellFormed :=
  h.wellFormed_after_and_lt.1

theorem marked_after_iff {calls : List Call} (h : Legal calls) (name : String) (role : Role) :
    (empty.after calls).Marked name role ↔ Call.refer name role ∈ calls := by
  induction calls using List.reverseRecOn with
  | nil => simp [Marked, empty]
  | append_singleton calls call ih =>
      have hgraph := h.of_concat.wellFormed_after
      have hbefore := ih h.of_concat
      rw [after_concat]
      cases call with
      | refer other otherRole =>
          simp only [perform, hgraph.marked_refer, hbefore, List.mem_append, List.mem_singleton,
            Call.refer.injEq]
          exact or_comm
      | relate source target relation =>
          change (empty.after calls).Marked name role ↔ _
          simp [hbefore]

theorem names_after {calls : List Call} (h : Legal calls) :
    (empty.after calls).names = Call.mentioned calls := by
  induction calls using List.reverseRecOn with
  | nil => rfl
  | append_singleton calls call ih =>
      have hgraph := h.of_concat.wellFormed_after
      have hbefore := ih h.of_concat
      rw [after_concat]
      cases call with
      | refer name role =>
          change ((empty.after calls).refer name role).2.names = _
          rw [hgraph.names_refer, hbefore, Call.mentioned_concat_refer]
      | relate source target relation =>
          change (empty.after calls).names = _
          rw [hbefore]
          simp [Call.mentioned, List.filterMap_cons, Call.name?]

/-- A call that refers to a name returns the place of the name among the names mentioned. -/
theorem replies_refer {calls : List Call} (h : Legal calls) {i : Nat} {name : String}
    {role : Role} (hcall : calls[i]? = some (.refer name role)) :
    (empty.replies calls)[i]? = some (some ((Call.mentioned calls).idxOf name)) := by
  obtain ⟨hi, hget⟩ := List.getElem?_eq_some_iff.mp hcall
  have hsplit : calls = (calls.take i ++ [.refer name role]) ++ calls.drop (i + 1) := by
    rw [← hget]
    simp
  generalize hbefore : calls.take i = before at hsplit
  generalize calls.drop (i + 1) = rest at hsplit
  have hlength : before.length = i := by
    rw [← hbefore, List.length_take]
    omega
  have hlegal : Legal before := by
    intro first source target relation others hfirst
    apply h first source target relation (others ++ [.refer name role] ++ rest)
    simp [hsplit, hfirst]
  -- The name that the call gives its number is still that number's name at the end.
  have hname : (empty.after calls).nameAt? ((empty.after before).refer name role).1 =
      some name := by
    rw [hsplit, after_append, after_concat]
    exact (growth_after _ rest).nameAt? (hlegal.wellFormed_after.nameAt?_refer_self name role)
  have hplace : (Call.mentioned calls).idxOf name =
      ((empty.after before).refer name role).1 := by
    rw [← getElem?_names, h.names_after, List.getElem?_eq_some_iff] at hname
    obtain ⟨hlt, hget⟩ := hname
    have hnodup := h.wellFormed_after.names_nodup
    rw [h.names_after] at hnodup
    calc (Call.mentioned calls).idxOf name = (Call.mentioned calls).idxOf _ := by rw [hget]
      _ = _ := hnodup.idxOf_getElem _ hlt
  rw [hplace]
  conv_lhs => rw [hsplit]
  rw [replies_append, replies_append, List.append_assoc,
    List.getElem?_append_right (by simp [hlength])]
  simp [hlength, replies, perform]

end Legal

/-- After every legal history the index and the vertices are two forms of one numbering, edges
end at vertices, roles and edges are those of the history, and numbers are given out in the
order of first mention and never change. -/
theorem after_legal_history {calls : List Call} (h : Legal calls) :
    (∀ (name : String) (id : Nat), (empty.after calls).index[name]? = some id ↔
      ∃ vertex : Vertex, (empty.after calls).vertices[id]? = some vertex ∧
        vertex.name = name) ∧
    ((empty.after calls).vertices.toList.map Vertex.name).Nodup ∧
    (empty.after calls).vertexCount = (empty.after calls).vertices.size ∧
    (∀ edge ∈ (empty.after calls).edges,
      edge.source < (empty.after calls).vertices.size ∧
        edge.target < (empty.after calls).vertices.size) ∧
    (∀ name role, (∃ vertex ∈ (empty.after calls).vertices,
      vertex.name = name ∧ vertex.hasRole role = true) ↔ Call.refer name role ∈ calls) ∧
    (∀ (i j : Nat) name role otherRole, calls[i]? = some (.refer name role) →
      calls[j]? = some (.refer name otherRole) →
        (empty.replies calls)[i]? = (empty.replies calls)[j]?) ∧
    (empty.after calls).vertices.toList.map Vertex.name = Call.mentioned calls ∧
    (∀ (i : Nat) name role, calls[i]? = some (.refer name role) →
      (empty.replies calls)[i]? = some (some ((Call.mentioned calls).idxOf name))) ∧
    (empty.after calls).edges.toList = calls.filterMap Call.edge? := by
  have hgraph := h.wellFormed_after
  refine ⟨?_, hgraph.names_nodup, hgraph.count_eq, hgraph.ends_lt, h.marked_after_iff, ?_,
    h.names_after, fun _ _ _ hcall => h.replies_refer hcall, by simp [edges_after, empty]⟩
  · intro name id
    rw [← nameAt?_eq_some_iff]
    exact hgraph.lookup?_iff name id
  · intro i j name role otherRole hi hj
    rw [h.replies_refer hi, h.replies_refer hj]

/-- A name is called, then referred to once more in another role, then declared by itself. -/
def sharedName : List Call :=
  [.refer "util" .module, .refer "log" .symbol, .relate 0 1 .invocation,
    .refer "util" .symbol, .relate 0 0 .declaration]

theorem legal_sharedName : Legal sharedName := by
  have hnames : Legal [.refer "util" .module, .refer "log" .symbol] :=
    (Legal.nil.concat_refer "util" .module).concat_refer "log" .symbol
  have hedge : Legal ([.refer "util" .module, .refer "log" .symbol] ++
      [.relate 0 1 .invocation]) := hnames.concat (by decide +kernel)
  exact (hedge.concat_refer "util" .symbol).concat (by decide +kernel)

theorem after_legal_history_sharedName :
    Legal sharedName ∧
    (empty.after sharedName).vertices.toList.map Vertex.name = ["util", "log"] ∧
    (∃ vertex ∈ (empty.after sharedName).vertices,
      vertex.name = "util" ∧ vertex.hasRole .symbol = true) ∧
    (empty.after sharedName).edges.toList = [⟨0, 1, .invocation⟩, ⟨0, 0, .declaration⟩] := by
  obtain ⟨-, -, -, -, hroles, -, hnames, -, hedges⟩ := after_legal_history legal_sharedName
  exact ⟨legal_sharedName, hnames, (hroles "util" .symbol).mpr (by decide), hedges⟩

end Graph

end ScriptGraph
