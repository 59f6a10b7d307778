import Mathlib.Data.List.Nodup
import ScriptGraph.Graph.Basic

/-!
# The registry of names

The index and the stored vertices of a graph say the same thing: which name has
which number. This module states that as an invariant of single graphs, shows
that referring to a name and adding an edge keep it, and describes each of the
two operations by what it does to names, roles and edges. No later proof opens
the operations themselves.
-/

namespace ScriptGraph

namespace Vertex

@[simp] theorem name_ofRole (name : String) (role : Role) :
    (ofRole name role).name = name := by
  cases role <;> rfl

@[simp] theorem name_addRole (vertex : Vertex) (role : Role) :
    (vertex.addRole role).name = vertex.name := by
  cases role <;> rfl

theorem hasRole_ofRole (name : String) (role other : Role) :
    (ofRole name role).hasRole other = true ↔ other = role := by
  cases role <;> cases other <;> simp [ofRole, hasRole]

theorem hasRole_addRole (vertex : Vertex) (role other : Role) :
    (vertex.addRole role).hasRole other = true ↔
      other = role ∨ vertex.hasRole other = true := by
  cases role <;> cases other <;> simp [addRole, hasRole]

/-- A vertex is its name and its roles. -/
theorem eq_of_hasRole_iff {a b : Vertex} (hname : a.name = b.name)
    (hroles : ∀ role, a.hasRole role = true ↔ b.hasRole role = true) : a = b := by
  have hmodule : a.isModule = b.isModule := Bool.eq_iff_iff.mpr (hroles .module)
  have hsymbol : a.isSymbol = b.isSymbol := Bool.eq_iff_iff.mpr (hroles .symbol)
  cases a
  cases b
  simp_all

end Vertex

namespace Graph

/-- The name of a vertex, if there is one of that number. -/
def nameAt? (graph : Graph) (id : Nat) : Option String := graph.vertices[id]?.map Vertex.name

/-- Some vertex has the name and the role. -/
def Marked (graph : Graph) (name : String) (role : Role) : Prop :=
  ∃ vertex ∈ graph.vertices, vertex.name = name ∧ vertex.hasRole role = true

/-- The index and the vertices agree, every vertex has a role, and edges end at vertices. -/
structure WellFormed (graph : Graph) : Prop where
  lookup?_iff : ∀ name id, graph.lookup? name = some id ↔ graph.nameAt? id = some name
  count_eq : graph.vertexCount = graph.vertices.size
  has_role : ∀ vertex ∈ graph.vertices, ∃ role, vertex.hasRole role = true
  ends_lt : ∀ edge ∈ graph.edges,
    edge.source < graph.vertices.size ∧ edge.target < graph.vertices.size

theorem nameAt?_eq_some_iff {graph : Graph} {id : Nat} {name : String} :
    graph.nameAt? id = some name ↔
      ∃ vertex, graph.vertices[id]? = some vertex ∧ vertex.name = name := by
  simp [nameAt?]

theorem lt_size_of_nameAt? {graph : Graph} {id : Nat} {name : String}
    (h : graph.nameAt? id = some name) : id < graph.vertices.size := by
  obtain ⟨vertex, hvertex, -⟩ := nameAt?_eq_some_iff.mp h
  exact (Array.getElem?_eq_some_iff.mp hvertex).1

def names (graph : Graph) : List String := graph.vertices.toList.map Vertex.name

theorem getElem?_names (graph : Graph) (id : Nat) : graph.names[id]? = graph.nameAt? id := by
  simp [names, nameAt?]

theorem exists_nameAt? {graph : Graph} {id : Nat} (h : id < graph.vertices.size) :
    ∃ name, graph.nameAt? id = some name := by
  refine ⟨graph.vertices[id].name, ?_⟩
  simp [nameAt?, h]

/-! ## Referring to a name -/

theorem refer_of_known {graph : Graph} {name : String} {id : Nat} (role : Role)
    (h : graph.lookup? name = some id) :
    graph.refer name role =
      (id, { graph with vertices := graph.vertices.modify id (·.addRole role) }) := by
  simp [refer, h]

theorem refer_of_new {graph : Graph} {name : String} (role : Role)
    (h : graph.lookup? name = none) :
    graph.refer name role =
      (graph.vertices.size, { graph with
        vertices := graph.vertices.push (Vertex.ofRole name role)
        index := graph.index.insert name graph.vertices.size }) := by
  simp [refer, h]

@[simp] theorem edges_refer (graph : Graph) (name : String) (role : Role) :
    (graph.refer name role).2.edges = graph.edges := by
  unfold refer
  split <;> rfl

theorem lookup?_refer (graph : Graph) (name : String) (role : Role) (other : String) :
    (graph.refer name role).2.lookup? other =
      if other = name then some (graph.refer name role).1 else graph.lookup? other := by
  cases h : graph.lookup? name with
  | some id =>
      rw [refer_of_known role h]
      by_cases hother : other = name
      · rw [if_pos hother, hother]
        exact h
      · rw [if_neg hother]
        rfl
  | none =>
      rw [refer_of_new role h]
      simp only [lookup?, Std.TreeMap.getElem?_insert, Std.compare_eq_iff_eq]
      by_cases hother : other = name
      · rw [if_pos hother, if_pos hother.symm]
      · rw [if_neg hother, if_neg (Ne.symm hother)]

theorem size_le_size_refer (graph : Graph) (name : String) (role : Role) :
    graph.vertices.size ≤ (graph.refer name role).2.vertices.size := by
  unfold refer
  split <;> simp

theorem vertexCount_refer_known {graph : Graph} {name : String} {id : Nat} (role : Role)
    (h : graph.lookup? name = some id) :
    (graph.refer name role).2.vertexCount = graph.vertexCount := by
  rw [refer_of_known role h]
  rfl

theorem vertexCount_refer_new {graph : Graph} {name : String} (role : Role)
    (h : graph.lookup? name = none) :
    (graph.refer name role).2.vertexCount = graph.vertexCount + 1 := by
  have hnot : name ∉ graph.index := by
    rw [Std.TreeMap.mem_iff_isSome_getElem?]
    change ¬(graph.lookup? name).isSome
    simp [h]
  rw [refer_of_new role h]
  simp [vertexCount, Std.TreeMap.size_insert, hnot]

/-! ## What no operation takes away -/

/-- Numbers, names, roles and edges of the one graph are still there in the other. -/
structure Growth (before after : Graph) : Prop where
  vertex_kept : ∀ (id : Nat) (vertex : Vertex), before.vertices[id]? = some vertex →
    ∃ later : Vertex, after.vertices[id]? = some later ∧ later.name = vertex.name ∧
      ∀ role, vertex.hasRole role = true → later.hasRole role = true
  lookup?_kept : ∀ name id, before.lookup? name = some id → after.lookup? name = some id
  edges_kept : before.edges.toList <+: after.edges.toList

namespace Growth

theorem refl (graph : Graph) : Growth graph graph where
  vertex_kept _ vertex h := ⟨vertex, h, rfl, fun _ hrole => hrole⟩
  lookup?_kept _ _ h := h
  edges_kept := List.prefix_refl _

theorem trans {a b c : Graph} (hab : Growth a b) (hbc : Growth b c) : Growth a c where
  vertex_kept id vertex h := by
    obtain ⟨later, hlater, hname, hrole⟩ := hab.vertex_kept id vertex h
    obtain ⟨last, hlast, hname', hrole'⟩ := hbc.vertex_kept id later hlater
    exact ⟨last, hlast, hname'.trans hname, fun role hr => hrole' role (hrole role hr)⟩
  lookup?_kept name id h := hbc.lookup?_kept name id (hab.lookup?_kept name id h)
  edges_kept := hab.edges_kept.trans hbc.edges_kept

theorem nameAt? {before after : Graph} (h : Growth before after) {id : Nat} {name : String}
    (hname : before.nameAt? id = some name) : after.nameAt? id = some name := by
  obtain ⟨vertex, hvertex, rfl⟩ := nameAt?_eq_some_iff.mp hname
  obtain ⟨later, hlater, hsame, -⟩ := h.vertex_kept id vertex hvertex
  exact nameAt?_eq_some_iff.mpr ⟨later, hlater, hsame⟩

end Growth

theorem growth_refer (graph : Graph) (name : String) (role : Role) :
    Growth graph (graph.refer name role).2 where
  vertex_kept id vertex h := by
    cases hlookup : graph.lookup? name with
    | some known =>
        rw [refer_of_known role hlookup]
        simp only [Array.getElem?_modify]
        by_cases hid : known = id
        · rw [if_pos hid, h]
          refine ⟨vertex.addRole role, rfl, Vertex.name_addRole vertex role, ?_⟩
          intro other hother
          exact (Vertex.hasRole_addRole vertex role other).mpr (.inr hother)
        · rw [if_neg hid]
          exact ⟨vertex, h, rfl, fun _ hother => hother⟩
    | none =>
        rw [refer_of_new role hlookup]
        have hlt := (Array.getElem?_eq_some_iff.mp h).1
        refine ⟨vertex, ?_, rfl, fun _ hother => hother⟩
        rw [Array.getElem?_push, if_neg (by omega)]
        exact h
  lookup?_kept other id h := by
    rw [lookup?_refer]
    by_cases hother : other = name
    · subst hother
      rw [if_pos rfl, refer_of_known role h]
    · rw [if_neg hother]
      exact h
  edges_kept := by simp [edges_refer]

theorem growth_relate (graph : Graph) (source target : Nat) (relation : Relation) :
    Growth graph (graph.relate source target relation) where
  vertex_kept _ vertex h := ⟨vertex, h, rfl, fun _ hrole => hrole⟩
  lookup?_kept _ _ h := h
  edges_kept := by simp [Graph.relate]

/-! ## The invariant is kept -/

namespace WellFormed

variable {graph : Graph}

theorem empty : WellFormed Graph.empty where
  lookup?_iff name id := by simp [lookup?, nameAt?, Graph.empty]
  count_eq := by simp [vertexCount, Graph.empty]
  has_role vertex h := by simp [Graph.empty] at h
  ends_lt edge h := by simp [Graph.empty] at h

theorem nameAt?_of_lookup? (hgraph : graph.WellFormed) {name : String} {id : Nat}
    (h : graph.lookup? name = some id) : graph.nameAt? id = some name :=
  (hgraph.lookup?_iff name id).mp h

/-- Two vertices of one name are one vertex. -/
theorem eq_of_nameAt? (hgraph : graph.WellFormed) {name : String} {id other : Nat}
    (hid : graph.nameAt? id = some name) (hother : graph.nameAt? other = some name) :
    id = other := by
  have h₁ := (hgraph.lookup?_iff name id).mpr hid
  have h₂ := (hgraph.lookup?_iff name other).mpr hother
  exact Option.some.inj (h₁.symm.trans h₂)

theorem names_nodup (hgraph : graph.WellFormed) : graph.names.Nodup := by
  rw [List.nodup_iff_getElem?_ne_getElem?]
  intro i j hij hj heq
  rw [getElem?_names, getElem?_names] at heq
  have hlt : j < graph.vertices.size := by simpa [names] using hj
  obtain ⟨name, hname⟩ := exists_nameAt? hlt
  have hsame := hgraph.eq_of_nameAt? (heq.trans hname) hname
  omega

/-- A reference names its own vertex and leaves the names of all others alone. -/
theorem nameAt?_refer (hgraph : graph.WellFormed) (name : String) (role : Role) (id : Nat) :
    (graph.refer name role).2.nameAt? id =
      if id = (graph.refer name role).1 then some name else graph.nameAt? id := by
  cases h : graph.lookup? name with
  | some known =>
      have hname := hgraph.nameAt?_of_lookup? h
      rw [refer_of_known role h]
      simp only [nameAt?, Array.getElem?_modify]
      by_cases hid : id = known
      · subst hid
        rw [if_pos rfl, if_pos rfl, ← hname]
        simp [nameAt?, Function.comp_def]
      · rw [if_neg (Ne.symm hid), if_neg hid]
  | none =>
      rw [refer_of_new role h]
      simp only [nameAt?, Array.getElem?_push]
      by_cases hid : id = graph.vertices.size
      · rw [if_pos hid, if_pos hid]
        simp
      · rw [if_neg hid, if_neg hid]

theorem nameAt?_refer_self (hgraph : graph.WellFormed) (name : String) (role : Role) :
    (graph.refer name role).2.nameAt? (graph.refer name role).1 = some name := by
  rw [hgraph.nameAt?_refer, if_pos rfl]

theorem names_refer (hgraph : graph.WellFormed) (name : String) (role : Role) :
    (graph.refer name role).2.names =
      if name ∈ graph.names then graph.names else graph.names ++ [name] := by
  cases h : graph.lookup? name with
  | some id =>
      have hname := hgraph.nameAt?_of_lookup? h
      rw [if_pos (List.mem_of_getElem? ((getElem?_names graph id).trans hname))]
      apply List.ext_getElem?
      intro i
      rw [getElem?_names, getElem?_names, hgraph.nameAt?_refer, refer_of_known role h]
      by_cases hi : i = id
      · rw [if_pos hi, hi, hname]
      · rw [if_neg hi]
  | none =>
      have hnew : name ∉ graph.names := by
        intro hmem
        obtain ⟨id, hid⟩ := List.mem_iff_getElem?.mp hmem
        rw [getElem?_names, ← hgraph.lookup?_iff, h] at hid
        cases hid
      rw [if_neg hnew, refer_of_new role h]
      simp [names]

theorem lt_size_refer (hgraph : graph.WellFormed) (name : String) (role : Role) :
    (graph.refer name role).1 < (graph.refer name role).2.vertices.size :=
  lt_size_of_nameAt? (hgraph.nameAt?_refer_self name role)

/-- A reference gives one role to one name and nothing else. -/
theorem marked_refer (hgraph : graph.WellFormed) (name : String) (role : Role)
    (other : String) (otherRole : Role) :
    (graph.refer name role).2.Marked other otherRole ↔
      (other = name ∧ otherRole = role) ∨ graph.Marked other otherRole := by
  cases h : graph.lookup? name with
  | some id =>
      obtain ⟨known, hknown, hname⟩ := nameAt?_eq_some_iff.mp (hgraph.nameAt?_of_lookup? h)
      rw [refer_of_known role h]
      simp only [Marked, Array.mem_iff_getElem?, Array.getElem?_modify]
      constructor
      · rintro ⟨vertex, ⟨i, hi⟩, rfl, hrole⟩
        by_cases hid : id = i
        · subst hid
          rw [if_pos rfl, hknown, Option.map_some, Option.some.injEq] at hi
          subst hi
          rw [Vertex.hasRole_addRole] at hrole
          rw [Vertex.name_addRole]
          rcases hrole with hrole | hrole
          · exact .inl ⟨hname, hrole⟩
          · exact .inr ⟨known, ⟨id, hknown⟩, rfl, hrole⟩
        · rw [if_neg hid] at hi
          exact .inr ⟨vertex, ⟨i, hi⟩, rfl, hrole⟩
      · rintro (⟨rfl, rfl⟩ | ⟨vertex, ⟨i, hi⟩, rfl, hrole⟩)
        · refine ⟨known.addRole otherRole, ⟨id, by simp [hknown]⟩, by simp [hname], ?_⟩
          exact (Vertex.hasRole_addRole known otherRole otherRole).mpr (.inl rfl)
        · by_cases hid : id = i
          · subst hid
            refine ⟨vertex.addRole role, ⟨id, by simp [hi]⟩, by simp, ?_⟩
            exact (Vertex.hasRole_addRole vertex role otherRole).mpr (.inr hrole)
          · exact ⟨vertex, ⟨i, by rw [if_neg hid, hi]⟩, rfl, hrole⟩
  | none =>
      rw [refer_of_new role h]
      simp only [Marked, Array.mem_push]
      constructor
      · rintro ⟨vertex, hvertex | rfl, rfl, hrole⟩
        · exact .inr ⟨vertex, hvertex, rfl, hrole⟩
        · exact .inl ⟨Vertex.name_ofRole name role, (Vertex.hasRole_ofRole _ _ _).mp hrole⟩
      · rintro (⟨rfl, rfl⟩ | ⟨vertex, hvertex, hname, hrole⟩)
        · refine ⟨_, .inr rfl, Vertex.name_ofRole _ _, ?_⟩
          exact (Vertex.hasRole_ofRole _ _ _).mpr rfl
        · exact ⟨vertex, .inl hvertex, hname, hrole⟩

theorem has_role_refer (hgraph : graph.WellFormed) (name : String) (role : Role) :
    ∀ vertex ∈ (graph.refer name role).2.vertices, ∃ other, vertex.hasRole other = true := by
  intro vertex hvertex
  cases h : graph.lookup? name with
  | some id =>
      rw [refer_of_known role h, Array.mem_iff_getElem?] at hvertex
      obtain ⟨i, hi⟩ := hvertex
      rw [Array.getElem?_modify] at hi
      by_cases hid : id = i
      · rw [if_pos hid, Option.map_eq_some_iff] at hi
        obtain ⟨old, -, rfl⟩ := hi
        exact ⟨role, (Vertex.hasRole_addRole old role role).mpr (.inl rfl)⟩
      · rw [if_neg hid] at hi
        exact hgraph.has_role vertex (Array.mem_of_getElem? hi)
  | none =>
      rw [refer_of_new role h, Array.mem_push] at hvertex
      rcases hvertex with hvertex | rfl
      · exact hgraph.has_role vertex hvertex
      · exact ⟨role, (Vertex.hasRole_ofRole name role role).mpr rfl⟩

theorem count_eq_refer (hgraph : graph.WellFormed) (name : String) (role : Role) :
    (graph.refer name role).2.vertexCount = (graph.refer name role).2.vertices.size := by
  cases h : graph.lookup? name with
  | some id =>
      rw [vertexCount_refer_known role h, hgraph.count_eq, refer_of_known role h]
      simp
  | none =>
      rw [vertexCount_refer_new role h, hgraph.count_eq, refer_of_new role h]
      simp

theorem refer (hgraph : graph.WellFormed) (name : String) (role : Role) :
    (graph.refer name role).2.WellFormed where
  lookup?_iff other id := by
    rw [lookup?_refer, hgraph.nameAt?_refer]
    by_cases hother : other = name
    · subst hother
      rw [if_pos rfl, Option.some.injEq]
      by_cases hid : id = (graph.refer other role).1
      · simp [hid]
      · rw [if_neg hid, ← hgraph.lookup?_iff]
        -- Were the name known under another number, the reference would have found it there.
        refine ⟨fun h => absurd h.symm hid, fun h => ?_⟩
        rw [refer_of_known role h]
    · rw [if_neg hother, hgraph.lookup?_iff]
      by_cases hid : id = (graph.refer name role).1
      · rw [if_pos hid]
        refine ⟨fun h => ?_, fun h => absurd (Option.some.inj h).symm hother⟩
        have hself := (growth_refer graph name role).nameAt? h
        rw [hid, hgraph.nameAt?_refer_self] at hself
        exact absurd (Option.some.inj hself).symm hother
      · rw [if_neg hid]
  count_eq := hgraph.count_eq_refer name role
  has_role := hgraph.has_role_refer name role
  ends_lt edge hedge := by
    rw [edges_refer] at hedge
    have hsize := size_le_size_refer graph name role
    have hends := hgraph.ends_lt edge hedge
    omega

theorem relate (hgraph : graph.WellFormed) {source target : Nat} (relation : Relation)
    (hsource : source < graph.vertices.size) (htarget : target < graph.vertices.size) :
    (graph.relate source target relation).WellFormed where
  lookup?_iff := hgraph.lookup?_iff
  count_eq := hgraph.count_eq
  has_role := hgraph.has_role
  ends_lt edge hedge := by
    rcases Array.mem_push.mp hedge with hedge | rfl
    · exact hgraph.ends_lt edge hedge
    · exact ⟨hsource, htarget⟩

end WellFormed

end Graph

end ScriptGraph
