import ScriptGraph.Graph.Show
import ScriptGraph.Graph.Stats
import ScriptGraph.Proofs.Graph.Registry

/-!
# Graphs up to the numbering of their vertices

Two graphs are alike if they have the same vertices and the same edges once the
ends of edges are given by name. Every query of a well-formed graph can be
computed from its vertices and its named edges, without numbers and without
regard to order, so alike graphs answer every query alike.
-/

namespace ScriptGraph

structure NamedEdge where
  source : String
  target : String
  relation : Relation
  deriving DecidableEq, Repr

namespace NamedEdge

def leaving (edges : List NamedEdge) (name : String) : List (Relation × String) :=
  (edges.filter (·.source == name)).map fun edge => (edge.relation, edge.target)

def entering (edges : List NamedEdge) (name : String) : List (Relation × String) :=
  (edges.filter (·.target == name)).map fun edge => (edge.relation, edge.source)

end NamedEdge

/-! ## Sorting -/

/-- Sorting forgets the order in which a list was given, if equal ranks are equal items. -/
theorem mergeSort_eq_of_perm {α : Type} {le : α → α → Bool} {items others : List α}
    (htrans : ∀ a b c, le a b = true → le b c = true → le a c = true)
    (htotal : ∀ a b, (le a b || le b a) = true)
    (hantisymm : ∀ a ∈ items, ∀ b ∈ items, le a b = true → le b a = true → a = b)
    (h : items.Perm others) : items.mergeSort le = others.mergeSort le := by
  have hsorted := (List.mergeSort_perm items le).trans
    (h.trans (List.mergeSort_perm others le).symm)
  refine hsorted.eq_of_pairwise (fun a b ha hb => ?_)
    (List.pairwise_mergeSort htrans htotal items)
    (List.pairwise_mergeSort htrans htotal others)
  exact hantisymm a (List.mem_mergeSort.mp ha) b (h.mem_iff.mpr (List.mem_mergeSort.mp hb))

theorem neighbourLe_iff (a b : Relation × String) :
    Graph.neighbourLe a b = true ↔ a.1.rank < b.1.rank ∨ a.1.rank = b.1.rank ∧ a.2 ≤ b.2 := by
  simp [Graph.neighbourLe]

theorem neighbourLe_trans (a b c : Relation × String) (hab : Graph.neighbourLe a b = true)
    (hbc : Graph.neighbourLe b c = true) : Graph.neighbourLe a c = true := by
  rw [neighbourLe_iff] at *
  rcases hab with hab | ⟨hab, hname⟩ <;> rcases hbc with hbc | ⟨hbc, hname'⟩
  · exact .inl (by omega)
  · exact .inl (by omega)
  · exact .inl (by omega)
  · exact .inr ⟨by omega, String.le_trans hname hname'⟩

theorem neighbourLe_total (a b : Relation × String) :
    (Graph.neighbourLe a b || Graph.neighbourLe b a) = true := by
  rw [Bool.or_eq_true, neighbourLe_iff, neighbourLe_iff]
  rcases Nat.lt_trichotomy a.1.rank b.1.rank with h | h | h
  · exact .inl (.inl h)
  · rcases String.le_total a.2 b.2 with hname | hname
    · exact .inl (.inr ⟨h, hname⟩)
    · exact .inr (.inr ⟨h.symm, hname⟩)
  · exact .inr (.inl h)

theorem neighbourLe_antisymm {a b : Relation × String} (hab : Graph.neighbourLe a b = true)
    (hba : Graph.neighbourLe b a = true) : a = b := by
  rw [neighbourLe_iff] at *
  have hrank : a.1.rank = b.1.rank := by omega
  have hname : a.2 ≤ b.2 ∧ b.2 ≤ a.2 := by
    rcases hab with hab | ⟨-, hab⟩
    · omega
    · rcases hba with hba | ⟨-, hba⟩
      · omega
      · exact ⟨hab, hba⟩
  exact Prod.ext (Relation.rank_injective hrank) (String.le_antisymm hname.1 hname.2)

theorem mergeSort_neighbourLe_eq_of_perm {items others : List (Relation × String)}
    (h : items.Perm others) :
    items.mergeSort Graph.neighbourLe = others.mergeSort Graph.neighbourLe :=
  mergeSort_eq_of_perm neighbourLe_trans neighbourLe_total
    (fun _ _ _ _ => neighbourLe_antisymm) h

theorem VertexView.nameLe_trans (a b c : VertexView) (hab : decide (a.name ≤ b.name) = true)
    (hbc : decide (b.name ≤ c.name) = true) : decide (a.name ≤ c.name) = true :=
  decide_eq_true (String.le_trans (of_decide_eq_true hab) (of_decide_eq_true hbc))

theorem VertexView.nameLe_total (a b : VertexView) :
    (decide (a.name ≤ b.name) || decide (b.name ≤ a.name)) = true := by
  simpa using String.le_total a.name b.name

/-- Views of different names have one order by name. -/
theorem sort_views_eq_of_perm {views others : List VertexView}
    (hnames : (views.map VertexView.name).Nodup) (h : views.Perm others) :
    (views.mergeSort fun a b => decide (a.name ≤ b.name)) =
      others.mergeSort fun a b => decide (a.name ≤ b.name) := by
  apply mergeSort_eq_of_perm VertexView.nameLe_trans VertexView.nameLe_total _ h
  intro a ha b hb hab hba
  have hname := String.le_antisymm (of_decide_eq_true hab) (of_decide_eq_true hba)
  exact List.inj_on_of_nodup_map hnames ha hb hname

namespace Graph

/-! ## Edges by name -/

def nameEdge (graph : Graph) (edge : Edge) : NamedEdge :=
  ⟨graph.nameOf edge.source, graph.nameOf edge.target, edge.relation⟩

/-- The edges of a graph with their ends given by name, in the order of the edges. -/
def namedEdges (graph : Graph) : List NamedEdge := graph.edges.toList.map graph.nameEdge

theorem nameOf_of_nameAt? {graph : Graph} {id : Nat} {name : String}
    (h : graph.nameAt? id = some name) : graph.nameOf id = name := by
  obtain ⟨vertex, hvertex, rfl⟩ := nameAt?_eq_some_iff.mp h
  simp [nameOf, hvertex]

theorem namedEdges_relate (graph : Graph) (source target : Nat) (relation : Relation) :
    (graph.relate source target relation).namedEdges =
      graph.namedEdges ++ [⟨graph.nameOf source, graph.nameOf target, relation⟩] := by
  simp only [namedEdges, relate, Array.toList_push, List.map_append, List.map_cons,
    List.map_nil]
  rfl

namespace WellFormed

variable {graph : Graph}

theorem nameAt?_nameOf {id : Nat} (h : id < graph.vertices.size) :
    graph.nameAt? id = some (graph.nameOf id) := by
  obtain ⟨name, hname⟩ := exists_nameAt? h
  rw [nameOf_of_nameAt? hname, hname]

theorem namedEdges_refer (hgraph : graph.WellFormed) (name : String) (role : Role) :
    (graph.refer name role).2.namedEdges = graph.namedEdges := by
  unfold namedEdges
  rw [edges_refer]
  apply List.map_congr_left
  intro edge hedge
  obtain ⟨hsource, htarget⟩ := hgraph.ends_lt edge (by simpa using hedge)
  have hgrowth := growth_refer graph name role
  rw [nameEdge, nameEdge, nameOf_of_nameAt? (hgrowth.nameAt? (nameAt?_nameOf hsource)),
    nameOf_of_nameAt? (hgrowth.nameAt? (nameAt?_nameOf htarget))]

/-- A vertex is known by its number as well as by its name. -/
theorem nameOf_eq_iff (hgraph : graph.WellFormed) {id other : Nat} {name : String}
    (hid : graph.nameAt? id = some name) (hother : other < graph.vertices.size) :
    graph.nameOf other = name ↔ other = id := by
  constructor
  · rintro rfl
    exact hgraph.eq_of_nameAt? (nameAt?_nameOf hother) hid
  · rintro rfl
    exact nameOf_of_nameAt? hid

/-- Edges are picked out by the name of one of their ends as well as by its number. -/
theorem filter_end_eq (hgraph : graph.WellFormed) {id : Nat} {name : String}
    (h : graph.nameAt? id = some name) {pick : Edge → Nat}
    (hpick : ∀ edge ∈ graph.edges, pick edge < graph.vertices.size) :
    graph.edges.toList.filter (pick · == id) =
      graph.edges.toList.filter fun edge => graph.nameOf (pick edge) == name := by
  apply List.filter_congr
  intro edge hedge
  have hend := hpick edge (by simpa using hedge)
  rw [Bool.eq_iff_iff, beq_iff_eq, beq_iff_eq, hgraph.nameOf_eq_iff h hend]

theorem outgoing_eq (hgraph : graph.WellFormed) {id : Nat} {name : String}
    (h : graph.nameAt? id = some name) :
    graph.outgoing id = (NamedEdge.leaving graph.namedEdges name).mergeSort neighbourLe := by
  have hfilter := hgraph.filter_end_eq h fun edge hedge => (hgraph.ends_lt edge hedge).1
  rw [outgoing, hfilter, NamedEdge.leaving, namedEdges, List.filter_map, List.map_map]
  rfl

theorem incoming_eq (hgraph : graph.WellFormed) {id : Nat} {name : String}
    (h : graph.nameAt? id = some name) :
    graph.incoming id = (NamedEdge.entering graph.namedEdges name).mergeSort neighbourLe := by
  have hfilter := hgraph.filter_end_eq h fun edge hedge => (hgraph.ends_lt edge hedge).2
  rw [incoming, hfilter, NamedEdge.entering, namedEdges, List.filter_map, List.map_map]
  rfl

end WellFormed

/-! ## Alike graphs -/

/-- The same vertices and the same edges, whatever the numbers and the order. -/
structure Alike (graph other : Graph) : Prop where
  vertices_perm : graph.vertices.toList.Perm other.vertices.toList
  edges_perm : graph.namedEdges.Perm other.namedEdges

/-- Whether a name is declared, but neither invoked nor extended, by edges given by name. -/
def uninvokedIn (edges : List NamedEdge) (name : String) : Bool :=
  let relations := ((NamedEdge.entering edges name).mergeSort neighbourLe).map Prod.fst
  relations.contains .declaration &&
    !(relations.contains .invocation || relations.contains .extension)

/-- A vertex as seen in edges given by name. -/
def viewIn (edges : List NamedEdge) (selection : List Relation) (vertex : Vertex) :
    VertexView where
  name := vertex.name
  role := vertex.roleWord
  outgoing := Neighbour.countRuns (((NamedEdge.leaving edges vertex.name).mergeSort
    neighbourLe).filter (·.1.admittedBy selection))
  incoming := Neighbour.countRuns (((NamedEdge.entering edges vertex.name).mergeSort
    neighbourLe).filter (·.1.admittedBy selection))

theorem sort_leaving_eq_of_perm {edges others : List NamedEdge} (h : edges.Perm others)
    (name : String) :
    (NamedEdge.leaving edges name).mergeSort neighbourLe =
      (NamedEdge.leaving others name).mergeSort neighbourLe :=
  mergeSort_neighbourLe_eq_of_perm ((h.filter _).map _)

theorem sort_entering_eq_of_perm {edges others : List NamedEdge} (h : edges.Perm others)
    (name : String) :
    (NamedEdge.entering edges name).mergeSort neighbourLe =
      (NamedEdge.entering others name).mergeSort neighbourLe :=
  mergeSort_neighbourLe_eq_of_perm ((h.filter _).map _)

theorem uninvokedIn_eq_of_perm {edges others : List NamedEdge} (h : edges.Perm others)
    (name : String) : uninvokedIn edges name = uninvokedIn others name := by
  simp only [uninvokedIn, sort_entering_eq_of_perm h]

theorem viewIn_eq_of_perm {edges others : List NamedEdge} (h : edges.Perm others)
    (selection : List Relation) (vertex : Vertex) :
    viewIn edges selection vertex = viewIn others selection vertex := by
  simp only [viewIn, sort_leaving_eq_of_perm h, sort_entering_eq_of_perm h]

namespace WellFormed

variable {graph : Graph}

theorem isUninvoked_eq (hgraph : graph.WellFormed) {id : Nat} {name : String}
    (h : graph.nameAt? id = some name) :
    graph.isUninvoked id = uninvokedIn graph.namedEdges name := by
  simp only [isUninvoked, hgraph.incoming_eq h, uninvokedIn]

theorem view_eq (hgraph : graph.WellFormed) (selection : List Relation) {id : Nat}
    {vertex : Vertex} (h : graph.vertices[id]? = some vertex) :
    graph.view selection vertex.name id = viewIn graph.namedEdges selection vertex := by
  have hname : graph.nameAt? id = some vertex.name := nameAt?_eq_some_iff.mpr ⟨vertex, h, rfl⟩
  simp only [view, viewIn, hgraph.outgoing_eq hname, hgraph.incoming_eq hname, roleWordOf, h]

/-- Going through the numbers is going through the vertices. -/
theorem uninvoked_eq (hgraph : graph.WellFormed) :
    (List.range graph.vertices.size).countP graph.isUninvoked =
      graph.vertices.toList.countP fun vertex => uninvokedIn graph.namedEdges vertex.name := by
  have hnumbers : List.range graph.vertices.size =
      graph.vertices.toList.zipIdx.map Prod.snd := by
    simp [List.range_eq_range']
  have hvertices : graph.vertices.toList.zipIdx.map Prod.fst = graph.vertices.toList := by
    simp
  rw [hnumbers, ← hvertices, List.countP_map, List.countP_map, hvertices]
  apply List.countP_congr
  rintro ⟨vertex, id⟩ hmem
  have hid : graph.vertices[id]? = some vertex := by
    simpa using List.mem_zipIdx_iff_getElem?.mp hmem
  have hname : graph.nameAt? id = some vertex.name :=
    nameAt?_eq_some_iff.mpr ⟨vertex, hid, rfl⟩
  simp only [Function.comp_apply, hgraph.isUninvoked_eq hname]

theorem names_viewIn_nodup (hgraph : graph.WellFormed) (isMatch : String → Bool)
    (selection : List Relation) :
    (((graph.vertices.toList.filter fun vertex => isMatch vertex.name).map
      (viewIn graph.namedEdges selection)).map VertexView.name).Nodup := by
  rw [List.map_map]
  exact hgraph.names_nodup.sublist (List.filter_sublist.map Vertex.name)

/-- The index lists every vertex once, by name and number. -/
theorem index_perm (hgraph : graph.WellFormed) :
    graph.index.toList.Perm
      (graph.vertices.toList.zipIdx.map fun entry => (entry.1.name, entry.2)) := by
  have hkeys : graph.index.toList.Nodup :=
    Std.TreeMap.distinct_keys_toList.imp fun hne heq => hne (by simp [heq])
  have hnumbers : (graph.vertices.toList.zipIdx.map
      fun entry => (entry.1.name, entry.2)).Nodup := by
    apply List.Nodup.of_map Prod.snd
    rw [List.map_map]
    change (graph.vertices.toList.zipIdx.map Prod.snd).Nodup
    rw [List.zipIdx_map_snd]
    exact List.nodup_range'
  rw [List.perm_ext_iff_of_nodup hkeys hnumbers]
  rintro ⟨name, id⟩
  rw [Std.TreeMap.mem_toList_iff_getElem?_eq_some]
  change graph.lookup? name = some id ↔ _
  rw [hgraph.lookup?_iff, nameAt?_eq_some_iff]
  simp [List.mem_zipIdx_iff_getElem?]

/-- Going through the index, in whatever order, is going through the vertices. -/
theorem map_view_perm (hgraph : graph.WellFormed) {entries : List (String × Nat)}
    (hentries : entries.Perm graph.index.toList) (isMatch : String → Bool)
    (selection : List Relation) :
    ((entries.filter fun (name, _) => isMatch name).map
      fun (name, id) => graph.view selection name id).Perm
        ((graph.vertices.toList.filter fun vertex => isMatch vertex.name).map
          (viewIn graph.namedEdges selection)) := by
  refine (((hentries.trans hgraph.index_perm).filter _).map _).trans (.of_eq ?_)
  have hvertices : graph.vertices.toList = graph.vertices.toList.zipIdx.map Prod.fst := by simp
  conv_rhs => rw [hvertices]
  rw [List.filter_map, List.filter_map, List.map_map, List.map_map]
  apply List.map_congr_left
  rintro ⟨vertex, id⟩ hmem
  have hid : graph.vertices[id]? = some vertex := by
    simpa using List.mem_zipIdx_iff_getElem?.mp (List.mem_filter.mp hmem).1
  exact hgraph.view_eq selection hid

theorem viewsAmong_eq (hgraph : graph.WellFormed) {entries : List (String × Nat)}
    (hentries : entries.Perm graph.index.toList) (isMatch : String → Bool)
    (selection : List Relation) :
    graph.viewsAmong entries isMatch selection =
      ((graph.vertices.toList.filter fun vertex => isMatch vertex.name).map
        (viewIn graph.namedEdges selection)).mergeSort fun a b => decide (a.name ≤ b.name) :=
  (sort_views_eq_of_perm (hgraph.names_viewIn_nodup isMatch selection)
    (hgraph.map_view_perm hentries isMatch selection).symm).symm

end WellFormed

/-- The roles of a vertex are those its name is marked with. -/
theorem WellFormed.marked_name_iff {graph : Graph} (hgraph : graph.WellFormed) {vertex : Vertex}
    (hvertex : vertex ∈ graph.vertices) (role : Role) :
    graph.Marked vertex.name role ↔ vertex.hasRole role = true := by
  constructor
  · rintro ⟨other, hother, hname, hrole⟩
    have heq : other = vertex :=
      List.inj_on_of_nodup_map hgraph.names_nodup (by simpa using hother) (by simpa using hvertex)
        hname
    rwa [← heq]
  · intro hrole
    exact ⟨vertex, hvertex, rfl, hrole⟩

namespace Alike

variable {graph other : Graph}

theorem mem_of_marked_iff (hgraph : graph.WellFormed) (hother : other.WellFormed)
    (hmarked : ∀ name role, graph.Marked name role ↔ other.Marked name role) {vertex : Vertex}
    (hvertex : vertex ∈ graph.vertices) : vertex ∈ other.vertices := by
  obtain ⟨role, hrole⟩ := hgraph.has_role vertex hvertex
  obtain ⟨copy, hcopy, hname, -⟩ := (hmarked vertex.name role).mp ⟨vertex, hvertex, rfl, hrole⟩
  have heq : vertex = copy := by
    apply Vertex.eq_of_hasRole_iff hname.symm
    intro role
    rw [← hgraph.marked_name_iff hvertex, ← hother.marked_name_iff hcopy, hname]
    exact hmarked vertex.name role
  rwa [heq]

/-- Names marked alike are vertices alike. -/
theorem of_marked_iff (hgraph : graph.WellFormed) (hother : other.WellFormed)
    (hmarked : ∀ name role, graph.Marked name role ↔ other.Marked name role)
    (hedges : graph.namedEdges.Perm other.namedEdges) : Alike graph other where
  vertices_perm := by
    rw [List.perm_ext_iff_of_nodup hgraph.names_nodup.of_map hother.names_nodup.of_map]
    intro vertex
    rw [Array.mem_toList_iff, Array.mem_toList_iff]
    exact ⟨mem_of_marked_iff hgraph hother hmarked,
      mem_of_marked_iff hother hgraph fun name role => (hmarked name role).symm⟩
  edges_perm := hedges

theorem stats_eq (h : Alike graph other) (hgraph : graph.WellFormed)
    (hother : other.WellFormed) : graph.stats = other.stats := by
  have hedges : graph.edges.size = other.edges.size := by
    simpa [namedEdges] using h.edges_perm.length_eq
  have hrelation : ∀ relation, graph.countRelation relation = other.countRelation relation := by
    intro relation
    have hcount := h.edges_perm.countP_eq (·.relation == relation)
    simpa [namedEdges, nameEdge, List.countP_map, Function.comp_def, countRelation] using hcount
  have hvertices : graph.vertexCount = other.vertexCount := by
    rw [hgraph.count_eq, hother.count_eq]
    simpa using h.vertices_perm.length_eq
  have hrole : ∀ role, graph.countRole role = other.countRole role := by
    intro role
    simpa [countRole] using h.vertices_perm.countP_eq (·.hasRole role)
  have hmerged : graph.vertices.countP (fun vertex => vertex.isModule && vertex.isSymbol) =
      other.vertices.countP fun vertex => vertex.isModule && vertex.isSymbol := by
    simpa using h.vertices_perm.countP_eq fun vertex => vertex.isModule && vertex.isSymbol
  have huninvoked : (List.range graph.vertices.size).countP graph.isUninvoked =
      (List.range other.vertices.size).countP other.isUninvoked := by
    rw [hgraph.uninvoked_eq, hother.uninvoked_eq, h.vertices_perm.countP_eq]
    apply List.countP_congr
    intro vertex _
    rw [uninvokedIn_eq_of_perm h.edges_perm]
  simp only [stats, hvertices, hrole, hmerged, hedges, hrelation, huninvoked]

theorem viewsAmong_eq (h : Alike graph other) (hgraph : graph.WellFormed)
    (hother : other.WellFormed) {entries otherEntries : List (String × Nat)}
    (hentries : entries.Perm graph.index.toList)
    (hotherEntries : otherEntries.Perm other.index.toList) (isMatch : String → Bool)
    (selection : List Relation) :
    graph.viewsAmong entries isMatch selection =
      other.viewsAmong otherEntries isMatch selection := by
  have hview : viewIn graph.namedEdges selection = viewIn other.namedEdges selection :=
    funext (viewIn_eq_of_perm h.edges_perm selection)
  have hnames := hgraph.names_viewIn_nodup isMatch selection
  rw [hgraph.viewsAmong_eq hentries, hother.viewsAmong_eq hotherEntries]
  rw [hview] at hnames ⊢
  exact sort_views_eq_of_perm hnames ((h.vertices_perm.filter _).map _)

end Alike

end Graph

end ScriptGraph
