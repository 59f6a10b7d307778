import Mathlib.Data.List.Forall2
import ScriptGraph.Proofs.Export.DotReader
import ScriptGraph.Proofs.Format.JsonReader
import ScriptGraph.Proofs.Graph.Names

/-!
# Graphs from JSON text

A JSON text numbers its vertices and names the ends of its edges. Read back, it
still tells which vertices the edges join: every end names exactly one vertex
that the text lists. So the text determines what was exported, and it tells the
same as the DOT text of the same export.
-/

namespace ScriptGraph

/-! ## What the texts tell -/

namespace Json

def nat? : Json → Option Nat
  | .nat value => some value
  | _ => none

def bool? : Json → Option Bool
  | .bool value => some value
  | _ => none

def str? : Json → Option String
  | .str value => some value
  | _ => none

def items? : Json → Option (List Json)
  | .arr items => some items
  | _ => none

def field? (key : String) : Json → Option Json
  | .obj fields => fields.lookup key
  | _ => none

end Json

/-- A graph as a JSON text tells it: numbered vertices, and edges between names. -/
structure JsonGraph where
  vertices : List (Nat × Vertex)
  edges : List NamedEdge
  deriving DecidableEq, Repr

namespace JsonGraph

def vertexOf? (value : Json) : Option (Nat × Vertex) := do
  let id ← (← value.field? "id").nat?
  let name ← (← value.field? "name").str?
  let isModule ← (← value.field? "module").bool?
  let isSymbol ← (← value.field? "symbol").bool?
  return (id, ⟨name, isModule, isSymbol⟩)

/-- The edge that a value tells; its relation is spelled exactly. -/
def edgeOf? (value : Json) : Option NamedEdge := do
  let source ← (← value.field? "from").str?
  let target ← (← value.field? "to").str?
  let label ← (← value.field? "relation").str?
  let relation ← Relation.all.find? (·.label = label)
  return ⟨source, target, relation⟩

def ofJson? (value : Json) : Option JsonGraph := do
  let vertices ← (← value.field? "vertices").items?
  let edges ← (← value.field? "edges").items?
  return ⟨← vertices.mapM vertexOf?, ← edges.mapM edgeOf?⟩

def ofText? (text : String) : Option JsonGraph := (Json.parse? text).bind ofJson?

def numbersOf (listed : JsonGraph) (name : String) : List Nat :=
  (listed.vertices.filter (·.2.name = name)).map Prod.fst

/-- The edge between numbers that a named edge stands for, if each end names one vertex. -/
def resolveEdge? (listed : JsonGraph) (edge : NamedEdge) : Option Edge :=
  match listed.numbersOf edge.source, listed.numbersOf edge.target with
  | [source], [target] => some ⟨source, target, edge.relation⟩
  | _, _ => none

/-- The numbered vertices and the edges between them, if every edge can be resolved. -/
def resolve? (listed : JsonGraph) : Option Visible := do
  return ⟨listed.vertices, ← listed.edges.mapM listed.resolveEdge?⟩

end JsonGraph

namespace Dot

def Statement.node? : Statement → Option (Nat × Vertex)
  | .node id vertex => some (id, vertex)
  | .arrow _ => none

def Statement.arrow? : Statement → Option Edge
  | .node _ _ => none
  | .arrow edge => some edge

def visible? (text : String) : Option Visible := do
  let statements ← decode? text
  return ⟨statements.filterMap Statement.node?, statements.filterMap Statement.arrow?⟩

theorem visible?_render (visible : Visible) : visible? (render visible) = some visible := by
  unfold visible?
  rw [decode?_render]
  simp [statementsOf, Function.comp_def, Statement.node?, Statement.arrow?]

end Dot

/-! ## Reading back -/

theorem mapM_map_eq_some {α β γ : Type} {items : List α} {f : α → β} {g : β → Option γ}
    (h : α → γ) (hitems : ∀ item ∈ items, g (f item) = some (h item)) :
    (items.map f).mapM g = some (items.map h) := by
  induction items with
  | nil => rfl
  | cons item items ih =>
      rw [List.map_cons, List.mapM_cons, hitems item List.mem_cons_self,
        ih fun item hmem => hitems item (List.mem_cons_of_mem _ hmem)]
      rfl

namespace JsonGraph

theorem vertexOf?_toJson (id : Nat) (vertex : Vertex) :
    vertexOf? (vertex.toJson id) = some (id, vertex) := rfl

theorem edgeOf?_edgeToJson (graph : Graph) (edge : Edge) :
    edgeOf? (graph.edgeToJson edge) = some (graph.nameEdge edge) := by
  have hrelation : Relation.all.find? (·.label = edge.relation.label) = some edge.relation := by
    cases edge.relation <;> decide
  calc edgeOf? (graph.edgeToJson edge)
      = (Relation.all.find? (·.label = edge.relation.label)).bind fun relation =>
          some ⟨graph.nameOf edge.source, graph.nameOf edge.target, relation⟩ := rfl
    _ = some (graph.nameEdge edge) := by
        rw [hrelation]
        rfl

def listing (graph : Graph) (visible : Visible) : JsonGraph :=
  ⟨visible.vertices, visible.edges.map graph.nameEdge⟩

theorem ofJson?_visibleToJson (graph : Graph) (visible : Visible) :
    ofJson? (graph.visibleToJson visible) = some (listing graph visible) := by
  have hvertices : (visible.vertices.map fun entry => entry.2.toJson entry.1).mapM vertexOf? =
      some (visible.vertices.map id) :=
    mapM_map_eq_some id fun entry _ => vertexOf?_toJson entry.1 entry.2
  have hedges : (visible.edges.map graph.edgeToJson).mapM edgeOf? =
      some (visible.edges.map graph.nameEdge) :=
    mapM_map_eq_some graph.nameEdge fun edge _ => edgeOf?_edgeToJson graph edge
  calc ofJson? (graph.visibleToJson visible)
      = ((visible.vertices.map fun entry => entry.2.toJson entry.1).mapM vertexOf?).bind
          fun vertices => ((visible.edges.map graph.edgeToJson).mapM edgeOf?).bind
            fun edges => some ⟨vertices, edges⟩ := rfl
    _ = some (listing graph visible) := by
        rw [hvertices, hedges, List.map_id]
        rfl

theorem readable_toJson (id : Nat) (vertex : Vertex) : (vertex.toJson id).Readable := by
  refine .obj fun field hfield => ?_
  simp only [List.mem_cons, List.not_mem_nil, or_false] at hfield
  rcases hfield with rfl | rfl | rfl | rfl
  · exact .nat id
  · exact .str vertex.name
  · exact .bool vertex.isModule
  · exact .bool vertex.isSymbol

theorem readable_edgeToJson (graph : Graph) (edge : Edge) : (graph.edgeToJson edge).Readable := by
  refine .obj fun field hfield => ?_
  simp only [List.mem_cons, List.not_mem_nil, or_false] at hfield
  rcases hfield with rfl | rfl | rfl
  · exact .str (graph.nameOf edge.source)
  · exact .str (graph.nameOf edge.target)
  · exact .str edge.relation.label

theorem readable_visibleToJson (graph : Graph) (visible : Visible) :
    (graph.visibleToJson visible).Readable := by
  refine .obj fun field hfield => ?_
  simp only [List.mem_cons, List.not_mem_nil, or_false] at hfield
  rcases hfield with rfl | rfl
  · refine .arr fun item hitem => ?_
    obtain ⟨⟨id, vertex⟩, -, rfl⟩ := List.mem_map.mp hitem
    exact readable_toJson id vertex
  · refine .arr fun item hitem => ?_
    obtain ⟨edge, -, rfl⟩ := List.mem_map.mp hitem
    exact readable_edgeToJson graph edge

/-- The text of an export is read as what it lists. -/
theorem ofText?_json (graph : Graph) (params : ExportChoice) :
    ofText? (graph.exportAs .json params).content =
      some (listing graph (graph.visible params)) := by
  change (Json.parse? (graph.visibleToJson (graph.visible params)).render).bind ofJson? = _
  rw [(readable_visibleToJson graph (graph.visible params)).parse?_render]
  exact ofJson?_visibleToJson graph (graph.visible params)

/-! ## Resolving names -/

theorem mem_numbersOf {listed : JsonGraph} {name : String} {id : Nat} :
    id ∈ listed.numbersOf name ↔ ∃ vertex, (id, vertex) ∈ listed.vertices ∧ vertex.name = name := by
  simp [numbersOf]

variable {graph : Graph} {params : ExportChoice}

/-- The name of a vertex at the end of a kept edge is listed once, under the vertex's number: names
are not shared, and the vertex was not dropped. -/
theorem numbersOf_nameOf (hgraph : graph.WellFormed) {edge : Edge}
    (hedge : edge ∈ (graph.visible params).edges) {id : Nat}
    (hid : edge.source = id ∨ edge.target = id) :
    (listing graph (graph.visible params)).numbersOf (graph.nameOf id) = [id] := by
  obtain ⟨vertex, hvertex⟩ := hgraph.ends_visible hedge hid
  have hname : graph.nameAt? id = some vertex.name :=
    Graph.nameAt?_eq_some_iff.mpr ⟨vertex, (Graph.mem_visible_vertices.mp hvertex).1, rfl⟩
  have hnodup : ((listing graph (graph.visible params)).numbersOf (graph.nameOf id)).Nodup :=
    (graph.visible_vertices_ascending params).nodup.sublist (List.filter_sublist.map Prod.fst)
  rw [← List.perm_singleton, List.perm_ext_iff_of_nodup hnodup (List.nodup_singleton id)]
  intro other
  rw [mem_numbersOf, List.mem_singleton, Graph.nameOf_of_nameAt? hname]
  constructor
  · rintro ⟨found, hfound, hsame⟩
    have hother : graph.nameAt? other = some vertex.name :=
      Graph.nameAt?_eq_some_iff.mpr ⟨found, (Graph.mem_visible_vertices.mp hfound).1, hsame⟩
    exact hgraph.eq_of_nameAt? hother hname
  · rintro rfl
    exact ⟨vertex, hvertex, rfl⟩

theorem resolveEdge?_of_numbersOf {listed : JsonGraph} {edge : NamedEdge} {source target : Nat}
    (hsource : listed.numbersOf edge.source = [source])
    (htarget : listed.numbersOf edge.target = [target]) :
    listed.resolveEdge? edge = some ⟨source, target, edge.relation⟩ := by
  unfold resolveEdge?
  rw [hsource, htarget]

theorem resolve?_listing (hgraph : graph.WellFormed) :
    (listing graph (graph.visible params)).resolve? = some (graph.visible params) := by
  have hedges : ((graph.visible params).edges.map graph.nameEdge).mapM
      (listing graph (graph.visible params)).resolveEdge? =
        some ((graph.visible params).edges.map id) := by
    apply mapM_map_eq_some id
    intro edge hedge
    exact resolveEdge?_of_numbersOf (numbersOf_nameOf hgraph hedge (.inl rfl))
      (numbersOf_nameOf hgraph hedge (.inr rfl))
  unfold resolve? listing
  unfold listing at hedges
  rw [hedges, List.map_id]
  rfl

end JsonGraph

namespace Graph

open JsonGraph

/-- The JSON text of an export tells the kept vertices with their numbers, names and roles, and
the kept edges in their order, by the names of their ends and by their relation. Each end names
exactly one listed vertex, which is where the edge ends. So the text tells the same vertices and
edges as the DOT text, and exports with the same text keep the same. -/
theorem json_tells_exported {graph : Graph} (hgraph : graph.Reachable) (params : ExportChoice) :
    ∃ listed : JsonGraph,
      ofText? (graph.exportAs .json params).content = some listed ∧
      listed.vertices = (graph.visible params).vertices ∧
      (∀ id vertex, (id, vertex) ∈ listed.vertices ↔
        graph.vertices[id]? = some vertex ∧
          (params.pruneIsolated = true →
            ∃ edge ∈ (graph.visible params).edges, edge.source = id ∨ edge.target = id)) ∧
      listed.edges.Forall₂ (fun named edge =>
        graph.nameAt? edge.source = some named.source ∧
        graph.nameAt? edge.target = some named.target ∧
        named.relation = edge.relation ∧
        listed.numbersOf named.source = [edge.source] ∧
        listed.numbersOf named.target = [edge.target]) (graph.visible params).edges ∧
      listed.resolve? = some (graph.visible params) ∧
      Dot.visible? (graph.exportAs .dot params).content = listed.resolve? ∧
      ∀ (other : Graph) (choice : ExportChoice), other.Reachable →
        (other.exportAs .json choice).content = (graph.exportAs .json params).content →
          other.visible choice = graph.visible params := by
  have hwell := hgraph.wellFormed
  refine ⟨listing graph (graph.visible params), ofText?_json graph params, rfl,
    fun _ _ => mem_visible_vertices, ?_, resolve?_listing hwell, ?_, ?_⟩
  · refine List.forall₂_map_left_iff.mpr (List.forall₂_same.mpr ?_)
    intro edge hedge
    obtain ⟨hsource, htarget⟩ := hwell.ends_lt edge (mem_visible_edges.mp hedge).1
    exact ⟨WellFormed.nameAt?_nameOf hsource, WellFormed.nameAt?_nameOf htarget, rfl,
      numbersOf_nameOf hwell hedge (.inl rfl), numbersOf_nameOf hwell hedge (.inr rfl)⟩
  · rw [resolve?_listing hwell]
    exact Dot.visible?_render (graph.visible params)
  · intro other choice hother hcontent
    have hlisting : listing other (other.visible choice) =
        listing graph (graph.visible params) := by
      apply Option.some.inj
      rw [← ofText?_json, ← ofText?_json, hcontent]
    apply Option.some.inj
    rw [← resolve?_listing hother.wellFormed, hlisting, resolve?_listing hwell]

/-- Names with a control character, with quotes and a line break, and one that looks escaped; two
edges alike, a loop, and a vertex without an edge. -/
def oddNames : Graph :=
  ((((((empty.refer "\x01\t\"ä\"\n" .module).2.refer "lone" .symbol).2.refer "\\u0041"
    .symbol).2.relate 0 2 .invocation).relate 2 2 .invocation).relate 0 2 .extension).relate
    0 2 .invocation

theorem json_tells_exported_oddNames :
    oddNames.Reachable ∧
    ∃ listed : JsonGraph,
      ofText? (oddNames.exportAs .json ⟨[.invocation], true⟩).content = some listed ∧
      listed.resolve? = some
        ⟨[(0, ⟨"\x01\t\"ä\"\n", true, false⟩), (2, ⟨"\\u0041", false, true⟩)],
          [⟨0, 2, .invocation⟩, ⟨2, 2, .invocation⟩, ⟨0, 2, .invocation⟩]⟩ ∧
      Dot.visible? (oddNames.exportAs .dot ⟨[.invocation], true⟩).content = listed.resolve? := by
  have hreachable : oddNames.Reachable :=
    .relate (.relate (.relate (.relate (((Reachable.empty.refer _ _).refer _ _).refer _ _)
      .invocation (by decide +kernel) (by decide +kernel))
      .invocation (by decide +kernel) (by decide +kernel))
      .extension (by decide +kernel) (by decide +kernel))
      .invocation (by decide +kernel) (by decide +kernel)
  obtain ⟨listed, hread, -, -, -, hresolve, hdot, -⟩ :=
    json_tells_exported hreachable ⟨[.invocation], true⟩
  refine ⟨hreachable, listed, hread, hresolve.trans ?_, hdot⟩
  decide +kernel

end Graph

end ScriptGraph
