import ScriptGraph.Graph.Show
import ScriptGraph.Graph.Stats

/-!
# Printed answers

The texts that the queries print, in the three formats of the command line.
-/

namespace ScriptGraph

inductive ListingFormat where
  | compact
  | table
  | json
  deriving DecidableEq, Repr, Inhabited

namespace Listing

def padRight (width : Nat) (text : String) : String :=
  text ++ String.ofList (List.replicate (width - text.length) ' ')

def padLeft (width : Nat) (text : String) : String :=
  String.ofList (List.replicate (width - text.length) ' ') ++ text

def countLine (views : List VertexView) : String :=
  toString views.length ++ " vertices found\n"

/-- A neighbour's name, with the number of edges if there are several. -/
def compactName (neighbour : Neighbour) : String :=
  if 1 < neighbour.count then neighbour.name ++ " x" ++ toString neighbour.count
  else neighbour.name

def compactLine (arrow : String) (neighbour : Neighbour) : String :=
  "  " ++ arrow ++ " " ++ neighbour.relation.label ++ " " ++ compactName neighbour ++ "\n"

def compactEntry (view : VertexView) : String :=
  "vertex " ++ view.name ++ " " ++ view.role ++ "\n" ++
    String.join (view.outgoing.map (compactLine "->")) ++
    String.join (view.incoming.map (compactLine "<-"))

def relationWidth : Nat := 8

/-- The width of the name column: the bytes of the longest neighbour's name, and at least four. -/
def nameWidth (views : List VertexView) : Nat :=
  (views.flatMap fun view => (view.outgoing ++ view.incoming).map (·.name.utf8ByteSize)).foldl max 4

def tableRow (width : Nat) (direction relation name count : String) : String :=
  "  " ++ padRight 3 direction ++ "  " ++ padRight relationWidth relation ++ "  " ++
    padRight width name ++ "  " ++ padLeft 5 count ++ "\n"

def neighbourRow (width : Nat) (direction : String) (neighbour : Neighbour) : String :=
  tableRow width direction neighbour.relation.label neighbour.name (toString neighbour.count)

def heading (bold : Bool) (name : String) : String :=
  if bold then "\x1b[1m" ++ name ++ "\x1b[0m" else name

def tableEntry (bold : Bool) (width : Nat) (view : VertexView) : String :=
  heading bold view.name ++ " (" ++ view.role ++ ")\n" ++
    tableRow width "DIR" "RELATION" "NAME" "COUNT" ++
    "  " ++ String.ofList (List.replicate (relationWidth + width + 16) '-') ++ "\n" ++
    String.join (view.outgoing.map (neighbourRow width "out")) ++
    String.join (view.incoming.map (neighbourRow width "in")) ++ "\n"

def views (format : ListingFormat) (bold : Bool) (views : List VertexView) : String :=
  match format with
  | .compact => String.join (views.map compactEntry) ++ countLine views
  | .table => String.join (views.map (tableEntry bold (nameWidth views))) ++ countLine views
  | .json => (Json.arr (views.map VertexView.toJson)).render ++ "\n"

def stats (format : ListingFormat) (stats : Stats) : String :=
  match format with
  | .json => stats.toJson.render ++ "\n"
  | .compact | .table =>
    "vertices " ++ toString stats.vertices ++ " modules " ++ toString stats.modules ++
      " symbols " ++ toString stats.symbols ++ " merged " ++ toString stats.merged ++ "\n" ++
      String.join (stats.byRelation.map fun (relation, count) =>
        relation.label ++ " " ++ toString count ++ "\n") ++
      "edges " ++ toString stats.edges ++ "\n" ++
      "uninvoked declarations " ++ toString stats.uninvoked ++ "\n"

end Listing

end ScriptGraph
