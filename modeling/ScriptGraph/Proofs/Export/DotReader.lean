import Mathlib.Data.List.Basic
import ScriptGraph.Export.Basic
import ScriptGraph.Proofs.Export.Visible
import ScriptGraph.Proofs.Script.Entry

/-!
# Reading DOT text back

A reader for exported text that knows its lines and nothing of the graph. The
text is cut into lines before anything else is looked at, so reading back what
was written rests on two facts about names: an escaped name holds no line break,
and the first bare quote behind it is the one that closes its label.
-/

namespace ScriptGraph.Dot

inductive Statement where
  | node (id : Nat) (vertex : Vertex)
  | arrow (edge : Edge)
  deriving DecidableEq, Repr

namespace Statement

def isNode : Statement → Bool
  | .node _ _ => true
  | .arrow _ => false

def isArrow : Statement → Bool
  | .node _ _ => false
  | .arrow _ => true

end Statement

/-! ## The reader -/

def readNumber? (text : List Char) : Option (Nat × List Char) :=
  match text.takeWhile Char.isDigit with
  | [] => none
  | digits => some (Nat.ofDigitChars 10 digits 0, text.dropWhile Char.isDigit)

def unescape? (mark : Char) : Option Char :=
  if mark = '\x22' then some '\x22'
  else if mark = '\\' then some '\\'
  else if mark = 'n' then some '\n'
  else none

def readLabel? : List Char → Option (List Char × List Char)
  | [] => none
  | c :: rest =>
    if c = '\x22' then some ([], rest)
    else if c = '\\' then
      match rest with
      | [] => none
      | mark :: rest => do
        let c ← unescape? mark
        let (name, rest) ← readLabel? rest
        return (c :: name, rest)
    else do
      let (name, rest) ← readLabel? rest
      return (c :: name, rest)

/-- What follows the label of a vertex, with the roles that it tells: module, symbol. -/
def roleStyles : List (List Char × Bool × Bool) := [
  (" shape=box fillcolor=\"#F9E79F\"];".toList, true, true),
  (" shape=box fillcolor=\"#A9DFBF\"];".toList, true, false),
  (" shape=ellipse fillcolor=\"#AED6F1\"];".toList, false, true),
  (" shape=ellipse fillcolor=\"#EAECEE\"];".toList, false, false)]

def relationStyles : List (List Char × Relation) := [
  (" [label=\"declares\" style=dashed color=gray40];".toList, .declaration),
  (" [label=\"invokes\" style=solid color=blue];".toList, .invocation),
  (" [label=\"extends\" style=solid arrowhead=onormal];".toList, .extension),
  (" [label=\"requires\" style=dotted];".toList, .requirement)]

/-- The statement that a line makes, if it makes one. -/
def Statement.ofLine? (line : List Char) : Option Statement := do
  let text ← line.dropPrefix? "    n".toList
  let (id, text) ← readNumber? text
  match text.dropPrefix? " -> n".toList with
  | some text =>
    let (target, style) ← readNumber? text
    let relation ← relationStyles.lookup style
    return .arrow ⟨id, target, relation⟩
  | none =>
    let text ← text.dropPrefix? " [label=\"".toList
    let (name, style) ← readLabel? text
    let (isModule, isSymbol) ← roleStyles.lookup style
    return .node id ⟨String.ofList name, isModule, isSymbol⟩

def lines (text : String) : List (List Char) := text.toList.splitOn '\n'

def openingLines : List (List Char) := [
  "digraph relgraph \x7b".toList,
  "    rankdir=LR;".toList,
  "    node [style=filled fontname=monospace];".toList]

def closingLines : List (List Char) := ["\x7d".toList, []]

def readStatements? : List (List Char) → Option (List Statement)
  | [] => none
  | line :: rest =>
    if line :: rest = closingLines then some []
    else do
      let statement ← Statement.ofLine? line
      let statements ← readStatements? rest
      return statement :: statements

/-- The statements that the lines of a text make, whatever stands between them. -/
def statements (text : String) : List Statement := (lines text).filterMap Statement.ofLine?

/-- The statements of a text that is made up as an export is, in order. -/
def decode? (text : String) : Option (List Statement) := do
  let rest ← (lines text).dropPrefix? openingLines
  readStatements? rest

/-! ## Numbers and labels -/

theorem isDigit_of_mem_toDigits {n : Nat} {c : Char} (h : c ∈ Nat.toDigits 10 n) :
    c.isDigit = true :=
  Nat.isDigit_of_mem_toDigits (by omega) (by omega) h

/-- A number ends where its digits end. -/
theorem readNumber?_toDigits (n : Nat) {rest : List Char}
    (hrest : rest.takeWhile Char.isDigit = []) :
    readNumber? (Nat.toDigits 10 n ++ rest) = some (n, rest) := by
  have htake : (Nat.toDigits 10 n ++ rest).takeWhile Char.isDigit = Nat.toDigits 10 n := by
    rw [List.takeWhile_append_of_pos fun c => isDigit_of_mem_toDigits, hrest, List.append_nil]
  have hdrop : (Nat.toDigits 10 n ++ rest).dropWhile Char.isDigit = rest := by
    rw [List.dropWhile_append_of_pos fun c => isDigit_of_mem_toDigits]
    have hall := List.takeWhile_append_dropWhile (p := Char.isDigit) (l := rest)
    rwa [hrest, List.nil_append] at hall
  unfold readNumber?
  rw [htake, hdrop]
  split
  · exact absurd ‹_› Nat.toDigits_ne_nil
  · rw [Nat.ofDigitChars_ten_toDigits]

theorem readLabel?_quote (rest : List Char) : readLabel? ('\x22' :: rest) = some ([], rest) := by
  rw [readLabel?.eq_def]
  simp

theorem readLabel?_plain {c : Char} (hquote : c ≠ '\x22') (hback : c ≠ '\\')
    (rest : List Char) :
    readLabel? (c :: rest) = (readLabel? rest).map fun (name, rest) => (c :: name, rest) := by
  rw [readLabel?.eq_def]
  cases hread : readLabel? rest <;> simp [hquote, hback, hread]

theorem readLabel?_escaped {mark c : Char} (h : unescape? mark = some c) (rest : List Char) :
    readLabel? ('\\' :: mark :: rest) =
      (readLabel? rest).map fun (name, rest) => (c :: name, rest) := by
  rw [readLabel?.eq_def]
  cases hread : readLabel? rest <;> simp [h, hread]

theorem readLabel?_escapeChar (c : Char) (rest : List Char) :
    readLabel? (escapeChar c ++ rest) =
      (readLabel? rest).map fun (name, rest) => (c :: name, rest) := by
  unfold escapeChar
  split_ifs with hquote hback hbreak
  · subst hquote
    exact readLabel?_escaped rfl rest
  · subst hback
    exact readLabel?_escaped rfl rest
  · subst hbreak
    exact readLabel?_escaped rfl rest
  · exact readLabel?_plain hquote hback rest

/-- A label ends at the quote that was written behind it, whatever the name holds. -/
theorem readLabel?_escape (name rest : List Char) :
    readLabel? (name.flatMap escapeChar ++ '\x22' :: rest) = some (name, rest) := by
  induction name with
  | nil => exact readLabel?_quote rest
  | cons c name ih =>
      rw [List.flatMap_cons, List.append_assoc, readLabel?_escapeChar, ih]
      rfl

theorem newline_not_mem_escapeChar (c : Char) : '\n' ∉ escapeChar c := by
  unfold escapeChar
  split_ifs with hquote hback hbreak
  · decide
  · decide
  · decide
  · simpa using Ne.symm hbreak

theorem newline_not_mem_toDigits (n : Nat) : '\n' ∉ Nat.toDigits 10 n := by
  intro hmem
  exact absurd (isDigit_of_mem_toDigits hmem) (by decide)

/-! ## Lines -/

def roleStyle (vertex : Vertex) : List Char :=
  (" shape=" ++ shape vertex ++ " fillcolor=\"" ++ fillColor vertex ++ "\"];").toList

def relationStyle (relation : Relation) : List Char :=
  (" [label=\"" ++ relation.label ++ "\" " ++ lineStyle relation ++ "];").toList

def nodeText (id : Nat) (vertex : Vertex) : List Char :=
  "    n".toList ++ (Nat.toDigits 10 id ++ (" [label=\"".toList ++
    (vertex.name.toList.flatMap escapeChar ++ '\x22' :: roleStyle vertex)))

def arrowText (edge : Edge) : List Char :=
  "    n".toList ++ (Nat.toDigits 10 edge.source ++ (" -> n".toList ++
    (Nat.toDigits 10 edge.target ++ relationStyle edge.relation)))

theorem lookup_roleStyle (vertex : Vertex) :
    roleStyles.lookup (roleStyle vertex) = some (vertex.isModule, vertex.isSymbol) := by
  have hstyles : ∀ isModule isSymbol : Bool,
      roleStyles.lookup (roleStyle ⟨"", isModule, isSymbol⟩) = some (isModule, isSymbol) := by
    decide +kernel
  exact hstyles vertex.isModule vertex.isSymbol

theorem lookup_relationStyle (relation : Relation) :
    relationStyles.lookup (relationStyle relation) = some relation := by
  cases relation <;> decide +kernel

def Statement.line : Statement → List Char
  | .node id vertex => nodeText id vertex
  | .arrow edge => arrowText edge

theorem toList_vertexLine (id : Nat) (vertex : Vertex) :
    (vertexLine id vertex).toList = nodeText id vertex ++ ['\n'] := by
  have hquote : "\" shape=".toList = '\x22' :: " shape=".toList := by decide
  have hend : "\"];\n".toList = "\"];".toList ++ ['\n'] := by decide
  unfold vertexLine nodeText roleStyle escape
  simp only [String.toList_append, String.toList_ofList, Nat.toString_eq_repr, Nat.toList_repr,
    hquote, hend, List.append_assoc, List.cons_append]

theorem toList_edgeLine (edge : Edge) :
    (edgeLine edge).toList = arrowText edge ++ ['\n'] := by
  have hend : "];\n".toList = "];".toList ++ ['\n'] := by decide
  unfold edgeLine arrowText relationStyle
  simp only [String.toList_append, Nat.toString_eq_repr, Nat.toList_repr, hend,
    List.append_assoc]

theorem newline_not_mem_line (statement : Statement) : '\n' ∉ statement.line := by
  cases statement with
  | node id vertex =>
      have hname : '\n' ∉ vertex.name.toList.flatMap escapeChar := by
        intro hmem
        obtain ⟨c, -, hc⟩ := List.mem_flatMap.mp hmem
        exact newline_not_mem_escapeChar c hc
      have hstyle : '\n' ∉ roleStyle vertex := by
        have hstyles : ∀ isModule isSymbol : Bool,
            '\n' ∉ roleStyle ⟨"", isModule, isSymbol⟩ := by decide +kernel
        exact hstyles vertex.isModule vertex.isSymbol
      have hid := newline_not_mem_toDigits id
      unfold Statement.line nodeText
      simp [hname, hstyle, hid]
  | arrow edge =>
      have hstyle : '\n' ∉ relationStyle edge.relation := by
        cases edge.relation <;> decide +kernel
      have hsource := newline_not_mem_toDigits edge.source
      have htarget := newline_not_mem_toDigits edge.target
      unfold Statement.line arrowText
      simp [hstyle, hsource, htarget]

theorem ofLine?_line (statement : Statement) :
    Statement.ofLine? statement.line = some statement := by
  cases statement with
  | node id vertex =>
      have hnumber : readNumber? (Nat.toDigits 10 id ++ (" [label=\"".toList ++
          (vertex.name.toList.flatMap escapeChar ++ '\x22' :: roleStyle vertex))) =
            some (id, _) := readNumber?_toDigits id (by simp)
      have hnotArrow : (" [label=\"".toList ++ (vertex.name.toList.flatMap escapeChar ++
          '\x22' :: roleStyle vertex)).dropPrefix? " -> n".toList = none := rfl
      change Statement.ofLine? (nodeText id vertex) = _
      unfold Statement.ofLine? nodeText
      rw [List.dropPrefix?_append_of_beq _ (beq_self_eq_true _)]
      simp only [Option.bind_eq_bind, Option.bind_some, hnumber, hnotArrow]
      rw [List.dropPrefix?_append_of_beq _ (beq_self_eq_true _)]
      simp only [Option.bind_some, readLabel?_escape, lookup_roleStyle, String.ofList_toList]
      rfl
  | arrow edge =>
      have hsource : readNumber? (Nat.toDigits 10 edge.source ++ (" -> n".toList ++
          (Nat.toDigits 10 edge.target ++ relationStyle edge.relation))) =
            some (edge.source, _) := readNumber?_toDigits edge.source (by simp)
      have htarget : readNumber? (Nat.toDigits 10 edge.target ++ relationStyle edge.relation) =
          some (edge.target, _) :=
        readNumber?_toDigits edge.target (by simp [relationStyle])
      change Statement.ofLine? (arrowText edge) = _
      unfold Statement.ofLine? arrowText
      rw [List.dropPrefix?_append_of_beq _ (beq_self_eq_true _)]
      simp only [Option.bind_eq_bind, Option.bind_some, hsource]
      rw [List.dropPrefix?_append_of_beq _ (beq_self_eq_true _)]
      simp only [Option.bind_some, htarget, lookup_relationStyle]
      rfl

/-! ## The text as a whole -/

/-- Lines that are each ended by a line break are cut there and nowhere else. -/
theorem splitOn_flatMap_terminated {items : List (List Char)} (h : ∀ line ∈ items, '\n' ∉ line) :
    (items.flatMap (· ++ ['\n'])).splitOn '\n' = items ++ [[]] := by
  have hjoin : items.flatMap (· ++ ['\n']) = ['\n'].intercalate (items ++ [[]]) := by
    induction items with
    | nil => rfl
    | cons line items ih =>
        rw [List.flatMap_cons, List.cons_append, List.intercalate_cons_of_ne_nil (by simp),
          ih fun other hother => h other (List.mem_cons_of_mem line hother)]
  rw [hjoin]
  apply List.splitOn_intercalate
  · intro line hline
    rcases List.mem_append.mp hline with hline | hline
    · exact h line hline
    · simp [List.mem_singleton.mp hline]
  · simp

/-- The statements that tell what an export keeps: vertices first, then edges. -/
def statementsOf (visible : Visible) : List Statement :=
  visible.vertices.map (fun (id, vertex) => .node id vertex) ++ visible.edges.map .arrow

theorem toList_render (visible : Visible) :
    (render visible).toList =
      (openingLines ++ (statementsOf visible).map Statement.line ++ ["\x7d".toList]).flatMap
        (· ++ ['\n']) := by
  have hheader : header.toList = openingLines.flatMap (· ++ ['\n']) := by decide +kernel
  have hfooter : footer.toList = ["\x7d".toList].flatMap (· ++ ['\n']) := by decide +kernel
  have hvertices : (String.join (visible.vertices.map
      fun (id, vertex) => vertexLine id vertex)).toList =
        visible.vertices.flatMap fun (id, vertex) => nodeText id vertex ++ ['\n'] := by
    rw [String.toList_join, List.flatMap_map]
    simp only [toList_vertexLine]
  have hedges : (String.join (visible.edges.map edgeLine)).toList =
      visible.edges.flatMap fun edge => arrowText edge ++ ['\n'] := by
    rw [String.toList_join, List.flatMap_map]
    simp only [toList_edgeLine]
  simp only [render, String.toList_append, hheader, hfooter, hvertices, hedges, statementsOf,
    List.map_append, List.flatMap_append, List.flatMap_map, List.append_assoc]
  rfl

theorem lines_render (visible : Visible) :
    lines (render visible) =
      openingLines ++ ((statementsOf visible).map Statement.line ++ closingLines) := by
  unfold lines
  rw [toList_render, splitOn_flatMap_terminated]
  · simp only [closingLines, List.append_assoc, List.singleton_append]
  · intro line hline
    simp only [List.mem_append, List.mem_map, List.mem_singleton] at hline
    rcases hline with (hline | ⟨statement, -, rfl⟩) | rfl
    · have hopening : ∀ line ∈ openingLines, '\n' ∉ line := by decide
      exact hopening line hline
    · exact newline_not_mem_line statement
    · decide

theorem readStatements?_map_line (statements : List Statement) :
    readStatements? (statements.map Statement.line ++ closingLines) = some statements := by
  induction statements with
  | nil => simp [readStatements?, closingLines]
  | cons statement statements ih =>
      -- The line of a statement can be read, and so it is not the closing brace.
      have hopen : statement.line ::
          (statements.map Statement.line ++ closingLines) ≠ closingLines := by
        intro heq
        have hbrace : statement.line = "\x7d".toList := (List.cons.inj heq).1
        have hread := ofLine?_line statement
        have hnone : Statement.ofLine? "\x7d".toList = none := by decide
        rw [hbrace, hnone] at hread
        cases hread
      rw [List.map_cons, List.cons_append, readStatements?, if_neg hopen, ofLine?_line, ih]
      rfl

theorem decode?_render (visible : Visible) :
    decode? (render visible) = some (statementsOf visible) := by
  unfold decode?
  rw [lines_render, List.dropPrefix?_append_of_beq _ (beq_self_eq_true _)]
  exact readStatements?_map_line (statementsOf visible)

theorem statements_render (visible : Visible) :
    statements (render visible) = statementsOf visible := by
  have hopening : openingLines.filterMap Statement.ofLine? = [] := by decide
  have hclosing : closingLines.filterMap Statement.ofLine? = [] := by decide
  have hread : ((statementsOf visible).map Statement.line).filterMap Statement.ofLine? =
      statementsOf visible := by
    rw [List.filterMap_map]
    calc (statementsOf visible).filterMap (Statement.ofLine? ∘ Statement.line)
        = (statementsOf visible).filterMap some :=
          List.filterMap_congr fun statement _ => ofLine?_line statement
      _ = statementsOf visible := List.filterMap_some
  unfold statements
  rw [lines_render, List.filterMap_append, List.filterMap_append, hopening, hread, hclosing,
    List.nil_append, List.append_nil]

/-! ## Statements and what they tell -/

theorem countP_isNode_statementsOf (visible : Visible) :
    (statementsOf visible).countP Statement.isNode = visible.vertices.length := by
  simp [statementsOf, List.countP_map, Function.comp_def, Statement.isNode]

theorem countP_isArrow_statementsOf (visible : Visible) :
    (statementsOf visible).countP Statement.isArrow = visible.edges.length := by
  simp [statementsOf, List.countP_map, Function.comp_def, Statement.isArrow]

/-- The statements of the vertices at the ends of an edge come before its own. -/
theorem exists_node_before_arrow {graph : Graph} (hgraph : graph.WellFormed)
    {params : ExportChoice} {i : Nat} {edge : Edge}
    (harrow : (statementsOf (graph.visible params))[i]? = some (.arrow edge)) {id : Nat}
    (hid : edge.source = id ∨ edge.target = id) :
    ∃ j < i, ∃ vertex, (statementsOf (graph.visible params))[j]? = some (.node id vertex) := by
  have hmem : edge ∈ (graph.visible params).edges := by
    have hstatement := List.mem_of_getElem? harrow
    simpa [statementsOf] using hstatement
  have hbehind : (graph.visible params).vertices.length ≤ i := by
    by_contra hlt
    unfold statementsOf at harrow
    rw [List.getElem?_append_left (by rw [List.length_map]; omega), List.getElem?_map,
      Option.map_eq_some_iff] at harrow
    obtain ⟨_, -, heq⟩ := harrow
    cases heq
  obtain ⟨vertex, hvertex⟩ := hgraph.ends_visible hmem hid
  obtain ⟨j, hj⟩ := List.mem_iff_getElem?.mp hvertex
  have hlt : j < (graph.visible params).vertices.length := (List.getElem?_eq_some_iff.mp hj).1
  refine ⟨j, by omega, vertex, ?_⟩
  unfold statementsOf
  rw [List.getElem?_append_left (by rw [List.length_map]; omega), List.getElem?_map, hj]
  rfl

/-- Reading an exported text gives back what was exported: the kept vertices by ascending number,
each with its name and its roles, then the kept edges in their order. The text makes as many
statements of each sort as the export counts, and no edge before the vertices at its ends. -/
theorem decode?_exported {graph : Graph} (hgraph : graph.Reachable) (params : ExportChoice) :
    decode? (graph.exportAs .dot params).content =
      some ((graph.visible params).vertices.map (fun (id, vertex) => .node id vertex) ++
        (graph.visible params).edges.map .arrow) ∧
    ((graph.visible params).vertices.map Prod.fst).Pairwise (· < ·) ∧
    (∀ id vertex, (id, vertex) ∈ (graph.visible params).vertices ↔
      graph.vertices[id]? = some vertex ∧
        (params.pruneIsolated = true →
          ∃ edge ∈ (graph.visible params).edges, edge.source = id ∨ edge.target = id)) ∧
    (graph.visible params).edges = graph.edges.toList.filter
      (fun edge => decide (params.relations = [] ∨ edge.relation ∈ params.relations)) ∧
    (statements (graph.exportAs .dot params).content).countP Statement.isNode =
      (graph.exportAs .dot params).vertices ∧
    (statements (graph.exportAs .dot params).content).countP Statement.isArrow =
      (graph.exportAs .dot params).edges ∧
    ∀ (i : Nat) edge, (statements (graph.exportAs .dot params).content)[i]? =
        some (.arrow edge) →
      ∀ id, edge.source = id ∨ edge.target = id → ∃ j < i, ∃ vertex,
        (statements (graph.exportAs .dot params).content)[j]? = some (.node id vertex) := by
  have hstatements : statements (graph.exportAs .dot params).content =
      statementsOf (graph.visible params) := statements_render (graph.visible params)
  have hedges : (graph.visible params).edges = graph.edges.toList.filter
      (fun edge => decide (params.relations = [] ∨ edge.relation ∈ params.relations)) := by
    apply List.filter_congr
    intro edge _
    rw [Bool.eq_iff_iff, Relation.admittedBy_iff, decide_eq_true_iff]
  rw [hstatements]
  refine ⟨decode?_render (graph.visible params), Graph.visible_vertices_ascending graph params,
    fun _ _ => Graph.mem_visible_vertices, hedges,
    countP_isNode_statementsOf (graph.visible params),
    countP_isArrow_statementsOf (graph.visible params), ?_⟩
  intro i edge harrow id hid
  exact exists_node_before_arrow hgraph.wellFormed harrow hid

/-- A name that looks like the end of its label and like an edge, one with a backslash, and one
without an edge. -/
def awkwardNames : Graph :=
  (((Graph.empty.refer "say \"hi\"];\n    n1 -> n0 [" .module).2.refer "b\\n" .symbol).2.refer
    "lone" .symbol).2.relate 0 1 .invocation

theorem decode?_exported_awkwardNames :
    awkwardNames.Reachable ∧
    decode? (awkwardNames.exportAs .dot ⟨[.invocation], true⟩).content =
      some [.node 0 ⟨"say \"hi\"];\n    n1 -> n0 [", true, false⟩,
        .node 1 ⟨"b\\n", false, true⟩, .arrow ⟨0, 1, .invocation⟩] := by
  have hreachable : awkwardNames.Reachable :=
    .relate (((Graph.Reachable.empty.refer _ _).refer _ _).refer _ _) .invocation
      (by decide +kernel) (by decide +kernel)
  refine ⟨hreachable, (decode?_exported hreachable ⟨[.invocation], true⟩).1.trans ?_⟩
  decide +kernel

end ScriptGraph.Dot
