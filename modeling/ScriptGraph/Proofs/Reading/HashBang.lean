import ScriptGraph.Proofs.Reading.Remarks
import ScriptGraph.Proofs.Script.Outcome

/-!
# A hash-bang line ends every scan

A source may begin with a line that tells a system how to run it. This line is a
part of the tree of the source, in front of all statements, and no remark. There
is no shape for it, and so the scan of a source that begins with one ends before
its first statement, whatever the statements are.
-/

namespace ScriptGraph

open Source

/-! ## Reading bytes only adds glyphs -/

namespace Utf8

theorem stray_extends (glyphs : Array Glyph) (n : Nat) :
    glyphs.toList <+: (stray glyphs n).toList := by
  induction n generalizing glyphs with
  | zero => exact List.prefix_rfl
  | succ n ih =>
      have hpush : glyphs.toList <+: (glyphs.push none).toList := by simp
      exact hpush.trans (ih _)

theorem first_extends (glyphs : Array Glyph) (byte : Nat) :
    glyphs.toList <+: (first glyphs byte).glyphs.toList := by
  rw [first]
  split
  · simp
  · split <;> simp

theorem close_extends (glyphs : Array Glyph) (pending : Pending) (value : Nat) :
    glyphs.toList <+: (close glyphs pending value).glyphs.toList := by
  rw [close]
  split
  · simp
  · exact stray_extends glyphs _

theorem step_extends (state : State) (byte : UInt8) :
    state.glyphs.toList <+: (step state byte).glyphs.toList := by
  rw [step]
  split
  · exact first_extends _ _
  · split
    · split
      · exact close_extends _ _ _
      · exact List.prefix_rfl
    · exact (stray_extends _ _).trans (first_extends _ _)

theorem foldl_step_extends (bytes : List UInt8) (state : State) :
    state.glyphs.toList <+: (bytes.foldl step state).glyphs.toList := by
  induction bytes generalizing state with
  | nil => exact List.prefix_rfl
  | cons byte bytes ih => exact (step_extends state byte).trans (ih _)

theorem finish_extends (state : State) : state.glyphs.toList <+: (finish state).toList := by
  rw [finish]
  split
  · exact List.prefix_rfl
  · exact stray_extends _ _

/-- What the first bytes spell stands at the start of the text, whatever bytes follow. -/
theorem decode_extends (bytes rest : List UInt8) :
    (bytes.foldl step ⟨#[], none⟩).glyphs.toList <+: (decode (bytes ++ rest)).toList := by
  rw [decode, List.foldl_append]
  exact (foldl_step_extends rest _).trans (finish_extends _)

end Utf8

/-! ## The tree of a source that begins with the line -/

namespace Source

namespace Reader

theorem hashBang_start (glyphs : List Glyph) :
    ∃ line after, hashBang (.start (some '#' :: some '!' :: glyphs)) = some (some line, after) ∧
      line.kind = .hashBangLine :=
  ⟨_, _, rfl, rfl⟩

theorem program_of_hashBang {glyphs : List Glyph} {line tree : Tree} {after last : Cursor}
    (hline : hashBang (.start glyphs) = some (some line, after))
    (h : program glyphs (.start glyphs) = some (tree, last)) :
    ∃ body, tree.children = (none, line) :: body := by
  simp only [program, bind, StateT.bind, here, Option.bind_some, hline] at h
  obtain ⟨⟨body, cursor⟩, -, hclose⟩ := Option.bind_eq_some_iff.mp h
  obtain ⟨rfl, -⟩ := Prod.mk.inj (Option.some.inj hclose)
  exact ⟨body.map bare, rfl⟩

end Reader

theorem parse?_eq_some {glyphs : List Glyph} {tree : Tree} (h : parse? glyphs = some tree) :
    ∃ bare last, Reader.program glyphs (.start glyphs) = some (bare, last) ∧
      ∀ source depth, Func.ofTree source depth tree = Func.ofTree source depth bare := by
  rw [parse?] at h
  split at h
  · rename_i bare last hprogram
    split at h
    · obtain rfl := Option.some.inj h
      exact ⟨bare, last, hprogram, fun source depth => Func.ofTree_insertAll source depth _ bare⟩
    · cases h
  · cases h

end Source

/-! ## The script and its scan -/

theorem statementsOf_hashBang (source : SourceText) (levels : Nat) {line : Tree}
    (hline : line.kind = .hashBangLine) :
    ∃ kind, statementsOf source levels line = [.unsupported kind] ∧
      (levels ≠ 0 → kind = "hash_bang_line") := by
  cases levels with
  | zero => exact ⟨nestingKind, by rw [statementsOf], fun h => absurd rfl h⟩
  | succ levels =>
      refine ⟨"hash_bang_line", ?_, fun _ => rfl⟩
      rw [statementsOf, Reading.readStatement, hline]
      rfl

namespace Func

theorem body_ofTree_of_hashBang (source : SourceText) (depth : Nat) {tree line : Tree}
    {body : List (Option Field × Tree)} (htree : tree.children = (none, line) :: body)
    (hline : line.kind = .hashBangLine) :
    ∃ kind rest, ofTree source depth tree = .wrapper (.unsupported kind :: rest) ∧
      (depth ≠ 0 → kind = "hash_bang_line") := by
  have hsubstantial : line.isSubstantial = true := by
    rw [Tree.isSubstantial, hline]
    rfl
  obtain ⟨more, hparts⟩ : ∃ more, tree.parts = line :: more := by
    rw [Tree.parts, htree, List.map_cons, List.filter_cons_of_pos hsubstantial]
    exact ⟨_, rfl⟩
  obtain ⟨kind, hstatements, hkind⟩ := statementsOf_hashBang source depth hline
  refine ⟨kind, more.flatMap (statementsOf source depth), ?_, hkind⟩
  rw [ofTree, hparts, List.flatMap_cons, hstatements, List.singleton_append]

/-- The script of a source that begins with a hash-bang line begins with an unsupported statement. -/
theorem body_ofSource?_of_hashBang {rest : List UInt8} {depth : Nat} {func : Func}
    (h : ofSource? ("#!".toUTF8.toList ++ rest) depth = some func) :
    ∃ kind body, func = .wrapper (.unsupported kind :: body) ∧
      (depth ≠ 0 → kind = "hash_bang_line") := by
  have hread : "#!".toUTF8.toList.foldl Utf8.step ⟨#[], none⟩ = ⟨#[some '#', some '!'], none⟩ := by
    decide +kernel
  obtain ⟨glyphs, hglyphs⟩ := Utf8.decode_extends "#!".toUTF8.toList rest
  rw [hread] at hglyphs
  obtain ⟨tree, htree, rfl⟩ := Option.map_eq_some_iff.mp h
  -- The line is sought in the tree without the remarks: one of them may stand in front of it.
  obtain ⟨bare, last, hprogram, hscript⟩ := parse?_eq_some htree
  rw [SourceText.ofBytes, ← hglyphs] at hprogram
  obtain ⟨line, after, hline, hkind⟩ := Reader.hashBang_start glyphs
  obtain ⟨body, hbody⟩ := Reader.program_of_hashBang hline hprogram
  rw [hscript]
  exact body_ofTree_of_hashBang _ depth hbody hkind

/-- A walk over a script that begins with an unsupported statement notes nothing. -/
theorem references_of_unsupported (options : ScanOptions) (kind : String) (body : Block) :
    ((wrapper (.unsupported kind :: body)).references options).result =
      .error (if options.maxDepth = 0 then .tooDeep 0 else .unsupported .statement kind) ∧
    ((wrapper (.unsupported kind :: body)).references options).references = #[] := by
  obtain ⟨visits, hvisits⟩ : ∃ visits, (wrapper (.unsupported kind :: body)).visits =
      (1, .stmt (.unsupported kind)) :: visits := by
    rw [visits, visitsBelow, wrapper, Func.body, List.flatMap_cons, Node.visits_eq]
    exact ⟨_, rfl⟩
  have hstop : Visit.stop? options (1, .stmt (.unsupported kind)) =
      some (if options.maxDepth = 0 then .tooDeep 0 else .unsupported .statement kind) := by
    rw [Visit.stop?]
    by_cases hdepth : options.maxDepth = 0
    · rw [if_pos (by omega), if_pos hdepth, hdepth]
    · rw [if_neg (by omega), if_neg hdepth]
      rfl
  constructor
  · rw [result_references, hvisits, Visit.outcome_cons_of_stop hstop]
  · rw [← Array.toList_inj, toList_references, hvisits, Visit.noted_cons_of_stop hstop]
    rfl

end Func

namespace Graph

/-- The scan of a source that begins with a hash-bang line ends at this line, and so before the
first statement: the graph gets the vertex of the module and no edge, whatever the rest of the
source is. -/
theorem scan_ends_at_hashBang (graph : Graph) (path : String) (options : ScanOptions)
    (rest : List UInt8) {func : Func}
    (hfunc : Func.ofSource? ("#!".toUTF8.toList ++ rest) options.maxDepth = some func) :
    (graph.scan path options func).1.result =
      .error (if options.maxDepth = 0 then .tooDeep 0
        else .unsupported .statement "hash_bang_line") ∧
    (graph.scan path options func).2 = (graph.refer (Path.moduleName path) .module).2 ∧
    (graph.scan path options func).2.edges = graph.edges := by
  obtain ⟨kind, body, rfl, hkind⟩ := Func.body_ofSource?_of_hashBang hfunc
  obtain ⟨hresult, hreferences⟩ := Func.references_of_unsupported options kind body
  have hgraph : (graph.scan path options (.wrapper (.unsupported kind :: body))).2 =
      (graph.refer (Path.moduleName path) .module).2 := by
    change graph.enterModule path _ = _
    rw [hreferences]
    rfl
  refine ⟨?_, hgraph, by rw [hgraph, edges_refer]⟩
  change ((Func.wrapper _).references options).result = _
  rw [hresult]
  split
  · rfl
  · rename_i hdepth
    rw [hkind hdepth]

/-- A call below a hash-bang line, without the two characters that open the line. -/
def executable : List UInt8 := "/usr/bin/env node\nf();".toUTF8.toList

theorem scan_executable_ends_at_hashBang :
    ∃ func, Func.ofSource? ("#!".toUTF8.toList ++ executable) ScanOptions.standard.maxDepth =
        some func ∧
      (empty.scan "bin/run.js" .standard func).1.result =
        .error (.unsupported .statement "hash_bang_line") ∧
      (empty.scan "bin/run.js" .standard func).2.edges = #[] := by
  have hsome : (Func.ofSource? ("#!".toUTF8.toList ++ executable)
      ScanOptions.standard.maxDepth).isSome = true := by decide +kernel
  obtain ⟨func, hfunc⟩ := Option.isSome_iff_exists.mp hsome
  obtain ⟨hresult, -, hedges⟩ := scan_ends_at_hashBang empty "bin/run.js" .standard executable hfunc
  exact ⟨func, hfunc, hresult, hedges⟩

/-- The call is found without the line in front of it, and is not found with it. -/
theorem scan_hashBang_hides_call :
    let scanned := fun bytes => (Func.ofSource? bytes ScanOptions.standard.maxDepth).map fun func =>
      ((empty.scan "m.js" .standard func).1.result,
        (empty.scan "m.js" .standard func).2.namedEdges)
    scanned "f();".toUTF8.toList = some (.ok (), [⟨"m", "f", .invocation⟩]) ∧
    scanned "#!/usr/bin/env node\nf();".toUTF8.toList =
      some (.error (.unsupported .statement "hash_bang_line"), []) := by decide +kernel

end Graph

end ScriptGraph
