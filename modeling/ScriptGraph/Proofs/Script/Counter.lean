import Mathlib.Logic.Relation
import ScriptGraph.Proofs.Script.Entry
import ScriptGraph.Proofs.Script.Walk

/-!
# The counter of open levels

A scan opens and closes levels far apart, and an error takes it out of any
number of them. Here a scan is taken apart into single steps, with the counter
in a machine word: a step that would take the counter past either end of a word
is a fault. One step keeps the counter at the levels that are still to be
closed, so no run of steps meets a fault, and each run does what the scan does.
A counter that is back at zero after every script lets one scanner do the work
of many.
-/

namespace ScriptGraph

/-! ## Single steps -/

/-- What a walk has still to do. -/
inductive Task where
  /-- To open a level for a node. -/
  | visit (node : Node)
  | note (references : List Reference)
  | fail (error : ScanError)
  /-- To close a level. -/
  | leave

namespace Task

def isLeave : Task → Bool
  | .leave => true
  | _ => false

end Task

/-- What is to be done for a node while its level is open. -/
def Node.tasks (options : ScanOptions) (node : Node) : List Task :=
  match node.unsupportedKind? with
  | some kind => [.fail (.unsupported node.family kind)]
  | none => .note (node.references options) :: node.children.map .visit

/-- What a counter in a machine word cannot do: count on from the largest word, or back from
zero. -/
inductive Fault where
  | overflow
  | underflow
  deriving DecidableEq, Repr

/-- A walk between two steps. -/
structure Stepper where
  /-- What is left to do, the next task first. -/
  tasks : List Task
  /-- The levels that are open. -/
  depth : UInt64
  found : Array Reference
  /-- Why the walk ends early, once it does: from then on it only closes levels. -/
  error? : Option ScanError

namespace Stepper

/-- One step of a walk. With no task left there is nothing to do. -/
def step (options : ScanOptions) (walk : Stepper) : Except Fault Stepper :=
  match walk.tasks, walk.error? with
  | [], _ => .ok walk
  | .leave :: rest, _ =>
    if walk.depth.toNat = 0 then .error .underflow
    else .ok { walk with tasks := rest, depth := walk.depth - 1 }
  | _ :: rest, some _ => .ok { walk with tasks := rest }
  | .note references :: rest, none =>
    .ok { walk with tasks := rest, found := walk.found ++ references.toArray }
  | .fail error :: rest, none => .ok { walk with tasks := rest, error? := some error }
  | .visit node :: rest, none =>
    if options.maxDepth ≤ walk.depth.toNat then
      .ok { walk with tasks := rest, error? := some (.tooDeep options.maxDepth) }
    else if walk.depth.toNat + 1 = UInt64.size then .error .overflow
    else
      .ok { walk with tasks := node.tasks options ++ .leave :: rest, depth := walk.depth + 1 }

def Next (options : ScanOptions) (walk next : Stepper) : Prop :=
  walk.tasks ≠ [] ∧ walk.step options = .ok next

/-- One walk is the other after any number of steps. -/
def Leads (options : ScanOptions) : Stepper → Stepper → Prop :=
  Relation.ReflTransGen (Next options)

variable {options : ScanOptions} {base : Nat}

/-! ## What a step does -/

theorem step_leave (rest : List Task) {depth : UInt64} (h : 0 < depth.toNat)
    (found : Array Reference) (error? : Option ScanError) :
    step options ⟨.leave :: rest, depth, found, error?⟩ =
      .ok ⟨rest, depth - 1, found, error?⟩ :=
  if_neg (Nat.ne_of_gt h)

/-- A walk that ends early passes over every task but those that close a level. -/
theorem step_skip {task : Task} (h : task.isLeave = false) (rest : List Task) (depth : UInt64)
    (found : Array Reference) (error : ScanError) :
    step options ⟨task :: rest, depth, found, some error⟩ =
      .ok ⟨rest, depth, found, some error⟩ := by
  cases task with
  | leave => cases h
  | visit | note | fail => rfl

theorem step_tooDeep (node : Node) (rest : List Task) {depth : UInt64}
    (h : options.maxDepth ≤ depth.toNat) (found : Array Reference) :
    step options ⟨.visit node :: rest, depth, found, none⟩ =
      .ok ⟨rest, depth, found, some (.tooDeep options.maxDepth)⟩ :=
  if_pos h

theorem step_enter (hword : options.maxDepth < UInt64.size) (node : Node) (rest : List Task)
    {depth : UInt64} (h : depth.toNat < options.maxDepth) (found : Array Reference) :
    step options ⟨.visit node :: rest, depth, found, none⟩ =
      .ok ⟨node.tasks options ++ .leave :: rest, depth + 1, found, none⟩ :=
  (if_neg (Nat.not_le.mpr h)).trans (if_neg (by dsimp only; omega))

theorem toNat_add_one {depth : UInt64} (h : depth.toNat + 1 < UInt64.size) :
    (depth + 1).toNat = depth.toNat + 1 := by
  rw [UInt64.toNat_add, UInt64.toNat_one]
  exact Nat.mod_eq_of_lt h

theorem toNat_sub_one {depth : UInt64} (h : 0 < depth.toNat) :
    (depth - 1).toNat = depth.toNat - 1 := by
  have hle : 1 ≤ depth := by
    rw [UInt64.le_iff_toNat_le, UInt64.toNat_one]
    exact h
  rw [UInt64.toNat_sub_of_le _ _ hle, UInt64.toNat_one]

/-! ## What every step keeps -/

/-- The counter is at the levels that are still to be closed, above those that were open before, and
within the bound. -/
structure Balanced (options : ScanOptions) (base : Nat) (walk : Stepper) : Prop where
  depth_eq : walk.depth.toNat = base + walk.tasks.countP Task.isLeave
  depth_le : walk.depth.toNat ≤ options.maxDepth

theorem countP_visits (nodes : List Node) :
    (nodes.map Task.visit).countP Task.isLeave = 0 := by
  rw [List.countP_map, List.countP_eq_zero]
  intro node _
  exact Bool.false_ne_true

/-- The level of a node is closed behind its tasks and not by one of them. -/
theorem countP_tasks (options : ScanOptions) (node : Node) :
    (node.tasks options).countP Task.isLeave = 0 := by
  unfold Node.tasks
  split
  · rfl
  · rw [List.countP_cons_of_neg Bool.false_ne_true, countP_visits]

namespace Balanced

/-- No step of a balanced walk is a fault, and the walk stays balanced. -/
theorem step (hword : options.maxDepth < UInt64.size) {walk : Stepper}
    (h : walk.Balanced options base) :
    ∃ next, walk.step options = .ok next ∧ next.Balanced options base := by
  obtain ⟨tasks, depth, found, error?⟩ := walk
  obtain ⟨hdepth, hle⟩ := h
  dsimp only at hdepth hle
  cases tasks with
  | nil => exact ⟨_, rfl, hdepth, hle⟩
  | cons task rest =>
      cases htask : task.isLeave with
      | true =>
          obtain rfl : task = .leave := by
            cases task with
            | leave => rfl
            | visit | note | fail => cases htask
          -- The level that is to be closed is one of those that are open.
          rw [List.countP_cons_of_pos htask] at hdepth
          have hpos : 0 < depth.toNat := by omega
          have hback := toNat_sub_one hpos
          refine ⟨_, step_leave rest hpos found error?, ?_, ?_⟩ <;> dsimp only <;> omega
      | false =>
          rw [List.countP_cons_of_neg (by simp [htask])] at hdepth
          cases error? with
          | some error => exact ⟨_, step_skip htask rest depth found error, hdepth, hle⟩
          | none =>
              cases task with
              | leave => cases htask
              | note references => exact ⟨_, rfl, hdepth, hle⟩
              | fail error => exact ⟨_, rfl, hdepth, hle⟩
              | visit node =>
                  by_cases hdeep : options.maxDepth ≤ depth.toNat
                  · exact ⟨_, step_tooDeep node rest hdeep found, hdepth, hle⟩
                  · have hon : (depth + 1).toNat = depth.toNat + 1 := toNat_add_one (by omega)
                    refine ⟨_, step_enter hword node rest (by omega) found, ?_, ?_⟩
                    · dsimp only
                      rw [List.countP_append, countP_tasks, List.countP_cons_of_pos rfl]
                      omega
                    · dsimp only
                      omega

/-- A balanced walk stays balanced all the way. -/
theorem leads (hword : options.maxDepth < UInt64.size) {start walk : Stepper}
    (hstart : start.Balanced options base) (h : Leads options start walk) :
    walk.Balanced options base := by
  induction h with
  | refl => exact hstart
  | tail _ hnext ih =>
      obtain ⟨next, hstep, hbalanced⟩ := ih.step hword
      obtain rfl := Except.ok.inj (hstep.symm.trans hnext.2)
      exact hbalanced

end Balanced

/-! ## Steps along visits -/

def failure? : Except ScanError Unit → Option ScanError
  | .ok _ => none
  | .error error => some error

theorem found_append (found : Array Reference) (references more : List Reference) :
    found ++ (references ++ more).toArray = found ++ references.toArray ++ more.toArray := by
  simp [Array.append_assoc]

theorem leads_skip {tasks : List Task} (h : tasks.countP Task.isLeave = 0) (rest : List Task)
    (depth : UInt64) (found : Array Reference) (error : ScanError) :
    Leads options ⟨tasks ++ rest, depth, found, some error⟩ ⟨rest, depth, found, some error⟩ := by
  induction tasks with
  | nil => exact .refl
  | cons task tasks ih =>
      have htask : task.isLeave = false := by
        simpa using List.countP_eq_zero.mp h task List.mem_cons_self
      rw [List.countP_cons_of_neg (by simp [htask])] at h
      exact .head ⟨List.cons_ne_nil _ _, step_skip htask _ depth found error⟩ (ih h)

/-- From any number of open levels, the tasks are done as a walk along the visits goes. -/
def Follows (options : ScanOptions) (tasks : List Task) (depth : UInt64)
    (visits : List (Nat × Node)) : Prop :=
  ∀ rest found, Leads options ⟨tasks ++ rest, depth, found, none⟩
    ⟨rest, depth, found ++ (Visit.noted options visits).toArray,
      failure? (Visit.outcome options visits)⟩

namespace Follows

variable {depth : UInt64}

theorem nil : Follows options [] depth [] := by
  intro rest found
  change Leads options _ ⟨rest, depth, found ++ #[], none⟩
  rw [Array.append_empty]
  exact .refl

theorem append {tasks more : List Task} {visits others : List (Nat × Node)}
    (h : Follows options tasks depth visits) (hmore : Follows options more depth others)
    (hplain : more.countP Task.isLeave = 0) :
    Follows options (tasks ++ more) depth (visits ++ others) := by
  intro rest found
  have hfirst := h (more ++ rest) found
  rw [List.append_assoc]
  rcases Visit.walk_append options visits others with
    ⟨hok, houtcome, hnoted⟩ | ⟨error, herror, houtcome, hnoted⟩
  · rw [hok] at hfirst
    have hsecond := hmore rest (found ++ (Visit.noted options visits).toArray)
    rw [← found_append, ← hnoted, ← houtcome] at hsecond
    exact hfirst.trans hsecond
  · rw [herror] at hfirst
    rw [houtcome, hnoted]
    exact hfirst.trans (leads_skip hplain rest depth _ error)

/-- A level is opened for the tasks of a node and closed behind them, whether or not they fail. -/
theorem enter (hword : options.maxDepth < UInt64.size) {node : Node}
    (hdepth : depth.toNat < options.maxDepth) {visits : List (Nat × Node)}
    (h : Follows options (node.tasks options) (depth + 1) visits) :
    Follows options [.visit node] depth visits := by
  intro rest found
  have hpos : 0 < (depth + 1).toNat := by
    rw [toNat_add_one (by omega)]
    omega
  have hopen : Next options ⟨[.visit node] ++ rest, depth, found, none⟩
      ⟨node.tasks options ++ .leave :: rest, depth + 1, found, none⟩ :=
    ⟨List.cons_ne_nil _ _, step_enter hword node rest hdepth found⟩
  have hclose : step options ⟨.leave :: rest, depth + 1, _, _⟩ = .ok ⟨rest, depth + 1 - 1, _, _⟩ :=
    step_leave rest hpos (found ++ (Visit.noted options visits).toArray)
      (failure? (Visit.outcome options visits))
  rw [UInt64.add_sub_cancel] at hclose
  exact .head hopen (.tail (h (.leave :: rest) found) ⟨List.cons_ne_nil _ _, hclose⟩)

theorem unsupported {node : Node} {kind : String} (hkind : node.unsupportedKind? = some kind)
    {level : Nat} (hlevel : level ≤ options.maxDepth) (visits : List (Nat × Node)) :
    Follows options (node.tasks options) depth ((level, node) :: visits) := by
  intro rest found
  have htasks : node.tasks options = [.fail (.unsupported node.family kind)] := by
    simp only [Node.tasks, hkind]
  have hstop : Visit.stop? options (level, node) = some (.unsupported node.family kind) := by
    simp only [Visit.stop?, hkind, Option.map_some]
    exact if_neg (Nat.not_lt.mpr hlevel)
  rw [Visit.outcome_cons_of_stop hstop, Visit.noted_cons_of_stop hstop, htasks]
  exact .single ⟨List.cons_ne_nil _ _, by rw [Array.append_empty]; rfl⟩

theorem supported {node : Node} (hkind : node.unsupportedKind? = none) {level : Nat}
    (hlevel : level ≤ options.maxDepth) {visits : List (Nat × Node)}
    (h : Follows options (node.children.map .visit) depth visits) :
    Follows options (node.tasks options) depth ((level, node) :: visits) := by
  intro rest found
  have htasks : node.tasks options =
      .note (node.references options) :: node.children.map .visit := by
    simp only [Node.tasks, hkind]
  have hpass : Visit.stop? options (level, node) = none :=
    Visit.stop?_eq_none_iff.mpr ⟨hlevel, hkind⟩
  have hrest := h rest (found ++ (node.references options).toArray)
  rw [← found_append, ← Visit.outcome_cons_of_pass hpass] at hrest
  have hnoted := Visit.noted_cons_of_pass hpass visits
  rw [htasks, hnoted]
  exact .head ⟨List.cons_ne_nil _ _, rfl⟩ hrest

theorem tooDeep {node : Node} (hdepth : options.maxDepth ≤ depth.toNat)
    (visits : List (Nat × Node)) :
    Follows options [.visit node] depth ((depth.toNat + 1, node) :: visits) := by
  intro rest found
  have hstop : Visit.stop? options (depth.toNat + 1, node) =
      some (.tooDeep options.maxDepth) := by
    simp only [Visit.stop?]
    exact if_pos (by omega)
  rw [Visit.outcome_cons_of_stop hstop, Visit.noted_cons_of_stop hstop]
  refine .single ⟨List.cons_ne_nil _ _, ?_⟩
  rw [Array.append_empty]
  exact step_tooDeep node rest hdepth found

theorem visits {nodes : List Node}
    (h : ∀ node ∈ nodes, Follows options [.visit node] depth (node.visits (depth.toNat + 1))) :
    Follows options (nodes.map .visit) depth
      (nodes.flatMap fun node => node.visits (depth.toNat + 1)) := by
  induction nodes with
  | nil => exact .nil
  | cons node nodes ih =>
      obtain ⟨hnode, hnodes⟩ := List.forall_mem_cons.mp h
      exact append hnode (ih hnodes) (countP_visits nodes)

end Follows

/-- A node is visited step by step as a walk goes along its visits. -/
theorem follows_visit (hword : options.maxDepth < UInt64.size) (node : Node) (depth : UInt64) :
    Follows options [.visit node] depth (node.visits (depth.toNat + 1)) := by
  rw [Node.visits_eq]
  by_cases hdeep : options.maxDepth ≤ depth.toNat
  · exact .tooDeep hdeep _
  · have hon : (depth + 1).toNat = depth.toNat + 1 := toNat_add_one (by omega)
    refine .enter hword (by omega) ?_
    cases hkind : node.unsupportedKind? with
    | some kind => exact .unsupported hkind (by omega) _
    | none =>
        refine .supported hkind (by omega) ?_
        rw [← hon]
        exact .visits fun child hchild => follows_visit hword child (depth + 1)
termination_by sizeOf node
decreasing_by exact Node.sizeOf_lt_of_mem_children hchild

end Stepper

open Stepper

/-! ## Scans taken apart -/

/-- What a walk visits as one piece. -/
inductive Subject where
  | stmt (inner : Stmt)
  | expr (inner : Expr)
  | block (inner : Block)
  | func (inner : Func)

namespace Subject

def scan (options : ScanOptions) : Subject → Scan Unit
  | .stmt inner => inner.scan options
  | .expr inner => inner.scan options
  | .block inner => scanBlock options inner
  | .func inner => inner.scan options

/-- The visit of a subject as tasks. A function opens no level of its own. -/
def tasks : Subject → List Task
  | .stmt inner => [.visit (.stmt inner)]
  | .expr inner => [.visit (.expr inner)]
  | .block inner => (inner.map .stmt).map .visit
  | .func inner => .note inner.ownReferences :: (inner.body.map .stmt).map .visit

def start (subject : Subject) (walk : Walk) : Stepper :=
  ⟨subject.tasks, UInt64.ofNat walk.depth, walk.found, none⟩

variable {options : ScanOptions}

theorem countP_tasks (subject : Subject) : subject.tasks.countP Task.isLeave = 0 := by
  cases subject with
  | stmt inner => rfl
  | expr inner => rfl
  | block inner => exact countP_visits _
  | func inner => rw [tasks, List.countP_cons_of_neg Bool.false_ne_true, countP_visits]

/-- A scan leaves as many levels open as were open before. -/
theorem depth_scan (subject : Subject) (walk : Walk) :
    (subject.scan options walk).2.depth = walk.depth := by
  cases subject with
  | stmt inner => exact congrArg (·.2.depth) (inner.traces_scan options walk.depth walk.found)
  | expr inner => exact congrArg (·.2.depth) (inner.traces_scan options walk.depth walk.found)
  | block inner =>
      exact congrArg (·.2.depth) (traces_scanBlock options walk.depth inner walk.found)
  | func inner => exact congrArg (·.2.depth) (inner.scan_apply options walk.depth walk.found)

/-- Step by step, a subject is visited as the scan visits it. -/
theorem leads_scan (hword : options.maxDepth < UInt64.size) (subject : Subject) {walk : Walk}
    (hdepth : walk.depth ≤ options.maxDepth) :
    Leads options (subject.start walk)
      ⟨[], UInt64.ofNat walk.depth, (subject.scan options walk).2.found,
        failure? (subject.scan options walk).1⟩ := by
  obtain ⟨depth, found⟩ := walk
  have hnat : (UInt64.ofNat depth).toNat = depth :=
    UInt64.toNat_ofNat_of_lt' (Nat.lt_of_le_of_lt hdepth hword)
  have hblock : ∀ block : Block, Follows options ((block.map .stmt).map .visit)
      (UInt64.ofNat depth) (block.flatMap fun stmt => (Node.stmt stmt).visits (depth + 1)) := by
    intro block
    have hvisits := Follows.visits fun node (_ : node ∈ block.map .stmt) =>
      follows_visit hword node (UInt64.ofNat depth)
    rw [hnat, List.flatMap_map] at hvisits
    exact hvisits
  cases subject with
  | stmt inner =>
      have hsteps := follows_visit hword (.stmt inner) (UInt64.ofNat depth) [] found
      rw [hnat] at hsteps
      rw [scan, inner.traces_scan options depth found]
      exact hsteps
  | expr inner =>
      have hsteps := follows_visit hword (.expr inner) (UInt64.ofNat depth) [] found
      rw [hnat] at hsteps
      rw [scan, inner.traces_scan options depth found]
      exact hsteps
  | block inner =>
      have hsteps := hblock inner [] found
      rw [List.append_nil] at hsteps
      rw [scan, traces_scanBlock options depth inner found]
      exact hsteps
  | func inner =>
      have hsteps := hblock inner.body [] (found ++ inner.ownReferences.toArray)
      rw [List.append_nil, ← found_append] at hsteps
      rw [scan, inner.scan_apply options depth found]
      exact .head ⟨List.cons_ne_nil _ _, rfl⟩ hsteps

theorem balanced_start (hword : options.maxDepth < UInt64.size) (subject : Subject) {walk : Walk}
    (hdepth : walk.depth ≤ options.maxDepth) :
    (subject.start walk).Balanced options walk.depth := by
  have hnat : (UInt64.ofNat walk.depth).toNat = walk.depth :=
    UInt64.toNat_ofNat_of_lt' (Nat.lt_of_le_of_lt hdepth hword)
  refine ⟨?_, ?_⟩
  · change (UInt64.ofNat walk.depth).toNat = walk.depth + subject.tasks.countP Task.isLeave
    rw [hnat, countP_tasks, Nat.add_zero]
  · change (UInt64.ofNat walk.depth).toNat ≤ options.maxDepth
    rw [hnat]
    exact hdepth

end Subject

/-! ## One scanner for many scripts -/

namespace Graph

/-- Referring to a name once more in a role that it has changes nothing. -/
theorem WellFormed.refer_of_marked {graph : Graph} (hgraph : graph.WellFormed) {name : String}
    {id : Nat} (hid : graph.lookup? name = some id) {role : Role}
    (hmarked : graph.Marked name role) : graph.refer name role = (id, graph) := by
  obtain ⟨vertex, hvertex, hname, hrole⟩ := hmarked
  obtain ⟨i, hi⟩ := Array.mem_iff_getElem?.mp hvertex
  have hat : graph.nameAt? i = some name := nameAt?_eq_some_iff.mpr ⟨vertex, hi, hname⟩
  obtain rfl : i = id := hgraph.eq_of_nameAt? hat (hgraph.nameAt?_of_lookup? hid)
  have hsame : vertex.addRole role = vertex := by
    refine Vertex.eq_of_hasRole_iff (Vertex.name_addRole vertex role) fun other => ?_
    rw [Vertex.hasRole_addRole]
    exact ⟨fun h => h.elim (fun heq => heq ▸ hrole) id, .inr⟩
  have hvertices : graph.vertices.modify i (·.addRole role) = graph.vertices := by
    apply Array.ext_getElem?
    intro j
    rw [Array.getElem?_modify]
    by_cases hj : i = j
    · subst hj
      rw [if_pos rfl, hi, Option.map_some, hsame]
    · rw [if_neg hj]
  rw [refer_of_known role hid, hvertices]

/-- Scans scripts of one module one after another, each with a scanner of its own: how each scan
ends, and the graph after it. -/
def scanEach (path : String) (options : ScanOptions) :
    Graph → List Func → List (Except ScanError Unit × Graph)
  | _, [] => []
  | graph, func :: rest =>
    let (outcome, after) := graph.scan path options func
    (outcome.result, after) :: scanEach path options after rest

end Graph

/-- A scanner that is bound to the vertex of a module. -/
structure Scanner where
  source : Nat
  /-- The levels that are open. -/
  depth : Nat
  /-- How many edges it has written. -/
  emitted : Nat

namespace Scanner

def new (graph : Graph) (path : String) : Scanner × Graph :=
  let (source, graph) := graph.refer (Path.moduleName path) .module
  (⟨source, 0, 0⟩, graph)

/-- Scans a script into a graph. The counter is taken from the last scan as it was left. -/
def scan (options : ScanOptions) (scanner : Scanner) (graph : Graph) (func : Func) :
    Except ScanError Unit × Scanner × Graph :=
  let (result, walk) := func.scan options ⟨scanner.depth, #[]⟩
  (result, ⟨scanner.source, walk.depth, scanner.emitted + walk.found.size⟩,
    graph.enterAll scanner.source walk.found.toList)

/-- Scans scripts one after another with one scanner: how each scan ends, and the graph after it. -/
def scanEach (options : ScanOptions) :
    Scanner → Graph → List Func → List (Except ScanError Unit × Graph)
  | _, _, [] => []
  | scanner, graph, func :: rest =>
    let (result, scanner, after) := scanner.scan options graph func
    (result, after) :: scanEach options scanner after rest

/-- No level is open, and the scanner is bound to the vertex of the path's module. -/
structure Bound (path : String) (graph : Graph) (scanner : Scanner) : Prop where
  depth_eq : scanner.depth = 0
  wellFormed : graph.WellFormed
  lookup?_eq : graph.lookup? (Path.moduleName path) = some scanner.source
  isModule : graph.Marked (Path.moduleName path) .module

variable {path : String} {graph : Graph} {options : ScanOptions}

theorem bound_new (hgraph : graph.WellFormed) (path : String) :
    (new graph path).1.Bound path (new graph path).2 where
  depth_eq := rfl
  wellFormed := hgraph.refer _ _
  lookup?_eq := by
    change (graph.refer _ _).2.lookup? _ = _
    rw [Graph.lookup?_refer, if_pos rfl]
    rfl
  isModule := (hgraph.marked_refer _ _ _ _).mpr (.inl ⟨rfl, rfl⟩)

namespace Bound

variable {scanner : Scanner} (h : scanner.Bound path graph)

include h

theorem refer_eq : graph.refer (Path.moduleName path) .module = (scanner.source, graph) :=
  h.wellFormed.refer_of_marked h.lookup?_eq h.isModule

theorem nameAt?_eq : graph.nameAt? scanner.source = some (Path.moduleName path) :=
  h.wellFormed.nameAt?_of_lookup? h.lookup?_eq

/-- A bound scanner does what a new one would do. -/
theorem scan_eq (options : ScanOptions) (func : Func) :
    (scanner.scan options graph func).1 = (graph.scan path options func).1.result ∧
      (scanner.scan options graph func).2.2 = (graph.scan path options func).2 := by
  have hwalk : func.scan options ⟨scanner.depth, #[]⟩ = func.scan options Walk.start := by
    rw [h.depth_eq]
    rfl
  have henter : ∀ references, graph.enterModule path references =
      graph.enterAll scanner.source references.toList := by
    intro references
    rw [Graph.enterModule_eq, h.refer_eq]
  constructor
  · rw [Scanner.scan, hwalk]
    rfl
  · rw [Scanner.scan, hwalk, Graph.scan, henter]
    rfl

/-- After a scan, however it ends, the scanner is bound as before. -/
theorem scan (options : ScanOptions) (func : Func) :
    (scanner.scan options graph func).2.1.Bound path (scanner.scan options graph func).2.2 := by
  obtain ⟨hwellFormed, -, hmarked⟩ := h.wellFormed.enterAll h.nameAt?_eq
    (func.scan options ⟨scanner.depth, #[]⟩).2.found.toList
  have hgrowth := Graph.growth_enterAll graph scanner.source
    (func.scan options ⟨scanner.depth, #[]⟩).2.found.toList
  refine ⟨?_, hwellFormed, hgrowth.lookup?_kept _ _ h.lookup?_eq,
    (hmarked _ _).mpr (.inr h.isModule)⟩
  exact ((Subject.func func).depth_scan ⟨scanner.depth, #[]⟩).trans h.depth_eq

/-- One scanner does for any scripts what a new one for each of them does. -/
theorem scanEach_eq (options : ScanOptions) (scripts : List Func) :
    scanner.scanEach options graph scripts = graph.scanEach path options scripts := by
  induction scripts generalizing scanner graph with
  | nil => rfl
  | cons func scripts ih =>
      obtain ⟨hresult, hgraph⟩ := h.scan_eq options func
      have hrest := ih (h.scan options func)
      simp only [Scanner.scanEach, Graph.scanEach]
      rw [hrest, hresult, hgraph]

end Bound

/-- The vertex of the module may as well be there before the first scan. -/
theorem scanEach_new (hgraph : graph.WellFormed) (scripts : List Func) :
    (new graph path).2.scanEach path options scripts = graph.scanEach path options scripts := by
  have hrefer := (bound_new hgraph path).refer_eq
  have henter : ∀ references,
      (new graph path).2.enterModule path references = graph.enterModule path references := by
    intro references
    rw [Graph.enterModule_eq, Graph.enterModule_eq, hrefer]
    rfl
  cases scripts with
  | nil => rfl
  | cons func scripts => simp only [Graph.scanEach, Graph.scan, henter]

end Scanner

namespace Graph

/-- Whatever is visited and however the visit ends, as many levels are open after it as before. A
visit that is taken apart into steps, with the counter in a machine word, comes to the same end;
on the way the counter never exceeds the bound, and it neither overflows nor goes below zero, even
if the bound is the largest word. So one scanner may be used for any number of scripts, some of
which fail: each scan ends as that of a new scanner would, and leaves the same graph. -/
theorem levels_are_balanced {graph : Graph} (hgraph : graph.Reachable) (path : String)
    (options : ScanOptions) :
    (∀ (subject : Subject) (walk : Walk),
      (subject.scan options walk).2.depth = walk.depth) ∧
    (options.maxDepth < UInt64.size → ∀ (subject : Subject) (walk : Walk),
      walk.depth ≤ options.maxDepth →
        Leads options (subject.start walk)
          ⟨[], UInt64.ofNat walk.depth, (subject.scan options walk).2.found,
            failure? (subject.scan options walk).1⟩ ∧
        ∀ state, Leads options (subject.start walk) state →
          state.depth.toNat ≤ options.maxDepth ∧
            ∀ fault, state.step options ≠ .error fault) ∧
    ∀ scripts : List Func,
      (Scanner.new graph path).1.scanEach options (Scanner.new graph path).2 scripts =
        graph.scanEach path options scripts := by
  refine ⟨fun subject => subject.depth_scan, fun hword subject walk hdepth => ⟨?_, ?_⟩, ?_⟩
  · exact subject.leads_scan hword hdepth
  · intro state hstate
    have hbalanced := (subject.balanced_start hword hdepth).leads hword hstate
    obtain ⟨next, hstep, -⟩ := hbalanced.step hword
    refine ⟨hbalanced.depth_le, fun fault hfault => ?_⟩
    rw [hstep] at hfault
    cases hfault
  · intro scripts
    rw [(Scanner.bound_new hgraph.wellFormed path).scanEach_eq,
      Scanner.scanEach_new hgraph.wellFormed]

/-- The standard options with the largest bound that a word holds. -/
def unbounded : ScanOptions := { ScanOptions.standard with maxDepth := UInt64.size - 1 }

def called (name : String) : Stmt := .eval (.call (.ident name) [])

/-- A script that ends early and one that does not. -/
def halfRead : List Func :=
  [.wrapper [called "f", .unsupported "class_declaration"], .wrapper [called "g"]]

/-- The call is noted when the counter is at the largest word, and its callee is too deep. -/
theorem levels_are_balanced_at_largest_word :
    empty.Reachable ∧ unbounded.maxDepth + 1 = UInt64.size ∧
    Leads unbounded ((Subject.stmt (called "f")).start ⟨UInt64.size - 3, #[]⟩)
      ⟨[], UInt64.ofNat (UInt64.size - 3), #[⟨.invocation, "f"⟩],
        some (.tooDeep (UInt64.size - 1))⟩ ∧
    ((Scanner.new empty "app/main.js").1.scanEach unbounded
        (Scanner.new empty "app/main.js").2 halfRead).map Prod.fst =
      [.error (.unsupported .statement "class_declaration"), .ok ()] ∧
    (Scanner.new empty "app/main.js").1.scanEach unbounded
        (Scanner.new empty "app/main.js").2 halfRead =
      empty.scanEach "app/main.js" unbounded halfRead := by
  obtain ⟨-, hsteps, hscripts⟩ := levels_are_balanced .empty "app/main.js" unbounded
  obtain ⟨hleads, -⟩ :=
    hsteps (by decide) (.stmt (called "f")) ⟨UInt64.size - 3, #[]⟩ (by decide)
  exact ⟨.empty, rfl, hleads, rfl, hscripts halfRead⟩

end Graph

end ScriptGraph
