import ScriptGraph.Path
import ScriptGraph.Graph.Basic
import ScriptGraph.Script.Basic

/-!
# Scanning a script for relations

One walk over a script notes every relation in the order in which it is met.
Each statement and each expression counts one level of nesting. The walk ends
early at the first node that is unsupported or lies too deep; what it has noted
by then stays noted.
-/

namespace ScriptGraph

/-- What the walk recognises, and how deep it goes. -/
structure ScanOptions where
  /-- The variable whose initialiser names what the module extends. -/
  sentinel : String
  /-- The functions whose first argument lists required modules. -/
  loaders : List String
  /-- The number of levels that may be open at once. -/
  maxDepth : Nat
  deriving DecidableEq, Repr, Inhabited

def ScanOptions.standard : ScanOptions := ⟨"self", ["require", "define"], standardDepth⟩

inductive NodeFamily where
  | statement
  | expression
  deriving DecidableEq, Repr, Inhabited

def NodeFamily.label : NodeFamily → String
  | .statement => "statement"
  | .expression => "expression"

inductive ScanError where
  | unsupported (family : NodeFamily) (kind : String)
  | tooDeep (limit : Nat)
  deriving DecidableEq, Repr, Inhabited

def ScanError.message : ScanError → String
  | .unsupported family kind => "unsupported " ++ family.label ++ " shape `" ++ kind ++ "`"
  | .tooDeep limit =>
    "unsupported syntax shape: nesting exceeds " ++ toString limit ++ " levels"

/-- A relation from the scanned module to a name. -/
structure Reference where
  relation : Relation
  target : String
  deriving DecidableEq, Repr, Inhabited

/-- The state of a walk: the levels that are open, and the references met so far. -/
structure Walk where
  depth : Nat
  found : Array Reference
  deriving DecidableEq, Repr, Inhabited

def Walk.start : Walk := ⟨0, #[]⟩

/-- A step of a walk: it may end early, and keeps its state when it does. -/
abbrev Scan := ExceptT ScanError (StateM Walk)

namespace Scan

def note (relation : Relation) (target : String) : Scan Unit :=
  modify fun walk => { walk with found := walk.found.push ⟨relation, target⟩ }

/-- Runs a step one level deeper; the level is closed again also when the step ends early. -/
def deeper (options : ScanOptions) (step : Scan Unit) : Scan Unit := fun walk =>
  if options.maxDepth ≤ walk.depth then
    (.error (.tooDeep options.maxDepth), walk)
  else
    let (result, after) := step { walk with depth := walk.depth + 1 }
    (result, { after with depth := after.depth - 1 })

/-- Notes a declaration, unless the name is the wrapper's or made up for a nameless function. -/
def noteDeclaration (name : String) : Scan Unit :=
  if name == Func.wrapperName || name.toList.contains Func.anonymousMark then pure ()
  else note .declaration name

/-- The module paths that a loader's first argument lists: the string items of an array. -/
def requiredPaths : Expr → List String
  | .array items => items.filterMap fun item =>
    match item.bare with
    | .string text => some text
    | _ => none
  | _ => []

/-- Notes the requirements of a call to a loader, which takes a list of paths and one more
argument. -/
def noteRequirements (options : ScanOptions) (callee : String) (args : List Expr) : Scan Unit :=
  match args with
  | [first, _] =>
    if options.loaders.contains callee then
      (requiredPaths first.bare).forM fun path => note .requirement (Path.moduleName path)
    else pure ()
  | _ => pure ()

/-- What an initialiser of the sentinel variable extends: the callee of a call under a unary
operator. -/
def extendedName? (init : Expr) : Option String :=
  match init.bare with
  | .unary _ operand =>
    match operand.bare with
    | .call callee _ =>
      match callee.bare with
      | .ident name => some name
      | _ => none
    | _ => none
  | _ => none

/-- Notes what the module extends, if a variable says so. -/
def noteExtension (options : ScanOptions) (name : String) (init : Option Expr) : Scan Unit :=
  if name == options.sentinel then
    match init.bind extendedName? with
    | some base => note .extension base
    | none => pure ()
  else pure ()

def noteCall (options : ScanOptions) (callee : Expr) (args : List Expr) : Scan Unit :=
  match callee.bare with
  | .ident name => do
    note .invocation name
    noteRequirements options name args
  | _ => pure ()

end Scan

open Scan

mutual

def Expr.scan (options : ScanOptions) : Expr → Scan Unit
  | .object properties => deeper options (scanProperties options properties)
  | .ident _ => deeper options (pure ())
  | .call callee args => deeper options do
    noteCall options callee args
    callee.scan options
    scanExprs options args
  | .access base _ => deeper options (base.scan options)
  | .null => deeper options (pure ())
  | .string _ => deeper options (pure ())
  | .number _ => deeper options (pure ())
  | .boolean _ => deeper options (pure ())
  | .paren inner => deeper options (inner.scan options)
  | .array items => deeper options (scanExprs options items)
  | .regex _ _ => deeper options (pure ())
  | .function func => deeper options (func.scan options)
  | .binary _ lhs rhs => deeper options do
    rhs.scan options
    lhs.scan options
  | .unary _ operand => deeper options (operand.scan options)
  | .index base key => deeper options do
    base.scan options
    key.scan options
  | .ternary test yes no => deeper options do
    test.scan options
    yes.scan options
    no.scan options
  | .unsupported kind => deeper options (throw (.unsupported .expression kind))

def scanExprs (options : ScanOptions) : List Expr → Scan Unit
  | [] => pure ()
  | expr :: rest => do
    expr.scan options
    scanExprs options rest

def scanProperties (options : ScanOptions) : List (Expr × Expr) → Scan Unit
  | [] => pure ()
  | (key, value) :: rest => do
    key.scan options
    value.scan options
    scanProperties options rest

def scanExpr? (options : ScanOptions) : Option Expr → Scan Unit
  | none => pure ()
  | some expr => expr.scan options

def Stmt.scan (options : ScanOptions) : Stmt → Scan Unit
  | .var name init => deeper options do
    noteExtension options name init
    scanExpr? options init
  | .ret value => deeper options (scanExpr? options value)
  | .branch test pass fail => deeper options do
    test.scan options
    scanBlock options pass
    scanBlock? options fail
  | .forLoop init test step body => deeper options do
    scanExpr? options init
    scanExpr? options test
    scanExpr? options step
    scanBlock options body
  | .whileLoop test body => deeper options do
    test.scan options
    scanBlock options body
  | .eval expr => deeper options (expr.scan options)
  | .block body => deeper options (scanBlock options body)
  | .tryCatch body handlers final => deeper options do
    scanBlock options body
    scanBlocks options handlers
    scanBlock? options final
  | .handler _ condition body => deeper options do
    scanBlock options body
    scanExpr? options condition
  | .breakTo _ => deeper options (pure ())
  | .continueTo _ => deeper options (pure ())
  | .raise value => deeper options (value.scan options)
  | .switchOn subject cases => deeper options do
    subject.scan options
    scanBlock options cases
  | .caseOf test body => deeper options do
    scanExpr? options test
    scanBlock options body
  | .unsupported kind => deeper options (throw (.unsupported .statement kind))

def scanBlock (options : ScanOptions) : List Stmt → Scan Unit
  | [] => pure ()
  | stmt :: rest => do
    stmt.scan options
    scanBlock options rest

def scanBlock? (options : ScanOptions) : Option (List Stmt) → Scan Unit
  | none => pure ()
  | some block => scanBlock options block

def scanBlocks (options : ScanOptions) : List (List Stmt) → Scan Unit
  | [] => pure ()
  | block :: rest => do
    scanBlock options block
    scanBlocks options rest

/-- Visits a function: its name first, then its body. -/
def Func.scan (options : ScanOptions) : Func → Scan Unit
  | .mk name _ body => do
    match name with
    | some name => noteDeclaration name
    | none => pure ()
    scanBlock options body

end

namespace Graph

def enter (graph : Graph) (source : Nat) (reference : Reference) : Graph :=
  let (target, graph) := graph.refer reference.target reference.relation.targetRole
  graph.relate source target reference.relation

def enterModule (graph : Graph) (path : String) (references : Array Reference) : Graph :=
  let (source, graph) := graph.refer (Path.moduleName path) .module
  references.foldl (fun graph reference => graph.enter source reference) graph

end Graph

/-- What scanning one script yields: how the walk ended, and the references it met. -/
structure ScanOutcome where
  result : Except ScanError Unit
  references : Array Reference

def Func.references (options : ScanOptions) (func : Func) : ScanOutcome :=
  let (result, walk) := func.scan options Walk.start
  ⟨result, walk.found⟩

def Graph.scan (graph : Graph) (path : String) (options : ScanOptions) (func : Func) :
    ScanOutcome × Graph :=
  let outcome := func.references options
  (outcome, graph.enterModule path outcome.references)

end ScriptGraph
