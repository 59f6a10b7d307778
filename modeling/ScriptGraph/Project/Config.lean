import ScriptGraph.Project.FileTree
import ScriptGraph.Script.Scan
import ScriptGraph.Text.Utf8
import ScriptGraph.Toml.Document

/-!
# Project settings

Settings are read from a file at the root of a project. A file that cannot be
read as a whole leaves every setting as it is without a file.
-/

namespace ScriptGraph

structure Config where
  /-- Patterns for files to leave out. -/
  exclude : Option (List String)
  scan : ScanOptions
  deriving DecidableEq, Repr, Inhabited

namespace Config

open Toml (Value)

def fileName : String := "relgraph.toml"

def standard : Config := ⟨none, .standard⟩

def text? : Value → Option String
  | .string text => some text
  | _ => none

def texts? : Value → Option (List String)
  | .array items => items.mapM text?
  | _ => none

def count? : Value → Option Nat
  | .integer value => if 0 ≤ value then some value.toNat else none
  | _ => none

/-- A setting if it is given, or else its standard. -/
def settingOr {α : Type} (standard : α) (read? : Value → Option α) (given : Option Value) :
    Option α :=
  match given with
  | none => some standard
  | some value => read? value

def scanOf? (sentinel loaders maxDepth : Option Value) : Option ScanOptions := do
  let standard := ScanOptions.standard
  let sentinel ← settingOr standard.sentinel text? sentinel
  let loaders ← settingOr standard.loaders texts? loaders
  let maxDepth ← settingOr standard.maxDepth count? maxDepth
  return ⟨sentinel, loaders, maxDepth⟩

/-- The settings of the scan. They may be given by name, or in a list in their order; a date gives
none of them. -/
def scan? : Value → Option ScanOptions
  | .table fields =>
    scanOf? (fields.lookup "extension_sentinel") (fields.lookup "loader_functions")
      (fields.lookup "max_depth")
  | .array items => scanOf? items[0]? items[1]? items[2]?
  | .moment => some .standard
  | _ => none

def ofFields? (fields : List (String × Value)) : Option Config := do
  let exclude ← settingOr none (fun value => (texts? value).map some) (fields.lookup "exclude")
  let scan ← settingOr .standard scan? (fields.lookup "scan")
  return ⟨exclude, scan⟩

def ofBytes (bytes : List UInt8) : Config :=
  (((Utf8.text? bytes).bind Toml.ofText?).bind ofFields?).getD standard

def load (files : FileSystem) (root : String) : Config :=
  match files.read? (Path.join root fileName) with
  | some bytes => ofBytes bytes
  | none => standard

end Config

end ScriptGraph
