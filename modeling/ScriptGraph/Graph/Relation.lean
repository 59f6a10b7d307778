import ScriptGraph.Text.Quoted

/-!
# Relations and roles

What an edge of the graph says, and as what a vertex has been referred to.
-/

namespace ScriptGraph

inductive Relation where
  /-- The module holds a function of that name. -/
  | declaration
  /-- The module calls that name. -/
  | invocation
  /-- The module builds its own object on that name. -/
  | extension
  /-- The module asks a loader for that module. -/
  | requirement
  deriving DecidableEq, Repr, Inhabited

namespace Relation

/-- All relations, in reporting order. -/
def all : List Relation := [.declaration, .invocation, .extension, .requirement]

def rank : Relation → Nat
  | .declaration => 0
  | .invocation => 1
  | .extension => 2
  | .requirement => 3

def label : Relation → String
  | .declaration => "declares"
  | .invocation => "invokes"
  | .extension => "extends"
  | .requirement => "requires"

/-- The relation a word stands for; the case of ASCII letters does not count. -/
def ofLabel? (text : String) : Option Relation :=
  all.find? fun relation => text.toList.map Char.toLower == relation.label.toList

def unknownMessage (text : String) : String :=
  "unknown relation " ++ Text.Quoted.quote text ++
    " (expected declares, invokes, extends or requires)"

/-- Whether a selection of relations admits one; the empty selection admits all. -/
def admittedBy (selection : List Relation) (relation : Relation) : Bool :=
  selection.isEmpty || selection.contains relation

theorem rank_injective {a b : Relation} (h : a.rank = b.rank) : a = b := by
  cases a <;> cases b <;> simp_all [rank]

theorem mem_all (relation : Relation) : relation ∈ all := by
  cases relation <;> simp [all]

end Relation

/-- As what a name is referred to. -/
inductive Role where
  | module
  | symbol
  deriving DecidableEq, Repr, Inhabited

def Relation.targetRole : Relation → Role
  | .requirement => .module
  | _ => .symbol

end ScriptGraph
