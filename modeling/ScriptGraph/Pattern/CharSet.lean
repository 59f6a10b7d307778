import ScriptGraph.Text.Category
import ScriptGraph.Text.CaseFold
import ScriptGraph.Text.Property
import ScriptGraph.Text.WritingSystem

/-!
# Sets of characters in patterns
-/

namespace ScriptGraph

open Text

inductive CharSet where
  | empty
  | any
  | range (low high : Nat)
  /-- The characters with a property, given by its plain name. -/
  | property (name : String)
  /-- The decimal digits, of all scripts. -/
  | digit
  /-- The blanks. -/
  | blank
  /-- The characters of words. -/
  | word
  | union (a b : CharSet)
  | inter (a b : CharSet)
  | diff (a b : CharSet)
  | symmDiff (a b : CharSet)
  | compl (a : CharSet)
  /-- A set with all characters that differ from one of its members in case only. -/
  | folded (a : CharSet)
  /-- A set with all ASCII letters that differ from one of its members in case only. -/
  | foldedAscii (a : CharSet)
  deriving DecidableEq, Repr, Inhabited

namespace CharSet

def single (c : Char) : CharSet := .range c.toNat c.toNat

def unions (sets : List CharSet) : CharSet := sets.foldl CharSet.union .empty

def property? (name : String) : Option (Nat → Bool) :=
  let asProperty :=
    if name == "cf" || name == "sc" || name == "lc" then none else Property.ofName? name
  asProperty.orElse fun _ => (Category.ofName? name).orElse fun _ => WritingSystem.ofName? name

/-- A rough count of the ranges that the characters with a property form. -/
def propertySize (name : String) : Nat :=
  let tables := Property.tables ++ Category.tables ++ WritingSystem.tables
  match tables.find? fun (names, _) => names.contains name with
  | some (_, table) => table.ranges.size
  | none => 650

def isWordCode (code : Nat) : Bool :=
  Property.alphabetic.contains code || Category.isIn ["mn", "mc", "me", "nd", "pc"] code ||
    Property.joinControl.contains code

def isAsciiLetter (code : Nat) : Bool :=
  decide (65 ≤ code ∧ code ≤ 90) || decide (97 ≤ code ∧ code ≤ 122)

def contains (set : CharSet) (code : Nat) : Bool :=
  match set with
  | .empty => false
  | .any => true
  | .range low high => decide (low ≤ code) && decide (code ≤ high)
  | .property name => ((property? name).map fun test => test code).getD false
  | .digit => Category.decimalNumber.contains code
  | .blank => Property.whiteSpace.contains code
  | .word => isWordCode code
  | .union a b => a.contains code || b.contains code
  | .inter a b => a.contains code && b.contains code
  | .diff a b => a.contains code && !b.contains code
  | .symmDiff a b => a.contains code != b.contains code
  | .compl a => !a.contains code
  | .folded a => (CaseFold.alike code).any a.contains
  | .foldedAscii a =>
    a.contains code ||
      (isAsciiLetter code && (a.contains (code ||| 32) || a.contains (code &&& 95)))

/-- A rough count of the ranges that a set consists of. -/
def size : CharSet → Nat
  | .empty => 1
  | .any => 13
  | .range _ _ => 1
  | .property name => propertySize name
  | .digit => 70
  | .blank => 10
  | .word => 730
  | .union a b => a.size + b.size
  | .inter a b => max a.size b.size
  | .diff a b => a.size + b.size
  | .symmDiff a b => a.size + b.size
  | .compl a => a.size + 13
  | .folded a => 2 * a.size
  | .foldedAscii a => a.size + 1

/-- Whether a set has ASCII members only, as far as its form shows. -/
def isAscii : CharSet → Bool
  | .empty => true
  | .range _ high => decide (high < 128)
  | .union a b => a.isAscii && b.isAscii
  | .inter a b => a.isAscii || b.isAscii
  | .diff a _ => a.isAscii
  | .symmDiff a b => a.isAscii && b.isAscii
  | .foldedAscii a => a.isAscii
  | _ => false

end CharSet

end ScriptGraph
