/-!
# Sets of code points

A set is given by the ranges that it consists of, written as hexadecimal
numbers: a lone number, or the first and the last of a range with a dash
between them.
-/

namespace ScriptGraph.Text

/-- A set of code points, as ranges with both ends included. -/
structure RangeTable where
  ranges : Array (Nat × Nat)
  deriving DecidableEq, Repr, Inhabited

namespace RangeTable

def empty : RangeTable := ⟨#[]⟩

def contains (table : RangeTable) (code : Nat) : Bool :=
  table.ranges.any fun (low, high) => decide (low ≤ code) && decide (code ≤ high)

def hexValue? (c : Char) : Option Nat :=
  if '0' ≤ c ∧ c ≤ '9' then some (c.toNat - 48)
  else if 'A' ≤ c ∧ c ≤ 'F' then some (c.toNat - 55)
  else if 'a' ≤ c ∧ c ≤ 'f' then some (c.toNat - 87)
  else none

def hex? (text : String) : Option Nat :=
  if text.isEmpty then none
  else text.toList.foldlM (fun value c => (hexValue? c).map (value * 16 + ·)) 0

/-- What has been read of a table: the ranges, the first end of the one being read, and the number
being read. -/
structure Reading where
  ranges : Array (Nat × Nat)
  low : Option Nat
  number : Option Nat
  deriving Inhabited

def Reading.flush (reading : Reading) : Reading :=
  match reading.low, reading.number with
  | some low, some high => ⟨reading.ranges.push (low, high), none, none⟩
  | none, some code => ⟨reading.ranges.push (code, code), none, none⟩
  | _, none => reading

def Reading.step (reading : Reading) (c : Char) : Reading :=
  match hexValue? c with
  | some digit => { reading with number := some (reading.number.getD 0 * 16 + digit) }
  | none =>
    if c = '-' then { reading with low := reading.number, number := none }
    else reading.flush

def ofText (text : String) : RangeTable :=
  ⟨(text.toList.foldl Reading.step ⟨#[], none, none⟩).flush.ranges⟩

end RangeTable

end ScriptGraph.Text
