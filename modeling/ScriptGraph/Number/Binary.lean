/-!
# Binary fractions

The exact value of a finite double, as a sign and a whole number of halves,
halved or doubled some number of times.
-/

namespace ScriptGraph

def twoTo (exponent : Nat) : Nat := Nat.pow 2 exponent

def tenTo (exponent : Nat) : Nat := Nat.pow 10 exponent

/-- The value `mantissa * 2 ^ exponent`, negated if `negative`. -/
structure Binary where
  negative : Bool
  mantissa : Nat
  exponent : Int
  deriving DecidableEq, Repr, Inhabited

namespace Binary

/-- The exact value of a double, unless it is infinite or no number. -/
def ofFloat? (x : Float) : Option Binary :=
  let bits := x.toBits.toNat
  let negative := decide (twoTo 63 ≤ bits)
  let biased : Nat := bits / twoTo 52 % twoTo 11
  let fraction : Nat := bits % twoTo 52
  if biased = 2047 then none
  else if biased = 0 then some ⟨negative, fraction, -1074⟩
  else some ⟨negative, fraction + twoTo 52, (biased : Int) - 1075⟩

/-- The magnitude times `10 ^ places`, as a quotient of whole numbers. -/
def scaled (b : Binary) (places : Nat) : Nat × Nat :=
  (b.mantissa * twoTo b.exponent.toNat * tenTo places, twoTo (-b.exponent).toNat)

end Binary

/-- The whole number nearest to a quotient; a tie goes to the even neighbour. -/
def roundDiv (num den : Nat) : Nat :=
  let low := num / den
  let twice := 2 * (num % den)
  if twice < den then low
  else if den < twice then low + 1
  else if low % 2 = 0 then low
  else low + 1

end ScriptGraph
