import ScriptGraph.Number.Binary

/-!
# Decimal text of doubles

Two ways to write a double: with a fixed number of places, and with the fewest
digits that read back.
-/

namespace ScriptGraph

namespace Decimal

/-- The digits of `n`, with zeros in front up to a width. -/
def padded (width n : Nat) : String :=
  let digits := toString n
  String.ofList (List.replicate (width - digits.length) '0') ++ digits

/-- A double with a fixed number of places, rounded from its exact value, ties to even. -/
def fixed (places : Nat) (x : Float) : String :=
  match Binary.ofFloat? x with
  | none => if x.isNaN then "NaN" else if x < 0 then "-inf" else "inf"
  | some b =>
    let (num, den) := b.scaled places
    let units := roundDiv num den
    let sign := if b.negative then "-" else ""
    if places = 0 then sign ++ toString units
    else sign ++ toString (units / tenTo places) ++ "." ++ padded places (units % tenTo places)

/-- The decimal `digits * 10 ^ exponent`. -/
structure Scientific where
  digits : Nat
  exponent : Int
  deriving DecidableEq, Repr, Inhabited

/-- The reals that round to one double, in units of a quarter of its last place: the value is
`4 * mantissa` of them, and the ends belong to the interval exactly if the mantissa is even. -/
structure Interval where
  low : Nat
  value : Nat
  high : Nat
  closed : Bool
  deriving DecidableEq, Repr, Inhabited

/-- The interval of a positive double; below a power of two the next double is nearer. -/
def interval (mantissa : Nat) (exponent : Int) : Interval :=
  let narrow := mantissa = twoTo 52 ∧ -1074 < exponent
  { low := 4 * mantissa - (if narrow then 1 else 2)
    value := 4 * mantissa
    high := 4 * mantissa + 2
    closed := mantissa % 2 == 0 }

/-- The number of decimal digits in the whole part of `num / den`, or minus the number of zeros
that follow the point; `fuel` bounds the search. -/
def magnitude (num den : Nat) : Nat → Int → Int
  | 0, k => k
  | fuel + 1, k =>
    if num < den then
      if num * 10 < den then magnitude (num * 10) den fuel (k - 1) else k
    else magnitude num (den * 10) fuel (k + 1)

/-- Whether the point `candidate` of the decimal grid with step `num / den` quarter places lies in
an interval. -/
def Interval.holds (i : Interval) (candidate num den : Nat) : Bool :=
  let point := candidate * num
  if i.closed then decide (i.low * den ≤ point) && decide (point ≤ i.high * den)
  else decide (i.low * den < point) && decide (point < i.high * den)

/-- The point of a decimal grid in the interval, the nearer to the value if there are two. -/
def Interval.hit? (i : Interval) (num den : Nat) : Option Nat :=
  let below := i.value * den / num
  let above := below + 1
  match i.holds below num den, i.holds above num den with
  | true, true =>
    let left := i.value * den - below * num
    let right := above * num - i.value * den
    some (if left < right then below else if right < left then above
      else if below % 2 = 0 then below else above)
  | true, false => some below
  | false, true => some above
  | false, false => none

/-- A decimal without zeros at the end of its digits; `fuel` bounds their number. -/
def Scientific.strip (s : Scientific) : Nat → Scientific
  | 0 => s
  | fuel + 1 =>
    if s.digits ≠ 0 ∧ s.digits % 10 = 0 then
      Scientific.strip ⟨s.digits / 10, s.exponent + 1⟩ fuel
    else s

/-- The decimal with the fewest digits that rounds to a positive double. -/
def shortest (mantissa : Nat) (exponent : Int) : Scientific :=
  let i := interval mantissa exponent
  let up := twoTo exponent.toNat
  let down := twoTo (-exponent).toNat
  let k := magnitude (mantissa * up) down 800 0
  let tries := (List.range 17).filterMap fun n =>
    let e : Int := k - (n + 1 : Nat)
    (i.hit? (4 * tenTo e.toNat * down) (up * tenTo (-e).toNat)).map fun digits =>
      (⟨digits, e⟩ : Scientific)
  (tries.headD ⟨0, 0⟩).strip 400

/-- A double in the fewest digits that read back: positional where the point falls within or next
to the first sixteen places, with an exponent elsewhere. -/
def plain (x : Float) : Option String :=
  (Binary.ofFloat? x).map fun b =>
    let sign := if b.negative then "-" else ""
    if b.mantissa = 0 then sign ++ "0.0"
    else
      let s := shortest b.mantissa b.exponent
      let digits := toString s.digits
      let count := digits.length
      let point : Int := count + s.exponent
      let zeros (n : Nat) := String.ofList (List.replicate n '0')
      let body :=
        if 0 ≤ s.exponent ∧ point ≤ 16 then digits ++ zeros s.exponent.toNat ++ ".0"
        else if 0 < point ∧ point ≤ 16 then
          (digits.take point.toNat).toString ++ "." ++ (digits.drop point.toNat).toString
        else if -5 < point ∧ point ≤ 0 then "0." ++ zeros (-point).toNat ++ digits
        else if count = 1 then digits ++ "e" ++ toString (point - 1)
        else (digits.take 1).toString ++ "." ++ (digits.drop 1).toString ++ "e" ++
          toString (point - 1)
      sign ++ body

end Decimal

end ScriptGraph
