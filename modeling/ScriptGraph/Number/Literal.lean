import ScriptGraph.Number.Binary

/-!
# The values of number literals
-/

namespace ScriptGraph

namespace NumberLiteral

def notANumber : Float := 0.0 / 0.0

def digitValue? (c : Char) : Option Nat :=
  if '0' ≤ c ∧ c ≤ '9' then some (c.toNat - 48)
  else if 'a' ≤ c ∧ c ≤ 'f' then some (c.toNat - 87)
  else if 'A' ≤ c ∧ c ≤ 'F' then some (c.toNat - 55)
  else none

def whole? (base : Nat) (digits : List Char) : Option Nat :=
  if digits.isEmpty then none
  else digits.foldlM (fun value c => do
    let digit ← digitValue? c
    if digit < base then some (value * base + digit) else none) 0

/-- The double nearest to `mantissa * 10 ^ exponent`. Beyond the range of doubles on either side the
exponent no longer matters. -/
def nearest (mantissa : Nat) (exponent : Int) : Float :=
  let size : Int := (toString mantissa).length
  if mantissa = 0 then 0.0
  else if 400 < size + exponent then 1.0 / 0.0
  else if size + exponent < -400 then 0.0
  else if exponent < 0 then Float.ofScientific mantissa true exponent.natAbs
  else Float.ofScientific mantissa false exponent.natAbs

/-- The exponent that signed digits spell; no digits spell none. -/
def exponent? : List Char → Option Int
  | '+' :: digits => (whole? 10 digits).map Int.ofNat
  | '-' :: digits => (whole? 10 digits).map fun n => -(n : Int)
  | digits => (whole? 10 digits).map Int.ofNat

/-- The value of decimal text: digits with a point among them, and an exponent behind them. -/
def decimal (text : List Char) : Float :=
  let isMark (c : Char) : Bool := c == 'e' || c == 'E'
  let body := text.takeWhile fun c => !isMark c
  let before := body.takeWhile (· ≠ '.')
  let after := (body.dropWhile (· ≠ '.')).drop 1
  let exponent := match text.dropWhile fun c => !isMark c with
    | [] => some 0
    | _ :: digits => exponent? digits
  match whole? 10 (before ++ after), exponent with
  | some mantissa, some exponent => nearest mantissa (exponent - (after.length : Int))
  | _, _ => notANumber

/-- The value of a whole number with a base mark: it has to fit in 64 bits. -/
def based (base : Nat) (digits : List Char) : Float :=
  match whole? base digits with
  | some value => if value < twoTo 64 then Float.ofNat value else notANumber
  | none => notANumber

/-- The value of a number literal. Underscores do not count, nor does an `n` at its end. -/
def value (text : String) : Float :=
  let cleaned := (text.toList.reverse.dropWhile (· == 'n')).reverse.filter (· != '_')
  match cleaned with
  | '0' :: 'x' :: digits | '0' :: 'X' :: digits => based 16 digits
  | '0' :: 'o' :: digits | '0' :: 'O' :: digits => based 8 digits
  | '0' :: 'b' :: digits | '0' :: 'B' :: digits => based 2 digits
  | _ => decimal cleaned

end NumberLiteral

end ScriptGraph
