import ScriptGraph.Number.Literal
import ScriptGraph.Text.RangeTable
import ScriptGraph.Toml.Table

/-!
# Numbers, dates and times in TOML
-/

namespace ScriptGraph.Toml

open Text

namespace Scalar

def isDigit (c : Char) : Bool := decide ('0' ≤ c ∧ c ≤ '9')

/-- The digits of a number in which underscores may stand between two digits. -/
def digits? (test : Char → Bool) : List Char → Option (List Char)
  | [] => none
  | [c] => if test c then some [c] else none
  | c :: '_' :: rest => if test c then (digits? test rest).map (c :: ·) else none
  | c :: rest => if test c then (digits? test rest).map (c :: ·) else none

def valueOf (base : Nat) (digits : List Char) : Nat :=
  digits.foldl (fun value c => value * base + (RangeTable.hexValue? c).getD 0) 0

def isInRange (value : Int) : Bool :=
  decide (-(twoTo 63 : Int) ≤ value ∧ value < (twoTo 63 : Int))

def integer? (value : Int) : Option Value := if isInRange value then some (.integer value) else none

/-- The digits of a decimal number that starts with a zero only if it is zero. -/
def wholeDigits? (text : List Char) : Option (List Char) :=
  match digits? isDigit text with
  | some ('0' :: _ :: _) => none
  | digits => digits

def signed (text : List Char) : Bool × List Char :=
  match text with
  | '-' :: rest => (true, rest)
  | '+' :: rest => (false, rest)
  | _ => (false, text)

def decimal? (text : List Char) : Option Value :=
  let (isNegative, text) := signed text
  (wholeDigits? text).bind fun digits =>
    let value : Int := valueOf 10 digits
    integer? (if isNegative then -value else value)

def based? (text : List Char) : Option Value :=
  let read (base : Nat) (digits : List Char) : Option Value :=
    (digits? (fun c => (RangeTable.hexValue? c).any (decide <| · < base)) digits).bind fun digits =>
      integer? (valueOf base digits)
  match text with
  | '0' :: 'x' :: digits => read 16 digits
  | '0' :: 'o' :: digits => read 8 digits
  | '0' :: 'b' :: digits => read 2 digits
  | _ => none

def splitAt? (test : Char → Bool) (text : List Char) : Option (List Char × List Char) :=
  match text.dropWhile fun c => !test c with
  | [] => none
  | _ :: after => some (text.takeWhile fun c => !test c, after)

def exponent? (text : List Char) : Option (List Char) :=
  let mark := text.takeWhile fun c => c == '-'
  (digits? isDigit (signed text).2).map (mark ++ ·)

/-- The text of a number with a fraction or an exponent, without underscores. -/
def floatText? (text : List Char) : Option (List Char) :=
  let isMark (c : Char) : Bool := c == 'e' || c == 'E'
  let (mantissa, exponent) :=
    match splitAt? isMark text with
    | some (mantissa, exponent) => (mantissa, some exponent)
    | none => (text, none)
  let mantissa? :=
    match splitAt? (· == '.') mantissa with
    | some (whole, fraction) =>
      (wholeDigits? whole).bind fun whole =>
        (digits? isDigit fraction).map fun fraction => whole ++ '.' :: fraction
    | none => if exponent.isSome then wholeDigits? mantissa else none
  match exponent with
  | none => mantissa?
  | some exponent =>
    mantissa?.bind fun mantissa =>
      (exponent? exponent).map fun exponent => mantissa ++ 'e' :: exponent

/-- A number with a fraction or an exponent. One that is too large is refused, unless it is
negative. -/
def float? (text : List Char) : Option Value :=
  let (isNegative, text) := signed text
  if text == ['i', 'n', 'f'] || text == ['n', 'a', 'n'] then some .float
  else
    (floatText? text).bind fun text =>
      if !isNegative && (NumberLiteral.value (String.ofList text)).isInf then none else some .float

def twoDigits? : List Char → Option Nat
  | [a, b] => if isDigit a && isDigit b then some (valueOf 10 [a, b]) else none
  | _ => none

def daysOf (year month : Nat) : Nat :=
  if month == 2 then
    if year % 4 == 0 && (year % 100 != 0 || year % 400 == 0) then 29 else 28
  else if [4, 6, 9, 11].contains month then 30
  else 31

def isDate (text : List Char) : Bool :=
  match text with
  | [a, b, c, d, '-', e, f, '-', g, h] =>
    [a, b, c, d].all isDigit &&
      match twoDigits? [e, f], twoDigits? [g, h] with
      | some month, some day =>
        decide (1 ≤ month ∧ month ≤ 12) &&
          decide (1 ≤ day ∧ day ≤ daysOf (valueOf 10 [a, b, c, d]) month)
      | _, _ => false
  | _ => false

def isUpTo (bound : Nat) (digits : List Char) : Bool :=
  (twoDigits? digits).any fun value => decide (value ≤ bound)

def isOffset (text : List Char) : Bool :=
  match text with
  | [] => true
  | ['Z'] => true
  | ['z'] => true
  | [sign, a, b, ':', c, d] =>
    (sign == '+' || sign == '-') && isUpTo 23 [a, b] && isUpTo 59 [c, d]
  | _ => false

/-- Whether a text is a time, and an offset if one may follow. -/
def isTime (mayHaveOffset : Bool) (text : List Char) : Bool :=
  match text with
  | a :: b :: ':' :: c :: d :: ':' :: e :: f :: rest =>
    let tail? :=
      match rest with
      | '.' :: fraction =>
        if (fraction.takeWhile isDigit).isEmpty then none else some (fraction.dropWhile isDigit)
      | _ => some rest
    isUpTo 23 [a, b] && isUpTo 59 [c, d] && isUpTo 60 [e, f] &&
      tail?.any fun tail => if mayHaveOffset then isOffset tail else tail.isEmpty
  | _ => false

def isMoment (text : List Char) : Bool :=
  isDate text || isTime false text ||
    (isDate (text.take 10) &&
      match text.drop 10 with
      | mark :: time => (mark == 'T' || mark == 't') && isTime true time
      | [] => false)

def ofWord? (text : List Char) : Option Value :=
  if text == ['t', 'r', 'u', 'e'] then some (.boolean true)
  else if text == ['f', 'a', 'l', 's', 'e'] then some (.boolean false)
  else if isMoment text then some .moment
  else (float? text).orElse fun _ => (based? text).orElse fun _ => decimal? text

end Scalar

end ScriptGraph.Toml
