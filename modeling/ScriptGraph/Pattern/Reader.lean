import ScriptGraph.Pattern.CharSet

/-!
# Reading the text of a pattern

A reader takes a pattern's text from left to right, under flags that the text
itself can change, or refuses the text.
-/

namespace ScriptGraph

open Text

structure PatternFlags where
  /-- The case of letters does not count. -/
  caseless : Bool
  /-- `^` and `$` hold at the ends of lines. -/
  multiline : Bool
  /-- A dot also stands for a line break. -/
  dotAll : Bool
  /-- A carriage return counts as a line break too. -/
  returns : Bool
  /-- Characters outside ASCII are known by their properties. -/
  wide : Bool
  /-- Blanks and comments between the signs do not count. -/
  spaced : Bool
  deriving DecidableEq, Repr, Inhabited

def PatternFlags.start (caseless : Bool) : PatternFlags :=
  ⟨caseless, false, false, false, true, false⟩

structure PatternState where
  rest : List Char
  flags : PatternFlags
  /-- The names given to groups so far. -/
  names : List String
  deriving Inhabited

abbrev PatternReader := StateT PatternState Option

namespace PatternReader

def isBlank (c : Char) : Bool := Property.whiteSpace.contains c.toNat

/-- What follows blanks and comments. A comment goes from a hash sign to the end of the line. -/
def pastBlanks (inComment : Bool) : List Char → List Char
  | [] => []
  | c :: rest =>
    if inComment then pastBlanks (c != '\n') rest
    else if isBlank c then pastBlanks false rest
    else if c == '#' then pastBlanks true rest
    else c :: rest

def refuse {α : Type} : PatternReader α := fun _ => none

def check (condition : Bool) : PatternReader Unit := fun state =>
  if condition then some ((), state) else none

def peek? : PatternReader (Option Char) := return (← get).rest.head?

/-- The next character; refuses at the end of the text. -/
def peek : PatternReader Char := do
  match ← peek? with
  | some c => return c
  | none => refuse

/-- Moves past blanks and comments where they do not count. -/
def skipBlanks : PatternReader Unit :=
  modify fun state =>
    if state.flags.spaced then { state with rest := pastBlanks false state.rest } else state

def bump : PatternReader Unit := modify fun state => { state with rest := state.rest.tail }

/-- Moves past one character and what does not count after it. -/
def advance : PatternReader Unit := do
  bump
  skipBlanks

def take : PatternReader Char := do
  let c ← peek
  bump
  return c

/-- Moves past certain characters if they come next, and tells whether they did. -/
def eat (chars : List Char) : PatternReader Bool := fun state =>
  if chars.isPrefixOf state.rest then
    some (true, { state with rest := state.rest.drop chars.length })
  else some (false, state)

/-- Repeats a step until it has a result. A step without a result has to move on. -/
def loop {σ τ : Type} (step : σ → PatternReader (σ ⊕ τ)) (value : σ) : PatternReader τ :=
  fun state =>
    match step value state with
    | none => none
    | some (.inr result, after) => some (result, after)
    | some (.inl next, after) =>
      if after.rest.length < state.rest.length then loop step next after else none
termination_by state => state.rest.length

/-- The characters up to the first that fails a test; what does not count is left out. -/
def gather (test : Char → Bool) : PatternReader (List Char) :=
  loop (fun found => do
    match ← peek? with
    | some c => if test c then advance; return .inl (c :: found) else return .inr found.reverse
    | none => return .inr found.reverse) []

def isDigit (c : Char) : Bool := decide ('0' ≤ c ∧ c ≤ '9')

def decimalValue (digits : List Char) : Nat :=
  digits.foldl (fun value c => value * 10 + (c.toNat - 48)) 0

/-- A count in a repetition, nothing where there are no digits; refuses one of 33 bits or more. -/
def count? : PatternReader (Option Nat) := do
  modify fun state => { state with rest := state.rest.dropWhile isBlank }
  let digits ← gather isDigit
  modify fun state => { state with rest := state.rest.dropWhile isBlank }
  if digits.isEmpty then return none
  let value := decimalValue digits
  check (decide (value < 4294967296))
  return some value

def codeChar (digits : List Char) : PatternReader Char := do
  match RangeTable.hex? (String.ofList digits) with
  | some code =>
    check (decide (code < 0xD800 ∨ 0xDFFF < code ∧ code ≤ 0x10FFFF))
    return Char.ofNat code
  | none => refuse

def hexDigits : Nat → PatternReader (List Char)
  | 0 => return []
  | n + 1 => do
    let c ← peek
    check (RangeTable.hexValue? c).isSome
    advance
    return c :: (← hexDigits n)

/-- A character given by its code, after the letter that says so; tells whether the code was
written as two plain digits. -/
def codedChar (letter : Char) : PatternReader (Char × Bool) := do
  skipBlanks
  if (← peek) == '\x7b' then
    advance
    let digits ← gather fun c => (RangeTable.hexValue? c).isSome
    check ((← peek) == '\x7d')
    advance
    return (← codeChar digits, false)
  else
    let size := if letter == 'x' then 2 else if letter == 'u' then 4 else 8
    return (← codeChar (← hexDigits size), letter == 'x')

end PatternReader

end ScriptGraph
