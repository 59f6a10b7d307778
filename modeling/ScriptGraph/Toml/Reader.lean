import ScriptGraph.Text.RangeTable

/-!
# Reading TOML text

The parts of a document that hold no others: blanks, comments, keys and
strings.
-/

namespace ScriptGraph.Toml

open Text

abbrev Reader := StateT (List Char) Option

namespace Reader

def refuse {α : Type} : Reader α := fun _ => none

def check (condition : Bool) : Reader Unit := fun rest =>
  if condition then some ((), rest) else none

def peek? : Reader (Option Char) := return (← get).head?

def take : Reader Char := fun rest =>
  match rest with
  | [] => none
  | c :: rest => some (c, rest)

def eat (chars : List Char) : Reader Bool := fun rest =>
  if chars.isPrefixOf rest then some (true, rest.drop chars.length) else some (false, rest)

/-- Takes certain characters; refuses others. -/
def expect (chars : List Char) : Reader Unit := do check (← eat chars)

def span (test : Char → Bool) : Reader (List Char) := fun rest =>
  some (rest.takeWhile test, rest.dropWhile test)

/-- Repeats a step until it has a result. A step without a result has to take something. -/
def loop {σ τ : Type} (step : σ → Reader (σ ⊕ τ)) (value : σ) : Reader τ :=
  fun rest =>
    match step value rest with
    | none => none
    | some (.inr result, after) => some (result, after)
    | some (.inl next, after) =>
      if after.length < rest.length then loop step next after else none
termination_by rest => rest.length

def isBlank (c : Char) : Bool := c == ' ' || c == '\t'

/-- Whether a character may stand in a comment or a string: a tab, or no control character. -/
def isPlain (c : Char) : Bool := c == '\t' || (decide (' ' ≤ c) && c != '\x7f')

def blanks : Reader Unit := do let _ ← span isBlank

def lineBreak : Reader Bool := do
  if ← eat ['\n'] then return true
  else eat ['\r', '\n']

def comment : Reader Bool := do
  if ← eat ['#'] then
    let _ ← span isPlain
    return true
  else return false

/-- Takes what may stand after an expression on its line, and the end of the line. -/
def lineEnd : Reader Unit := do
  blanks
  let _ ← comment
  if ← lineBreak then return ()
  else check (← get).isEmpty

def gap : Reader Unit :=
  loop (fun _ => do
    blanks
    if ← comment then
      check (← lineBreak)
      return .inl ()
    else if ← lineBreak then return .inl ()
    else return .inr ()) ()

def codeChar (size : Nat) : Reader Char := do
  let digits := (← get).take size
  check (digits.length == size && digits.all fun c => (RangeTable.hexValue? c).isSome)
  set ((← get).drop size)
  match RangeTable.hex? (String.ofList digits) with
  | some code =>
    check (decide (code < 0xD800 ∨ 0xDFFF < code ∧ code ≤ 0x10FFFF))
    return Char.ofNat code
  | none => refuse

/-- The character that a backslash and what follows it stand for; the backslash is taken. -/
def escape : Reader Char := do
  match ← take with
  | 'b' => return '\x08'
  | 't' => return '\t'
  | 'n' => return '\n'
  | 'f' => return '\x0c'
  | 'r' => return '\r'
  | '\x22' => return '\x22'
  | '\\' => return '\\'
  | 'u' => codeChar 4
  | 'U' => codeChar 8
  | _ => refuse

/-- A string on one line, after its opening quote; a backslash may have a meaning in it. -/
def lineString (quote : Char) (hasEscapes : Bool) : Reader String :=
  loop (fun found => do
    let c ← take
    if c == quote then return .inr (String.ofList found.reverse)
    else if hasEscapes && c == '\\' then return .inl ((← escape) :: found)
    else
      check (isPlain c)
      return .inl (c :: found)) []

/-- Takes a line break after a backslash and all blanks and line breaks after it, if that is what
comes next. -/
def continuation : Reader Bool := do
  let before ← get
  blanks
  if ← lineBreak then
    loop (fun _ => do
      blanks
      if ← lineBreak then return .inl () else return .inr ()) ()
    return true
  else
    set before
    return false

/-- A string of several lines, after its opening quotes; a backslash may have a meaning in it. Up to
two quotes may stand right before the closing ones. -/
def blockString (quote : Char) (hasEscapes : Bool) : Reader String := do
  let _ ← lineBreak
  loop (fun found => do
    let quotes := ((← get).takeWhile (· == quote)).length
    if 3 ≤ quotes then
      let inner := min (quotes - 3) 2
      set ((← get).drop (inner + 3))
      return .inr (String.ofList (List.replicate inner quote ++ found).reverse)
    else if ← lineBreak then return .inl ('\n' :: found)
    else
      let c ← take
      if c == '\\' && hasEscapes then
        if ← continuation then return .inl found
        else return .inl ((← escape) :: found)
      else
        check (isPlain c)
        return .inl (c :: found)) []

def string? : Reader (Option String) := do
  if ← eat ['\x22', '\x22', '\x22'] then return some (← blockString '\x22' true)
  else if ← eat ['\x22'] then return some (← lineString '\x22' true)
  else if ← eat ['\x27', '\x27', '\x27'] then return some (← blockString '\x27' false)
  else if ← eat ['\x27'] then return some (← lineString '\x27' false)
  else return none

def isKeyChar (c : Char) : Bool := c.isAlphanum || c == '_' || c == '-'

def keyPart : Reader String := do
  if ← eat ['\x22'] then lineString '\x22' true
  else if ← eat ['\x27'] then lineString '\x27' false
  else
    let name ← span isKeyChar
    check (!name.isEmpty)
    return String.ofList name

def nestingLimit : Nat := 80

def key : Reader (List String) := do
  let parts ← loop (fun found => do
    blanks
    let part ← keyPart
    blanks
    if ← eat ['.'] then return .inl (part :: found)
    else return .inr (part :: found).reverse) []
  check (decide (parts.length < nestingLimit))
  return parts

end Reader

end ScriptGraph.Toml
