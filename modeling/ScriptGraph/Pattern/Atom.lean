import ScriptGraph.Pattern.Basic
import ScriptGraph.Pattern.Reader

/-!
# Single signs of a pattern
-/

namespace ScriptGraph

open Text

inductive Atom where
  /-- A character, and whether it was written as a byte. -/
  | char (c : Char) (isByte : Bool)
  | chars (set : CharSet)
  | anchor (kind : Anchor)
  | dot
  deriving DecidableEq, Repr, Inhabited

namespace CharSet

def asciiDigit : CharSet := .range 48 57

def asciiBlank : CharSet := .union (.range 9 13) (single ' ')

def asciiLetter : CharSet := .union (.range 65 90) (.range 97 122)

def asciiWord : CharSet := unions [asciiLetter, asciiDigit, single '_']

def asciiPunctuation : CharSet :=
  unions [.range 33 47, .range 58 64, .range 91 96, .range 123 126]

def ofBracketName? (name : String) : Option CharSet :=
  match name with
  | "alnum" => some (.union asciiLetter asciiDigit)
  | "alpha" => some asciiLetter
  | "ascii" => some (.range 0 127)
  | "blank" => some (.union (single '\t') (single ' '))
  | "cntrl" => some (.union (.range 0 31) (.range 127 127))
  | "digit" => some asciiDigit
  | "graph" => some (.range 33 126)
  | "lower" => some (.range 97 122)
  | "print" => some (.range 32 126)
  | "punct" => some asciiPunctuation
  | "space" => some asciiBlank
  | "upper" => some (.range 65 90)
  | "word" => some asciiWord
  | "xdigit" => some (unions [asciiDigit, .range 65 70, .range 97 102])
  | _ => none

def negateIf (negated : Bool) (set : CharSet) : CharSet := if negated then .compl set else set

/-- The set under flags: case may not count. -/
def foldFor (flags : PatternFlags) (set : CharSet) : CharSet :=
  if flags.caseless then (if flags.wide then .folded set else .foldedAscii set) else set

def foldAndNegate (flags : PatternFlags) (negated : Bool) (set : CharSet) : CharSet :=
  negateIf negated (foldFor flags set)

/-- Whether a set may stand in a pattern under flags: without wide characters no set may reach
outside ASCII. -/
def isAllowed (flags : PatternFlags) (set : CharSet) : Bool :=
  flags.wide || (List.range 128).all fun k => !set.contains (k + 128)

def words (flags : PatternFlags) : CharSet := if flags.wide then .word else asciiWord

def ofLetter (flags : PatternFlags) (letter : Char) : CharSet :=
  let set :=
    match letter.toLower, flags.wide with
    | 'd', true => .digit
    | 'd', false => asciiDigit
    | 's', true => .blank
    | 's', false => asciiBlank
    | _, true => .word
    | _, false => asciiWord
  negateIf letter.isUpper set

/-- The plain form of a property's name: small letters without blanks, dashes and underscores,
and without `is` in front. -/
def plainName (name : String) : String :=
  let small := name.toList.map Char.toLower
  let plain (chars : List Char) := chars.filter fun c => !(c == ' ' || c == '_' || c == '-')
  match small with
  | 'i' :: 's' :: rest => if plain rest == ['c'] then "isc" else String.ofList (plain rest)
  | _ => String.ofList (plain small)

def ofProperty? (name : String) : Option CharSet :=
  if (property? (plainName name)).isSome then some (.property (plainName name)) else none

def ofPropertyValue? (name value : String) : Option CharSet :=
  let value := plainName value
  let isKnown :=
    match plainName name with
    | "gc" | "generalcategory" => (Category.ofName? value).isSome
    | "sc" | "script" | "scx" | "scriptextensions" => (WritingSystem.ofName? value).isSome
    | _ => false
  if isKnown then some (.property value) else none

end CharSet

namespace PatternReader

def splitAt? (separator : List Char) : List Char → Option (List Char × List Char)
  | [] => none
  | c :: rest =>
    if separator.isPrefixOf (c :: rest) then some ([], (c :: rest).drop separator.length)
    else (splitAt? separator rest).map fun (before, after) => (c :: before, after)

def namedProperty? (text : List Char) : Option (CharSet × Bool) :=
  let byValue (parts : List Char × List Char) (negated : Bool) :=
    (CharSet.ofPropertyValue? (String.ofList parts.1) (String.ofList parts.2)).map (·, negated)
  match splitAt? ['!', '='] text with
  | some parts => byValue parts true
  | none =>
    match splitAt? [':'] text with
    | some parts => byValue parts false
    | none =>
      match splitAt? ['='] text with
      | some parts => byValue parts false
      | none => (CharSet.ofProperty? (String.ofList text)).map (·, false)

/-- A property after a backslash and the letter `p`. -/
def property (negated : Bool) : PatternReader CharSet := do
  skipBlanks
  let flags := (← get).flags
  check flags.wide
  let named ←
    if (← peek) == '\x7b' then
      advance
      let text ← gather fun c => c != '\x7d'
      let _ ← take
      pure (namedProperty? text)
    else
      let c ← peek
      check (c != '\\')
      advance
      pure ((CharSet.ofProperty? (String.singleton c)).map (·, false))
  match named with
  | some (set, outside) => return set.foldAndNegate flags (negated != outside)
  | none => refuse

/-- The kind of word edge that braces after `\b` name, if they do not hold a count. -/
def namedEdge : PatternReader Anchor := do
  let isLetter (c : Char) : Bool := c.isAlpha || c == '-'
  match ← peek? with
  | some '\x7b' =>
    let before ← get
    advance
    if isLetter (← peek) then
      let name ← gather isLetter
      check ((← take) == '\x7d')
      match String.ofList name with
      | "start" => return .wordStart
      | "end" => return .wordEnd
      | "start-half" => return .noWordLeft
      | "end-half" => return .noWordRight
      | _ => refuse
    else
      set before
      return .wordEdge
  | _ => return .wordEdge

/-- What a backslash and what follows it stand for; the backslash is taken already. -/
def escape : PatternReader Atom := do
  let c ← take
  match c with
  | 'x' | 'u' | 'U' =>
    let (code, isByte) ← codedChar c
    return .char code isByte
  | 'p' => return .chars (← property false)
  | 'P' => return .chars (← property true)
  | 'd' | 's' | 'w' | 'D' | 'S' | 'W' => return .chars (.ofLetter (← get).flags c)
  | 'a' => return .char '\x07' false
  | 'f' => return .char '\x0c' false
  | 't' => return .char '\t' false
  | 'n' => return .char '\n' false
  | 'r' => return .char '\r' false
  | 'v' => return .char '\x0b' false
  | 'A' => return .anchor .textStart
  | 'z' => return .anchor .textEnd
  | 'b' => return .anchor (← namedEdge)
  | 'B' => return .anchor .notWordEdge
  | '<' => return .anchor .wordStart
  | '>' => return .anchor .wordEnd
  | _ =>
    check (decide (c.toNat < 128) && !c.isAlphanum)
    return .char c false

def sign : PatternReader Atom := do
  let flags := (← get).flags
  match ← take with
  | '\\' => escape
  | '.' => return .dot
  | '^' =>
    return .anchor (if flags.multiline then (if flags.returns then .returnStart else .lineStart)
      else .textStart)
  | '$' =>
    return .anchor (if flags.multiline then (if flags.returns then .returnEnd else .lineEnd)
      else .textEnd)
  | c => return .char c false

end PatternReader

end ScriptGraph
