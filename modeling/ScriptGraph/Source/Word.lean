import ScriptGraph.Source.Trivia

/-!
# Words

Identifiers and keywords. A word is told from its neighbours by the characters
that it may hold; which words are kept for the grammar is looked up.
-/

namespace ScriptGraph.Source

/-- The visible characters that no word holds, the backquote and the quotes written by number. -/
def signs : List Char :=
  [':', ';', '\x60', '\x22', '\x27', '@', '#', '.', ',', '|', '^', '&', '<', '=', '>', '+', '-',
    '*', '/', '\\', '%', '?', '!', '~', '(', ')', '[', ']', '\x7b', '\x7d']

def isWordChar (c : Char) : Bool :=
  decide (0x20 ≤ c.toNat) && !isBlank c && !signs.contains c

def isDigit (c : Char) : Bool := decide ('0' ≤ c) && decide (c ≤ '9')

def isHexDigit (c : Char) : Bool :=
  isDigit c || (decide ('a' ≤ c) && decide (c ≤ 'f')) || (decide ('A' ≤ c) && decide (c ≤ 'F'))

/-- The length of an escaped code point after its backslash: `u` and four digits, or digits in
braces. -/
def codePointLength? (rest : List Glyph) : Option Nat :=
  match rest with
  | some 'u' :: some '\x7b' :: inner =>
    let digits := (inner.takeWhile (onChar isHexDigit)).length
    if 0 < digits ∧ inner[digits]? = some (some '\x7d') then some (digits + 3) else none
  | some 'u' :: a :: b :: c :: d :: _ =>
    if [a, b, c, d].all (onChar isHexDigit) then some 5 else none
  | _ => none

/-- The length of a word, of which `passed` glyphs have been passed and `escaped` more belong to an
escaped code point. -/
def wordLengthFrom (passed escaped : Nat) : List Glyph → Nat
  | [] => passed
  | glyph :: rest =>
    match escaped with
    | n + 1 => wordLengthFrom (passed + 1) n rest
    | 0 =>
      if onChar isWordChar glyph then wordLengthFrom (passed + 1) 0 rest
      else if glyph = some '\\' then
        match codePointLength? rest with
        | some length => wordLengthFrom (passed + 1) length rest
        | none => passed
      else passed

def wordLength (rest : List Glyph) : Nat :=
  if (match rest with
    | glyph :: _ => onChar isDigit glyph
    | [] => true) then 0
  else wordLengthFrom 0 0 rest

/-- The words that never are identifiers. -/
def reservedWords : List String :=
  ["break", "case", "catch", "class", "const", "continue", "debugger", "default", "delete", "do",
    "else", "export", "extends", "false", "finally", "for", "function", "if", "import", "in",
    "instanceof", "new", "null", "return", "super", "switch", "this", "throw", "true", "try",
    "typeof", "var", "void", "while", "with"]

structure Word where
  text : String
  span : Span
  deriving DecidableEq, Repr, Inhabited

def Word.isIdentifier (word : Word) : Bool := !reservedWords.contains word.text

namespace Reader

def word : Reader Word := fun cursor =>
  let length := wordLength cursor.rest
  if length = 0 then none
  else
    let after := cursor.skip length
    some (⟨(Utf8.spell? (cursor.rest.take length)).getD "", cursor.spanTo after⟩, after)

def keyword (text : String) : Reader Unit := do
  let found ← word
  check (found.text == text)

def identifier : Reader Word := do
  let found ← word
  check found.isIdentifier
  pure found

def nextWord? : Reader (Option Word) :=
  ahead? do
    toToken
    word

def nextIs (text : String) : Reader Bool := do
  match ← nextWord? with
  | some found => pure (found.text == text)
  | none => pure false

def privateName : Reader Span := fun cursor =>
  match cursor.rest with
  | some '#' :: rest =>
    let length := wordLength rest
    if length = 0 then none
    else
      let after := cursor.skip (length + 1)
      some (cursor.spanTo after, after)
  | _ => none

end Reader

end ScriptGraph.Source
