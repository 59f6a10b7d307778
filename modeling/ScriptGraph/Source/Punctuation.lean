import ScriptGraph.Source.Literal

/-!
# Signs

Punctuation is read as the longest sign that stands to the right. A binary sign
has a rank; of two neighbouring operators the one of higher rank takes its
operands first.
-/

namespace ScriptGraph.Source

def signTexts : List String :=
  [">>>=", "...", "===", "!==", "**=", "<<=", ">>=", ">>>", "&&=", "||=", "??=", "=>", "==", "!=",
    "<=", ">=", "&&", "||", "??", "?.", "++", "--", "+=", "-=", "*=", "/=", "%=", "&=", "|=", "^=",
    "<<", ">>", "**", "\x7b", "\x7d", "(", ")", "[", "]", ";", ",", "<", ">", "+", "-", "*", "/",
    "%", "&", "|", "^", "!", "~", "?", ":", "=", ".", "@", "#"]

def signTable : List (List Glyph × String) :=
  signTexts.map fun text => (text.toList.map some, text)

/-- The longest sign to the right. A question mark before a point and a digit stands alone. -/
def sign? (rest : List Glyph) : Option String :=
  match signTable.find? fun (chars, _) => chars.isPrefixOf rest with
  | none => none
  | some (_, text) =>
    if text == "?." && (rest.drop 2).head?.any (onChar isDigit) then some "?" else some text

/-- The rank of a binary operator; operators of one rank group to the left. -/
def rank? : String → Option Nat
  | "??" => some 1
  | "||" => some 2
  | "&&" => some 3
  | "|" => some 4
  | "^" => some 5
  | "&" => some 6
  | "==" | "!=" | "===" | "!==" => some 7
  | "<" | ">" | "<=" | ">=" | "in" | "instanceof" => some 8
  | "<<" | ">>" | ">>>" => some 9
  | "+" | "-" => some 10
  | "*" | "/" | "%" => some 11
  | "**" => some 12
  | _ => none

def rightRank : Nat := 12

def isAugmented (text : String) : Bool :=
  ["+=", "-=", "*=", "/=", "%=", "^=", "&=", "|=", ">>=", ">>>=", "<<=", "**=", "&&=", "||=",
    "??="].contains text

structure Operator where
  text : String
  span : Span
  deriving DecidableEq, Repr, Inhabited

def Operator.tree (operator : Operator) : Option Field × Tree :=
  (some .operator, Tree.leaf .operator operator.span)

namespace Reader

def here : Reader Cursor := fun cursor => some (cursor, cursor)

def close (start : Cursor) (kind : Kind) (children : List (Option Field × Tree)) : Reader Tree :=
  fun cursor => some (.node kind (start.spanTo cursor) children, cursor)

def closeFrom (first : Tree) (kind : Kind) (children : List (Option Field × Tree)) : Reader Tree :=
  fun cursor => some (.node kind { first.span with stop := cursor.offset } children, cursor)

def sign : Reader Operator := fun cursor =>
  match sign? cursor.rest with
  | none => none
  | some text =>
    let after := cursor.skip text.length
    some (⟨text, cursor.spanTo after⟩, after)

def nextSign? : Reader (Option String) := fun cursor =>
  some (sign? (cursor.skipTrivia false).rest, cursor)

def nextIsSign (text : String) : Reader Bool := do
  return (← nextSign?) == some text

def symbol (text : String) : Reader Unit := do
  toToken
  let found ← sign
  check (found.text == text)

def nextChar? : Reader (Option Char) := fun cursor =>
  some ((cursor.skipTrivia false).peek?, cursor)

/-- Ends a statement: by a semicolon, or where a line, a block or the source ends. -/
def semicolon : Reader Unit := fun cursor =>
  let after := cursor.skipTrivia false
  if after.sees [';'] then some ((), after.next)
  else if after.atEnd || after.sees ['\x7d'] || cursor.breaksLine then some ((), cursor)
  else none

/-- Repeats a step on a value until it yields nothing, at most `fuel` times. -/
def iterateFuel {α : Type} (step : α → Reader (Option α)) : Nat → α → Reader α
  | 0, _ => refuse
  | fuel + 1, value => fun cursor =>
    match step value cursor with
    | none => none
    | some (none, after) => some (value, after)
    | some (some next, after) => iterateFuel step fuel next after

/-- Repeats a step on a value until it yields nothing. A step that yields something moves the
cursor. -/
def iterate {α : Type} (step : α → Reader (Option α)) (value : α) : Reader α := fun cursor =>
  iterateFuel step (cursor.left + 2) value cursor

/-- Items between commas up to a closing sign; a place without an item yields nothing. -/
def commaItems (closing : String) (item : Reader Tree) : Reader (List (Option Tree)) := do
  let places ← iterate (fun (found : List (Option Tree) × Bool) => do
    if found.2 then pure none
    else
      toOperand
      let next ← nextSign?
      let place ← if next == some "," || next == some closing then pure none
        else some <$> item
      if ← nextIsSign "," then
        symbol ","
        pure (some (place :: found.1, false))
      else
        symbol closing
        pure (some (place :: found.1, true))) ([], false)
  pure places.1.reverse

end Reader

end ScriptGraph.Source
