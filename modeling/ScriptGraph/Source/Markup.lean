import ScriptGraph.Source.Grammar

/-!
# Markup in scripts

Elements in the manner of HTML, which may stand where an operand stands. Between
the tags of an element everything is text but elements, expressions in braces
and references to characters.
-/

namespace ScriptGraph.Source

def markupNameLength (rest : List Glyph) : Nat :=
  if wordLength rest = 0 then 0
  else (rest.takeWhile (onChar fun c => isWordChar c || c == '-')).length

def isMarkupText (glyph : Glyph) : Bool :=
  !onChar (fun c => c == '<' || c == '>' || c == '\x7b' || c == '\x7d' || c == '&') glyph

def referenceLength? (rest : List Glyph) : Option Nat :=
  let ended (length : Nat) (most : Nat) : Option Nat :=
    if 0 < length ∧ length ≤ most then some length else none
  match rest with
  | some '#' :: some 'x' :: more | some '#' :: some 'X' :: more =>
    (ended (more.takeWhile (onChar isHexDigit)).length 6).map (· + 2)
  | some '#' :: more => (ended (more.takeWhile (onChar isDigit)).length 5).map (· + 1)
  | _ => ended (rest.takeWhile (onChar Char.isAlpha)).length 30

namespace Reader

/-- A name in a tag: words joined by points, or two words joined by a colon. -/
def markupName : Reader Tree := do
  toToken
  let start ← here
  let _ ← stretch (markupNameLength start.rest)
  let _ ← repeatStep do
    let next ← nextChar?
    if next == some '.' || next == some ':' then
      toToken
      modify Cursor.next
      toToken
      let place ← here
      let _ ← stretch (markupNameLength place.rest)
      pure (some ())
    else pure none
  close start .jsxName []

/-- An expression in braces, which may be missing. -/
def markupExpression (recur : Recur) : Reader Tree := do
  toToken
  let start ← here
  symbol "\x7b"
  toOperand
  let inner ← match ← nextSign? with
    | some "\x7d" => pure none
    | some "..." => some <$> spreadable recur
    | _ => some <$> expressions recur
  symbol "\x7d"
  close start .jsxExpression (inner.map bare).toList

def markupString : Reader Tree := do
  let start ← here
  match start.peek? with
  | some c =>
    check (c == '\x22' || c == '\x27')
    let inner := start.next.skipWhile (· != some c)
    check (inner.peek? == some c)
    set inner.next
    close start .string []
  | none => refuse

def markupAttribute (recur : Recur) : Reader Tree := do
  toToken
  let start ← here
  if start.sees ['\x7b'] then markupExpression recur
  else
    let name ← markupName
    let value ← if ← nextIsSign "=" then do
        symbol "="
        toToken
        let place ← here
        some <$> (if place.sees ['\x7b'] then markupExpression recur
          else if place.sees ['<'] then recur .markup
          else markupString)
      else pure none
    close start .jsxAttribute (bare name :: (value.map bare).toList)

def markupAttributes (recur : Recur) : Reader (List Tree) :=
  repeatStep do
    let next ← nextChar?
    if next == some '>' || next == some '/' then pure none
    else some <$> markupAttribute recur

def markupChildren (recur : Recur) : Reader (List Tree) :=
  repeatStep do
    let place ← here
    match place.rest with
    | some '<' :: _ =>
      let closing ← ahead? do
        modify Cursor.next
        toToken
        let after ← here
        check (after.sees ['/'])
      if closing.isSome then pure none else some <$> recur .markup
    | some '\x7b' :: _ => some <$> markupExpression recur
    | some '&' :: rest =>
      match referenceLength? rest with
      | some length =>
        check (rest[length]? == some (some ';'))
        let span ← stretch (length + 2)
        pure (some (Tree.leaf .htmlCharacterReference span))
      | none => refuse
    | _ =>
      let span ← stretch (place.run isMarkupText)
      pure (some (Tree.leaf .jsxText span))

def closingTag : Reader Tree := do
  let start ← here
  modify Cursor.next
  toToken
  modify Cursor.next
  let name ← optional markupName
  toToken
  let place ← here
  check (place.sees ['>'])
  set place.next
  close start .jsxClosingElement (name.map (inField .name)).toList

def markup (recur : Recur) : Reader Tree := do
  toToken
  let start ← here
  check (start.sees ['<'])
  set start.next
  let name ← optional markupName
  let attributes ← if name.isSome then markupAttributes recur else pure []
  toToken
  let place ← here
  let parts := (name.map (inField .name)).toList ++ attributes.map bare
  if place.sees ['/'] then
    check name.isSome
    set place.next
    toToken
    let last ← here
    check (last.sees ['>'])
    set last.next
    close start .jsxSelfClosingElement parts
  else
    check (place.sees ['>'])
    set place.next
    let opening ← close start .jsxOpeningElement parts
    let children ← markupChildren recur
    let closing ← closingTag
    close start .jsxElement (bare opening :: children.map bare ++ [bare closing])

end Reader

end ScriptGraph.Source
