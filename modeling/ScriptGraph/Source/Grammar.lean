import ScriptGraph.Source.Binding

/-!
# Rules that lead back to themselves

The grammar's rules are written against a way to read the parts that may nest.
Here stand the names of those parts and the rules that every other module of
the grammar uses.
-/

namespace ScriptGraph.Source

/-- The parts of a source that may nest. -/
inductive Nonterminal where
  | statement
  /-- An expression without a comma at its top. -/
  | expression
  /-- The same without an `in` outside of its parts. -/
  | initial
  /-- An operand with the signs that stand in front of it. -/
  | unary
  /-- What stands after `new`, without arguments. -/
  | newTarget
  /-- A markup element. -/
  | markup
  deriving DecidableEq, Repr, Inhabited

/-- A way to read the parts that may nest. -/
abbrev Recur := Nonterminal → Reader Tree

namespace Reader

def inField (field : Field) (tree : Tree) : Option Field × Tree := (some field, tree)

def bare (tree : Tree) : Option Field × Tree := (none, tree)

def sequenceOf (first : Tree) (more : List Tree) : Tree :=
  match more.getLast? with
  | none => first
  | some last =>
    .node .sequenceExpression { first.span with stop := last.span.stop }
      ((first :: more).map bare)

def expressions (recur : Recur) : Reader Tree := do
  let first ← recur .expression
  let more ← repeatStep do
    if ← nextIsSign "," then
      symbol ","
      some <$> recur .expression
    else pure none
  pure (sequenceOf first more)

def parenthesized (recur : Recur) : Reader Tree := do
  toToken
  let start ← here
  symbol "("
  let inner ← expressions recur
  symbol ")"
  close start .parenthesizedExpression [bare inner]

def spreadable (recur : Recur) : Reader Tree := do
  toOperand
  let start ← here
  if ← nextIsSign "..." then
    symbol "..."
    let inner ← recur .expression
    close start .spreadElement [bare inner]
  else recur .expression

def block (recur : Recur) : Reader Tree := do
  toToken
  let start ← here
  symbol "\x7b"
  let body ← repeatStep do
    toOperand
    if ← nextIsSign "\x7d" then pure none
    else some <$> recur .statement
  symbol "\x7d"
  close start .statementBlock (body.map bare)

def parameters (recur : Recur) : Reader Tree := do
  toToken
  let start ← here
  symbol "("
  let items ← commaItems ")" (spreadable recur)
  match toParameters? items with
  | some params => close start .formalParameters params
  | none => refuse

def arguments (recur : Recur) : Reader Tree := do
  toToken
  let start ← here
  symbol "("
  let items ← commaItems ")" (spreadable recur)
  close start .arguments (items.filterMap fun item => item.map bare)

def template (recur : Recur) : Reader Tree := do
  let start ← here
  check (start.peek? == some '\x60')
  set start.next
  let parts ← repeatStep do
    let place ← here
    match place.rest with
    | [] => refuse
    | some '\x60' :: _ => pure none
    | some '\\' :: rest =>
      match escapeLength? rest with
      | some length =>
        let span ← stretch (length + 1)
        pure (some (Tree.leaf .escapeSequence span))
      | none => refuse
    | some '$' :: some '\x7b' :: _ =>
      set (place.skip 2)
      let inner ← expressions recur
      symbol "\x7d"
      some <$> close place .templateSubstitution [bare inner]
    | rest =>
      let span ← stretch (fragmentLength 0 rest)
      pure (some (Tree.leaf .stringFragment span))
  modify Cursor.next
  close start .templateString (parts.map bare)

/-- The name of a property: a word, a string, a number, a private name, or an expression in
brackets. -/
def propertyName (recur : Recur) : Reader Tree := do
  toToken
  let start ← here
  match start.rest with
  | some '[' :: _ =>
    symbol "["
    let inner ← recur .expression
    symbol "]"
    close start .computedPropertyName [bare inner]
  | some '#' :: _ => Tree.leaf .privatePropertyIdentifier <$> privateName
  | some c :: _ =>
    if c = '\x22' ∨ c = '\x27' then string
    else if isDigit c || c == '.' then number
    else do
      let found ← word
      pure (Tree.leaf .propertyIdentifier found.span)
  | _ => refuse

def nextIsProperty : Reader Bool := do
  match ← nextChar? with
  | some c => pure (isWordChar c || c == '\\' || c == '[' || c == '#' || c == '\x22' || c == '\x27')
  | none => pure false

/-- One of certain words, if it stands in front of a property's name or of a star. -/
def modifier (texts : List String) : Reader Bool := fun cursor =>
  let attempt : Reader Bool := do
    toToken
    let found ← word
    check (texts.contains found.text)
    let named ← nextIsProperty
    let starred ← nextIsSign "*"
    check (named || starred)
    pure true
  match attempt cursor with
  | some result => some result
  | none => some (false, cursor)

/-- The words and signs in front of a method's name; whether there are any. -/
def methodModifiers : Reader Bool := do
  let isStatic ← modifier ["static"]
  let isAsync ← modifier ["async"]
  let isAccessor ← modifier ["get", "set"]
  if ← nextIsSign "*" then
    symbol "*"
    pure true
  else pure (isStatic || isAsync || isAccessor)

def methodRest (recur : Recur) (start : Cursor) (name : Tree)
    (before : List (Option Field × Tree)) :
    Reader Tree := do
  let params ← parameters recur
  let body ← block recur
  close start .methodDefinition
    (before ++ [inField .name name, inField .parameters params, inField .body body])

/-- A remark on a class or one of its members: a name, perhaps with members and arguments, or an
expression in parentheses. -/
def decorator (recur : Recur) : Reader Tree := do
  toToken
  let start ← here
  symbol "@"
  toToken
  let place ← here
  let base ← if place.sees ['('] then parenthesized recur
    else do
      let found ← identifier
      pure (Tree.leaf .identifier found.span)
  let target ← iterate (fun (left : Tree) => do
    match ← nextSign? with
    | some "." =>
      symbol "."
      toToken
      let found ← word
      some <$> closeFrom left .memberExpression
        [inField .object left, inField .property (Tree.leaf .propertyIdentifier found.span)]
    | some "(" =>
      let args ← arguments recur
      some <$> closeFrom left .callExpression [inField .function left, inField .arguments args]
    | _ => pure none) base
  close start .decorator [bare target]

def decorators (recur : Recur) : Reader (List Tree) :=
  repeatStep do
    if ← nextIsSign "@" then some <$> decorator recur
    else pure none

end Reader

end ScriptGraph.Source
