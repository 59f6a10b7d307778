import ScriptGraph.Source.Class
import ScriptGraph.Source.Markup

/-!
# Expressions

An expression is read as operands with binary operators between them; the
ranks of the operators then decide how they group. An operand is a primary
expression with members and calls behind it and signs in front of it. An
assignment, an arrow function and a `yield` take all that follows, so nothing
can stand behind them; only a block ends an arrow function, and then a power or
a choice may follow.
-/

namespace ScriptGraph.Source

def binaryNode (left : Tree) (operator : Operator) (right : Tree) : Tree :=
  .node .binaryExpression { left.span with stop := right.span.stop }
    [(some .left, left), operator.tree, (some .right, right)]

/-- Operands that wait for what follows, the last one first: each with the operator behind it. -/
abbrev Waiting := List (Tree × Operator × Nat)

/-- Groups the operands that wait with an operator of at least a rank; a higher rank is asked for
where operators group to the right. -/
def settle (rank : Nat) : Waiting → Tree → Waiting × Tree
  | [], right => ([], right)
  | (left, operator, waiting) :: rest, right =>
    if rank < waiting ∨ (rank = waiting ∧ rank ≠ rightRank) then
      settle rank rest (binaryNode left operator right)
    else ((left, operator, waiting) :: rest, right)

def settleAll (waiting : Waiting) (last : Tree) : Tree :=
  waiting.foldl (fun right (left, operator, _) => binaryNode left operator right) last

def isClosed (tree : Tree) : Bool :=
  [.arrowFunction, .assignmentExpression, .augmentedAssignmentExpression,
    .yieldExpression].contains tree.kind

def isBlockArrow (tree : Tree) : Bool :=
  tree.kind == .arrowFunction && (tree.child? .body).any (·.kind == .statementBlock)

namespace Reader

/-- A property of an object: a pair, a method, a name that is its own value, or a spread. A name
may also have a default; only a pattern keeps it. -/
def property (recur : Recur) : Reader Tree := do
  toOperand
  let start ← here
  if ← nextIsSign "..." then spreadable recur
  else
    let marks ← decorators recur
    let modified ← methodModifiers
    toToken
    let place ← here
    let bareWord? ← ahead? identifier
    let name ← propertyName recur
    match ← nextSign? with
    | some "(" => methodRest recur start name (marks.map bare)
    | some ":" =>
      check !modified
      symbol ":"
      let value ← recur .expression
      close start .pair [inField .key name, inField .value value]
    | next =>
      check (!modified && bareWord?.isSome)
      if next == some "=" then
        let left ← close place .shorthandPropertyIdentifierPattern []
        symbol "="
        let right ← recur .expression
        close start .objectAssignmentPattern [inField .left left, inField .right right]
      else close start .shorthandPropertyIdentifier []

def object (recur : Recur) : Reader Tree := do
  let start ← here
  symbol "\x7b"
  let items ← commaItems "\x7d" (property recur)
  close start .object (items.filterMap fun item => item.map bare)

def array (recur : Recur) : Reader Tree := do
  let start ← here
  symbol "["
  let items ← commaItems "]" (spreadable recur)
  close start .array (items.filterMap fun item => item.map bare)

/-- The arrow of a function and its body; `start` is where the function begins. -/
def arrowRest (recur : Recur) (start : Cursor) (params : Option Field × Tree) : Reader Tree := do
  symbol "=>"
  toOperand
  let body ← if ← nextIsSign "\x7b" then block recur else recur .expression
  close start .arrowFunction [params, inField .body body]

/-- What stands in parentheses: expressions, or the parameters of an arrow function. -/
def group (recur : Recur) : Reader Tree := do
  let start ← here
  symbol "("
  let items ← commaItems ")" (spreadable recur)
  let shut ← here
  if ← nextIsSign "=>" then
    match toParameters? items with
    | some params =>
      let list := Tree.node .formalParameters (start.spanTo shut) params
      arrowRest recur start (inField .parameters list)
    | none => refuse
  else
    match items.mapM id with
    | some (first :: more) =>
      check ((first :: more).all fun item => item.kind != .spreadElement)
      close start .parenthesizedExpression [bare (sequenceOf first more)]
    | _ => refuse

/-- What begins with `async`: a function, an arrow function, a call if `calls` allows one, or just
the name. -/
def asyncOperand (recur : Recur) (calls : Bool) : Reader Tree := do
  let start ← here
  let name ← word
  let leaf := Tree.leaf .identifier name.span
  let broken ← lineBreak
  let next ← nextWord?
  let arrowAfterWord ← ahead? do
    toToken
    let _ ← identifier
    symbol "=>"
  if !broken && next.any (·.text == "function") then functionExpression recur start
  else if !broken && arrowAfterWord.isSome then
    toToken
    let param ← word
    arrowRest recur start (inField .parameter (Tree.leaf .identifier param.span))
  else
    match ← nextSign? with
    | some "=>" => arrowRest recur start (inField .parameter leaf)
    | some "(" =>
      if !calls then return leaf
      toToken
      let place ← here
      symbol "("
      let items ← commaItems ")" (spreadable recur)
      let shut ← here
      let params? := toParameters? items
      if !broken && params?.isSome && (← nextIsSign "=>") then
        let list := Tree.node .formalParameters (place.spanTo shut) (params?.getD [])
        arrowRest recur start (inField .parameters list)
      else
        let args := Tree.node .arguments (place.spanTo shut)
          (items.filterMap fun item => item.map bare)
        close start .callExpression [inField .function leaf, inField .arguments args]
    | _ => pure leaf

/-- What begins with `import` inside an expression: a call, or the module's own description. -/
def importOperand : Reader Tree := do
  let start ← here
  keyword "import"
  let callee ← close start .importExpression []
  match ← nextSign? with
  | some "(" => pure callee
  | some "." =>
    symbol "."
    toToken
    keyword "meta"
    close start .metaProperty []
  | _ => refuse

/-- What begins with `new`: an object being made, or the name of the constructor in use. -/
def newOperand (recur : Recur) : Reader Tree := do
  let start ← here
  keyword "new"
  if ← nextIsSign "." then
    symbol "."
    toToken
    keyword "target"
    close start .metaProperty []
  else
    let target ← recur .newTarget
    let args ← if ← nextIsSign "(" then some <$> arguments recur else pure none
    close start .newExpression
      (inField .constructor target :: (args.map (inField .arguments)).toList)

def wordOperand (recur : Recur) (calls : Bool) (found : Word) : Reader Tree := do
  let start ← here
  let leaf (kind : Kind) : Reader Tree := do
    let _ ← word
    close start kind []
  match found.text with
  | "function" => functionExpression recur start
  | "async" => asyncOperand recur calls
  | "class" => classRest recur start [] .classExpression false
  | "new" => newOperand recur
  | "import" => importOperand
  | "this" => leaf .thisExpression
  | "super" => leaf .superExpression
  | "null" => leaf .nullLiteral
  | "true" => leaf .trueLiteral
  | "false" => leaf .falseLiteral
  | text =>
    check found.isIdentifier
    let kind : Kind := if text == "undefined" then .undefinedExpression else .identifier
    let name ← leaf kind
    if ← nextIsSign "=>" then arrowRest recur start (inField .parameter (name.withKind .identifier))
    else pure name

def primary (recur : Recur) (calls : Bool) : Reader Tree := do
  let start ← here
  match ← ahead? word with
  | some found => wordOperand recur calls found
  | none =>
    match start.rest with
    | some '(' :: _ => group recur
    | some '[' :: _ => array recur
    | some '\x7b' :: _ => object recur
    | some '/' :: _ => regex
    | some '\x60' :: _ => template recur
    | some '\x22' :: _ => string
    | some '\x27' :: _ => string
    | some '<' :: _ => recur .markup
    | some '@' :: _ =>
      let marks ← decorators recur
      classRest recur start marks .classExpression false
    | _ => number

/-- One member or call behind an expression, if there is one. -/
def extendOnce (recur : Recur) (calls : Bool) (left : Tree) : Reader (Option Tree) := do
  let named (chain : List (Option Field × Tree)) : Reader (Option Tree) := do
    toToken
    let place ← here
    let name ← if place.sees ['#'] then Tree.leaf .privatePropertyIdentifier <$> privateName
      else do
        let found ← word
        pure (Tree.leaf .propertyIdentifier found.span)
    some <$> closeFrom left .memberExpression
      (inField .object left :: chain ++ [inField .property name])
  let indexed (chain : List (Option Field × Tree)) : Reader (Option Tree) := do
    symbol "["
    let key ← expressions recur
    symbol "]"
    some <$> closeFrom left .subscriptExpression
      (inField .object left :: chain ++ [inField .index key])
  let called (chain : List (Option Field × Tree)) : Reader (Option Tree) := do
    let args ← arguments recur
    some <$> closeFrom left .callExpression
      (inField .function left :: chain ++ [inField .arguments args])
  match ← nextSign? with
  | some "." =>
    symbol "."
    named []
  | some "?." =>
    toToken
    let operator ← sign
    let chain := [inField .optionalChain (.leaf .optionalChain operator.span)]
    match ← nextSign? with
    | some "(" => called chain
    | some "[" => indexed chain
    | _ => named chain
  | some "[" => indexed []
  | some "(" => if calls then called [] else pure none
  | _ =>
    if (← nextChar?) == some '\x60' then
      toToken
      let text ← template recur
      some <$> closeFrom left .callExpression [inField .function left, inField .arguments text]
    else pure none

def member (recur : Recur) (calls : Bool) : Reader Tree := do
  let first ← primary recur calls
  if isClosed first then pure first
  else iterate (extendOnce recur calls) first

/-- What stands after `new`: another `new`, or an expression with members but without calls. -/
def newTarget (recur : Recur) : Reader Tree := do
  toOperand
  let target ← member recur false
  check (target.kind != .importExpression)
  pure target

/-- What may follow a complete operand: a sign that changes it, or an assignment to it. -/
def assignment (recur : Recur) (left : Tree) : Reader Tree := do
  let next ← nextSign?
  match next with
  | some "=" =>
    match left.toAssigned? with
    | some target =>
      symbol "="
      let right ← recur .expression
      closeFrom left .assignmentExpression [inField .left target, inField .right right]
    | none => pure left
  | some text =>
    if (text == "++" || text == "--") && !(← lineBreak) then
      toToken
      let operator ← sign
      closeFrom left .updateExpression [inField .argument left, operator.tree]
    else if isAugmented text && left.isAugmentable then
      toToken
      let operator ← sign
      let right ← recur .expression
      closeFrom left .augmentedAssignmentExpression
        [inField .left left, operator.tree, inField .right right]
    else pure left
  | none => pure left

def startsOperand (cursor : Cursor) : Bool :=
  match cursor.rest with
  | some c :: _ =>
    match word cursor with
    | some (found, _) =>
      found.isIdentifier || ["function", "class", "new", "this", "super", "null", "true", "false",
        "typeof", "void", "delete", "import"].contains found.text
    | none =>
      isDigit c || ['(', '[', '\x7b', '\x22', '\x27', '\x60', '<', '@', '#', '~'].contains c ||
        (c == '!' && sign? cursor.rest == some "!") ||
        (c == '/' && sign? cursor.rest == some "/") ||
        (sign? cursor.rest).any ["+", "-", "++", "--"].contains ||
        (c == '.' && numberLength cursor.rest != 0)
  | _ => false

/-- What begins with `await`: what it waits for, unless it is a mere name. -/
def awaitOperand (recur : Recur) : Reader Tree := do
  let start ← here
  let afterWord := start.skip 5
  if startsOperand (afterWord.skipTrivia true) then
    keyword "await"
    let inner ← recur .unary
    close start .awaitExpression [bare inner]
  else
    let first ← member recur true
    if isClosed first then pure first else assignment recur first

/-- What begins with `yield`, with a value to hand out or without one. -/
def yieldOperand (recur : Recur) : Reader Tree := do
  let start ← here
  keyword "yield"
  if ← lineBreak then close start .yieldExpression []
  else if ← nextIsSign "*" then
    symbol "*"
    let inner ← recur .expression
    close start .yieldExpression [bare inner]
  else
    let after ← here
    if startsOperand (after.skipTrivia true) then
      let inner ← recur .expression
      close start .yieldExpression [bare inner]
    else close start .yieldExpression []

def signed (recur : Recur) (kind : Kind) (operator : Reader Span) : Reader Tree := do
  let start ← here
  let span ← operator
  let inner ← recur .unary
  close start kind [(some .operator, Tree.leaf .operator span), inField .argument inner]

/-- An operand with the signs in front of it and what may follow it. -/
def unary (recur : Recur) : Reader Tree := do
  toOperand
  let start ← here
  let plain : Reader Tree := do
    let first ← member recur true
    if isClosed first then pure first else assignment recur first
  match ← ahead? word with
  | some found =>
    match found.text with
    | "typeof" | "void" | "delete" => signed recur .unaryExpression (Word.span <$> word)
    | "await" => awaitOperand recur
    | "yield" => yieldOperand recur
    | _ => plain
  | none =>
    match sign? start.rest with
    | some "!" | some "~" | some "+" | some "-" =>
      signed recur .unaryExpression (Operator.span <$> sign)
    | some "++" | some "--" => signed recur .updateExpression (Operator.span <$> sign)
    | some "#" =>
      let name ← privateName
      check (← nextIs "in")
      pure (Tree.leaf .privatePropertyIdentifier name)
    | _ => plain

def nextBinary? : Reader (Option (String × Nat)) := do
  let text ← match ← nextWord? with
    | some found => pure (some found.text)
    | none => nextSign?
  pure (text.bind fun text => (rank? text).map fun rank => (text, rank))

def binaryOperator : Reader Operator := do
  toToken
  match ← optional word with
  | some found => pure ⟨found.text, found.span⟩
  | none => sign

/-- Operands with binary operators between them, grouped by rank. A word may be left out of the
operators. -/
def binary (recur : Recur) (omitted : Option String) : Reader Tree := do
  let first ← unary recur
  let (waiting, last) ← iterate (fun ((waiting, last) : Waiting × Tree) => do
    match ← nextBinary? with
    | none => pure none
    | some (text, rank) =>
      if omitted == some text then pure none
      else if isClosed last && !(isBlockArrow last && rank == rightRank) then pure none
      else
        let operator ← binaryOperator
        let next ← unary recur
        let (waiting, left) := settle rank waiting last
        pure (some ((left, operator, rank) :: waiting, next))) ([], first)
  pure (settleAll waiting last)

def choice (recur : Recur) (omitted : Option String) (last : Nonterminal) : Reader Tree := do
  let test ← binary recur omitted
  if isClosed test && !isBlockArrow test then pure test
  else if ← nextIsSign "?" then
    symbol "?"
    let yes ← recur .expression
    symbol ":"
    let no ← recur last
    closeFrom test .ternaryExpression
      [inField .condition test, inField .consequence yes, inField .alternative no]
  else pure test

/-- An expression without a comma at its top. -/
def expression (recur : Recur) : Reader Tree := choice recur none .expression

/-- The same without an `in` that would take the rest of the head of a loop. -/
def initial (recur : Recur) : Reader Tree := choice recur (some "in") .initial

end Reader

end ScriptGraph.Source
