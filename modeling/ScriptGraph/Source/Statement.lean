import ScriptGraph.Source.Expression
import ScriptGraph.Source.Linkage

/-!
# Statements
-/

namespace ScriptGraph.Source

namespace Reader

def binding (recur : Recur) : Reader Tree := do
  toToken
  let start ← here
  let pattern (reader : Reader Tree) : Reader Tree := do
    let tree ← reader
    match tree.toTarget? with
    | some target => pure target
    | none => refuse
  if start.sees ['\x7b'] then pattern (object recur)
  else if start.sees ['['] then pattern (array recur)
  else
    let found ← identifier
    pure (Tree.leaf .identifier found.span)

def declarator (recur : Recur) : Reader Tree := do
  toToken
  let start ← here
  let name ← binding recur
  let value ← if ← nextIsSign "=" then do
      symbol "="
      some <$> recur .expression
    else pure none
  close start .variableDeclarator (inField .name name :: (value.map (inField .value)).toList)

def declarators (recur : Recur) : Reader (List Tree) := do
  let first ← declarator recur
  let more ← repeatStep do
    if ← nextIsSign "," then
      symbol ","
      some <$> declarator recur
    else pure none
  pure (first :: more)

def variableList (recur : Recur) (kind : Kind) : Reader Tree := do
  let start ← here
  let _ ← word
  let names ← declarators recur
  semicolon
  close start kind (names.map bare)

def letDeclares : Reader Bool := do
  let after ← ahead? do
    keyword "let"
    toToken
    let place ← here
    let found ← optional word
    pure (place.sees ['['] || place.sees ['\x7b'] || found.any (·.isIdentifier))
  pure (after == some true)

/-- The kind of declaration that comes next, if one of variables does. -/
def nextVariables? : Reader (Option Kind) := do
  match ← ahead? word with
  | some found =>
    match found.text with
    | "var" => pure (some .variableDeclaration)
    | "const" => pure (some .lexicalDeclaration)
    | "let" => pure (if ← letDeclares then some .lexicalDeclaration else none)
    | _ => pure none
  | none => pure none

def nextIsFunction : Reader Bool := do
  let found ← ahead? do
    if ← nextIs "async" then
      keyword "async"
      check (!(← lineBreak))
      toToken
    keyword "function"
    if ← nextIsSign "*" then symbol "*"
    toToken
    identifier
  pure found.isSome

def declaredFunction (recur : Recur) : Reader Tree := do
  let start ← here
  if ← nextIs "async" then
    keyword "async"
    check (!(← lineBreak))
  functionDeclaration recur start

def declaration (recur : Recur) : Reader Tree := do
  toOperand
  let start ← here
  match ← nextVariables? with
  | some kind => variableList recur kind
  | none =>
    let marks ← decorators recur
    if marks.isEmpty && !(← nextIs "class") then declaredFunction recur
    else classRest recur start marks .classDeclaration true

def jump (kind : Kind) : Reader Tree := do
  let start ← here
  let _ ← word
  let broken ← lineBreak
  let label ← if broken then pure none
    else optional do
      toToken
      let found ← identifier
      pure (Tree.leaf .statementIdentifier found.span)
  semicolon
  close start kind (label.map (inField .label)).toList

def returnStatement (recur : Recur) : Reader Tree := do
  let start ← here
  keyword "return"
  let bareEnd ← ahead? semicolon
  let value ← if bareEnd.isSome then pure none else some <$> expressions recur
  semicolon
  close start .returnStatement (value.map bare).toList

def ifStatement (recur : Recur) : Reader Tree := do
  let start ← here
  keyword "if"
  let test ← parenthesized recur
  let pass ← recur .statement
  let fail ← if ← nextIs "else" then do
      toToken
      let place ← here
      keyword "else"
      let inner ← recur .statement
      some <$> close place .elseClause [bare inner]
    else pure none
  close start .ifStatement (inField .condition test :: inField .consequence pass ::
    (fail.map (inField .alternative)).toList)

def inOrOf : Reader Unit := do
  toToken
  let found ← word
  check (found.text == "in" || found.text == "of")

/-- The head of a loop over a collection: what is bound, and the collection. Only a `var` may have
a value of its own. -/
def eachHead (recur : Recur) : Reader (List (Option Field × Tree)) := do
  toOperand
  let bound ← match ← nextVariables? with
    | some kind => do
      let _ ← word
      let name ← binding recur
      if kind == .variableDeclaration && (← nextIsSign "=") then
        symbol "="
        let value ← recur .initial
        pure [inField .left name, inField .value value]
      else pure [inField .left name]
    | none => do
      let tree ← member recur true
      match tree.toAssigned? with
      | some target => pure [inField .left target]
      | none => refuse
  inOrOf
  let right ← expressions recur
  symbol ")"
  pure (bound ++ [inField .right right])

def clause (recur : Recur) (field : Field) : Reader (Option Field × Tree) := do
  toOperand
  let start ← here
  if ← nextIsSign ";" then
    symbol ";"
    inField field <$> close start .emptyStatement []
  else
    let tree ← expressions recur
    symbol ";"
    pure (inField field tree)

def clausesHead (recur : Recur) : Reader (List (Option Field × Tree)) := do
  toOperand
  let first ← match ← nextVariables? with
    | some kind => inField .initializer <$> variableList recur kind
    | none => clause recur .initializer
  let test ← clause recur .condition
  toOperand
  let step ← if ← nextIsSign ")" then pure none else some <$> expressions recur
  symbol ")"
  pure (first :: test :: (step.map (inField .increment)).toList)

def forStatement (recur : Recur) : Reader Tree := do
  let start ← here
  keyword "for"
  if ← nextIs "await" then
    toToken
    keyword "await"
  symbol "("
  match ← optional (eachHead recur) with
  | some head =>
    let body ← recur .statement
    close start .forInStatement (head ++ [inField .body body])
  | none =>
    let head ← clausesHead recur
    let body ← recur .statement
    close start .forStatement (head ++ [inField .body body])

def whileStatement (recur : Recur) : Reader Tree := do
  let start ← here
  keyword "while"
  let test ← parenthesized recur
  let body ← recur .statement
  close start .whileStatement [inField .condition test, inField .body body]

/-- A `do` loop; it needs no semicolon. -/
def doStatement (recur : Recur) : Reader Tree := do
  let start ← here
  keyword "do"
  let body ← recur .statement
  toToken
  keyword "while"
  let test ← parenthesized recur
  let _ ← optional semicolon
  close start .doStatement [inField .body body, inField .condition test]

def tryStatement (recur : Recur) : Reader Tree := do
  let start ← here
  keyword "try"
  let body ← block recur
  let handler ← if ← nextIs "catch" then do
      toToken
      let place ← here
      keyword "catch"
      let param ← if ← nextIsSign "(" then do
          symbol "("
          let name ← binding recur
          symbol ")"
          pure (some name)
        else pure none
      let inner ← block recur
      some <$> close place .catchClause
        ((param.map (inField .parameter)).toList ++ [inField .body inner])
    else pure none
  let final ← if ← nextIs "finally" then do
      toToken
      let place ← here
      keyword "finally"
      let inner ← block recur
      some <$> close place .finallyClause [inField .body inner]
    else pure none
  close start .tryStatement (inField .body body ::
    ((handler.map (inField .handler)).toList ++ (final.map (inField .finalizer)).toList))

def caseBody (recur : Recur) : Reader (List (Option Field × Tree)) := do
  let body ← repeatStep do
    toOperand
    let next ← nextWord?
    let isNextCase := next.any fun found => found.text == "case" || found.text == "default"
    if isNextCase || (← nextIsSign "\x7d") then pure none
    else some <$> recur .statement
  pure (body.map (inField .body))

def switchCase (recur : Recur) : Reader (Option Tree) := do
  toOperand
  let start ← here
  if ← nextIsSign "\x7d" then pure none
  else
    let found ← word
    match found.text with
    | "case" =>
      let value ← expressions recur
      symbol ":"
      let body ← caseBody recur
      some <$> close start .switchCase (inField .value value :: body)
    | "default" =>
      symbol ":"
      let body ← caseBody recur
      some <$> close start .switchDefault body
    | _ => refuse

def switchStatement (recur : Recur) : Reader Tree := do
  let start ← here
  keyword "switch"
  let subject ← parenthesized recur
  toToken
  let place ← here
  symbol "\x7b"
  let cases ← repeatStep (switchCase recur)
  symbol "\x7d"
  let body ← close place .switchBody (cases.map bare)
  close start .switchStatement [inField .value subject, inField .body body]

def withStatement (recur : Recur) : Reader Tree := do
  let start ← here
  keyword "with"
  let subject ← parenthesized recur
  let body ← recur .statement
  close start .withStatement [inField .object subject, inField .body body]

def throwStatement (recur : Recur) : Reader Tree := do
  let start ← here
  keyword "throw"
  let value ← expressions recur
  semicolon
  close start .throwStatement [bare value]

def labeledStatement (recur : Recur) : Reader Tree := do
  let start ← here
  let found ← identifier
  symbol ":"
  let body ← recur .statement
  close start .labeledStatement
    [inField .label (Tree.leaf .statementIdentifier found.span), inField .body body]

def expressionStatement (recur : Recur) : Reader Tree := do
  let start ← here
  let inner ← expressions recur
  semicolon
  close start .expressionStatement [bare inner]

/-- A statement that no keyword of its own opens: a labeled one, a declared function, or
expressions. -/
def otherStatement (recur : Recur) : Reader Tree := do
  let labeled ← ahead? do
    let _ ← identifier
    symbol ":"
  if labeled.isSome then labeledStatement recur
  else if ← nextIsFunction then declaredFunction recur
  else expressionStatement recur

def decoratedStatement (recur : Recur) : Reader Tree := do
  let start ← here
  let marks ← decorators recur
  if ← nextIs "export" then exportStatement recur (declaration recur) start marks
  else classRest recur start marks .classDeclaration true

/-- A class that is declared; one without a name is part of an expression. -/
def classStatement (recur : Recur) : Reader Tree := do
  let start ← here
  let named ← ahead? do
    keyword "class"
    toToken
    identifier
  if named.isSome then classRest recur start [] .classDeclaration true
  else expressionStatement recur

/-- Whether the `import` to the right opens an expression. -/
def importsInExpression : Reader Bool := do
  let next ← ahead? do
    keyword "import"
    nextSign?
  pure (next == some (some "(") || next == some (some "."))

def wordStatement (recur : Recur) (found : Word) : Reader Tree := do
  let start ← here
  match found.text with
  | "var" => variableList recur .variableDeclaration
  | "const" => variableList recur .lexicalDeclaration
  | "let" =>
    if ← letDeclares then variableList recur .lexicalDeclaration
    else otherStatement recur
  | "class" => classStatement recur
  | "if" => ifStatement recur
  | "for" => forStatement recur
  | "while" => whileStatement recur
  | "do" => doStatement recur
  | "switch" => switchStatement recur
  | "try" => tryStatement recur
  | "with" => withStatement recur
  | "break" => jump .breakStatement
  | "continue" => jump .continueStatement
  | "return" => returnStatement recur
  | "throw" => throwStatement recur
  | "debugger" =>
    keyword "debugger"
    semicolon
    close start .debuggerStatement []
  | "import" =>
    if ← importsInExpression then expressionStatement recur else importStatement recur
  | "export" => exportStatement recur (declaration recur) start []
  | _ => otherStatement recur

def statement (recur : Recur) : Reader Tree := do
  toOperand
  let start ← here
  match ← ahead? word with
  | some found => wordStatement recur found
  | none =>
    match start.peek? with
    | some '\x7b' => block recur
    | some ';' =>
      symbol ";"
      close start .emptyStatement []
    | some '@' => decoratedStatement recur
    | _ => expressionStatement recur

end Reader

end ScriptGraph.Source
