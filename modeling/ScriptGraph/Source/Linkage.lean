import ScriptGraph.Source.Class

/-!
# Imports and exports
-/

namespace ScriptGraph.Source

namespace Reader

/-- A name by which a module hands something out: a word or a string. -/
def exportedName : Reader Tree := do
  toToken
  let start ← here
  match start.peek? with
  | some c =>
    if c == '\x22' || c == '\x27' then string
    else
      let found ← word
      pure (Tree.leaf .identifier found.span)
  | none => refuse

/-- A name, perhaps with another one behind `as`. -/
def specifier (kind : Kind) : Reader Tree := do
  toToken
  let start ← here
  let name ← exportedName
  let other ← if ← nextIs "as" then do
      toToken
      keyword "as"
      some <$> exportedName
    else pure none
  close start kind (inField .name name :: (other.map bare).toList)

def specifiers (kind item : Kind) : Reader Tree := do
  toToken
  let start ← here
  symbol "\x7b"
  let items ← commaItems "\x7d" (specifier item)
  check (items.dropLast.all Option.isSome)
  close start kind (items.filterMap fun item => item.map bare)

/-- A star, with a name for everything behind `as`. -/
def everything : Reader Tree := do
  toToken
  let start ← here
  symbol "*"
  toToken
  keyword "as"
  let name ← exportedName
  close start .namespaceBinding [bare name]

def moduleName : Reader Tree := do
  toToken
  string

def fromClause : Reader Tree := do
  toToken
  keyword "from"
  moduleName

def importAttributes (recur : Recur) : Reader (List Tree) := do
  if ← nextIs "with" then
    toToken
    keyword "with"
    toToken
    let start ← here
    symbol "\x7b"
    let items ← commaItems "\x7d" do
      let place ← here
      let key ← propertyName recur
      symbol ":"
      let value ← recur .expression
      close place .pair [inField .key key, inField .value value]
    let tree ← close start .object (items.filterMap fun item => item.map bare)
    pure [tree]
  else pure []

def importClause : Reader Tree := do
  toToken
  let start ← here
  let braced := specifiers .importClause .importSpecifier
  match ← nextSign? with
  | some "\x7b" => braced
  | some "*" => everything
  | _ =>
    let found ← identifier
    let name := Tree.leaf .identifier found.span
    let more ← if ← nextIsSign "," then do
        symbol ","
        some <$> (if ← nextIsSign "*" then everything else braced)
      else pure none
    close start .importClause (bare name :: (more.map bare).toList)

def importStatement (recur : Recur) : Reader Tree := do
  let start ← here
  keyword "import"
  let next ← nextChar?
  let parts ← if next == some '\x22' || next == some '\x27' then do
      pure [← moduleName]
    else do
      let clause ← importClause
      let source ← fromClause
      pure [clause, source]
  let attributes ← importAttributes recur
  semicolon
  close start .importStatement ((parts ++ attributes).map bare)

/-- What an export hands out under the name `default`: a declaration, or the value of an
expression. -/
def defaultExport (recur : Recur) (declaration : Reader Tree) : Reader Tree := do
  toToken
  keyword "default"
  toOperand
  match ← optional declaration with
  | some tree => pure tree
  | none =>
    let value ← recur .expression
    semicolon
    pure value

/-- An export; `declaration` reads what may be declared and handed out at once. -/
def exportStatement (recur : Recur) (declaration : Reader Tree) (start : Cursor)
    (marks : List Tree) : Reader Tree := do
  toToken
  keyword "export"
  let parts ← match ← nextSign? with
    | some "*" => do
      let name ← optional everything
      if name.isNone then symbol "*"
      let source ← fromClause
      let attributes ← importAttributes recur
      semicolon
      pure (name.toList ++ source :: attributes)
    | some "\x7b" => do
      let clause ← specifiers .exportClause .exportSpecifier
      let source ← if ← nextIs "from" then some <$> fromClause else pure none
      let attributes ← importAttributes recur
      semicolon
      pure (clause :: source.toList ++ attributes)
    | _ => do
      if ← nextIs "default" then pure [← defaultExport recur declaration]
      else pure [← declaration]
  close start .exportStatement ((marks ++ parts).map bare)

end Reader

end ScriptGraph.Source
