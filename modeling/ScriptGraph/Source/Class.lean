import ScriptGraph.Source.Grammar

/-!
# Functions and classes
-/

namespace ScriptGraph.Source

namespace Reader

def optionalName : Reader (Option Tree) :=
  optional do
    toToken
    let found ← identifier
    pure (Tree.leaf .identifier found.span)

/-- A function from `function` on; `start` is where it begins. -/
def functionRest (recur : Recur) (start : Cursor) (plain generator : Kind) (named : Bool) :
    Reader Tree := do
  toToken
  keyword "function"
  let starred ← nextIsSign "*"
  if starred then symbol "*"
  let name ← optionalName
  check (name.isSome || !named)
  let params ← parameters recur
  let body ← block recur
  close start (if starred then generator else plain)
    ((name.map (inField .name)).toList ++ [inField .parameters params, inField .body body])

def functionExpression (recur : Recur) (start : Cursor) : Reader Tree :=
  functionRest recur start .functionExpression .generatorFunction false

/-- A function as a statement; it has a name. -/
def functionDeclaration (recur : Recur) (start : Cursor) : Reader Tree :=
  functionRest recur start .functionDeclaration .generatorFunctionDeclaration true

def staticBlock (recur : Recur) (start : Cursor) : Reader Tree := do
  toToken
  keyword "static"
  let body ← block recur
  close start .classStaticBlock [inField .body body]

def classMember (recur : Recur) : Reader Tree := do
  toToken
  let start ← here
  let marks ← decorators recur
  toToken
  match ← optional (staticBlock recur start) with
  | some tree => pure tree
  | none =>
    let _ ← methodModifiers
    let name ← propertyName recur
    if ← nextIsSign "(" then methodRest recur start name (marks.map bare)
    else
      let value ← if ← nextIsSign "=" then do
          symbol "="
          some <$> recur .expression
        else pure none
      let tree ← close start .fieldDefinition
        (marks.map bare ++ inField .property name :: (value.map (inField .value)).toList)
      semicolon
      pure tree

def classBody (recur : Recur) : Reader Tree := do
  toToken
  let start ← here
  symbol "\x7b"
  let members ← repeatStep do
    match ← nextSign? with
    | some "\x7d" => pure none
    | some ";" =>
      symbol ";"
      pure (some none)
    | _ => (some ∘ some) <$> classMember recur
  symbol "\x7d"
  close start .classBody (members.filterMap fun member => member.map bare)

/-- A class from `class` on; `start` is where it begins. -/
def classRest (recur : Recur) (start : Cursor) (marks : List Tree) (kind : Kind) (named : Bool) :
    Reader Tree := do
  toToken
  keyword "class"
  let name ← if ← nextIs "extends" then pure none else optionalName
  check (name.isSome || !named)
  let heritage ← if ← nextIs "extends" then do
      toToken
      let place ← here
      keyword "extends"
      let parent ← recur .unary
      some <$> close place .classHeritage [bare parent]
    else pure none
  let body ← classBody recur
  close start kind (marks.map bare ++ (name.map (inField .name)).toList ++
    (heritage.map bare).toList ++ [inField .body body])

end Reader

end ScriptGraph.Source
