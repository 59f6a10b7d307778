import ScriptGraph.Number.Decimal

/-!
# JSON text

Values are written over several lines with an indent of two blanks. A string
escapes the quote, the backslash and the characters below the blank, and holds
every other character as it is.
-/

namespace ScriptGraph

/-- A JSON value; the fields of an object keep their order. -/
inductive Json where
  | null
  | bool (value : Bool)
  | nat (value : Nat)
  | real (value : Float)
  | str (value : String)
  | arr (items : List Json)
  | obj (fields : List (String × Json))
  deriving Inhabited

namespace Json

def hexDigit (n : Nat) : Char := Nat.digitChar n

def escapeChar (c : Char) : List Char :=
  if c = '\x22' then ['\\', '\x22']
  else if c = '\\' then ['\\', '\\']
  else if c = '\x08' then ['\\', 'b']
  else if c = '\x09' then ['\\', 't']
  else if c = '\x0a' then ['\\', 'n']
  else if c = '\x0c' then ['\\', 'f']
  else if c = '\x0d' then ['\\', 'r']
  else if c.toNat < 32 then
    ['\\', 'u', '0', '0', hexDigit (c.toNat / 16), hexDigit (c.toNat % 16)]
  else [c]

def quote (text : String) : String :=
  String.ofList ('\x22' :: (text.toList.flatMap escapeChar ++ ['\x22']))

def newline (level : Nat) : String :=
  String.ofList ('\n' :: List.replicate (2 * level) ' ')

mutual

/-- A value as text, the lines within it indented below `level`. -/
def renderAt (level : Nat) : Json → String
  | .null => "null"
  | .bool value => if value then "true" else "false"
  | .nat value => toString value
  | .real value => (Decimal.plain value).getD "null"
  | .str value => quote value
  | .arr [] => "[]"
  | .arr (item :: items) =>
    "[" ++ newline (level + 1) ++ item.renderAt (level + 1) ++ renderItems (level + 1) items ++
      newline level ++ "]"
  | .obj [] => "\x7b\x7d"
  | .obj ((key, value) :: fields) =>
    "\x7b" ++ newline (level + 1) ++ quote key ++ ": " ++ value.renderAt (level + 1) ++
      renderFields (level + 1) fields ++ newline level ++ "\x7d"

def renderItems (level : Nat) : List Json → String
  | [] => ""
  | item :: items => "," ++ newline level ++ item.renderAt level ++ renderItems level items

def renderFields (level : Nat) : List (String × Json) → String
  | [] => ""
  | (key, value) :: fields =>
    "," ++ newline level ++ quote key ++ ": " ++ value.renderAt level ++ renderFields level fields

end

def render (value : Json) : String := value.renderAt 0

end Json

end ScriptGraph
