import ScriptGraph.Toml.Reader
import ScriptGraph.Toml.Scalar
import ScriptGraph.Toml.Table

/-!
# TOML documents
-/

namespace ScriptGraph.Toml

namespace Reader

/-- Whether a character may stand in a number, a date, a time or a word. -/
def isWordChar (c : Char) : Bool :=
  c.isAlphanum || c == '+' || c == '-' || c == '_' || c == '.' || c == ':'

/-- A number, a date, a time or a word. A single space may part a date from a time. -/
def scalar : Reader Value := do
  let word ← span isWordChar
  match Scalar.ofWord? word with
  | none => refuse
  | some value =>
    if Scalar.isDate word then
      match ← get with
      | ' ' :: rest =>
        if Scalar.isTime true (rest.takeWhile isWordChar) then set (rest.dropWhile isWordChar)
      | _ => pure ()
    return value

def arrayItems (value : Reader Value) : Reader (List Value) :=
  loop (fun found => do
    gap
    if ← eat [']'] then return .inr found.reverse
    else
      let item ← value
      gap
      if ← eat [','] then return .inl (item :: found)
      else
        expect [']']
        return .inr (item :: found).reverse) []

def binding (value : Reader Value) : Reader (List String × Value) := do
  let path ← key
  expect ['=']
  blanks
  return (path, ← value)

def inlineFields (value : Reader Value) : Reader Fields := do
  blanks
  if ← eat ['\x7d'] then return []
  else
    loop (fun (fields : Fields) => do
      let (path, item) ← binding value
      match Fields.define item path true fields with
      | none => refuse
      | some fields =>
        blanks
        if ← eat [','] then return .inl fields
        else
          expect ['\x7d']
          return .inr fields) []

def value : Nat → Reader Value
  | 0 => refuse
  | levels + 1 => do
    match ← string? with
    | some text => return .string text
    | none =>
      if ← eat ['['] then
        check (decide (0 < levels))
        return .array (← arrayItems (value levels))
      else if ← eat ['\x7b'] then
        check (decide (0 < levels))
        return .table (fieldValues (← inlineFields (value levels)))
      else scalar

/-- What has been read of a document: its tables, and the path of the one that was opened last. -/
structure Draft where
  fields : Fields
  current : List String
  deriving Inhabited

def header (draft : Draft) : Reader Draft := do
  let isItem ← eat ['[']
  let path ← key
  expect (if isItem then [']', ']'] else [']'])
  lineEnd
  let opened :=
    if isItem then Fields.openItem path draft.fields else Fields.openTable path draft.fields
  match opened with
  | some fields => return ⟨fields, path⟩
  | none => refuse

def document : Reader Fields := do
  let _ ← eat ['\ufeff']
  loop (fun (draft : Draft) => do
    blanks
    match ← peek? with
    | none => return .inr draft.fields
    | some c =>
      if c == '#' || c == '\n' || c == '\r' then
        lineEnd
        return .inl draft
      else if c == '[' then
        let _ ← take
        return .inl (← header draft)
      else
        let (path, item) ← binding (value nestingLimit)
        lineEnd
        match Fields.within (Fields.define item path true) draft.current draft.fields with
        | some fields => return .inl { draft with fields := fields }
        | none => refuse) ⟨[], []⟩

end Reader

def ofText? (text : String) : Option (List (String × Value)) :=
  (Reader.document text.toList).map fun (fields, _) => fieldValues fields

end ScriptGraph.Toml
