import ScriptGraph.Project.IgnoreGlob
import ScriptGraph.Text.Property
import ScriptGraph.Text.Utf8

/-!
# Ignore files

Each line of an ignore file is a rule for the paths below the file's directory.
The last rule that applies to a path decides about it.
-/

namespace ScriptGraph

open Text

inductive Verdict where
  | leaveOut
  | keep
  deriving DecidableEq, Repr, Inhabited

structure IgnoreRule where
  glob : Pattern
  verdict : Verdict
  /-- Whether the rule applies to directories only. -/
  isForDirectories : Bool
  deriving DecidableEq, Repr, Inhabited

namespace IgnoreRule

def isBlank (c : Char) : Bool := Property.whiteSpace.contains c.toNat

/-- A line without the blanks at its end; a blank after a backslash stays. -/
def trimmed (line : List Char) : List Char :=
  match line.reverse with
  | ' ' :: '\\' :: _ => line
  | back => (back.dropWhile isBlank).reverse

/-- The end of a line that makes its rule one for directories. -/
def directoryForm (text : List Char) : Bool × List Char :=
  match text.reverse with
  | '/' :: '\\' :: back => (true, back.reverse)
  | '/' :: back => (true, back.reverse)
  | _ => (false, text)

/-- The glob of a line: without a slash it applies at any depth, and at the end `/**` stands for
what is inside a directory, the directory itself left out. -/
def globText (isAnchored : Bool) (text : List Char) : List Char :=
  let anywhere := !isAnchored && !text.contains '/' && text != ['*', '*']
  let text := if anywhere then '*' :: '*' :: '/' :: text else text
  if ['/', '*', '*'].isSuffixOf text then text ++ ['/', '*'] else text

/-- The rule of a line, if it has one. -/
def ofLine? (line : List Char) : Option IgnoreRule :=
  let text := trimmed line
  if line.head? == some '#' || text.isEmpty then none
  else
    let (verdict, isAnchored, text) :=
      match text with
      | '\\' :: '!' :: _ => (Verdict.leaveOut, false, text.tail)
      | '\\' :: '#' :: _ => (Verdict.leaveOut, false, text.tail)
      | '!' :: '/' :: rest => (Verdict.keep, true, rest)
      | '!' :: rest => (Verdict.keep, false, rest)
      | '/' :: rest => (Verdict.leaveOut, true, rest)
      | _ => (Verdict.leaveOut, false, text)
    let (isForDirectories, text) := directoryForm text
    (IgnoreGlob.pattern? (globText isAnchored text)).map
      fun glob => ⟨glob, verdict, isForDirectories⟩

def lines : List UInt8 → List (List UInt8)
  | [] => [[]]
  | byte :: rest =>
    if byte == 10 then [] :: lines rest
    else
      match lines rest with
      | [] => [[byte]]
      | line :: others => (byte :: line) :: others

/-- The text of the lines before the first one that is no text. -/
def textLines (lines : List (List UInt8)) : List (List Char) :=
  ((lines.map Utf8.text?).takeWhile Option.isSome).filterMap fun text? =>
    text?.map fun text =>
      match text.toList.reverse with
      | '\r' :: back => back.reverse
      | _ => text.toList

/-- The rules of a file. Marks of the byte order at its start do not count. -/
def ofBytes (bytes : List UInt8) : List IgnoreRule :=
  let texts :=
    match textLines (lines bytes) with
    | [] => []
    | first :: others => first.dropWhile (· == '\ufeff') :: others
  texts.filterMap ofLine?

/-- What the last rule that applies says about a path below the rules' directory. -/
def verdict? (rules : List IgnoreRule) (names : List String) (isDirectory : Bool) :
    Option Verdict :=
  let path := GlobSign.bytesOfText ("/".intercalate names).toList
  (rules.reverse.find? fun rule =>
    (isDirectory || !rule.isForDirectories) && rule.glob.spans path).map (·.verdict)

end IgnoreRule

end ScriptGraph
