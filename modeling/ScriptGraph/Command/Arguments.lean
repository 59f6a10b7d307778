import ScriptGraph.Command.Basic

/-!
# Reading the command line

Arguments are read from left to right. The first word that is no option names
the command; the options of a command stand behind it, before or after its
operands, and `--` ends them.
-/

namespace ScriptGraph

inductive CommandName where
  | scan
  | views
  | stats
  | dump
  deriving DecidableEq, Repr, Inhabited

inductive Switch where
  | verbose
  | json
  | caseless
  | keepIsolated
  | version
  | help
  deriving DecidableEq, Repr, Inhabited

inductive Setting where
  | relation
  | format
  deriving DecidableEq, Repr, Inhabited

inductive CommandOption where
  | switch (switch : Switch)
  | setting (setting : Setting)
  deriving DecidableEq, Repr, Inhabited

inductive NoCommand where
  /-- The arguments make no sense. -/
  | usage
  /-- The version is asked for, of the whole program or of one command. -/
  | version (name : Option CommandName)
  /-- Help is asked for. -/
  | help
  deriving DecidableEq, Repr, Inhabited

namespace CommandName

def all : List CommandName := [.scan, .views, .stats, .dump]

def label : CommandName → String
  | .scan => "scan"
  | .views => "show"
  | .stats => "stats"
  | .dump => "export"

def ofLabel? (text : String) : Option CommandName := all.find? fun name => name.label == text

/-- The operands of a command: whether each one may be empty. -/
def operands : CommandName → List Bool
  | .views => [true, false]
  | _ => [false]

def formats : CommandName → List String
  | .scan => []
  | .views => ["compact", "table", "json"]
  | .stats => ["compact", "table", "json"]
  | .dump => ["dot", "json"]

def options : CommandName → List (Option Char × String × CommandOption)
  | .scan => [(none, "json", .switch .json)]
  | .views =>
    [(some 'r', "relation", .setting .relation),
      (some 'i', "case-insensitive", .switch .caseless),
      (none, "format", .setting .format)]
  | .stats => [(none, "format", .setting .format)]
  | .dump =>
    [(none, "format", .setting .format),
      (some 'r', "relation", .setting .relation),
      (none, "keep-isolated", .switch .keepIsolated)]

end CommandName

namespace CommandOption

def everywhere : List (Option Char × String × CommandOption) :=
  [(some 'v', "verbose", .switch .verbose),
    (some 'V', "version", .switch .version),
    (some 'h', "help", .switch .help)]

def available (name : Option CommandName) : List (Option Char × String × CommandOption) :=
  match name with
  | some name => name.options ++ everywhere
  | none => everywhere

def ofWord? (name : Option CommandName) (word : String) : Option CommandOption :=
  ((available name).find? fun (_, other, _) => other == word).map fun (_, _, option) => option

def ofLetter? (name : Option CommandName) (letter : Char) : Option CommandOption :=
  ((available name).find? fun (other, _, _) => other == some letter).map
    fun (_, _, option) => option

end CommandOption

structure Arguments where
  name : Option CommandName
  switches : List Switch
  relations : List Relation
  format : Option String
  operands : List String
  deriving Inhabited

namespace Arguments

def start (name : Option CommandName) : Arguments := ⟨name, [], [], none, []⟩

/-- Takes an option without a value. No such option is given twice. -/
def addSwitch (given : Arguments) (switch : Switch) : Except NoCommand Arguments :=
  match switch with
  | .version => .error (.version given.name)
  | .help => .error .help
  | _ =>
    if given.switches.contains switch then .error .usage
    else .ok { given with switches := switch :: given.switches }

/-- Takes an option with its value. Relations may be given several times, and several at once. -/
def addSetting (given : Arguments) (setting : Setting) (value : String) :
    Except NoCommand Arguments :=
  match setting with
  | .relation =>
    match (value.splitOn ",").mapM Relation.ofLabel? with
    | some relations => .ok { given with relations := given.relations ++ relations }
    | none => .error .usage
  | .format =>
    let isKnown := (given.name.map CommandName.formats).any (·.contains value)
    if given.format.isNone && isKnown then .ok { given with format := some value }
    else .error .usage

def addOperand (given : Arguments) (value : String) : Except NoCommand Arguments :=
  match (given.name.map CommandName.operands).bind fun all => all[given.operands.length]? with
  | some mayBeEmpty =>
    if value.isEmpty && !mayBeEmpty then .error .usage
    else .ok { given with operands := given.operands ++ [value] }
  | none => .error .usage

/-- What an argument leaves to be read: nothing, or the value of an option. -/
inductive Pending where
  | nothing
  | value (setting : Setting)
  deriving DecidableEq, Repr, Inhabited

/-- Reads the letters after a dash. A letter for an option with a value takes what follows it. -/
def readLetters (given : Arguments) : List Char → Except NoCommand (Arguments × Pending)
  | [] => .ok (given, .nothing)
  | letter :: rest =>
    match CommandOption.ofLetter? given.name letter with
    | none => .error .usage
    | some (.switch switch) =>
      match given.addSwitch switch with
      | .ok given => readLetters given rest
      | .error stop => .error stop
    | some (.setting setting) =>
      match rest with
      | [] => .ok (given, .value setting)
      | '=' :: value => (given.addSetting setting (String.ofList value)).map (·, .nothing)
      | value => (given.addSetting setting (String.ofList value)).map (·, .nothing)

/-- Reads the word after two dashes, with a value after an equals sign if there is one. -/
def readWord (given : Arguments) (text : List Char) : Except NoCommand (Arguments × Pending) :=
  let word := String.ofList (text.takeWhile (· != '='))
  let value? :=
    match text.dropWhile (· != '=') with
    | [] => none
    | _ :: value => some (String.ofList value)
  match CommandOption.ofWord? given.name word, value? with
  | some (.switch switch), none => (given.addSwitch switch).map (·, .nothing)
  | some (.setting setting), some value => (given.addSetting setting value).map (·, .nothing)
  | some (.setting setting), none => .ok (given, .value setting)
  | _, _ => .error .usage

def readOne (given : Arguments) (argument : String) : Except NoCommand (Arguments × Pending) :=
  match argument.toList with
  | '-' :: '-' :: text => given.readWord text
  | '-' :: letter :: letters => given.readLetters (letter :: letters)
  | _ => (given.addOperand argument).map (·, .nothing)

def isValue (argument : String) : Bool :=
  match argument.toList with
  | '-' :: _ :: _ => false
  | _ => true

def readAll (given : Arguments) (pending : Pending) : List String → Except NoCommand Arguments
  | [] => if pending = .nothing then .ok given else .error .usage
  | argument :: rest =>
    match pending with
    | .value setting =>
      if isValue argument then
        match given.addSetting setting argument with
        | .ok given => readAll given .nothing rest
        | .error stop => .error stop
      else .error .usage
    | .nothing =>
      if argument = "--" then rest.foldlM addOperand given
      else
        match given.readOne argument with
        | .ok (given, pending) => readAll given pending rest
        | .error stop => .error stop

def listingFormat (format : Option String) : ListingFormat :=
  match format with
  | some "table" => .table
  | some "json" => .json
  | _ => .compact

def exportFormat (format : Option String) : ExportFormat :=
  match format with
  | some "json" => .json
  | _ => .dot

def command (given : Arguments) (name : CommandName) : Except NoCommand Command :=
  let has (switch : Switch) : Bool := given.switches.contains switch
  match name, given.operands with
  | .scan, [root] => .ok ⟨root, .summary (has .json)⟩
  | .views, [pattern, root] =>
    .ok ⟨root, .views pattern given.relations (has .caseless) (listingFormat given.format)⟩
  | .stats, [root] => .ok ⟨root, .stats (listingFormat given.format)⟩
  | .dump, [root] =>
    .ok ⟨root, .dump (exportFormat given.format) ⟨given.relations, !has .keepIsolated⟩⟩
  | _, _ => .error .usage

def readFrom (given : Arguments) : List String → Except NoCommand Command
  | [] => .error .usage
  | argument :: rest =>
    match CommandName.ofLabel? argument with
    | some name =>
      match readAll (start (some name)) .nothing rest with
      | .ok given => given.command name
      | .error stop => .error stop
    | none =>
      if argument = "help" then .error .help
      else
        match given.readOne argument with
        | .ok (given, _) => readFrom given rest
        | .error stop => .error stop

end Arguments

def Command.ofArguments (arguments : List String) : Except NoCommand Command :=
  Arguments.readFrom (Arguments.start none) arguments

namespace NoCommand

def programName : String := "relgraph"

def programVersion : String := "0.1.0"

def usageText : String :=
  "Usage: " ++ programName ++ " [OPTIONS] <COMMAND>\n\n" ++
    "Commands:\n" ++
    "  scan <PATH> [--json]\n" ++
    "  show <NAME> <PATH> [-r <RELATION>]... [-i] [--format <compact|table|json>]\n" ++
    "  stats <PATH> [--format <compact|table|json>]\n" ++
    "  export <PATH> [--format <dot|json>] [-r <RELATION>]... [--keep-isolated]\n"

def outcome : NoCommand → Outcome
  | .usage => ⟨2, "", usageText⟩
  | .version none => .success (programName ++ " " ++ programVersion ++ "\n")
  | .version (some name) =>
    .success (programName ++ "-" ++ name.label ++ " " ++ programVersion ++ "\n")
  | .help => .success usageText

end NoCommand

end ScriptGraph
