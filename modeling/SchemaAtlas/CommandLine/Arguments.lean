import SchemaAtlas.Text.Digits

/-!
# Command line arguments

What can be asked on the command line, and how the words of a command line ask
for it.  Words are taken from left to right; the first one that cannot be
taken ends the reading, and so does a request for the version or for help.
`-v` and `-c` may stand before the command, behind it, or both; what stands
behind it counts.
-/

namespace SchemaAtlas.CommandLine

/-- The forms in which a report can be printed. -/
inductive ReportForm where
  | text
  | json
deriving DecidableEq, Inhabited

inductive Command where
  /-- Print the script that defines a recorded schema, or save it. -/
  | exportSchema (snapshot : String) (out : Option String)
    (maxConcurrent : Option Nat)
  | listEdges (tables : String) (onlyEdges : Bool) (form : ReportForm)
  | listLive (ast : String) (form : ReportForm)
  | listKinds (ast : String) (form : ReportForm)
  | printDefaults
deriving DecidableEq, Inhabited

/-- A command with what goes for every command. -/
structure Invocation where
  verbose : Bool
  /-- The settings file, if one is named. -/
  settingsPath : Option String
  command : Command
deriving DecidableEq, Inhabited

/-- Why the words of a command line lead to no command. -/
inductive Ending where
  | refused
  | version
  | help
deriving DecidableEq, Inhabited

/-! ## Switches -/

/-- The words that begin with a dash. -/
inductive Switch where
  | verbose
  | config
  | help
  | version
  | snapshot
  | out
  | maxConcurrent
  | tables
  | onlyEdges
  | format
  | ast
deriving DecidableEq, Inhabited

namespace Switch

/-- The name of a switch, which stands behind two dashes. -/
def name : Switch → String
  | .verbose => "verbose"
  | .config => "config"
  | .help => "help"
  | .version => "version"
  | .snapshot => "snapshot"
  | .out => "out"
  | .maxConcurrent => "max-concurrent"
  | .tables => "tables"
  | .onlyEdges => "only-edges"
  | .format => "format"
  | .ast => "ast"

/-- The letter of a switch, which stands behind one dash. -/
def letter? : Switch → Option Char
  | .verbose => some 'v'
  | .config => some 'c'
  | .help => some 'h'
  | .version => some 'V'
  | .out => some 'o'
  | _ => none

def takesValue : Switch → Bool
  | .verbose | .help | .version | .onlyEdges => false
  | _ => true

end Switch

/-- The words that name a command. -/
inductive Verb where
  | exportSchema
  | listEdges
  | listLive
  | listKinds
  | printDefaults
deriving DecidableEq, Inhabited

namespace Verb

def all : List Verb :=
  [exportSchema, listEdges, listLive, listKinds, printDefaults]

def name : Verb → String
  | .exportSchema => "export"
  | .listEdges => "edges"
  | .listLive => "live"
  | .listKinds => "kinds"
  | .printDefaults => "print-default-config"

def named? (word : String) : Option Verb :=
  all.find? fun verb => verb.name == word

/-- The switches that may stand behind a command. -/
def switches : Verb → List Switch
  | .exportSchema => [.snapshot, .out, .maxConcurrent, .verbose, .config, .help]
  | .listEdges => [.tables, .onlyEdges, .format, .verbose, .config, .help]
  | .listLive | .listKinds => [.ast, .format, .verbose, .config, .help]
  | .printDefaults => [.verbose, .config, .help]

end Verb

/-- The switches that may stand before the command. -/
def leadingSwitches : List Switch := [.verbose, .config, .help, .version]

/-! ## Values -/

/-- What the switches on one side of the command say. -/
structure Given where
  verbose : Bool
  config : Option String
  snapshot : Option String
  out : Option String
  maxConcurrent : Option Nat
  tables : Option String
  onlyEdges : Bool
  format : Option ReportForm
  ast : Option String
deriving DecidableEq, Inhabited

def Given.nothing : Given :=
  ⟨false, none, none, none, none, none, false, none, none⟩

/-- Sets a switch that has not been set; no switch may be set twice. -/
def setOnce {α : Type} (before : Option α) (value : α)
    (given : Option α → Given) : Except Ending Given :=
  match before with
  | none => .ok (given (some value))
  | some _ => .error .refused

/-- A path, which is not empty. -/
def readPath (value : String) : Except Ending String :=
  if value.isEmpty then .error .refused else .ok value

/-- A number of 64 bits. -/
def readCount (value : String) : Except Ending Nat :=
  match Text.count? value with
  | some count => .ok count
  | none => .error .refused

def readForm (value : String) : Except Ending ReportForm :=
  if value = "text" then .ok .text
  else if value = "json" then .ok .json
  else .error .refused

def Given.flag (given : Given) : Switch → Except Ending Given
  | .verbose =>
      if given.verbose then .error .refused
      else .ok { given with verbose := true }
  | .onlyEdges =>
      if given.onlyEdges then .error .refused
      else .ok { given with onlyEdges := true }
  | .version => .error .version
  | .help => .error .help
  | _ => .error .refused

def Given.assign (given : Given) (switch : Switch) (value : String) :
    Except Ending Given := do
  match switch with
  | .config =>
      setOnce given.config (← readPath value) ({ given with config := · })
  | .snapshot =>
      setOnce given.snapshot (← readPath value) ({ given with snapshot := · })
  | .out => setOnce given.out (← readPath value) ({ given with out := · })
  | .tables =>
      setOnce given.tables (← readPath value) ({ given with tables := · })
  | .ast => setOnce given.ast (← readPath value) ({ given with ast := · })
  | .maxConcurrent =>
      setOnce given.maxConcurrent (← readCount value)
        ({ given with maxConcurrent := · })
  | .format =>
      setOnce given.format (← readForm value) ({ given with format := · })
  | _ => throw .refused

/-! ## Words -/

/-- What has been said, and the switch of which the value is still to come. -/
abbrev Progress := Given × Option Switch

/-- Reads a name of a switch, from behind its two dashes, and the value behind
an equals sign. -/
def readName (switches : List Switch) (given : Given) (letters : List Char) :
    Except Ending Progress :=
  let name := String.ofList (letters.takeWhile (· != '='))
  match switches.find? fun switch => switch.name == name with
  | none => .error .refused
  | some switch =>
      match letters.dropWhile (· != '=') with
      | [] =>
          if switch.takesValue then .ok (given, some switch)
          else (given.flag switch).map fun given => (given, none)
      | _ :: value =>
          if switch.takesValue then
            (given.assign switch (String.ofList value)).map fun given =>
              (given, none)
          else .error .refused

/-- The value behind the letter of a switch, without an equals sign before
it. -/
def attachedValue : List Char → List Char
  | '=' :: value => value
  | value => value

/-- Reads letters of switches, from behind their dash; what follows the letter
of a switch that takes a value is its value. -/
def readLetters (switches : List Switch) :
    Given → List Char → Except Ending Progress
  | given, [] => .ok (given, none)
  | given, letter :: rest =>
      match switches.find? fun switch => switch.letter? == some letter with
      | none => .error .refused
      | some switch =>
          if switch.takesValue then
            if rest.isEmpty then .ok (given, some switch)
            else
              (given.assign switch (String.ofList (attachedValue rest))).map
                fun given => (given, none)
          else
            (given.flag switch).bind fun given =>
              readLetters switches given rest

/-- Reads one word.  A word that begins with a dash, and is not a dash alone,
is read as switches even where a value is awaited. -/
def readWord (switches : List Switch) (progress : Progress) (word : String) :
    Except Ending Progress :=
  match word.toList, progress with
  | '-' :: '-' :: letters, (given, none) => readName switches given letters
  | '-' :: '-' :: _, (_, some _) => .error .refused
  | '-' :: letter :: letters, (given, none) =>
      readLetters switches given (letter :: letters)
  | '-' :: _ :: _, (_, some _) => .error .refused
  | _, (given, some switch) =>
      (given.assign switch word).map fun given => (given, none)
  | _, (_, none) => .error .refused

/-- Reads the words behind a command.  Nothing may follow two dashes by
themselves. -/
def readBehind (verb : Verb) : Progress → List String → Except Ending Given
  | (given, none), [] => .ok given
  | (_, some _), [] => .error .refused
  | progress, word :: rest =>
      if word = "--" then
        if rest.isEmpty && progress.2.isNone then .ok progress.1
        else .error .refused
      else
        (readWord verb.switches progress word).bind fun progress =>
          readBehind verb progress rest

/-- Whether the words behind `help` name at most one command. -/
def asksHelp : List String → Bool
  | [] => true
  | [word] => word == "help" || (Verb.named? word).isSome
  | _ => false

/-- The command that a word and the switches behind it ask for. -/
def Verb.command (verb : Verb) (given : Given) : Except Ending Command :=
  let form := given.format.getD .text
  match verb with
  | .exportSchema =>
      match given.snapshot with
      | some path => .ok (.exportSchema path given.out given.maxConcurrent)
      | none => .error .refused
  | .listEdges =>
      match given.tables with
      | some path => .ok (.listEdges path given.onlyEdges form)
      | none => .error .refused
  | .listLive =>
      match given.ast with
      | some path => .ok (.listLive path form)
      | none => .error .refused
  | .listKinds =>
      match given.ast with
      | some path => .ok (.listKinds path form)
      | none => .error .refused
  | .printDefaults => .ok .printDefaults

/-- Joins what is said before the command with what is said behind it. -/
def invocation (verb : Verb) (before behind : Given) :
    Except Ending Invocation :=
  (verb.command behind).map fun command =>
    ⟨before.verbose || behind.verbose, behind.config <|> before.config, command⟩

/-- Reads words before the command, and then the command. -/
def readWords : Progress → List String → Except Ending Invocation
  | _, [] => .error .refused
  | (given, pending), word :: rest =>
      match pending, Verb.named? word with
      | none, some verb =>
          (readBehind verb (.nothing, none) rest).bind (invocation verb given)
      | _, _ =>
          if word = "--" then .error .refused
          else if pending.isNone && word = "help" then
            .error (if asksHelp rest then .help else .refused)
          else
            (readWord leadingSwitches (given, pending) word).bind
              fun progress => readWords progress rest

def read (words : List String) : Except Ending Invocation :=
  readWords (.nothing, none) words

end SchemaAtlas.CommandLine
