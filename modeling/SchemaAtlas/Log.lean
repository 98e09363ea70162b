import SchemaAtlas.Text.Quoted

/-!
# The log

Lines of the log: how much each matters, what it is about and what it says.
`LogLine.shown` is the form in which a line reaches a terminal; control
characters with which a text could steer the terminal are written by number
there.
-/

namespace SchemaAtlas

/-- How much a log line matters. -/
inductive Level where
  | error
  | warn
  | info
  | debug
  | trace
deriving DecidableEq, Inhabited

def Level.name : Level → String
  | .error => "ERROR"
  | .warn => "WARN"
  | .info => "INFO"
  | .debug => "DEBUG"
  | .trace => "TRACE"

/-- What a log line is about. -/
inductive Topic where
  | kinds
  | language
  | sources
  | exporting
  | saving
  | commands
  | settings
deriving DecidableEq, Inhabited

def Topic.name : Topic → String
  | .kinds => "surql_introspect::ast::kind"
  | .language => "surql_introspect::lang::surrealql"
  | .sources => "surql_introspect::schema::source"
  | .exporting => "surql_introspect::schema::export"
  | .saving => "surql_introspect::schema::persistence"
  | .commands => "surql_introspect::cli::commands"
  | .settings => "surql_introspect::cli::config_layer"

structure LogLine where
  level : Level
  topic : Topic
  text : String
deriving DecidableEq, Inhabited

namespace LogLine

/--
One character of a line as it is shown: the bell, the backspace, the form
feed, the escape and the delete character have two hexadecimal digits, the
control characters beyond ASCII are written like those in a quotation, and all
others stay.
-/
def shownCharacter (letter : Char) : String :=
  if letter = '\x07' then "\\x07"
  else if letter = '\x08' then "\\x08"
  else if letter = '\x0c' then "\\x0c"
  else if letter = '\x1b' then "\\x1b"
  else if letter = '\x7f' then "\\x7f"
  else if 0x80 ≤ letter.toNat && letter.toNat ≤ 0x9F then Text.numbered letter
  else letter.toString

/-- The text of a line as it is shown. -/
def shownText (line : LogLine) : String :=
  String.join (line.text.toList.map shownCharacter)

/-- A line as it is shown: its level and its text. -/
def shown (line : LogLine) : String := line.level.name ++ " " ++ line.shownText

end LogLine

end SchemaAtlas
