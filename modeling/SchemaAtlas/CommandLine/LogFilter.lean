import SchemaAtlas.Decimal.Written
import SchemaAtlas.Log
import SchemaAtlas.Pattern.Reader
import SchemaAtlas.Text.Digits

/-!
# Log filters

Which lines of the log are shown.  A filter is a list of directives, each of
which sets a limit to the levels of the lines that it is about; the most
specific directive that is about a line decides on it.

A directive is written as a level, or as the beginning of the topics it is
about, which a span in brackets, a field in braces inside of them, and a level
behind an equals sign may follow: `topic`, `topic=level`, `topic[span]=level`,
`[{field=value}]=level` and so on.  A value is a number or a pattern.
-/

namespace SchemaAtlas.CommandLine

/-- How much a level lets through, from nothing at 0 to everything at 5. -/
def rank : Level → Nat
  | .error => 1
  | .warn => 2
  | .info => 3
  | .debug => 4
  | .trace => 5

/-- A part of a filter. -/
structure Directive where
  /-- How the topics begin that the directive is about; every topic, if
  nothing is said. -/
  target : String
  /-- Whether the directive is only about what happens inside of certain
  spans.  The program opens no spans, so such a directive is about no line. -/
  spansOnly : Bool
  /-- The field that a line has to have, if one is named. -/
  field : Option String
  /-- The highest rank that is shown. -/
  limit : Nat
deriving DecidableEq, Inhabited

namespace Directive

/-- The only field of the lines of the log: their text. -/
def textField : String := "message"

/-- Whether a directive is about the lines of a topic. -/
def concerns (directive : Directive) (topic : Topic) : Bool :=
  !directive.spansOnly && topic.name.startsWith directive.target &&
    directive.field.all fun field => field == textField

/-- Whether a directive is as specific as another, or more so: the longer
target counts, and among equal ones a field. -/
def outweighs (directive other : Directive) : Bool :=
  other.target.utf8ByteSize < directive.target.utf8ByteSize ||
    (other.target.utf8ByteSize == directive.target.utf8ByteSize &&
      (other.field.isNone || directive.field.isSome))

/-! ## Written directives -/

/-- A place in a directive as it is being read. -/
structure Place where
  /-- How many bytes come before the place. -/
  offset : Nat
  /-- What is left to read. -/
  rest : List Char

namespace Place

/-- The place behind the longest run of letters in a class. -/
def skipWhile (inClass : Char → Bool) (place : Place) : Place :=
  let letters := place.rest.takeWhile inClass
  ⟨place.offset + (String.ofList letters).utf8ByteSize,
   place.rest.drop letters.length⟩

/-- The place behind one letter of ASCII. -/
def next (place : Place) : Place := ⟨place.offset + 1, place.rest.drop 1⟩

end Place

/-- The part of a text between two of its bytes; `none` if one of them lies
within a character. -/
def slice? (text : String) (start stop : Nat) : Option String :=
  String.fromUTF8? (text.toUTF8.extract start stop)

/-- The rank that a word of lower-case letters stands for. -/
def namedLimit? (word : String) : Option Nat :=
  match word with
  | "off" => some 0
  | "error" => some 1
  | "warn" => some 2
  | "info" => some 3
  | "debug" => some 4
  | "trace" => some 5
  | _ => none

/-- The rank that a text stands for, by its number or by its name in any case
of ASCII letters. -/
def limit? (text : String) : Option Nat :=
  match Text.count? text with
  | some number => if number ≤ 5 then some number else none
  | none => namedLimit? (String.ofList (text.toList.map Char.toLower))

/-- Whether a directive may begin with a letter, other than the bracket of a
span. -/
def isStart (letter : Char) : Bool :=
  Text.isAlphanumeric letter || letter = '-' || letter = ':' || letter = '_'

/-- Sets the limit that stands behind a place; where nothing stands,
everything is let through. -/
def withLimit (text : String) (directive : Directive) (place : Place) :
    Option Directive := do
  let word ← slice? text place.offset text.utf8ByteSize
  if word = "" then some directive
  else (limit? word).map fun limit => { directive with limit := limit }

/-- Reads what follows a span: nothing, or an equals sign and the limit. -/
def readBehindSpan (text : String) (directive : Directive) (place : Place) :
    Option Directive :=
  match place.rest with
  | [] => some directive
  | '=' :: _ => withLimit text directive place.next
  | _ => none

/-- The words for numbers that are no digits, in lower case. -/
def numberWords : List String := ["inf", "infinity", "nan"]

/-- Whether a text is a number. -/
def isNumber (text : String) : Bool :=
  (Decimal.Written.ofLetters? text.toList).isSome ||
    numberWords.contains
      (String.ofList ((Decimal.Written.unsigned text.toList).map Char.toLower))

/-- Whether a text may be the value of a field: a number, or a pattern that
can be used. -/
def isFieldValue (text : String) : Bool :=
  isNumber text || (Pattern.ofText? text).any (·.isUsable)

/-- The value in a written field: what stands between its first equals sign
and the next. -/
def fieldValue? (written : String) : Option String := (written.splitOn "=")[1]?

/-- Reads a field, from behind its brace.  One with a value is about spans,
even where no span is named. -/
def readField (text : String) (directive : Directive) (place : Place) :
    Option Directive := do
  let stop := place.skipWhile (· != '}')
  let written ← slice? text place.offset stop.offset
  let value := fieldValue? written
  if written = "" || !value.all isFieldValue then none
  match stop.rest with
  | '}' :: ']' :: _ =>
      let field := String.ofList (written.toList.takeWhile (· != '='))
      readBehindSpan text
        { directive with
          field := some field
          spansOnly := directive.spansOnly || value.isSome }
        stop.next.next
  | _ => none

/-- Reads a span, from behind its bracket. -/
def readSpan (text : String) (directive : Directive) (place : Place) :
    Option Directive := do
  let stop := place.skipWhile fun letter => letter != ']' && letter != '{'
  let name ← slice? text place.offset stop.offset
  match stop.rest with
  | ']' :: _ =>
      readBehindSpan text { directive with spansOnly := true } stop.next
  | '{' :: _ =>
      readField text { directive with spansOnly := name != "" } stop.next
  | _ => none

/-- The directive about everything that lets everything through. -/
def everything : Directive := ⟨"", false, none, 5⟩

/--
The directive that a text stands for.  White space around it is not read, but
the parts are cut out of the text as it stands, so white space before a
directive shifts them and white space behind it belongs to the last one.
-/
def ofText? (text : String) : Option Directive :=
  let start : Place := ⟨0, (Text.trim text).toList⟩
  match start.rest with
  | [] => none
  | '[' :: _ => readSpan text everything start.next
  | letter :: _ =>
      if isStart letter then
        let stop := start.skipWhile fun letter => letter != '=' && letter != '['
        match stop.rest with
        | '=' :: _ => do
            let target ← slice? text 0 stop.offset
            withLimit text { everything with target := target } stop.next
        | '[' :: _ => do
            let target ← slice? text 0 stop.offset
            readSpan text { everything with target := target } stop.next
        | _ =>
            match limit? text with
            | some limit => some { everything with limit := limit }
            | none => some { everything with target := text }
      else none

end Directive

/-! ## Filters -/

/-- Which lines of the log are shown. -/
structure LogFilter where
  directives : List Directive
deriving DecidableEq, Inhabited

namespace LogFilter

/-- The filter that shows the lines up to a level. -/
def upTo (level : Level) : LogFilter :=
  ⟨[{ Directive.everything with limit := rank level }]⟩

/-- The filter that a text stands for, its directives separated by commas; a
text without any lets only errors through. -/
def ofText? (text : String) : Option LogFilter :=
  match ((text.splitOn ",").filter (· ≠ "")).mapM Directive.ofText? with
  | none => none
  | some [] => some (upTo .error)
  | some directives => some ⟨directives⟩

/-- The filter to use: the one asked for, if it makes sense, or else one that
shows more when more is to be told. -/
def select (wanted : Option String) (verbose : Bool) : LogFilter :=
  (wanted.bind ofText?).getD (upTo (if verbose then .debug else .info))

/-- The directive that decides on the lines of a topic: the most specific one,
and of several the last. -/
def deciding (filter : LogFilter) (topic : Topic) : Option Directive :=
  (filter.directives.filter (·.concerns topic)).foldl (fun best next =>
    if best.all next.outweighs then some next else best) none

/-- Whether a line is shown. -/
def shows (filter : LogFilter) (line : LogLine) : Bool :=
  match filter.deciding line.topic with
  | some directive => rank line.level ≤ directive.limit
  | none => false

end LogFilter

end SchemaAtlas.CommandLine
