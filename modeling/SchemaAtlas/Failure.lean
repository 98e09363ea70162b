import SchemaAtlas.Json.Fault

/-!
# Failures

Everything that can go wrong, by what was being done.  `Failure.text` is what
happened, `Failure.message` puts the kind of failure in front of it, and
`Failure.cause?` is the fault underneath, if one is known.
-/

namespace SchemaAtlas

/-- Why a file could not be read or written. -/
inductive FileFault where
  | notFound
  | permissionDenied
  | isDirectory
  | notDirectory
  | nameTooLong
  /-- The path holds a null character. -/
  | nullInPath
  | notText
  | other (detail : String)
deriving DecidableEq, Inhabited

/-- The sentence that reports a file fault. -/
def FileFault.message : FileFault → String
  | .notFound => "No such file or directory (os error 2)"
  | .permissionDenied => "Permission denied (os error 13)"
  | .isDirectory => "Is a directory (os error 21)"
  | .notDirectory => "Not a directory (os error 20)"
  | .nameTooLong => "File name too long (os error 36)"
  | .nullInPath => "file name contained an unexpected NUL byte"
  | .notText => "stream did not contain valid UTF-8"
  | .other detail => detail

inductive Failure where
  /-- A file could not be read or written. -/
  | file (text : String) (fault : FileFault)
  /-- The settings cannot be used. -/
  | settings (text : String) (field : Option String)
  /-- A query was refused by the parser. -/
  | parse (text : String) (input : Option String)
  /-- The database did not answer a statement as it should. -/
  | query (statement text : String)
  /-- A value is not allowed. -/
  | validation (text : String) (field : Option String)
  /-- Data of a format could not be read; `cause` is the message of the fault
  in it. -/
  | format (text : String) (name : Option String) (cause : Option String)
  | codec (text : String)
  | saving (text : String) (path : Option String) (fault : Option FileFault)
deriving DecidableEq, Inhabited

namespace Failure

/-- What happened, without the kind of failure. -/
def text : Failure → String
  | .file text _ => text
  | .settings text _ => text
  | .parse text _ => text
  | .query _ text => text
  | .validation text _ => text
  | .format text _ _ => text
  | .codec text => text
  | .saving text _ _ => text

/-- What happened, behind the kind of failure. -/
def message : Failure → String
  | .file text _ => "I/O error: " ++ text
  | .settings text _ => "Configuration error: " ++ text
  | .parse text _ => "Parse error: " ++ text
  | .query statement text => "Query error in '" ++ statement ++ "': " ++ text
  | .validation text _ => "Validation error: " ++ text
  | .format text _ _ => "Serialization error: " ++ text
  | .codec text => "Codec error: " ++ text
  | .saving text _ _ => "Persistence error: " ++ text

/-- The message of the fault underneath. -/
def cause? : Failure → Option String
  | .file _ fault => some fault.message
  | .format _ _ cause => cause
  | .saving _ _ fault => fault.map FileFault.message
  | _ => none

/--
Says in what context the failure arose.  Failures of files, formats, codecs
and saving take the context in front of their text; the others say enough by
themselves and stay as they are.
-/
def within (context : String) : Failure → Failure
  | .file text fault => .file (context ++ ": " ++ text) fault
  | .format text name cause => .format (context ++ ": " ++ text) name cause
  | .codec text => .codec (context ++ ": " ++ text)
  | .saving text path fault => .saving (context ++ ": " ++ text) path fault
  | other => other

/--
The reason that is given for a refused query: the text alone where the refusal
is what was asked for, the whole message where something else went wrong.
-/
def rejection : Failure → String
  | .parse text _ => text
  | .validation text _ => text
  | other => other.message

def ofFile (fault : FileFault) : Failure := .file "I/O operation failed" fault

def ofJson (fault : Json.Fault) : Failure :=
  .format ("JSON serialization failed: " ++ fault.message) (some "JSON")
    (some fault.message)

/-- The failure to read YAML, of which `detail` is the message. -/
def ofYaml (detail : String) : Failure :=
  .format ("YAML serialization failed: " ++ detail) (some "YAML") (some detail)

end Failure

end SchemaAtlas
