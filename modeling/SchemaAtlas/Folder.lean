import SchemaAtlas.Failure
import SchemaAtlas.Text.Blank

/-!
# A folder of files

The files that a program works on, as a value.  Paths are read relative to the
folder: blank parts and dots change nothing, two dots lead to what encloses a
directory, and a path that ends in a slash or a dot has to be a directory.

A place is given by the parts that lead to it from the folder.  The
directories that enclose the folder are open: two dots as the first parts of a
place stand for them, and nothing else is known to be in them.  A slash as the
first part stands for the root of all directories, in which there are the
directory of devices with the one that holds nothing and the directory of
temporary files.
-/

namespace SchemaAtlas

inductive Entry where
  /-- A file with its text; `none` if its bytes are not UTF-8. -/
  | file (text : Option String)
  | directory
deriving DecidableEq, Inhabited

/-- Files and directories by the parts of their paths.  A directory is also
there if something is in it. -/
structure Folder where
  entries : List (List String × Entry)
deriving Inhabited

namespace Folder

def empty : Folder := ⟨[]⟩

/-- The root of all directories. -/
def root : List String := ["/"]

/-- The directories that are there on every system. -/
def systemDirectories : List (List String) := [root, ["/", "dev"], ["/", "tmp"]]

/-- The device that holds nothing and keeps nothing. -/
def nullDevice : List String := ["/", "dev", "null"]

/-- Whether a place is the folder itself or a directory that encloses it. -/
def encloses (place : List String) : Bool := place.all (· == "..")

/-- Whether a place lies in the folder. -/
def isInside (place : List String) : Bool :=
  place.head? != some ".." && place.head? != some "/"

/-- What the parts of a path lead to. -/
def at? (folder : Folder) (place : List String) : Option Entry :=
  if encloses place || systemDirectories.contains place then some .directory
  else if place = nullDevice then some (.file (some ""))
  else
    match folder.entries.find? fun entry => entry.1 == place with
    | some entry => some entry.2
    | none =>
        if folder.entries.any fun entry => place.isPrefixOf entry.1 then
          some .directory
        else none

/-- The longest name of a file, in bytes. -/
def longestName : Nat := 255

/-- The longest path, in bytes. -/
def longestPath : Nat := 4095

/-- The directory that a place lies in; the root lies in itself. -/
def parent (place : List String) : List String :=
  if encloses place then place ++ [".."]
  else if place = root then root
  else place.dropLast

/-- Follows the parts of a path from a place; gives the place that they lead
to. -/
def walk (folder : Folder) (place : List String) :
    List String → Except FileFault (List String)
  | [] => .ok place
  | part :: rest =>
      match folder.at? place with
      | none => .error .notFound
      | some (.file _) => .error .notDirectory
      | some .directory =>
          if part = "" || part = "." then walk folder place rest
          else if part = ".." then walk folder (parent place) rest
          else if longestName < part.utf8ByteSize then .error .nameTooLong
          else walk folder (place ++ [part]) rest

/-- The parts of a path, if it can be a path at all. -/
def parts (path : String) : Except FileFault (List String) :=
  if path.toList.contains '\x00' then .error .nullInPath
  else if path.isEmpty then .error .notFound
  else if longestPath < path.utf8ByteSize then .error .nameTooLong
  else .ok ((path.toList.splitOn '/').map String.ofList)

/-- The place from which a path leads on. -/
def origin (path : String) : List String :=
  if path.toList.head? = some '/' then root else []

def resolve (folder : Folder) (path : String) :
    Except FileFault (List String) := do
  folder.walk (origin path) (← parts path)

def has (folder : Folder) (path : String) : Bool :=
  match folder.resolve path with
  | .ok place => (folder.at? place).isSome
  | .error _ => false

def read (folder : Folder) (path : String) : Except FileFault String := do
  let place ← folder.resolve path
  match folder.at? place with
  | none => .error .notFound
  | some .directory => .error .isDirectory
  | some (.file none) => .error .notText
  | some (.file (some text)) => .ok text

/-- Puts a file at a place, instead of what was there. -/
def put (folder : Folder) (place : List String) (entry : Entry) : Folder :=
  if folder.entries.any fun other => other.1 == place then
    ⟨folder.entries.map fun other =>
      if other.1 == place then (place, entry) else other⟩
  else ⟨folder.entries ++ [(place, entry)]⟩

/-- The parts of a path up to its last name, for a path that ends in a slash;
`none` for any other path. -/
def directoryParts? (parts : List String) : Option (List String) :=
  match (parts.reverse.dropWhile (· == "")) with
  | [] => if parts.length ≤ 1 then none else some []
  | _ :: earlier =>
      if parts.getLast? = some "" then some earlier.reverse else none

/--
Writes a text to the file at a path, making the file if its directory is
there.  A path that ends in a slash never names a file, whatever there is at
its last name.
-/
def write (folder : Folder) (path content : String) :
    Except FileFault Folder := do
  let parts ← parts path
  match directoryParts? parts with
  | some earlier =>
      let place ← folder.walk (origin path) earlier
      match folder.at? place with
      | none => .error .notFound
      | some (.file _) => .error .notDirectory
      | some .directory => .error .isDirectory
  | none =>
      let place ← folder.walk (origin path) parts
      match folder.at? place, folder.at? place.dropLast with
      | some .directory, _ => .error .isDirectory
      | none, none => .error .notFound
      | none, some (.file _) => .error .notDirectory
      | _, _ =>
          if place = nullDevice then .ok folder
          else .ok (folder.put place (.file (some content)))

end Folder

end SchemaAtlas
