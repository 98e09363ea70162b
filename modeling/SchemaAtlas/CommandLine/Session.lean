import SchemaAtlas.Folder
import SchemaAtlas.Run

/-!
# Sessions

What a program does with files, one step after another, each depending on the
answers before it.  A session is a value: `Session.on` carries it out on a
folder that is itself a value, and the program carries it out on real files.
`Session.on_bind` says that a session continued by another works on what the
first one leaves.
-/

namespace SchemaAtlas.CommandLine

/-- A dialogue with the file system that ends in a result. -/
inductive Session (α : Type) where
  | done (result : α)
  | note (line : LogLine) (rest : Session α)
  /-- Asks whether something is at a path. -/
  | probe (path : String) (next : Bool → Session α)
  /-- Reads the text of a file. -/
  | read (path : String) (next : Except FileFault String → Session α)
  | write (path content : String) (next : Except FileFault Unit → Session α)

namespace Session

variable {α β : Type}

/-- Continues a session with another that depends on its result. -/
protected def bind : Session α → (α → Session β) → Session β
  | .done result, next => next result
  | .note line rest, next => .note line (rest.bind next)
  | .probe path following, next =>
      .probe path fun answer => (following answer).bind next
  | .read path following, next =>
      .read path fun answer => (following answer).bind next
  | .write path content following, next =>
      .write path content fun answer => (following answer).bind next

instance : Monad Session where
  pure := .done
  bind := Session.bind

@[simp] theorem pure_bind_done (result : α) (next : α → Session β) :
    Session.bind (.done result) next = next result := rfl

/-- Ending changes nothing, and it does not matter how a sequence of sessions
is grouped. -/
instance : LawfulMonad Session :=
  .mk' Session
    (fun session => by
      induction session with
      | done result => rfl
      | note line rest induction => exact congrArg (Session.note line) induction
      | probe path next induction =>
          exact congrArg (Session.probe path) (funext induction)
      | read path next induction =>
          exact congrArg (Session.read path) (funext induction)
      | write path content next induction =>
          exact congrArg (Session.write path content) (funext induction))
    (fun _ _ => rfl)
    (fun session second third => by
      induction session with
      | done result => rfl
      | note line rest induction => exact congrArg (Session.note line) induction
      | probe path next induction =>
          exact congrArg (Session.probe path) (funext induction)
      | read path next induction =>
          exact congrArg (Session.read path) (funext induction)
      | write path content next induction =>
          exact congrArg (Session.write path content) (funext induction))

/-- Writes lines to the log and goes on. -/
def notes (lines : List LogLine) (rest : Session α) : Session α :=
  lines.foldr .note rest

def ofRun (run : Run α) : Session α := notes run.log (.done run.result)

/-- The first text that some acts write to a file. -/
def firstWrite? (acts : List Act) : Option (String × String) :=
  acts.findSome? fun
    | .write path content => some (path, content)
    | _ => none

/-- Carries out an attempt that writes at most one file; the attempt is given
how the writing ends, which it does not depend on before it writes. -/
def ofAttempt (attempt : Except FileFault Unit → Attempt α) :
    Session (Except Failure α) :=
  match firstWrite? (attempt (.ok ())).acts with
  | none => ofRun (attempt (.ok ())).run
  | some (path, content) =>
      .write path content fun answer => ofRun (attempt answer).run

/-- What is left when a session has been carried out. -/
structure Outcome (α : Type) where
  result : α
  log : List LogLine
  folder : Folder

def on (folder : Folder) : Session α → Outcome α
  | .done result => ⟨result, [], folder⟩
  | .note line rest =>
      let outcome := rest.on folder
      { outcome with log := line :: outcome.log }
  | .probe path next => (next (folder.has path)).on folder
  | .read path next => (next (folder.read path)).on folder
  | .write path content next =>
      match folder.write path content with
      | .ok changed => (next (.ok ())).on changed
      | .error fault => (next (.error fault)).on folder

/-- The outcome of a session that begins where another has ended. -/
def Outcome.behind (log : List LogLine) (outcome : Outcome α) : Outcome α :=
  { outcome with log := log ++ outcome.log }

@[simp] theorem on_done (folder : Folder) (result : α) :
    (Session.done result).on folder = ⟨result, [], folder⟩ := rfl

/-- A session continued by another works on the folder that the first one
leaves, and the log goes on. -/
theorem on_bind (folder : Folder) (session : Session α) (next : α → Session β) :
    (session.bind next).on folder =
      ((next (session.on folder).result).on (session.on folder).folder).behind
        (session.on folder).log := by
  induction session generalizing folder with
  | done result => rfl
  | note line rest induction =>
      simp only [Session.bind, Session.on, induction, Outcome.behind,
        List.cons_append]
  | probe path following induction => exact induction _ folder
  | read path following induction => exact induction _ folder
  | write path content following induction =>
      simp only [Session.bind, Session.on]
      split
      · exact induction _ _
      · exact induction _ folder

/-- Writing to the log changes neither the folder nor the result. -/
theorem on_notes (folder : Folder) (lines : List LogLine) (rest : Session α) :
    (notes lines rest).on folder = (rest.on folder).behind lines := by
  induction lines with
  | nil => rfl
  | cons line lines induction =>
      have unfolded :
          notes (line :: lines) rest = .note line (notes lines rest) := rfl
      simp only [unfolded, Session.on, induction, Outcome.behind,
        List.cons_append]

/-- A run ends in its result and leaves the folder as it was. -/
theorem on_ofRun (folder : Folder) (run : Run α) :
    (ofRun run).on folder = ⟨run.result, run.log, folder⟩ := by
  rw [ofRun, on_notes, on_done, Outcome.behind, List.append_nil]

end Session

end SchemaAtlas.CommandLine
