import SchemaAtlas.Failure
import SchemaAtlas.Log
import SchemaAtlas.SaveRequest

/-!
# Runs and attempts

A `Run` is a result together with everything that was done on the way to it,
in order: the log lines written and the calls made to the parser, the
database, the codec and the place to save.  An `Attempt` is a run that may
fail.  What the others answer is given by values, so a run is determined by
them.

`Run.result_bind` and `Run.acts_bind` say that running one thing after another
keeps results and appends what was done, so runs obey the laws of a monad, and
attempts do too.
-/

namespace SchemaAtlas

/-- The forms in which a value can be shown. -/
inductive ValueFormat where
  | json
  | surrealQl
deriving DecidableEq, Inhabited

/-- What a text is checked as. -/
inductive Checked where
  | query
  | recordId
  | whereClause
deriving DecidableEq, Inhabited

/-- One thing that a run does to the world outside. -/
inductive Act where
  | note (line : LogLine)
  | query (statement : String)
  | parse (text : String)
  /-- Has the parser lay a text out anew. -/
  | layOut (text : String) (pretty : Bool)
  | check (as : Checked) (text : String)
  | encode
  /-- Has the codec decode a binary value of a length. -/
  | decode (length : Nat)
  /-- Has the codec show a binary value of a length. -/
  | present (length : Nat) (format : ValueFormat) (pretty : Bool)
  | literal (text : String)
  | choosePath (request : SaveRequest)
  | write (path content : String)
deriving DecidableEq, Inhabited

/-- A result and what was done on the way to it. -/
structure Run (α : Type) where
  result : α
  acts : List Act

namespace Run

/-- Runs one thing and then another that depends on its result. -/
protected def bind {α β : Type} (first : Run α) (next : α → Run β) : Run β :=
  ⟨(next first.result).result, first.acts ++ (next first.result).acts⟩

instance : Monad Run where
  pure value := ⟨value, []⟩
  bind := Run.bind

variable {α β : Type}

@[simp]
theorem result_pure (value : α) : (pure value : Run α).result = value := rfl

@[simp] theorem acts_pure (value : α) : (pure value : Run α).acts = [] := rfl

/-- Two runs with the same result and the same acts are one. -/
theorem ext_parts
    {first second : Run α} (results : first.result = second.result)
    (doings : first.acts = second.acts) : first = second := by
  cases first
  cases second
  cases results
  cases doings
  rfl

@[simp] theorem result_bind (first : Run α) (next : α → Run β) :
    (first >>= next).result = (next first.result).result := rfl

@[simp] theorem acts_bind (first : Run α) (next : α → Run β) :
    (first >>= next).acts = first.acts ++ (next first.result).acts := rfl

/-- Running nothing changes nothing, and it does not matter how a sequence of
runs is grouped. -/
instance : LawfulMonad Run :=
  .mk' Run
    (fun run => ext_parts rfl (List.append_nil run.acts))
    (fun _ _ => ext_parts rfl rfl)
    (fun first second third => ext_parts rfl (List.append_assoc _ _ _))

def act (done : Act) : Run Unit := ⟨(), [done]⟩

def note (level : Level) (topic : Topic) (text : String) : Run Unit :=
  act (.note ⟨level, topic, text⟩)

/-- Writes lines of one level and topic to the log. -/
def notes (level : Level) (topic : Topic) (texts : List String) : Run Unit :=
  ⟨(), texts.map fun text => .note ⟨level, topic, text⟩⟩

/-- The log lines of a run, in order. -/
def log (run : Run α) : List LogLine :=
  run.acts.filterMap fun
    | .note line => some line
    | _ => none

/-- The statements that a run sends to the database, in order. -/
def queries (run : Run α) : List String :=
  run.acts.filterMap fun
    | .query statement => some statement
    | _ => none

end Run

/-- A run that may fail. -/
abbrev Attempt (α : Type) := ExceptT Failure Run α

namespace Attempt

/-- Does one thing and goes on with the answer to it. -/
def ask {α : Type} (done : Act) (answer : Except Failure α) : Attempt α :=
  ExceptT.mk ⟨answer, [done]⟩

/-- An outcome that needs nothing to be done. -/
def ofExcept {α : Type} (outcome : Except Failure α) : Attempt α :=
  ExceptT.mk (pure outcome)

def note (level : Level) (topic : Topic) (text : String) : Attempt Unit :=
  ExceptT.lift (Run.note level topic text)

/-- How an attempt ends. -/
def outcome {α : Type} (attempt : Attempt α) : Except Failure α :=
  attempt.run.result

/-- What an attempt does, in order. -/
def acts {α : Type} (attempt : Attempt α) : List Act := attempt.run.acts

end Attempt

end SchemaAtlas
