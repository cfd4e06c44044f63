import RunHistory.Failure

/-!
# Notices

While a history is read, notice is given of records that are passed over, of entities that found
their place, and of what makes a history useless.

## Main definitions

* `Notice`: what notice is given of.
* `Notice.level`, `Notice.message`: how grave it is, and its wording.
* `Failure.notice?`: the notice that goes with a failure.
* `Outcome`: a result with the notices given on the way to it.
-/

namespace RunHistory

/-- How grave a notice is. -/
inductive Level where
  /-- A detail. -/
  | debug
  /-- News. -/
  | info
  /-- Something odd. -/
  | warning
  /-- Something wrong. -/
  | error
  deriving DecidableEq, Repr

/-- The name of a level. -/
def Level.name : Level → String
  | .debug => "DEBUG"
  | .info => "INFO"
  | .warning => "WARNING"
  | .error => "ERROR"

/-- What notice is given of. -/
inductive Notice where
  /-- A record about something that is no entity. -/
  | ignored (entity label : String)
  /-- A record about another run than the wanted one. -/
  | otherRun (wanted owner : String)
  /-- A record about an entity of another run than the wanted one. -/
  | foreign (entity wanted : String)
  /-- The record of the run is missing. -/
  | runMissing
  /-- A vertex found its place. -/
  | vertexParsed (id : String) (name : Option String)
  /-- A task found its place. -/
  | taskParsed (id : String)
  /-- An attempt found its place. -/
  | attemptParsed (id : String)
  /-- The vertex of a task is missing. -/
  | vertexMissing (vertex task : String)
  /-- The task of an attempt is missing. -/
  | taskMissing (task attempt : String)
  /-- A file could not be read. -/
  | readingFailed (path reason : String)
  /-- A history was read to its end. -/
  | parsed (run : String) (vertices tasks attempts skipped : Nat)
  deriving DecidableEq, Repr

namespace Notice

/-- How grave a notice is. -/
def level : Notice → Level
  | .ignored _ _ | .vertexParsed _ _ | .taskParsed _ | .attemptParsed _ => .debug
  | .parsed _ _ _ _ _ => .info
  | .otherRun _ _ | .foreign _ _ => .warning
  | .runMissing | .vertexMissing _ _ | .taskMissing _ _ | .readingFailed _ _ => .error

/-- The wording of a notice. -/
def message : Notice → String
  | .ignored entity label => "Ignoring " ++ entity ++ " of unknown type " ++ label
  | .otherRun wanted owner => wanted ++ " is not matching with " ++ owner
  | .foreign entity wanted => entity ++ " does not belong to " ++ wanted
  | .runMissing => "Dag is not yet parsed. Looks like partial file."
  | .vertexParsed id name => "Parsed vertex " ++ id ++ " (" ++ name.getD "None" ++ ")"
  | .taskParsed id => "Parsed task " ++ id
  | .attemptParsed id => "Parsed task attempt " ++ id
  | .vertexMissing vertex task => "VertexInfo for " ++ vertex ++ " not found for task " ++ task
  | .taskMissing task attempt => "TaskInfo for " ++ task ++ " not found for attempt " ++ attempt
  | .readingFailed path reason => "Error in reading DAG from " ++ path ++ ": " ++ reason
  | .parsed run vertices tasks attempts skipped =>
    "Parsed " ++ run ++ ": " ++ toString vertices ++ " vertices, " ++ toString tasks ++ " tasks, "
      ++ toString attempts ++ " attempts (" ++ toString skipped ++ " foreign records skipped)"

end Notice

/-- The notice that goes with a failure, if one does. -/
def Failure.notice? : Failure → Option Notice
  | .noRun _ => some .runMissing
  | .noVertex vertex task => some (.vertexMissing vertex task)
  | .noTask task attempt => some (.taskMissing task attempt)
  | .unreadable path fault => some (.readingFailed path fault.message)
  | .unopened path reason => some (.readingFailed path reason)
  | _ => none

/-- A result with the notices given on the way to it. -/
structure Outcome (α : Type) where
  /-- The notices, in order. -/
  notices : List Notice
  /-- The result. -/
  result : Except Failure α

namespace Outcome

/-- Stop at a failure, with its notice. -/
def refuse {α : Type} (notices : List Notice) (failure : Failure) : Outcome α :=
  ⟨notices ++ failure.notice?.toList, .error failure⟩

/-- Go on with a result, if there is one; the notices add up. -/
def andThen {α β : Type} (first : Outcome α) (next : α → Outcome β) : Outcome β :=
  match first.result with
  | .error failure => ⟨first.notices, .error failure⟩
  | .ok a =>
    let second := next a
    ⟨first.notices ++ second.notices, second.result⟩

@[simp] theorem result_refuse {α : Type} (notices : List Notice) (failure : Failure) :
    (refuse notices failure : Outcome α).result = .error failure := rfl

theorem result_andThen {α β : Type} (first : Outcome α) (next : α → Outcome β) :
    (first.andThen next).result = first.result.bind fun a => (next a).result := by
  unfold andThen
  cases h : first.result <;> rfl

end Outcome

end RunHistory
