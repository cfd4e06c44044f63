import RunHistory.HistoryFile
import RunHistory.Summary

/-!
# Answering requests

A request names a run and the path of a history file.  Only files in the history directory are
opened; where a path leads is decided by its names alone.  A request is answered with the summary of
the run, or refused with a status that says why.

## Main definitions

* `Service`: where requests are answered.
* `Service.locate`: the location that a path leads to, if it is in the history directory.
* `Reply`, `Service.reply`: the answer to a request.
* `health`: the answer to the question whether the service is there.
-/

namespace RunHistory

/-- Where requests are answered. -/
structure Service where
  /-- Where the service stands. -/
  here : Location
  /-- The path of the history directory. -/
  directory : String
  /-- How history files are written and read. -/
  configuration : Configuration

/-- The answer to a request. -/
inductive Reply where
  /-- The summary of the run. -/
  | summary (summary : DagSummary)
  /-- The request is refused. -/
  | refused (status : Nat) (detail : String)
  deriving DecidableEq, Repr

/-- The status of a request that was answered. -/
def Reply.status : Reply → Nat
  | .summary _ => 200
  | .refused status _ => status

/-- The status with which a failure of a category is answered; the categories that nobody expects
are not answered. -/
def Failure.Category.status? : Failure.Category → Option Nat
  | .invalidArgument => some 400
  | .malformedInput => some 422
  | .incompleteLog => some 404
  | .historyIO => some 500
  | _ => none

namespace Service

/-- The location of the history directory. -/
def base (s : Service) : Location := (Path.ofText s.directory).resolve s.here

/-- The location that a path leads to from the history directory, if it is in there. -/
def locate (s : Service) (path : String) : Option Location :=
  let target := (Path.ofText path).resolve s.base
  if target.within s.base then some target else none

/-- The refusal of a path that leads out of the history directory. -/
def outside : Reply := .refused 400 "Path is outside the history directory"

/-- The answer to a request for the run in the file at a location. -/
def replyAt (s : Service) (files : Files) (target : Location) (wanted : String) :
    Except Failure Reply :=
  let source : Source := ⟨some target.text, target.text, files target⟩
  match (parse s.configuration source (.str wanted)).result with
  | .ok d => d.summary.map .summary
  | .error e =>
    match e.category.status? with
    | some status => .ok (.refused status e.message)
    | none => .error e

/-- The answer to a request for a run in the file of a path. -/
def reply (s : Service) (files : Files) (wanted path : String) : Except Failure Reply :=
  if holdsZero s.directory || holdsZero path then .error .zeroInPath
  else
    match s.locate path with
    | none => .ok outside
    | some target => s.replyAt files target wanted

end Service

/-- The answer to the question whether the service is there. -/
def health : String := "ok"

end RunHistory
