import RunHistory.Number.Whole
import RunHistory.Record.Basic

/-!
# Facts about an entity

What the information in a record says of every kind of entity: when it started and finished, how it
ended, and how long it took.

## Main definitions

* `field`: the value of a field of information.
* `Facts`: what is known of any entity.
* `Facts.ofRecord`: the facts in a record.
* `Facts.timeTaken`: how long the entity took.
-/

namespace RunHistory

/-- The value of a field of information; a field that is not there counts as null. -/
def field (info : Table Value) (name : String) : Value := (info.get? name).getD .null

/-- What is known of any entity. -/
structure Facts where
  /-- The id, without blanks around it. -/
  id : String
  /-- When it started. -/
  startTime : Option Int
  /-- When it finished. -/
  finishTime : Option Int
  /-- How it ended. -/
  status : Option String
  /-- What is said about how it ended. -/
  diagnostics : Option String
  /-- All information. -/
  info : Table Value
  deriving Inhabited

namespace Facts

/-- The information in a record, empty if it has none. -/
def infoOf (r : Record) : Table Value := r.info.getD .empty

/-- The facts in a record. -/
def ofRecord (r : Record) : Except Failure Facts := do
  let info := infoOf r
  let startTime ← (field info "startTime").whole?
  let finishTime ← (field info "endTime").whole?
  return ⟨r.key, startTime, finishTime, (field info "status").text?,
    (field info "diagnostics").text?, info⟩

/-- The time from the start to the finish, if both are known. -/
def span (f : Facts) : Option Int :=
  match f.startTime, f.finishTime with
  | some first, some last => some (last - first)
  | _, _ => none

/-- How long the entity took: what its information says, and else the time from its start to its
finish. -/
def timeTaken (f : Facts) : Except Failure (Option Int) := do
  match ← (field f.info "timeTaken").whole? with
  | some taken => return some taken
  | none => return f.span

end Facts

end RunHistory
