import RunHistory.Info.Tree

/-!
# Finding entities of a run

A vertex is found by its id or by its name, a task and an attempt by their ids alone: the ids of all
that hold them are part of theirs.

## Main definitions

* `VertexId.ofValue`, `TaskId.ofValue`, `AttemptId.ofValue`: the id that a value is.
* `Dag.vertex?`, `Dag.vertexNamed?`, `Dag.task?`, `Dag.attempt?`: the entity with an id or a name.
* `Dag.attemptsOf`: the attempts of the vertex with an id.
-/

namespace RunHistory

/-! ### Ids as values -/

/-- The text of an id, for which only text can stand. -/
def idText (kind : Kind) : Value → Except Failure String
  | .str s => .ok s
  | v => .error (.idNotText kind v)

/-- The run's id that a value is. -/
def DagId.ofValue : Value → Except Failure DagId
  | .str s => (DagId.parse s).mapError Failure.ofId
  | v => .error (.unreadableId .dag v)

/-- The vertex's id that a value is. -/
def VertexId.ofValue (v : Value) : Except Failure VertexId := do
  (VertexId.parse (← idText .vertex v)).mapError Failure.ofId

/-- The task's id that a value is. -/
def TaskId.ofValue (v : Value) : Except Failure TaskId := do
  (TaskId.parse (← idText .task v)).mapError Failure.ofId

/-- The attempt's id that a value is. -/
def AttemptId.ofValue (v : Value) : Except Failure AttemptId := do
  (AttemptId.parse (← idText .attempt v)).mapError Failure.ofId

/-! ### Finding entities -/

/-- The entity that a table has under a key.  Only text is the key of anything, and a list or an
object cannot even be asked for. -/
def entryAt {α : Type} (t : Table α) : Value → Except Failure (Option α)
  | .str s => .ok (t.get? s)
  | .list items => .error (.notKey (.list items))
  | .object fields => .error (.notKey (.object fields))
  | _ => .ok none

namespace Dag

/-- The vertex with an id. -/
def vertex? (d : Dag) (id : Value) : Except Failure (Option Vertex) := entryAt d.vertices id

/-- Whether a value is a vertex's name; null is the name of a vertex without one. -/
def isName (name : Option String) : Value → Bool
  | .str s => name == some s
  | .null => name.isNone
  | _ => false

/-- The first vertex with a name. -/
def vertexNamed? (d : Dag) (name : Value) : Option Vertex :=
  d.vertices.values.find? fun v => isName v.name name

/-- The task with an id. -/
def task? (d : Dag) (id : Value) : Except Failure (Option Task) := do
  let parsed ← TaskId.ofValue id
  match d.vertices.get? parsed.vertex.text with
  | some v => entryAt v.tasks id
  | none => return none

/-- The attempt with an id. -/
def attempt? (d : Dag) (id : Value) : Except Failure (Option Attempt) := do
  let parsed ← AttemptId.ofValue id
  match ← d.task? (.str parsed.task.text) with
  | some t => entryAt t.attempts id
  | none => return none

/-- The attempts of the vertex with an id, which must be there. -/
def attemptsOf (d : Dag) (id : Value) : Except Failure (List Attempt) := do
  match ← d.vertex? id with
  | some v => return v.attempts
  | none => .error (.noEntry id)

end Dag

end RunHistory
