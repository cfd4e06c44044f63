import RunHistory.Info.Facts
import RunHistory.Record.Relation

/-!
# The tree of a run

A run has vertices, a vertex has tasks, and a task has attempts.  Each of them carries its facts,
what is said of its kind only, and the id of what holds it.  Vertices, tasks and attempts are kept
by id in the order in which they were added.

## Main definitions

* `Attempt`, `Task`, `Vertex`, `Dag`: the entities of a run.
* `Attempt.ofRecord`, `Task.ofRecord`, `Vertex.ofRecord`, `Dag.ofRecord`: entities by themselves.
* `Dag.nameOf?`: the name that a run gives to a vertex.
* `Dag.addVertex`, `Vertex.addTask`, `Task.addAttempt`: putting one entity into another.
-/

namespace RunHistory

/-- An attempt at a task. -/
structure Attempt extends Facts where
  /-- The node that it ran on. -/
  node : Option String
  /-- The container that it ran in. -/
  container : Option String
  /-- The id of the task that holds it. -/
  holder : Option String
  deriving Inhabited

/-- A task of a vertex. -/
structure Task extends Facts where
  /-- The id of the attempt that succeeded, as the information says. -/
  successfulId : Option String
  /-- The attempts, by id. -/
  attempts : Table Attempt
  /-- The id of the vertex that holds it. -/
  holder : Option String
  deriving Inhabited

/-- A vertex of a run. -/
structure Vertex extends Facts where
  /-- Its name. -/
  name : Option String
  /-- The number of its tasks, as the information says. -/
  taskCount : Option Int
  /-- When it was initialized. -/
  initTime : Option Int
  /-- The tasks, by id. -/
  tasks : Table Task
  /-- The id of the run that holds it. -/
  holder : Option String
  deriving Inhabited

/-- A run of a graph. -/
structure Dag extends Facts where
  /-- Its name. -/
  name : Option String
  /-- The ids of vertices, by the names that the run gives them. -/
  vertexIds : Table String
  /-- The vertices, by id. -/
  vertices : Table Vertex
  deriving Inhabited

/-! ### Entities by themselves -/

/-- The attempt that a record tells of. -/
def Attempt.ofRecord (r : Record) : Except Failure Attempt := do
  let facts ← Facts.ofRecord r
  return { facts with
    node := (field facts.info Relation.node).text?
    container := (field facts.info Relation.container).text?
    holder := none }

/-- The task that a record tells of, without attempts. -/
def Task.ofRecord (r : Record) : Except Failure Task := do
  let facts ← Facts.ofRecord r
  return { facts with
    successfulId := (field facts.info "successfulAttemptId").text?
    attempts := .empty
    holder := none }

/-- The vertex that a record tells of, without tasks. -/
def Vertex.ofRecord (r : Record) : Except Failure Vertex := do
  let facts ← Facts.ofRecord r
  let taskCount ← (field facts.info "numTasks").whole?
  let initTime ← (field facts.info "initTime").whole?
  return { facts with
    name := (field facts.info "vertexName").text?
    taskCount := taskCount
    initTime := initTime
    tasks := .empty
    holder := none }

/-- The name of a run in its plan, which may be missing or anything. -/
def Dag.planName (info : Table Value) : Option String :=
  ((field info "dagPlan").object?).bind fun plan => (field plan "dagName").text?

/-- The ids of vertices by name, as the information of a run gives them. -/
def Dag.vertexIdsOf (info : Table Value) : Table String :=
  match (field info "vertexNameIdMapping").object? with
  | some ids => ids.mapValues Value.text
  | none => .empty

/-- The run that a record tells of, without vertices. -/
def Dag.ofRecord (r : Record) : Except Failure Dag := do
  let facts ← Facts.ofRecord r
  return { facts with
    name := Dag.planName facts.info
    vertexIds := Dag.vertexIdsOf facts.info
    vertices := .empty }

/-! ### Building the tree -/

/-- The attempt that succeeded, if the task has it. -/
def Task.successful? (t : Task) : Option Attempt := t.successfulId.bind t.attempts.get?

/-- Put an attempt into a task. -/
def Task.addAttempt (t : Task) (a : Attempt) : Task :=
  { t with attempts := t.attempts.set a.id { a with holder := some t.id } }

/-- Put a task into a vertex. -/
def Vertex.addTask (v : Vertex) (t : Task) : Vertex :=
  { v with tasks := v.tasks.set t.id { t with holder := some v.id } }

/-- The first name that a run gives to a vertex. -/
def Dag.nameOf? (d : Dag) (vertexId : String) : Option String :=
  (d.vertexIds.entries.find? fun e => e.2 == vertexId).map Prod.fst

/-- A vertex as a run holds it: without a name of its own it takes the one that the run gives it. -/
def Dag.adopt (d : Dag) (v : Vertex) : Vertex :=
  { v with name := v.name.or (d.nameOf? v.id), holder := some d.id }

/-- Put a vertex into a run. -/
def Dag.addVertex (d : Dag) (v : Vertex) : Dag :=
  { d with vertices := d.vertices.set v.id (d.adopt v) }

/-! ### All tasks and attempts -/

/-- The attempts of a vertex. -/
def Vertex.attempts (v : Vertex) : List Attempt := v.tasks.values.flatMap (·.attempts.values)

/-- The tasks of a run. -/
def Dag.tasks (d : Dag) : List Task := d.vertices.values.flatMap (·.tasks.values)

/-- The attempts of a run. -/
def Dag.attempts (d : Dag) : List Attempt := d.vertices.values.flatMap (·.attempts)

end RunHistory
