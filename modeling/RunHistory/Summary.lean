import RunHistory.Info.Tree

/-!
# Summaries

What is told of a run at a glance: of every entity the id and how it ended, names and times where
they matter, and the tree in between.

## Main definitions

* `AttemptSummary`, `TaskSummary`, `VertexSummary`, `DagSummary`: the entities at a glance.
* `Dag.summary`: a run at a glance.
-/

namespace RunHistory

/-- An attempt at a glance. -/
structure AttemptSummary where
  /-- The id. -/
  id : String
  /-- How it ended. -/
  status : Option String
  /-- The node that it ran on. -/
  node : Option String
  /-- The container that it ran in. -/
  container : Option String
  deriving DecidableEq, Repr

/-- A task at a glance. -/
structure TaskSummary where
  /-- The id. -/
  id : String
  /-- How it ended. -/
  status : Option String
  /-- Its attempts. -/
  attempts : List AttemptSummary
  deriving DecidableEq, Repr

/-- A vertex at a glance. -/
structure VertexSummary where
  /-- The id. -/
  id : String
  /-- The name. -/
  name : Option String
  /-- How it ended. -/
  status : Option String
  /-- Its tasks. -/
  tasks : List TaskSummary
  deriving DecidableEq, Repr

/-- A run at a glance. -/
structure DagSummary where
  /-- The id. -/
  id : String
  /-- The name. -/
  name : Option String
  /-- How it ended. -/
  status : Option String
  /-- How long it took. -/
  timeTaken : Option Int
  /-- Its vertices. -/
  vertices : List VertexSummary
  deriving DecidableEq, Repr

/-- An attempt at a glance. -/
def Attempt.summary (a : Attempt) : AttemptSummary := ⟨a.id, a.status, a.node, a.container⟩

/-- A task at a glance. -/
def Task.summary (t : Task) : TaskSummary :=
  ⟨t.id, t.status, t.attempts.values.map Attempt.summary⟩

/-- A vertex at a glance. -/
def Vertex.summary (v : Vertex) : VertexSummary :=
  ⟨v.id, v.name, v.status, v.tasks.values.map Task.summary⟩

/-- A run at a glance. -/
def Dag.summary (d : Dag) : Except Failure DagSummary :=
  d.timeTaken.map fun taken =>
    ⟨d.id, d.name, d.status, taken, d.vertices.values.map Vertex.summary⟩

end RunHistory
