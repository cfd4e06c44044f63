import RunHistory.Info.Lookup
import RunHistory.Ingest

/-!
# Linking the records of a run

The records held for a run are linked into its tree from the top: first the run itself, then its
vertices, then the tasks, each in the vertex that its id names, and last the attempts, each in the
task that its id names.  The relations of an attempt's record are written into its information
before the attempt is made from it.  Linking ends at the first record that has no place.

## Main definitions

* `Link.dag`, `Link.withVertices`, `Link.task`, `Link.attempt`: the four stages.
* `Link.putTask`, `Link.putAttempt`: putting an entity into its place.
* `Link.withoutAttempts`, `Link.placeAttempts`: the last stage by itself.
* `Linked`, `State.link`: the tree of a run, with the notices given, and what is known of the run
  afterwards.
-/

namespace RunHistory

namespace Link

/-! ### The stages -/

/-- The run by itself. -/
def dag (s : State) : Except Failure Dag :=
  match s.dags.values with
  | r :: _ => Dag.ofRecord r
  | [] => .error (.noRun s.run)

/-- A run with vertices added. -/
def withVertices (d : Dag) (vertices : List Vertex) : Dag := vertices.foldl Dag.addVertex d

/-- The task of a record, with the id of the vertex that holds it. -/
def task (d : Dag) (r : Record) : Except Failure (VertexId × Task) := do
  let t ← Task.ofRecord r
  let id ← TaskId.ofValue (.str t.id)
  match d.vertices.get? id.vertex.text with
  | some _ => return (id.vertex, t)
  | none => .error (.noVertex id.vertex.text t.id)

/-- A run with a task put into one of its vertices. -/
def putTask (d : Dag) (placed : VertexId × Task) : Dag :=
  let key := placed.1.text
  match d.vertices.get? key with
  | some v => { d with vertices := d.vertices.set key (v.addTask placed.2) }
  | none => d

/-- The attempt of a record, with the id of the task that holds it. -/
def attempt (d : Dag) (r : Record) : Except Failure (TaskId × Attempt) := do
  let a ← Attempt.ofRecord r.withRelations
  let id ← AttemptId.ofValue (.str a.id)
  match ← d.task? (.str id.task.text) with
  | some _ => return (id.task, a)
  | none => .error (.noTask id.task.text a.id)

/-- A vertex with an attempt put into one of its tasks. -/
def putAttemptIn (v : Vertex) (key : String) (a : Attempt) : Vertex :=
  match v.tasks.get? key with
  | some t => { v with tasks := v.tasks.set key (t.addAttempt a) }
  | none => v

/-- A run with an attempt put into one of its tasks. -/
def putAttempt (d : Dag) (placed : TaskId × Attempt) : Dag :=
  let key := placed.1.vertex.text
  match d.vertices.get? key with
  | some v =>
    { d with vertices := d.vertices.set key (putAttemptIn v placed.1.text placed.2) }
  | none => d

/-- What is known of a run after the relations of its first attempts were written into their
information. -/
def related (s : State) (count : Nat) : State :=
  { s with attempts := s.attempts.mapFirst count Record.withRelations }

/-- What is known of a run but for its attempts. -/
def withoutAttempts (s : State) : State := { s with attempts := .empty }

/-- What the last stage of linking results in. -/
def placeAttempts (filled : Dag) (attempts : Progress Failure (TaskId × Attempt)) : Outcome Dag :=
  let told := attempts.done.map fun p => Notice.attemptParsed p.2.id
  match attempts.failure with
  | some e => .refuse told e
  | none => ⟨told, .ok (attempts.done.foldl putAttempt filled)⟩

end Link

/-! ### All together -/

/-- What linking results in. -/
structure Linked where
  /-- The tree of the run, and the notices given. -/
  outcome : Outcome Dag
  /-- What is known of the run afterwards. -/
  state : State

open Link in
/-- Link the records of a run. -/
def State.link (s : State) : Linked :=
  match dag s with
  | .error e => ⟨.refuse [] e, s⟩
  | .ok bare =>
    let vertices := upToFailure Vertex.ofRecord s.vertices.values
    let told := vertices.done.map fun v => Notice.vertexParsed v.id (bare.adopt v).name
    match vertices.failure with
    | some e => ⟨.refuse told e, s⟩
    | none =>
      let graph := withVertices bare vertices.done
      let tasks := upToFailure (task graph) s.tasks.values
      let told := told ++ tasks.done.map fun p => Notice.taskParsed p.2.id
      match tasks.failure with
      | some e => ⟨.refuse told e, s⟩
      | none =>
        let filled := tasks.done.foldl putTask graph
        let attempts := upToFailure (attempt filled) s.attempts.values
        let told := told ++ attempts.done.map fun p => Notice.attemptParsed p.2.id
        match attempts.failure with
        | some e => ⟨.refuse told e, related s (attempts.done.length + 1)⟩
        | none =>
          let tree := attempts.done.foldl putAttempt filled
          ⟨⟨told, .ok tree⟩, related s attempts.done.length⟩

end RunHistory
