import RunHistory.Link
import RunHistory.Proofs.Entity.Trimming
import RunHistory.Proofs.Info.Measurable
import RunHistory.Proofs.State.Reached
import RunHistory.Proofs.Table.Modify

/-!
# Placing the entities of a run

Linking makes an entity from each record and looks for the place that its id names.  For a record
that belongs to the run the id can be read, so the only thing that can be missing is the place.  The
entities that found one are then put there, one after the other, and each place takes in its own in
order.

## Main results

* `Link.task_spec`, `Link.attempt_spec`: **what linking makes of a record.**
* `Link.get?_foldl_putTask`, `Link.get?_foldl_putAttempt`: **what a vertex takes in.**
* `State.result_link`: linking as a row of stages, each of which may fail.
-/

namespace RunHistory

/-! ### The ids of filed records -/

theorem TaskId.ofValue_str (s : String) :
    TaskId.ofValue (.str s) = (TaskId.parse s).mapError Failure.ofId := rfl

theorem AttemptId.ofValue_str (s : String) :
    AttemptId.ofValue (.str s) = (AttemptId.parse s).mapError Failure.ofId := rfl

namespace Record.Filed

variable {run key : String} {r : Record}

theorem exists_vertexId (h : r.Filed run .vertex key) :
    ∃ id, VertexId.parse r.entity = .ok id ∧ id.dag.text = run := by
  have howner := h.owner_eq
  rw [Record.owner, h.kind_eq] at howner
  exact map_eq_ok_iff.1 (mapError_eq_ok_iff.1 howner)

theorem exists_taskId (h : r.Filed run .task key) :
    ∃ id, TaskId.parse r.entity = .ok id ∧ id.dag.text = run := by
  have howner := h.owner_eq
  rw [Record.owner, h.kind_eq] at howner
  exact map_eq_ok_iff.1 (mapError_eq_ok_iff.1 howner)

theorem exists_attemptId (h : r.Filed run .attempt key) :
    ∃ id, AttemptId.parse r.entity = .ok id ∧ id.dag.text = run := by
  have howner := h.owner_eq
  rw [Record.owner, h.kind_eq] at howner
  exact map_eq_ok_iff.1 (mapError_eq_ok_iff.1 howner)

theorem key_dag (h : r.Filed run .dag key) : key = run := by
  have howner := h.owner_eq
  rw [Record.owner, h.kind_eq, h.key_eq] at howner
  exact Except.ok.inj howner

end Record.Filed

/-! ### Walking down to an id -/

theorem Dag.task?_str (d : Dag) {x : String} {id : TaskId} (h : TaskId.parse x = .ok id) :
    d.task? (.str x) = .ok ((d.vertices.get? id.vertex.text).bind fun v => v.tasks.get? x) := by
  have hvalue : TaskId.ofValue (.str x) = .ok id := by
    rw [TaskId.ofValue_str, mapError_eq_ok_iff, h]
  rw [Dag.task?, hvalue, ok_bind]
  cases d.vertices.get? id.vertex.text <;> rfl

/-! ### Parts of the tree -/

/-- A run with other vertices. -/
def Dag.setVertices (d : Dag) (vertices : Table Vertex) : Dag := { d with vertices := vertices }

/-- A vertex with other tasks. -/
def Vertex.setTasks (v : Vertex) (tasks : Table Task) : Vertex := { v with tasks := tasks }

/-- A task with other attempts. -/
def Task.setAttempts (t : Task) (attempts : Table Attempt) : Task := { t with attempts := attempts }

/-- A task inside the vertex with an id. -/
def Task.within (t : Task) (holder : String) : Task := { t with holder := some holder }

/-- An attempt inside the task with an id. -/
def Attempt.within (a : Attempt) (holder : String) : Attempt := { a with holder := some holder }

namespace Link

/-! ### What is made of a record -/

/-- **A task is made from its record**, and finds its place if the vertex is there. -/
theorem task_spec {run key : String} {r : Record} (h : r.Filed run .task key)
    (hm : r.Measurable) (d : Dag) : ∃ id t, TaskId.parse r.entity = .ok id ∧
      Task.ofRecord r = .ok t ∧ t.id = key ∧ task d r =
        if id.vertex.text ∈ d.vertices.keys then .ok (id.vertex, t)
        else .error (.noVertex id.vertex.text key) := by
  obtain ⟨id, hid, -⟩ := h.exists_taskId
  obtain ⟨t, ht⟩ := Task.exists_ofRecord hm
  have htid : t.id = key := (Task.of_ofRecord ht).1.trans h.key_eq
  -- the id is read again from the id of the task, which is the entity without blanks around it
  have hagain : TaskId.ofValue (.str t.id) = .ok id := by
    rw [TaskId.ofValue_str, mapError_eq_ok_iff, (Task.of_ofRecord ht).1, Record.key,
      TaskId.parse_trimText, hid]
  refine ⟨id, t, hid, ht, htid, ?_⟩
  rw [task, ht, ok_bind, hagain, ok_bind]
  cases hv : d.vertices.get? id.vertex.text with
  | none =>
    rw [if_neg (Table.get?_eq_none_iff.1 hv), ← htid]
  | some v =>
    rw [if_pos (Table.mem_keys_iff.2 ⟨v, hv⟩)]
    rfl

/-- Whether a run has a task in the vertex that the task's id names. -/
def HasTask (d : Dag) (id : TaskId) : Prop :=
  ∃ v, d.vertices.get? id.vertex.text = some v ∧ id.text ∈ v.tasks.keys

open Classical in
/-- **An attempt is made from its record**, and finds its place if the task is there. -/
theorem attempt_spec {run key : String} {r : Record} (h : r.Filed run .attempt key)
    (hm : r.Measurable) (d : Dag) : ∃ id a, AttemptId.parse r.entity = .ok id ∧
      Attempt.ofRecord r.withRelations = .ok a ∧ a.id = key ∧ attempt d r =
        if HasTask d id.task then .ok (id.task, a) else .error (.noTask id.task.text key) := by
  obtain ⟨id, hid, -⟩ := h.exists_attemptId
  obtain ⟨a, ha⟩ := Attempt.exists_ofRecord hm.withRelations
  have haid : a.id = key := (Attempt.of_ofRecord ha).1.trans h.key_eq
  have hagain : AttemptId.ofValue (.str a.id) = .ok id := by
    rw [AttemptId.ofValue_str, mapError_eq_ok_iff, (Attempt.of_ofRecord ha).1,
      Record.key_withRelations, Record.key, AttemptId.parse_trimText, hid]
  -- and so is the id of the task from its own text
  obtain ⟨parent, hparent⟩ := (AttemptId.of_parse hid).2
  have hlookup := d.task?_str (TaskId.parse_text hparent)
  refine ⟨id, a, hid, ha, haid, ?_⟩
  rw [attempt, ha, ok_bind, hagain, ok_bind, hlookup, ok_bind]
  cases hfound : (d.vertices.get? id.task.vertex.text).bind fun v => v.tasks.get? id.task.text with
  | none =>
    have hno : ¬HasTask d id.task := by
      rintro ⟨v, hv, hmem⟩
      rw [hv, Option.bind_some, Table.get?_eq_none_iff] at hfound
      exact hfound hmem
    rw [if_neg hno, ← haid]
  | some t =>
    obtain ⟨v, hv, ht⟩ := Option.bind_eq_some_iff.1 hfound
    rw [if_pos ⟨v, hv, Table.mem_keys_iff.2 ⟨t, ht⟩⟩]
    rfl

/-! ### What a place takes in -/

theorem withVertices_eq (d : Dag) (vertices : List Vertex) :
    withVertices d vertices =
      d.setVertices (d.vertices.setAll (vertices.map fun v => (v.id, d.adopt v))) := by
  induction vertices generalizing d with
  | nil => rfl
  | cons v vertices ih =>
    have hstep := ih (d.addVertex v)
    rw [withVertices] at hstep ⊢
    rw [List.foldl_cons, hstep]
    rfl

theorem foldl_addTask (v : Vertex) (tasks : List Task) :
    tasks.foldl Vertex.addTask v =
      v.setTasks (v.tasks.setAll (tasks.map fun t => (t.id, t.within v.id))) := by
  induction tasks generalizing v with
  | nil => rfl
  | cons t tasks ih =>
    rw [List.foldl_cons, ih]
    rfl

theorem foldl_addAttempt (t : Task) (attempts : List Attempt) :
    attempts.foldl Task.addAttempt t =
      t.setAttempts (t.attempts.setAll (attempts.map fun a => (a.id, a.within t.id))) := by
  induction attempts generalizing t with
  | nil => rfl
  | cons a attempts ih =>
    rw [List.foldl_cons, ih]
    rfl

theorem foldl_putTask (d : Dag) (placed : List (VertexId × Task)) :
    placed.foldl putTask d = d.setVertices
      (placed.foldl (fun t p => t.modify p.1.text (Vertex.addTask · p.2)) d.vertices) := by
  induction placed generalizing d with
  | nil => rfl
  | cons p placed ih =>
    have hput : putTask d p =
        d.setVertices (d.vertices.modify p.1.text (Vertex.addTask · p.2)) := by
      rw [putTask, Table.modify]
      cases d.vertices.get? p.1.text <;> rfl
    rw [List.foldl_cons, hput, ih]
    rfl

theorem foldl_putAttemptIn (v : Vertex) (placed : List (TaskId × Attempt)) :
    placed.foldl (fun v p => putAttemptIn v p.1.text p.2) v = v.setTasks
      (placed.foldl (fun t p => t.modify p.1.text (Task.addAttempt · p.2)) v.tasks) := by
  induction placed generalizing v with
  | nil => rfl
  | cons p placed ih =>
    have hput : putAttemptIn v p.1.text p.2 =
        v.setTasks (v.tasks.modify p.1.text (Task.addAttempt · p.2)) := by
      rw [putAttemptIn, Table.modify]
      cases v.tasks.get? p.1.text <;> rfl
    rw [List.foldl_cons, hput, ih]
    rfl

theorem foldl_putAttempt (d : Dag) (placed : List (TaskId × Attempt)) :
    placed.foldl putAttempt d = d.setVertices
      (placed.foldl (fun t p => t.modify p.1.vertex.text (putAttemptIn · p.1.text p.2))
        d.vertices) := by
  induction placed generalizing d with
  | nil => rfl
  | cons p placed ih =>
    have hput : putAttempt d p =
        d.setVertices (d.vertices.modify p.1.vertex.text (putAttemptIn · p.1.text p.2)) := by
      rw [putAttempt, Table.modify]
      cases d.vertices.get? p.1.vertex.text <;> rfl
    rw [List.foldl_cons, hput, ih]
    rfl

/-- **A vertex takes in the tasks that were placed in it**, in order. -/
theorem get?_foldl_putTask (d : Dag) (placed : List (VertexId × Task)) (key : String) :
    (placed.foldl putTask d).vertices.get? key = (d.vertices.get? key).map fun v =>
      v.setTasks (v.tasks.setAll
        ((placed.filter fun p => p.1.text = key).map fun p => (p.2.id, p.2.within v.id))) := by
  rw [foldl_putTask]
  refine (Table.get?_foldl_modify (fun p : VertexId × Task => p.1.text)
    (fun p v => v.addTask p.2) placed d.vertices key).trans ?_
  congr 1
  funext v
  have hmap := foldl_addTask v ((placed.filter fun p => p.1.text = key).map Prod.snd)
  rw [List.foldl_map, List.map_map] at hmap
  exact hmap

/-- **A vertex keeps its tasks**, and those take in the attempts that were placed in them. -/
theorem get?_foldl_putAttempt (d : Dag) (placed : List (TaskId × Attempt)) (key : String) :
    (placed.foldl putAttempt d).vertices.get? key = (d.vertices.get? key).map fun v =>
      v.setTasks ((placed.filter fun p => p.1.vertex.text = key).foldl
        (fun t p => t.modify p.1.text (Task.addAttempt · p.2)) v.tasks) := by
  rw [foldl_putAttempt]
  refine (Table.get?_foldl_modify (fun p : TaskId × Attempt => p.1.vertex.text)
    (fun p v => putAttemptIn v p.1.text p.2) placed d.vertices key).trans ?_
  congr 1
  funext v
  exact foldl_putAttemptIn v _

theorem get?_foldl_addAttempt (tasks : Table Task) (placed : List (TaskId × Attempt))
    (key : String) :
    (placed.foldl (fun t p => t.modify p.1.text (Task.addAttempt · p.2)) tasks).get? key =
      (tasks.get? key).map fun t => t.setAttempts (t.attempts.setAll
        ((placed.filter fun p => p.1.text = key).map fun p => (p.2.id, p.2.within t.id))) := by
  refine (Table.get?_foldl_modify (fun p : TaskId × Attempt => p.1.text)
    (fun p t => t.addAttempt p.2) placed tasks key).trans ?_
  congr 1
  funext t
  have hmap := foldl_addAttempt t ((placed.filter fun p => p.1.text = key).map Prod.snd)
  rw [List.foldl_map, List.map_map] at hmap
  exact hmap

end Link

/-! ### The stages in a row -/

open Link in
/-- **Linking is a row of stages**, and ends at the first that fails. -/
theorem State.result_link (s : State) : s.link.outcome.result = (do
    let bare ← dag s
    let vertices ← s.vertices.values.mapM Vertex.ofRecord
    let tasks ← s.tasks.values.mapM (task (withVertices bare vertices))
    let filled := tasks.foldl putTask (withVertices bare vertices)
    let attempts ← s.attempts.values.mapM (attempt filled)
    return attempts.foldl putAttempt filled) := by
  rw [State.link]
  cases dag s with
  | error e => rfl
  | ok bare =>
    rw [ok_bind]
    -- the results of each stage take the place of the stage in those that follow
    rcases upToFailure_cases Vertex.ofRecord s.vertices.values with ⟨hf, hr⟩ | ⟨e, hf, hr⟩
    · simp only [hf, hr, ok_bind]
      generalize (upToFailure Vertex.ofRecord s.vertices.values).done = vertices
      rcases upToFailure_cases (task (withVertices bare vertices)) s.tasks.values with
        ⟨hf, hr⟩ | ⟨e, hf, hr⟩
      · simp only [hf, hr, ok_bind]
        generalize (upToFailure (task (withVertices bare vertices)) s.tasks.values).done = tasks
        rcases upToFailure_cases (attempt (tasks.foldl putTask (withVertices bare vertices)))
          s.attempts.values with ⟨hf, hr⟩ | ⟨e, hf, hr⟩
        · simp only [hf, hr, ok_bind]
          rfl
        · simp only [hf, hr]
          rfl
      · simp only [hf, hr]
        rfl
    · simp only [hf, hr]
      rfl

end RunHistory
