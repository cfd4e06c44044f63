import RunHistory.Proofs.Info.Infinite
import RunHistory.Proofs.Link.Complete

/-!
# What linking is refused for

Whatever the records of a sound state hold, linking them is refused for two causes only: a record is
missing that the tree cannot do without, or an infinite number stands where a whole one belongs.  In
particular the ids that are read again while linking are never refused.

## Main results

* `Link.dag_refused`, `Link.vertex_refused`, `Link.task_refused`, `Link.attempt_refused`: the
  stages.
* `State.Sound.link_refused`: **linking is refused for two causes only.**
-/

namespace RunHistory

/-- A cause for which linking is refused: something is missing, or a number is infinite. -/
def State.Refuses (s : State) (e : Failure) : Prop :=
  e.category = .incompleteLog ∧ s.Incomplete ∨ e = .infiniteNumber ∧ s.Infinite

theorem Record.Filed.kind_ne_vertex {run key : String} {kind : Kind} {r : Record}
    (h : r.Filed run kind key) (hkind : kind ≠ .vertex) : r.kind ≠ .vertex := by
  rw [h.kind_eq]
  exact hkind

namespace Link

variable {s : State} {e : Failure}

/-! ### The run and its vertices -/

/-- The run is made from the record under its own id. -/
theorem dag_spec (hs : s.Sound) : s.dags.keys = [] ∧ dag s = .error (.noRun s.run) ∨
    ∃ r, s.held? .dag s.run = some r ∧ dag s = Dag.ofRecord r := by
  cases hentries : s.dags.entries with
  | nil => exact .inl ⟨by rw [Table.keys, hentries]; rfl, by rw [dag, Table.values, hentries]; rfl⟩
  | cons entry rest =>
    obtain ⟨key, r⟩ := entry
    have hheld : s.held? .dag key = some r :=
      Table.get?_eq_some_iff.2 (hentries ▸ List.mem_cons_self)
    have hkey : key = s.run := (hs .dag key r hheld).key_dag
    exact .inr ⟨r, hkey ▸ hheld, by rw [dag, Table.values, hentries]; rfl⟩

theorem dag_refused (hs : s.Sound) (h : dag s = .error e) : s.Refuses e := by
  rcases dag_spec hs with ⟨hnone, hdag⟩ | ⟨r, hr, hdag⟩
  · cases hdag.symm.trans h
    exact .inl ⟨rfl, .inl hnone⟩
  · have hkind : r.kind ≠ .vertex := (hs .dag _ r hr).kind_ne_vertex (by decide)
    obtain ⟨hinfinite, rfl⟩ := (Dag.tells_ofRecord hkind).infinite (hdag.symm.trans h)
    exact .inr ⟨rfl, .dag, _, r, hr, hinfinite⟩

theorem vertex_refused (hs : s.Sound) (h : s.vertices.values.mapM Vertex.ofRecord = .error e) :
    s.Refuses e := by
  obtain ⟨r, hmem, hr⟩ := mapM_eq_error h
  obtain ⟨key, hkey⟩ := Table.mem_values_iff.1 hmem
  obtain ⟨hinfinite, rfl⟩ := (Vertex.tells_ofRecord (hs .vertex key r hkey).kind_eq).infinite hr
  exact .inr ⟨rfl, .vertex, key, r, hkey, hinfinite⟩

/-! ### Tasks -/

theorem task_refused (hs : s.Sound) {d : Dag} (hd : d.Spans s)
    (h : s.tasks.values.mapM (task d) = .error e) : s.Refuses e := by
  obtain ⟨r, hmem, hr⟩ := mapM_eq_error h
  obtain ⟨key, hkey⟩ := Table.mem_values_iff.1 hmem
  have hfiled := hs .task key r hkey
  rcases Task.tells_ofRecord (hfiled.kind_ne_vertex (by decide)) with ⟨hm, -⟩ | ⟨hinfinite, ht⟩
  · -- the task is made, so its vertex is missing
    obtain ⟨id, t, hid, -, -, hspec⟩ := task_spec hfiled hm d
    rw [hr, hd.keys_eq] at hspec
    split at hspec
    · cases hspec
    · next hout =>
      cases hspec
      exact .inl ⟨rfl, .inr (.inl ⟨r, hmem, _, Record.parent?_task hfiled.kind_eq hid, hout⟩)⟩
  · rw [task, ht] at hr
    cases hr
    exact .inr ⟨rfl, .task, key, r, hkey, hinfinite⟩

/-! ### Attempts -/

theorem attempt_refused (hs : s.Sound) {d : Dag} (hd : ∀ id, TaskId.parse id.text = .ok id →
      (HasTask d id ↔ id.text ∈ s.tasks.keys))
    (h : s.attempts.values.mapM (attempt d) = .error e) : s.Refuses e := by
  obtain ⟨r, hmem, hr⟩ := mapM_eq_error h
  obtain ⟨key, hkey⟩ := Table.mem_values_iff.1 hmem
  have hfiled := hs .attempt key r hkey
  rcases Attempt.tells_ofRecord (hfiled.kind_ne_vertex (by decide)) with ⟨hm, -⟩ | ⟨hinfinite, ha⟩
  · -- the attempt is made, so its task is missing
    obtain ⟨id, a, hid, -, -, hspec⟩ := attempt_spec hfiled hm d
    obtain ⟨parent, hparent⟩ := (AttemptId.of_parse hid).2
    rw [hr] at hspec
    split at hspec
    · cases hspec
    · next hout =>
      cases hspec
      rw [hd _ (TaskId.parse_text hparent)] at hout
      exact .inl ⟨rfl, .inr (.inr ⟨r, hmem, _, Record.parent?_attempt hfiled.kind_eq hid, hout⟩)⟩
  · rw [attempt, ha] at hr
    cases hr
    exact .inr ⟨rfl, .attempt, key, r, hkey, hinfinite⟩

theorem sound_withoutAttempts (hs : s.Sound) : (withoutAttempts s).Sound := by
  intro kind key r h
  cases kind with
  | attempt => simp [State.held?, State.bucket, withoutAttempts] at h
  | _ => exact hs _ key r h

/-- Once the run, its vertices and its tasks are linked, no infinite number is left but in an
attempt. -/
theorem measurable_withoutAttempts (hs : s.Sound) {r : Record} {bare d : Dag}
    (hr : s.held? .dag s.run = some r) (hbare : Dag.ofRecord r = .ok bare) {vertices : List Vertex}
    (hvertices : s.vertices.values.mapM Vertex.ofRecord = .ok vertices)
    {tasks : List (VertexId × Task)} (htasks : s.tasks.values.mapM (task d) = .ok tasks) :
    (withoutAttempts s).Measurable := by
  intro kind key held h
  cases kind with
  | dag =>
    have hfiled := hs .dag key held h
    obtain rfl := hfiled.key_dag
    obtain rfl := Option.some.inj (hr.symm.trans h)
    exact (Dag.tells_ofRecord (hfiled.kind_ne_vertex (by decide))).measurable hbare
  | vertex =>
    obtain ⟨v, -, hv⟩ := exists_ok_of_mem_mapM hvertices (Table.mem_values_iff.2 ⟨key, h⟩)
    exact (Vertex.tells_ofRecord (hs .vertex key held h).kind_eq).measurable hv
  | task =>
    obtain ⟨p, -, hp⟩ := exists_ok_of_mem_mapM htasks (Table.mem_values_iff.2 ⟨key, h⟩)
    obtain ⟨t, ht, -⟩ := bind_eq_ok_iff.1 hp
    have hfiled := hs .task key held h
    exact (Task.tells_ofRecord (hfiled.kind_ne_vertex (by decide))).measurable ht
  | attempt => simp [State.held?, State.bucket, withoutAttempts] at h

end Link

open Link in
/-- **Linking is refused for two causes only**: a record is missing that the tree cannot do without,
or an infinite number stands where a whole one belongs. -/
theorem State.Sound.link_refused {s : State} (hs : s.Sound) {e : Failure}
    (h : s.link.outcome.result = .error e) : s.Refuses e := by
  rw [State.result_link] at h
  rcases bind_eq_error_iff.1 h with hdag | ⟨bare, hdag, h⟩
  · exact dag_refused hs hdag
  rcases bind_eq_error_iff.1 h with hvertices | ⟨vertices, hvertices, h⟩
  · exact vertex_refused hs hvertices
  rcases dag_spec hs with ⟨-, hnone⟩ | ⟨r, hr, hbare⟩
  · exact absurd (hnone.symm.trans hdag) (by simp)
  have hmade : Dag.ofRecord r = .ok bare := hbare.symm.trans hdag
  rcases bind_eq_error_iff.1 h with htasks | ⟨tasks, htasks, h⟩
  · exact task_refused hs (spans_withVertices hs hr hmade hvertices).1 htasks
  rcases bind_eq_error_iff.1 h with hattempts | ⟨attempts, -, h⟩
  · -- the tasks that were put in are found, also without the attempts that are still to come
    have hs' := sound_withoutAttempts hs
    have hm' := measurable_withoutAttempts hs hr hmade hvertices htasks
    obtain ⟨hspans, hempty⟩ := spans_withVertices hs' hr hmade hvertices
    have hfilled := filled_putTask hs' hm' hspans hempty htasks
    rcases mapM_task hs' hm' hspans with ⟨-, hno⟩ | ⟨⟨e', he', -⟩, -⟩
    · exact attempt_refused hs (fun id hid => hasTask_iff hs' hfilled hno hid) hattempts
    · exact absurd (htasks.symm.trans he') (by simp)
  · cases h

end RunHistory
