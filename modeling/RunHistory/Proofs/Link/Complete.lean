import RunHistory.Proofs.Link.Tree

/-!
# Complete and incomplete histories

A tree is built from the records of a run unless the record of the run itself is missing, or that of
the vertex of a task, or that of the task of an attempt.  The tree that is built loses nothing and
has nothing twice: the ids of its tasks and attempts are those of the records, in the order of what
holds them.

## Main definitions

* `State.Orphaned`: a record names a parent that is not held.
* `State.Incomplete`: a record is missing that the tree cannot do without.

## Main results

* `State.Sound.link_cases`: **a state is linked into its tree, or is incomplete.**
* `Dag.TreeOf.perm_tasks`, `Dag.TreeOf.perm_attempts`: **every task and every attempt stands in the
  tree once.**
* `link_ingest`: the tree of the records of a file.
-/

namespace RunHistory

/-! ### Orphans -/

/-- A record of a kind names a parent that is not held. -/
def State.Orphaned (s : State) (kind : Kind) : Prop :=
  ∃ r ∈ (s.bucket kind).values, ∃ parent, r.parent? = some parent ∧
    parent ∉ (s.bucket (Id.parentKind kind)).keys

/-- A record is missing that the tree cannot do without: that of the run, or that of a parent. -/
def State.Incomplete (s : State) : Prop :=
  s.dags.keys = [] ∨ s.Orphaned .task ∨ s.Orphaned .attempt

theorem Record.Filed.exists_parent {run key : String} {kind : Kind} {r : Record}
    (h : r.Filed run kind key) (hkind : kind = .task ∨ kind = .attempt) :
    ∃ parent, r.parent? = some parent := by
  rcases hkind with rfl | rfl
  · obtain ⟨id, hid, -⟩ := h.exists_taskId
    exact ⟨_, Record.parent?_task h.kind_eq hid⟩
  · obtain ⟨id, hid, -⟩ := h.exists_attemptId
    exact ⟨_, Record.parent?_attempt h.kind_eq hid⟩

/-- When a record finds its place just if its parent is among some keys, then all records do, or
there is an orphan. -/
theorem mapM_or_orphan {α : Type} {records : Table Record} {f : Record → Except Failure α}
    {keys : List String}
    (h : ∀ key r, records.get? key = some r → ∃ parent, r.parent? = some parent ∧
      (parent ∈ keys → ∃ a, f r = .ok a) ∧
      (parent ∉ keys → ∃ e, f r = .error e ∧ e.category = .incompleteLog)) :
    (∃ items, records.values.mapM f = .ok items) ∧
        (¬∃ r ∈ records.values, ∃ parent, r.parent? = some parent ∧ parent ∉ keys) ∨
      (∃ e, records.values.mapM f = .error e ∧ e.category = .incompleteLog) ∧
        ∃ r ∈ records.values, ∃ parent, r.parent? = some parent ∧ parent ∉ keys := by
  cases hmapM : records.values.mapM f with
  | ok items =>
    refine Or.inl ⟨⟨items, rfl⟩, ?_⟩
    rintro ⟨r, hr, parent, hparent, hkeys⟩
    obtain ⟨key, hkey⟩ := Table.mem_values_iff.1 hr
    obtain ⟨parent', hparent', -, hfails⟩ := h key r hkey
    have heq : parent = parent' := Option.some.inj (hparent.symm.trans hparent')
    obtain ⟨e, he, -⟩ := hfails (heq ▸ hkeys)
    obtain ⟨a, -, ha⟩ := exists_ok_of_mem_mapM hmapM hr
    exact absurd (ha.symm.trans he) (by simp)
  | error e =>
    -- the failure is that of some record, and only an orphan has one
    obtain ⟨r, hr, he⟩ := mapM_eq_error hmapM
    obtain ⟨key, hkey⟩ := Table.mem_values_iff.1 hr
    obtain ⟨parent, hparent, hplaced, hfails⟩ := h key r hkey
    have hout : parent ∉ keys := fun hin => by
      obtain ⟨a, ha⟩ := hplaced hin
      exact absurd (ha.symm.trans he) (by simp)
    obtain ⟨e', he', hcategory⟩ := hfails hout
    have heq : e' = e := Except.error.inj (he'.symm.trans he)
    exact Or.inr ⟨⟨e, rfl, heq ▸ hcategory⟩, r, hr, parent, hparent, hout⟩

namespace Link

variable {s : State}

theorem mapM_task (hs : s.Sound) (hm : s.Measurable) {d : Dag} (hd : d.Spans s) :
    (∃ placed, s.tasks.values.mapM (task d) = .ok placed) ∧ ¬s.Orphaned .task ∨
      (∃ e, s.tasks.values.mapM (task d) = .error e ∧ e.category = .incompleteLog) ∧
        s.Orphaned .task := by
  refine mapM_or_orphan fun key r hr => ?_
  have hfiled := hs .task key r hr
  obtain ⟨id, t, hid, -, -, hspec⟩ := task_spec hfiled (hm .task key r hr) d
  rw [hd.keys_eq] at hspec
  refine ⟨id.vertex.text, Record.parent?_task hfiled.kind_eq hid, fun hin => ?_, fun hout => ?_⟩
  · exact ⟨_, hspec.trans (if_pos hin)⟩
  · exact ⟨_, hspec.trans (if_neg hout), rfl⟩

/-- The tasks of a run are found by their ids. -/
theorem hasTask_iff (hs : s.Sound) {d : Dag} (hd : d.Filled s) (hno : ¬s.Orphaned .task)
    {id : TaskId} (hid : TaskId.parse id.text = .ok id) :
    HasTask d id ↔ id.text ∈ s.tasks.keys := by
  constructor
  · rintro ⟨v, hv, hmem⟩
    rw [hd.task_keys _ v hv] at hmem
    obtain ⟨r, hr, -⟩ := mem_childKeys_iff.1 hmem
    exact Table.mem_keys_iff.2 ⟨r, hr⟩
  · intro hmem
    obtain ⟨r, hr⟩ := Table.mem_keys_iff.1 hmem
    have hfiled := hs .task id.text r hr
    have hentity : TaskId.parse r.entity = .ok id := by
      rw [← TaskId.parse_trimText, ← Record.key, hfiled.key_eq, hid]
    have hparent := Record.parent?_task hfiled.kind_eq hentity
    -- the vertex is there, since no task is an orphan
    have hvertex : id.vertex.text ∈ d.vertices.keys := by
      rw [hd.keys_eq]
      by_contra hout
      exact hno ⟨r, Table.mem_values_iff.2 ⟨_, hr⟩, _, hparent, hout⟩
    obtain ⟨v, hv⟩ := Table.mem_keys_iff.1 hvertex
    refine ⟨v, hv, ?_⟩
    rw [hd.task_keys _ v hv]
    exact mem_childKeys_iff.2 ⟨r, hr, hparent⟩

theorem mapM_attempt (hs : s.Sound) (hm : s.Measurable) {d : Dag} (hd : d.Filled s)
    (hno : ¬s.Orphaned .task) :
    (∃ placed, s.attempts.values.mapM (attempt d) = .ok placed) ∧ ¬s.Orphaned .attempt ∨
      (∃ e, s.attempts.values.mapM (attempt d) = .error e ∧ e.category = .incompleteLog) ∧
        s.Orphaned .attempt := by
  refine mapM_or_orphan fun key r hr => ?_
  have hfiled := hs .attempt key r hr
  obtain ⟨id, a, hid, -, -, hspec⟩ := attempt_spec hfiled (hm .attempt key r hr) d
  obtain ⟨parent, hparent⟩ := (AttemptId.of_parse hid).2
  have hplace := hasTask_iff hs hd hno (TaskId.parse_text hparent)
  refine ⟨id.task.text, Record.parent?_attempt hfiled.kind_eq hid, fun hin => ?_, fun hout => ?_⟩
  · exact ⟨_, hspec.trans (if_pos (hplace.2 hin))⟩
  · exact ⟨_, hspec.trans (if_neg fun h => hout (hplace.1 h)), rfl⟩

/-- The run is made from the first record of a run, and there is one at most. -/
theorem dag_cases (hs : s.Sound) (hm : s.Measurable) :
    s.dags.keys = [] ∧ dag s = .error (.noRun s.run) ∨
      s.dags.keys ≠ [] ∧ ∃ r bare, s.held? .dag s.run = some r ∧ Dag.ofRecord r = .ok bare ∧
        dag s = .ok bare := by
  cases hentries : s.dags.entries with
  | nil =>
    refine Or.inl ⟨by rw [Table.keys, hentries]; rfl, ?_⟩
    rw [dag, Table.values, hentries]
    rfl
  | cons e rest =>
    obtain ⟨key, r⟩ := e
    have hmem : (key, r) ∈ s.dags.entries := by
      rw [hentries]
      exact List.mem_cons_self
    have hheld : s.held? .dag key = some r := Table.get?_eq_some_iff.2 hmem
    have hkey : key = s.run := (hs .dag key r hheld).key_dag
    obtain ⟨bare, hbare⟩ := Dag.exists_ofRecord (hm .dag key r hheld)
    refine Or.inr ⟨by simp [Table.keys, hentries], r, bare, hkey ▸ hheld, hbare, ?_⟩
    rw [dag, Table.values, hentries]
    exact hbare

end Link

open Link in
/-- **A state is linked into its tree, or is incomplete**, and is refused for nothing else. -/
theorem State.Sound.link_cases {s : State} (hs : s.Sound) (hm : s.Measurable) :
    (s.Incomplete ∧ ∃ e, s.link.outcome.result = .error e ∧ e.category = .incompleteLog) ∨
      ¬s.Incomplete ∧ ∃ d, s.link.outcome.result = .ok d ∧ d.TreeOf s := by
  rw [State.result_link]
  -- each stage either goes on or finds something missing
  rcases dag_cases hs hm with ⟨hnone, hdag⟩ | ⟨hsome, r, bare, hr, hbare, hdag⟩
  · exact Or.inl ⟨Or.inl hnone, _, by rw [hdag]; rfl, rfl⟩
  obtain ⟨vertices, hvertices⟩ :
      ∃ vertices, s.vertices.values.mapM Vertex.ofRecord = .ok vertices := by
    refine exists_mapM_eq_ok fun r hr => ?_
    obtain ⟨key, hkey⟩ := Table.mem_values_iff.1 hr
    exact Vertex.exists_ofRecord (hm .vertex key r hkey) (hs .vertex key r hkey).kind_eq
  obtain ⟨hspans, hempty⟩ := spans_withVertices hs hr hbare hvertices
  simp only [hdag, hvertices, ok_bind]
  rcases mapM_task hs hm hspans with ⟨⟨tasks, htasks⟩, hno⟩ | ⟨⟨e, he, hcategory⟩, horphan⟩
  · have hfilled := filled_putTask hs hm hspans hempty htasks
    simp only [htasks, ok_bind]
    rcases mapM_attempt hs hm hfilled hno with
      ⟨⟨attempts, hattempts⟩, hno'⟩ | ⟨⟨e, he, hcategory⟩, horphan⟩
    · refine Or.inr ⟨?_, _, by rw [hattempts]; rfl, treeOf_putAttempt hs hm hfilled hattempts⟩
      rintro (hnone | horphan | horphan)
      · exact hsome hnone
      · exact hno horphan
      · exact hno' horphan
    · exact Or.inl ⟨Or.inr (Or.inr horphan), e, by rw [he]; rfl, hcategory⟩
  · exact Or.inl ⟨Or.inr (Or.inl horphan), e, by rw [he]; rfl, hcategory⟩

/-! ### Nothing lost and nothing twice -/

/-- The children of distinct parents are all records, if each of them names one of the parents. -/
theorem perm_flatMap_childKeys {records : Table Record} {parents : List String}
    (hparents : parents.Nodup)
    (h : ∀ r ∈ records.values, ∃ parent ∈ parents, r.parent? = some parent) :
    (parents.flatMap (childKeys records)).Perm records.keys := by
  have hgroups : ((parents.map some).flatMap fun key =>
      records.entries.filter fun e => e.2.parent? = key).Perm records.entries := by
    have hnodup : (parents.map some).Nodup :=
      List.Pairwise.map some (fun _ _ hne heq => hne (Option.some.inj heq)) hparents
    refine perm_flatMap_filter _ hnodup fun e he => ?_
    have hmem : e.2 ∈ records.values := List.mem_map.2 ⟨e, he, rfl⟩
    obtain ⟨parent, hin, heq⟩ := h e.2 hmem
    rw [heq]
    exact List.mem_map.2 ⟨parent, hin, rfl⟩
  have hkeys := hgroups.map Prod.fst
  rw [List.map_flatMap, List.flatMap_map] at hkeys
  exact hkeys

theorem State.Sound.exists_parent_mem {s : State} (hs : s.Sound) {kind : Kind}
    (hkind : kind = .task ∨ kind = .attempt) (hno : ¬s.Orphaned kind) :
    ∀ r ∈ (s.bucket kind).values,
      ∃ parent ∈ (s.bucket (Id.parentKind kind)).keys, r.parent? = some parent := by
  intro r hr
  obtain ⟨key, hkey⟩ := Table.mem_values_iff.1 hr
  obtain ⟨parent, hparent⟩ := (hs kind key r hkey).exists_parent hkind
  refine ⟨parent, ?_, hparent⟩
  by_contra hout
  exact hno ⟨r, hr, parent, hparent, hout⟩

theorem Table.map_id_values {β : Type} {t : Table β} {id : β → String}
    (h : ∀ k b, t.get? k = some b → id b = k) : t.values.map id = t.keys := by
  rw [Table.values, Table.keys, List.map_map]
  exact List.map_congr_left fun e he => h e.1 e.2 (Table.get?_eq_some_iff.2 he)

namespace Dag.TreeOf

variable {s : State} {d : Dag}

theorem map_id_tasks (hd : d.TreeOf s) :
    d.tasks.map (fun t => t.id) = s.vertices.keys.flatMap (childKeys s.tasks) := by
  have hvertex : ∀ e ∈ d.vertices.entries,
      e.2.tasks.values.map (fun t => t.id) = childKeys s.tasks e.1 := by
    intro e he
    have hv := Table.get?_eq_some_iff.2 he
    rw [← hd.task_keys e.1 e.2 hv]
    exact Table.map_id_values fun k t ht => (hd.tasks e.1 e.2 hv k t ht).id_eq
  rw [Dag.tasks, List.map_flatMap, ← hd.keys_eq, Table.values, Table.keys, List.flatMap_map,
    List.flatMap_map]
  exact List.flatMap_congr hvertex

theorem map_id_attempts (hd : d.TreeOf s) :
    d.attempts.map (fun a => a.id) =
      (d.tasks.map fun t => t.id).flatMap (childKeys s.attempts) := by
  have htask : ∀ t ∈ d.tasks,
      t.attempts.values.map (fun a => a.id) = childKeys s.attempts t.id := by
    intro t ht
    obtain ⟨v, hv, hvt⟩ := List.mem_flatMap.1 ht
    obtain ⟨k, hk⟩ := Table.mem_values_iff.1 hv
    obtain ⟨k', hk'⟩ := Table.mem_values_iff.1 hvt
    have hstands := hd.tasks k v hk k' t hk'
    rw [hstands.id_eq, ← hstands.keys_eq]
    exact Table.map_id_values fun k'' a ha => (hstands.attempts k'' a ha).id_eq
  have hattempts : d.attempts = d.tasks.flatMap fun t => t.attempts.values := by
    rw [Dag.attempts, Dag.tasks, List.flatMap_assoc]
    rfl
  rw [hattempts, List.map_flatMap, List.flatMap_map]
  exact List.flatMap_congr htask

/-- **Every task stands in the tree once.** -/
theorem perm_tasks (hd : d.TreeOf s) (hs : s.Sound) (hno : ¬s.Orphaned .task) :
    (d.tasks.map fun t => t.id).Perm s.tasks.keys := by
  rw [hd.map_id_tasks]
  exact perm_flatMap_childKeys s.vertices.nodup_keys (hs.exists_parent_mem (Or.inl rfl) hno)

/-- **Every attempt stands in the tree once.** -/
theorem perm_attempts (hd : d.TreeOf s) (hs : s.Sound) (hno : ¬s.Orphaned .task)
    (hno' : ¬s.Orphaned .attempt) : (d.attempts.map fun a => a.id).Perm s.attempts.keys := by
  rw [hd.map_id_attempts]
  -- the tasks are not in the order of the state, but they are the same ones
  have hgroups := (hd.perm_tasks hs hno).flatMap_right (childKeys s.attempts)
  exact hgroups.trans
    (perm_flatMap_childKeys s.tasks.nodup_keys (hs.exists_parent_mem (Or.inr rfl) hno'))

end Dag.TreeOf

/-- **The tree of the records of a file.**  Linking what a file was read into is refused when the
record of the run is missing, or that of the vertex of a task, or that of the task of an attempt,
and for nothing else.  The tree that is built otherwise has every record that is held, once. -/
theorem link_ingest {run path : String} {chunks : Chunks} {s : State}
    (h : (ingest run path chunks).result = .ok s) (hm : s.Measurable) :
    (∀ e, s.link.outcome.result = .error e → e.category = .incompleteLog) ∧
      ((∃ e, s.link.outcome.result = .error e) ↔
        s.dags.keys = [] ∨ s.Orphaned .task ∨ s.Orphaned .attempt) ∧
      ∀ d, s.link.outcome.result = .ok d →
        d.id = run ∧ d.TreeOf s ∧ (d.tasks.map fun t => t.id).Perm s.tasks.keys ∧
          (d.attempts.map fun a => a.id).Perm s.attempts.keys := by
  obtain ⟨hs, hrun⟩ := sound_ingest h
  rcases hs.link_cases hm with ⟨hincomplete, e, he, hcategory⟩ | ⟨hcomplete, d, hd, htree⟩
  · rw [he]
    refine ⟨fun e' he' => ?_, ⟨fun _ => hincomplete, fun _ => ⟨e, rfl⟩⟩, fun d hd => ?_⟩
    · rw [← Except.error.inj he']
      exact hcategory
    · cases hd
  · rw [hd]
    refine ⟨fun e he => ?_, ⟨fun ⟨e, he⟩ => ?_, fun h => absurd h hcomplete⟩, fun d' hd' => ?_⟩
    · cases he
    · cases he
    · obtain rfl := Except.ok.inj hd'
      have hno : ¬s.Orphaned .task := fun h => hcomplete (Or.inr (Or.inl h))
      have hno' : ¬s.Orphaned .attempt := fun h => hcomplete (Or.inr (Or.inr h))
      exact ⟨htree.id_eq.trans hrun, htree, htree.perm_tasks hs hno,
        htree.perm_attempts hs hno hno'⟩

/-- The texts of four records, each child before its parent. -/
def sampleTexts : List (List Char) := [
  bareText "dag_1_vertex_2_task_3_attempt_4" "TASK_ATTEMPT",
  bareText " dag_1_vertex_2_task_3" "TASK",
  bareText "dag_1_vertex_2" "VERTEX", bareText "dag_1" "DAG"]

theorem link_ingest_sample : ∃ s d,
    (ingest "dag_1" "history" ⟨sampleTexts, none⟩).result = .ok s ∧ s.Measurable ∧
      s.link.outcome.result = .ok d ∧ d.TreeOf s ∧
        (d.attempts.map fun a => a.id).Perm s.attempts.keys := by
  have hlinked : ((ingest "dag_1" "history" ⟨sampleTexts, none⟩).result.toOption.any fun s =>
      decide s.Measurable && s.link.outcome.result.toOption.isSome) = true := by
    decide +kernel
  cases hs : (ingest "dag_1" "history" ⟨sampleTexts, none⟩).result with
  | error e => simp [hs, Except.toOption] at hlinked
  | ok s =>
    obtain ⟨hm, hsome⟩ : s.Measurable ∧ s.link.outcome.result.toOption.isSome = true := by
      simpa [hs, Except.toOption] using hlinked
    cases hresult : s.link.outcome.result with
    | error e => simp [hresult, Except.toOption] at hsome
    | ok d =>
      obtain ⟨-, htree, -, hperm⟩ := (link_ingest hs hm).2.2 d hresult
      exact ⟨s, d, rfl, hm, hresult, htree, hperm⟩

end RunHistory
