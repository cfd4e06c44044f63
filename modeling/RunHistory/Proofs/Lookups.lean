import Mathlib.Data.List.Nodup
import RunHistory.Proofs.Answers
import RunHistory.Proofs.Bookkeeping
import RunHistory.Proofs.Entity.Apart
import RunHistory.Proofs.Link.Growing

/-!
# Entities are found by their ids

A vertex is looked up by its id.  A task is looked for in the vertex that its id names, and an
attempt in the task that its id names, so that nothing is searched.  This finds every entity of a
tree that was linked, since linking has put each of them where its id points, and it finds nothing
else: no two entities of a tree have the same id, of whatever kinds they are.

## Main definitions

* `Id.FoundBy`: a text that is an id finds the entity with that id, and any other is refused.

## Main results

* `State.Orderly.nodup_keys`: **no two records are held under the same id.**
* `Dag.TreeOf.get?_task_iff`, `Dag.TreeOf.get?_attempt_iff`: the way that an id points leads to the
  entity with that id.
* `parse_found`: **in the tree of a history every entity is found by its own id**, and by no other
  text.
-/

namespace RunHistory

/-! ### Ids are told apart -/

/-- An id of a kind below the run has been split. -/
theorem Kind.of_readId {kind : Kind} (hkind : kind ≠ .dag) {x text run : String}
    (h : kind.readId x = .ok (text, run)) : (∃ parts, Id.split kind x = .ok parts) ∧
      run.toList.count '_' < text.toList.count '_' := by
  cases kind with
  | dag => exact absurd rfl hkind
  | vertex =>
    obtain ⟨id, hid, hread⟩ := map_eq_ok_iff.1 h
    cases hread
    obtain ⟨parts, hsplit, -⟩ := bind_eq_ok_iff.1 hid
    exact ⟨⟨parts, hsplit⟩, VertexId.count_lt hid⟩
  | task =>
    obtain ⟨id, hid, hread⟩ := map_eq_ok_iff.1 h
    cases hread
    obtain ⟨parts, hsplit, -⟩ := bind_eq_ok_iff.1 hid
    exact ⟨⟨parts, hsplit⟩, TaskId.count_lt hid⟩
  | attempt =>
    obtain ⟨id, hid, hread⟩ := map_eq_ok_iff.1 h
    cases hread
    obtain ⟨parts, hsplit, -⟩ := bind_eq_ok_iff.1 hid
    exact ⟨⟨parts, hsplit⟩, AttemptId.count_lt hid⟩

/-- Records of different kinds are held under different ids. -/
theorem State.Orderly.disjoint_keys {s : State} (h : s.Orderly) {kind kind' : Kind}
    (hne : kind ≠ kind') : (s.bucket kind).keys.Disjoint (s.bucket kind').keys := by
  intro key hkey hkey'
  have hread := h.readId kind key hkey
  have hread' := h.readId kind' key hkey'
  -- the id of the run has too few underscores for an id of another kind
  have hrun : ∀ k : Kind, k ≠ .dag → k.readId key = .ok (key, s.run) → key ∉ s.dags.keys := by
    intro k hk hread hmem
    obtain ⟨-, hcount⟩ := k.of_readId hk hread
    rcases h.dags with hdags | hdags
    · rw [hdags] at hmem
      cases hmem
    · rw [hdags, List.mem_singleton] at hmem
      rw [hmem] at hcount
      exact Nat.lt_irrefl _ hcount
  by_cases hkind : kind = .dag
  · subst hkind
    exact hrun kind' hne.symm hread' hkey
  by_cases hkind' : kind' = .dag
  · subst hkind'
    exact hrun kind hkind hread hkey'
  obtain ⟨⟨parts, hsplit⟩, -⟩ := kind.of_readId hkind hread
  obtain ⟨⟨parts', hsplit'⟩, -⟩ := kind'.of_readId hkind' hread'
  exact hne (Id.kind_eq_of_split hsplit hsplit')

/-- **No two records are held under the same id.** -/
theorem State.Orderly.nodup_keys {s : State} (h : s.Orderly) :
    (Kind.all.flatMap fun kind => (s.bucket kind).keys).Nodup := by
  refine List.nodup_flatMap.2 ⟨fun kind _ => (s.bucket kind).nodup_keys, ?_⟩
  have hkinds : Kind.all.Pairwise (· ≠ ·) := by decide
  exact hkinds.imp fun hne => h.disjoint_keys hne

/-! ### The ways that ids point -/

namespace Dag.TreeOf

variable {s : State} {d : Dag} (hd : d.TreeOf s) (hs : s.Sound)

include hd

theorem get?_vertex_iff {x : String} {v : Vertex} :
    d.vertices.get? x = some v ↔ v ∈ d.vertices.values ∧ v.id = x := by
  constructor
  · intro h
    exact ⟨Table.mem_values_iff.2 ⟨x, h⟩, (hd.vertices x v h).id_eq⟩
  · rintro ⟨hmem, rfl⟩
    obtain ⟨key, hkey⟩ := Table.mem_values_iff.1 hmem
    rwa [(hd.vertices key v hkey).id_eq]

include hs

/-- A task stands in the vertex that its id names. -/
theorem exists_of_mem_tasks {t : Task} (h : t ∈ d.tasks) : ∃ id v,
    TaskId.parse t.id = .ok id ∧ d.vertices.get? id.vertex.text = some v ∧
      v.tasks.get? t.id = some t := by
  obtain ⟨v, hv, ht⟩ := List.mem_flatMap.1 h
  obtain ⟨key, hkey⟩ := Table.mem_values_iff.1 hv
  obtain ⟨key', hkey'⟩ := Table.mem_values_iff.1 ht
  have hstands := hd.tasks key v hkey key' t hkey'
  have hchild : key' ∈ childKeys s.tasks key := by
    rw [← hd.task_keys key v hkey]
    exact Table.mem_keys_iff.2 ⟨t, hkey'⟩
  obtain ⟨r, hr, hparent⟩ := mem_childKeys_iff.1 hchild
  have hfiled := hs .task key' r hr
  obtain ⟨id, hid, -⟩ := hfiled.exists_taskId
  have hvertex : id.vertex.text = key := Option.some.inj
    ((Record.parent?_task hfiled.kind_eq hid).symm.trans hparent)
  refine ⟨id, v, ?_, by rwa [hvertex], by rwa [hstands.id_eq]⟩
  rw [hstands.id_eq, ← hfiled.key_eq, Record.key, TaskId.parse_trimText, hid]

/-- An attempt stands in the task that its id names. -/
theorem exists_of_mem_attempts {a : Attempt} (h : a ∈ d.attempts) : ∃ id v t,
    AttemptId.parse a.id = .ok id ∧ d.vertices.get? id.task.vertex.text = some v ∧
      v.tasks.get? id.task.text = some t ∧ t.attempts.get? a.id = some a := by
  obtain ⟨v, hv, ha⟩ := List.mem_flatMap.1 h
  obtain ⟨t, ht, ha⟩ := List.mem_flatMap.1 ha
  obtain ⟨taskId, v', htaskId, hv', ht'⟩ :=
    hd.exists_of_mem_tasks hs (List.mem_flatMap.2 ⟨v, hv, ht⟩)
  obtain ⟨key', hkey'⟩ := Table.mem_values_iff.1 ht
  obtain ⟨key, hkey⟩ := Table.mem_values_iff.1 hv
  obtain ⟨key'', hkey''⟩ := Table.mem_values_iff.1 ha
  have htask := hd.tasks key v hkey key' t hkey'
  have hchild : key'' ∈ childKeys s.attempts t.id := by
    rw [htask.id_eq, ← htask.keys_eq]
    exact Table.mem_keys_iff.2 ⟨a, hkey''⟩
  have hattempt := (htask.attempts key'' a hkey'').id_eq
  obtain ⟨r, hr, hparent⟩ := mem_childKeys_iff.1 hchild
  have hfiled := hs .attempt key'' r hr
  obtain ⟨id, hid, -⟩ := hfiled.exists_attemptId
  have htext : id.task.text = t.id := Option.some.inj
    ((Record.parent?_attempt hfiled.kind_eq hid).symm.trans hparent)
  -- the id of the task is read from its text, so it is the one that the attempt's id names
  obtain ⟨parent, hparent⟩ := (AttemptId.of_parse hid).2
  have hsame : taskId = id.task := Except.ok.inj
    (htaskId.symm.trans (htext ▸ TaskId.parse_text hparent))
  refine ⟨id, v', t, ?_, hsame ▸ hv', htext ▸ ht', by rwa [hattempt]⟩
  rw [hattempt, ← hfiled.key_eq, Record.key, AttemptId.parse_trimText, hid]

theorem get?_task_iff {x : String} {id : TaskId} (hid : TaskId.parse x = .ok id) {t : Task} :
    (d.vertices.get? id.vertex.text).bind (fun v => v.tasks.get? x) = some t ↔
      t ∈ d.tasks ∧ t.id = x := by
  constructor
  · intro h
    obtain ⟨v, hv, ht⟩ := Option.bind_eq_some_iff.1 h
    exact ⟨List.mem_flatMap.2 ⟨v, Table.mem_values_iff.2 ⟨_, hv⟩, Table.mem_values_iff.2 ⟨_, ht⟩⟩,
      (hd.tasks _ v hv x t ht).id_eq⟩
  · rintro ⟨hmem, rfl⟩
    obtain ⟨id', v, hid', hv, ht⟩ := hd.exists_of_mem_tasks hs hmem
    obtain rfl := Except.ok.inj (hid'.symm.trans hid)
    rw [hv, Option.bind_some, ht]

theorem get?_attempt_iff {x : String} {id : AttemptId} (hid : AttemptId.parse x = .ok id)
    {a : Attempt} :
    ((d.vertices.get? id.task.vertex.text).bind fun v => v.tasks.get? id.task.text).bind
        (fun t => t.attempts.get? x) = some a ↔ a ∈ d.attempts ∧ a.id = x := by
  constructor
  · intro h
    obtain ⟨t, ht, ha⟩ := Option.bind_eq_some_iff.1 h
    obtain ⟨v, hv, ht⟩ := Option.bind_eq_some_iff.1 ht
    refine ⟨List.mem_flatMap.2 ⟨v, Table.mem_values_iff.2 ⟨_, hv⟩, List.mem_flatMap.2
      ⟨t, Table.mem_values_iff.2 ⟨_, ht⟩, Table.mem_values_iff.2 ⟨_, ha⟩⟩⟩, ?_⟩
    exact ((hd.tasks _ v hv _ t ht).attempts x a ha).id_eq
  · rintro ⟨hmem, rfl⟩
    obtain ⟨id', v, t, hid', hv, ht, ha⟩ := hd.exists_of_mem_attempts hs hmem
    obtain rfl := Except.ok.inj (hid'.symm.trans hid)
    rw [hv, Option.bind_some, ht, Option.bind_some, ha]

end Dag.TreeOf

/-! ### Answers to questions -/

/-- The first item with an id is what is found, if it is found just for that id. -/
theorem find?_eq_of_iff {α : Type} {items : List α} {id : α → String} {x : String}
    {found : Option α} (h : ∀ a, found = some a ↔ a ∈ items ∧ id a = x) :
    (items.find? fun a => id a = x) = found := by
  cases hfind : items.find? fun a => id a = x with
  | some a =>
    have hid : id a = x := by simpa using List.find?_some hfind
    exact ((h a).2 ⟨List.mem_of_find?_eq_some hfind, hid⟩).symm
  | none =>
    cases hfound : found with
    | none => rfl
    | some a =>
      obtain ⟨hmem, hid⟩ := (h a).1 hfound
      exact absurd hid (by simpa using List.find?_eq_none.1 hfind a hmem)

/-- A text, without the blanks around it, is an id of a kind, and the answer is the item with the
very text as its id; or it is none, and the question is not well formed. -/
def Id.FoundBy {Term α : Type} (written : Term → List Char) (items : List α) (id : α → String)
    (x : String) (answer : Except Failure (Option α)) : Prop :=
  (∃ t, trim x.toList = written t) ∧ answer = .ok (items.find? fun a => id a = x) ∨
    (∀ t, trim x.toList ≠ written t) ∧ ∃ e, answer = .error e ∧ e.category = .malformedInput

namespace Dag.TreeOf

variable {s : State} {d : Dag} (hd : d.TreeOf s) (hs : s.Sound)

include hd

theorem vertex?_eq (x : String) :
    d.vertex? (.str x) = .ok (d.vertices.values.find? fun v => v.id = x) := by
  rw [find?_eq_of_iff fun v => hd.get?_vertex_iff]
  rfl

include hs

theorem task?_eq {x : String} {id : TaskId} (hid : TaskId.parse x = .ok id) :
    d.task? (.str x) = .ok (d.tasks.find? fun t => t.id = x) := by
  rw [d.task?_str hid, find?_eq_of_iff fun t => hd.get?_task_iff hs hid]

theorem attempt?_eq {x : String} {id : AttemptId} (hid : AttemptId.parse x = .ok id) :
    d.attempt? (.str x) = .ok (d.attempts.find? fun a => a.id = x) := by
  have hvalue : AttemptId.ofValue (.str x) = .ok id := by
    rw [AttemptId.ofValue_str, mapError_eq_ok_iff, hid]
  obtain ⟨parent, hparent⟩ := (AttemptId.of_parse hid).2
  rw [find?_eq_of_iff fun a => hd.get?_attempt_iff hs hid, Dag.attempt?, hvalue, ok_bind,
    d.task?_str (TaskId.parse_text hparent), ok_bind]
  cases (d.vertices.get? id.task.vertex.text).bind fun v => v.tasks.get? id.task.text <;> rfl

theorem foundBy_task {x : String} (hshort : Id.ShortParts .task x) :
    Id.FoundBy Id.SpacedTask.text d.tasks (fun t => t.id) x (d.task? (.str x)) := by
  rcases Id.readAs_task hshort with ⟨t, ht, hok⟩ | ⟨hnone, fault, hfault, hcategory⟩
  · exact .inl ⟨⟨t, ht⟩, hd.task?_eq hs hok⟩
  · refine .inr ⟨hnone, Failure.ofId fault, ?_, hcategory⟩
    have hvalue : TaskId.ofValue (.str x) = .error (Failure.ofId fault) := by
      rw [TaskId.ofValue_str, hfault]
      rfl
    rw [Dag.task?, hvalue]
    rfl

theorem foundBy_attempt {x : String} (hshort : Id.ShortParts .attempt x) :
    Id.FoundBy Id.SpacedAttempt.text d.attempts (fun a => a.id) x (d.attempt? (.str x)) := by
  rcases Id.readAs_attempt hshort with ⟨t, ht, hok⟩ | ⟨hnone, fault, hfault, hcategory⟩
  · exact .inl ⟨⟨t, ht⟩, hd.attempt?_eq hs hok⟩
  · refine .inr ⟨hnone, Failure.ofId fault, ?_, hcategory⟩
    have hvalue : AttemptId.ofValue (.str x) = .error (Failure.ofId fault) := by
      rw [AttemptId.ofValue_str, hfault]
      rfl
    rw [Dag.attempt?, hvalue]
    rfl

/-- Every task is found by its own id, and so is every attempt. -/
theorem task?_id {t : Task} (h : t ∈ d.tasks) : d.task? (.str t.id) = .ok (some t) := by
  obtain ⟨id, v, hid, hv, ht⟩ := hd.exists_of_mem_tasks hs h
  rw [d.task?_str hid, hv, Option.bind_some, ht]

theorem attempt?_id {a : Attempt} (h : a ∈ d.attempts) :
    d.attempt? (.str a.id) = .ok (some a) := by
  obtain ⟨id, v, t, hid, hv, ht, ha⟩ := hd.exists_of_mem_attempts hs h
  have hfound := (hd.get?_attempt_iff hs hid).2 ⟨h, rfl⟩
  rw [hd.attempt?_eq hs hid, find?_eq_of_iff fun a => hd.get?_attempt_iff hs hid, hfound]

end Dag.TreeOf

/-! ### The tree of a history -/

/-- No two entities of a tree have the same id. -/
theorem State.Orderly.nodup_ids {s : State} (h : s.Orderly) (hs : s.Sound) {d : Dag}
    (hlink : s.link.outcome.result = .ok d) :
    (d.id :: (d.vertices.values.map (fun v => v.id) ++ d.tasks.map (fun t => t.id) ++
      d.attempts.map fun a => a.id)).Nodup := by
  have hd := hs.treeOf hlink
  have hcomplete := hs.complete_of_link hlink
  have hno : ¬s.Orphaned .task := fun h => hcomplete (.inr (.inl h))
  have hno' : ¬s.Orphaned .attempt := fun h => hcomplete (.inr (.inr h))
  have hdags : s.dags.keys = [d.id] := by
    rcases h.dags with hdags | hdags
    · exact absurd (.inl hdags) hcomplete
    · rw [hdags, hd.id_eq]
  have hvertices : d.vertices.values.map (fun v => v.id) = s.vertices.keys := by
    rw [← hd.keys_eq]
    exact Table.map_id_values fun k v hv => (hd.vertices k v hv).id_eq
  have hperm : (d.id :: (d.vertices.values.map (fun v => v.id) ++ d.tasks.map (fun t => t.id) ++
      d.attempts.map fun a => a.id)).Perm
      (d.id :: (s.vertices.keys ++ s.tasks.keys ++ s.attempts.keys)) := by
    rw [hvertices]
    exact (((hd.perm_tasks hs hno).append_left _).append (hd.perm_attempts hs hno hno')).cons _
  have hall : (Kind.all.flatMap fun kind => (s.bucket kind).keys) =
      d.id :: (s.vertices.keys ++ s.tasks.keys ++ s.attempts.keys) := by
    show s.dags.keys ++ (s.vertices.keys ++ (s.tasks.keys ++ (s.attempts.keys ++ []))) = _
    rw [hdags, List.append_nil, List.append_assoc]
    rfl
  exact hperm.nodup_iff.2 (hall ▸ h.nodup_keys)

/-- **In the tree of a history every entity is found by its own id.**  No two entities have the same
id; a vertex is found by the text of its id, and so are a task and an attempt, while a text that is
no id of a task or an attempt is refused as not well formed. -/
theorem parse_found {cfg : Configuration} {source : Source} {wanted : Value} {d : Dag}
    (h : (parse cfg source wanted).result = .ok d) :
    (d.id :: (d.vertices.values.map (fun v => v.id) ++ d.tasks.map (fun t => t.id) ++
      d.attempts.map fun a => a.id)).Nodup ∧
    (∀ x, d.vertex? (.str x) = .ok (d.vertices.values.find? fun v => v.id = x)) ∧
    (∀ x, Id.ShortParts .task x →
      Id.FoundBy Id.SpacedTask.text d.tasks (fun t => t.id) x (d.task? (.str x))) ∧
    (∀ x, Id.ShortParts .attempt x →
      Id.FoundBy Id.SpacedAttempt.text d.attempts (fun a => a.id) x (d.attempt? (.str x))) ∧
    (∀ t ∈ d.tasks, d.task? (.str t.id) = .ok (some t)) ∧
    ∀ a ∈ d.attempts, d.attempt? (.str a.id) = .ok (some a) := by
  obtain ⟨s, ⟨run, bytes, chunks, hrun, -, -, hingest⟩, hlink⟩ := exists_of_parse h
  obtain ⟨hs, rfl⟩ := sound_ingest hingest
  have hd := hs.treeOf hlink
  have horderly := hs.orderly (DagId.parse_wantedRun hrun)
  exact ⟨horderly.nodup_ids hs hlink, hd.vertex?_eq, fun x => hd.foundBy_task hs,
    fun x => hd.foundBy_attempt hs, fun t => hd.task?_id hs, fun a => hd.attempt?_id hs⟩

/-- A history with one task, whose id has a gap. -/
def gappedTask : Source where
  asked := some "history"
  shown := "history"
  content := .file ((['\n'].intercalate [bareText "dag_1_vertex_2 _task_3" "TASK",
    bareText "dag_1_vertex_2" "VERTEX", bareText "dag_1" "DAG"]).flatMap String.utf8EncodeChar)

theorem parse_found_gappedTask : ∃ d, (parse .standard gappedTask (.str "dag_1")).result = .ok d ∧
    (∃ t ∈ d.tasks, d.task? (.str "dag_1_vertex_2 _task_3") = .ok (some t)) ∧
    Id.FoundBy Id.SpacedTask.text d.tasks (fun t => t.id) " dag_1_vertex_2_task_3"
      (d.task? (.str " dag_1_vertex_2_task_3")) ∧
    Id.FoundBy Id.SpacedAttempt.text d.attempts (fun a => a.id) "dag_1_vertex_2_task_3"
      (d.attempt? (.str "dag_1_vertex_2_task_3")) := by
  have hids : (parse .standard gappedTask (.str "dag_1")).result.toOption.map
      (fun d => d.tasks.map fun t => t.id) = some ["dag_1_vertex_2 _task_3"] := by
    decide +kernel
  obtain ⟨d, hresult, hids⟩ := exists_of_toOption_map hids
  have hmem : "dag_1_vertex_2 _task_3" ∈ d.tasks.map fun t => t.id := by
    rw [hids]
    exact List.mem_singleton_self _
  obtain ⟨t, ht, hid⟩ := List.mem_map.1 hmem
  obtain ⟨-, -, htask, hattempt, hown, -⟩ := parse_found hresult
  exact ⟨d, hresult, ⟨t, ht, hid ▸ hown t ht⟩, htask _ (Id.shortParts_of_length_le (by decide)),
    hattempt _ (Id.shortParts_of_length_le (by decide))⟩

end RunHistory
