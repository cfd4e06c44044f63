import RunHistory.Proofs.Link.Placing

/-!
# The tree of a run as its records tell it

The tree of a state has the entities of the records that are held, and no others: the vertices are
those of the state, a vertex holds the tasks whose ids name it, and a task holds the attempts whose
ids name it, all in the order in which the state holds their records.  Linking builds the tree from
the top, and each stage leaves what the stages before it have built.

## Main definitions

* `Record.parent?`: what holds the entity of a record, going by the entity's id.
* `childKeys`: the records whose entities a parent holds.
* `Attempt.Stands`, `Task.Placed`, `Task.Stands`, `Vertex.Placed`: an entity in its place.
* `Dag.Spans`, `Dag.Filled`, `Dag.TreeOf`: the tree after each stage.

## Main results

* `Link.spans_withVertices`, `Link.filled_putTask`, `Link.treeOf_putAttempt`: **the stages.**
-/

namespace RunHistory

/-! ### Parents and children -/

/-- The id of what holds the entity of a record, as the entity's own id names it. -/
def Record.parent? (r : Record) : Option String :=
  match r.kind with
  | .dag => none
  | .vertex => (VertexId.parse r.entity).toOption.map (·.dag.text)
  | .task => (TaskId.parse r.entity).toOption.map (·.vertex.text)
  | .attempt => (AttemptId.parse r.entity).toOption.map (·.task.text)

theorem Record.parent?_task {r : Record} (hkind : r.kind = .task) {id : TaskId}
    (h : TaskId.parse r.entity = .ok id) : r.parent? = some id.vertex.text := by
  rw [Record.parent?, hkind, h]
  rfl

theorem Record.parent?_attempt {r : Record} (hkind : r.kind = .attempt) {id : AttemptId}
    (h : AttemptId.parse r.entity = .ok id) : r.parent? = some id.task.text := by
  rw [Record.parent?, hkind, h]
  rfl

/-- The ids of the records whose entities a parent holds, in the order of the records. -/
def childKeys (records : Table Record) (parent : String) : List String :=
  (records.entries.filter fun e => e.2.parent? = some parent).map Prod.fst

theorem nodup_childKeys (records : Table Record) (parent : String) :
    (childKeys records parent).Nodup :=
  records.nodup.sublist (List.filter_sublist.map _)

theorem mem_childKeys_iff {records : Table Record} {parent key : String} :
    key ∈ childKeys records parent ↔ ∃ r, records.get? key = some r ∧ r.parent? = some parent := by
  simp [childKeys, Table.get?_eq_some_iff]

/-! ### Entities in their places -/

/-- An attempt in its task: it is what the record under its id tells, with the names of its related
entities. -/
structure Attempt.Stands (s : State) (holder key : String) (a : Attempt) : Prop where
  /-- It stands under its own id. -/
  id_eq : a.id = key
  /-- It names the task that holds it. -/
  holder_eq : a.holder = some holder
  /-- All else is made from the record that is held. -/
  record : ∃ r a₀, s.held? .attempt key = some r ∧
    Attempt.ofRecord r.withRelations = .ok a₀ ∧ a = a₀.within holder

/-- A task in its vertex, whatever its attempts. -/
structure Task.Placed (s : State) (holder key : String) (t : Task) : Prop where
  /-- It stands under its own id. -/
  id_eq : t.id = key
  /-- It names the vertex that holds it. -/
  holder_eq : t.holder = some holder
  /-- All else is made from the record that is held. -/
  record : ∃ r t₀, s.held? .task key = some r ∧
    Task.ofRecord r = .ok t₀ ∧ t = (t₀.within holder).setAttempts t.attempts

/-- A task in its vertex, with its attempts. -/
structure Task.Stands (s : State) (holder key : String) (t : Task) : Prop
    extends Task.Placed s holder key t where
  /-- Its attempts are those whose ids name it. -/
  keys_eq : t.attempts.keys = childKeys s.attempts key
  /-- They stand in it. -/
  attempts : ∀ k a, t.attempts.get? k = some a → a.Stands s t.id k

/-- A vertex in its run, whatever its tasks. -/
structure Vertex.Placed (s : State) (d : Dag) (key : String) (v : Vertex) : Prop where
  /-- It stands under its own id. -/
  id_eq : v.id = key
  /-- It names the run that holds it. -/
  holder_eq : v.holder = some d.id
  /-- All else is made from the record that is held, and the run may give it a name. -/
  record : ∃ r v₀, s.held? .vertex key = some r ∧
    Vertex.ofRecord r = .ok v₀ ∧ v = (d.adopt v₀).setTasks v.tasks

/-- A run with the vertices of a state, whatever their tasks. -/
structure Dag.Spans (s : State) (d : Dag) : Prop where
  /-- It is the run of the state. -/
  id_eq : d.id = s.run
  /-- All else is made from the record that is held. -/
  record : ∃ r d₀, s.held? .dag s.run = some r ∧
    Dag.ofRecord r = .ok d₀ ∧ d = d₀.setVertices d.vertices
  /-- Its vertices are those of the state. -/
  keys_eq : d.vertices.keys = s.vertices.keys
  /-- They stand in it. -/
  vertices : ∀ k v, d.vertices.get? k = some v → v.Placed s d k

/-- A run with the vertices and tasks of a state, and without attempts. -/
structure Dag.Filled (s : State) (d : Dag) : Prop extends Dag.Spans s d where
  /-- The tasks of a vertex are those whose ids name it. -/
  task_keys : ∀ k v, d.vertices.get? k = some v → v.tasks.keys = childKeys s.tasks k
  /-- They stand in it. -/
  tasks : ∀ k v, d.vertices.get? k = some v → ∀ k' t, v.tasks.get? k' = some t →
    t.Placed s v.id k' ∧ t.attempts = .empty

/-- **The tree of a state**: a run with its vertices, their tasks, and the attempts at them. -/
structure Dag.TreeOf (s : State) (d : Dag) : Prop extends Dag.Spans s d where
  /-- The tasks of a vertex are those whose ids name it. -/
  task_keys : ∀ k v, d.vertices.get? k = some v → v.tasks.keys = childKeys s.tasks k
  /-- They stand in it, with their attempts. -/
  tasks : ∀ k v, d.vertices.get? k = some v → ∀ k' t, v.tasks.get? k' = some t →
    t.Stands s v.id k'

/-- Vertices may get other tasks. -/
theorem Dag.Spans.setVertices {s : State} {d : Dag} (h : d.Spans s) {vertices : Table Vertex}
    (hkeys : vertices.keys = d.vertices.keys)
    (hvertices : ∀ k v', vertices.get? k = some v' →
      ∃ v, d.vertices.get? k = some v ∧ v' = v.setTasks v'.tasks) :
    (d.setVertices vertices).Spans s := by
  obtain ⟨r, d₀, hheld, hmade, hd⟩ := h.record
  refine ⟨h.id_eq, ⟨r, d₀, hheld, hmade, ?_⟩, hkeys.trans h.keys_eq, fun k v' hv' => ?_⟩
  · rw [hd]
    rfl
  · obtain ⟨v, hv, hset⟩ := hvertices k v' hv'
    obtain ⟨r, v₀, hheld, hmade, hv₀⟩ := (h.vertices k v hv).record
    refine ⟨?_, ?_, r, v₀, hheld, hmade, ?_⟩
    · rw [hset]
      exact (h.vertices k v hv).id_eq
    · rw [hset]
      exact (h.vertices k v hv).holder_eq
    · rw [hset, hv₀]
      rfl

/-! ### Entities made one for each record -/

theorem Table.forall₂_mapM {α ε : Type} {records : Table Record} {f : Record → Except ε α}
    {items : List α} (h : records.values.mapM f = .ok items) :
    List.Forall₂ (fun e a => records.get? e.1 = some e.2 ∧ f e.2 = .ok a) records.entries
      items := by
  have hall := mapM_eq_ok_iff.1 h
  rw [Table.values, List.forall₂_map_left_iff] at hall
  have hget : ∀ e ∈ records.entries, records.get? e.1 = some e.2 :=
    fun _ he => Table.get?_eq_some_iff.2 he
  exact (List.forall₂_and_left _ _).2 ⟨hget, hall⟩

theorem Table.exists_of_mem_mapM {α ε : Type} {records : Table Record} {f : Record → Except ε α}
    {items : List α} (h : records.values.mapM f = .ok items) {a : α} (ha : a ∈ items) :
    ∃ key r, records.get? key = some r ∧ f r = .ok a := by
  obtain ⟨r, hr, hra⟩ := RunHistory.exists_of_mem_mapM h ha
  obtain ⟨key, hkey⟩ := Table.mem_values_iff.1 hr
  exact ⟨key, r, hkey, hra⟩

theorem map_eq_keys {α ε : Type} {records : Table Record} {f : Record → Except ε α}
    {items : List α} (h : records.values.mapM f = .ok items) {id : α → String}
    (hf : ∀ key r a, records.get? key = some r → f r = .ok a → id a = key) :
    items.map id = records.keys := by
  have hall := Table.forall₂_mapM h
  clear h
  rw [Table.keys]
  generalize records.entries = entries at hall ⊢
  induction hall with
  | nil => rfl
  | @cons e a entries items he _ ih =>
    have hid : id a = e.1 := hf e.1 e.2 a he.1 he.2
    rw [List.map_cons, List.map_cons, hid, ih]

/-- The entities that name a parent are those of the records that do, in order. -/
theorem map_filter_eq_childKeys {α ε : Type} {records : Table Record} {f : Record → Except ε α}
    {items : List α} (h : records.values.mapM f = .ok items) {id parent : α → String}
    (hf : ∀ key r a, records.get? key = some r → f r = .ok a →
      id a = key ∧ r.parent? = some (parent a)) (key : String) :
    (items.filter fun a => parent a = key).map id = childKeys records key := by
  have hall := Table.forall₂_mapM h
  clear h
  rw [childKeys]
  generalize records.entries = entries at hall ⊢
  induction hall with
  | nil => rfl
  | @cons e a entries items he _ ih =>
    obtain ⟨hid, hparent⟩ := hf e.1 e.2 a he.1 he.2
    by_cases hkey : parent a = key
    · simp [hparent, hkey, hid, ih]
    · simp [hparent, hkey, ih]

/-- A new table of entities, each under its own id. -/
theorem Table.get?_setAll_empty {α β : Type} {items : List α} {id : α → String} {g : α → β}
    (h : (items.map id).Nodup) :
    ((Table.empty : Table β).setAll (items.map fun a => (id a, g a))).keys = items.map id ∧
      ∀ k b, ((Table.empty : Table β).setAll (items.map fun a => (id a, g a))).get? k = some b ↔
        ∃ a ∈ items, id a = k ∧ g a = b := by
  have hmap : (items.map fun a => (id a, g a)).map Prod.fst = items.map id := by simp
  have hentries := Table.entries_setAll (Table.empty : Table β) (items.map fun a => (id a, g a))
    (by rw [hmap]; exact h)
  rw [Table.entries_empty, List.nil_append] at hentries
  refine ⟨?_, fun k b => ?_⟩
  · rw [Table.keys, hentries, hmap]
  · rw [Table.get?_eq_some_iff, hentries]
    simp

namespace Link

variable {s : State}

/-! ### The stages -/

/-- **The run takes in its vertices.** -/
theorem spans_withVertices (hs : s.Sound) {r : Record} {bare : Dag}
    (hr : s.held? .dag s.run = some r) (hbare : Dag.ofRecord r = .ok bare)
    {vertices : List Vertex} (hv : s.vertices.values.mapM Vertex.ofRecord = .ok vertices) :
    (withVertices bare vertices).Spans s ∧
      ∀ k v, (withVertices bare vertices).vertices.get? k = some v → v.tasks = .empty := by
  obtain ⟨hid, hempty⟩ := Dag.of_ofRecord hbare
  have hmade : ∀ key r v, s.vertices.get? key = some r → Vertex.ofRecord r = .ok v →
      v.id = key := fun key r v hheld hv =>
    (Vertex.of_ofRecord hv).1.trans (hs .vertex key r hheld).key_eq
  have hids : vertices.map (·.id) = s.vertices.keys := map_eq_keys hv hmade
  have hnodup : (vertices.map (·.id)).Nodup := hids ▸ s.vertices.nodup_keys
  obtain ⟨hkeys, hget⟩ := Table.get?_setAll_empty (β := Vertex) (g := bare.adopt) hnodup
  rw [withVertices_eq, hempty]
  refine ⟨⟨?_, ⟨r, bare, hr, hbare, rfl⟩, ?_, ?_⟩, ?_⟩
  · exact hid.trans (hs .dag s.run r hr).key_eq
  · exact hkeys.trans hids
  · intro k v hkv
    obtain ⟨v₀, hmem, rfl, rfl⟩ := (hget k v).1 hkv
    obtain ⟨key, r, hheld, hmade'⟩ := Table.exists_of_mem_mapM hv hmem
    have hkey := hmade key r v₀ hheld hmade'
    exact ⟨rfl, rfl, r, v₀, hkey ▸ hheld, hmade', rfl⟩
  · intro k v hkv
    obtain ⟨v₀, hmem, rfl, rfl⟩ := (hget k v).1 hkv
    obtain ⟨key, r, hheld, hmade'⟩ := Table.exists_of_mem_mapM hv hmem
    exact (Vertex.of_ofRecord hmade').2

theorem task_eq_ok (hs : s.Sound) (hm : s.Measurable) {d : Dag} {key : String} {r : Record}
    (hr : s.tasks.get? key = some r) {p : VertexId × Task} (h : task d r = .ok p) :
    p.2.id = key ∧ r.parent? = some p.1.text ∧ Task.ofRecord r = .ok p.2 := by
  have hfiled := hs .task key r hr
  obtain ⟨id, t, hid, ht, htid, hspec⟩ := task_spec hfiled (hm .task key r hr) d
  rw [hspec] at h
  by_cases hplace : id.vertex.text ∈ d.vertices.keys
  · rw [if_pos hplace] at h
    cases h
    exact ⟨htid, Record.parent?_task hfiled.kind_eq hid, ht⟩
  · rw [if_neg hplace] at h
    cases h

/-- The tasks that a vertex takes in are those whose ids name it. -/
theorem placed_addTask (hs : s.Sound) (hm : s.Measurable) {d : Dag}
    {placed : List (VertexId × Task)} (hplaced : s.tasks.values.mapM (task d) = .ok placed)
    (holder key : String) {tasks : Table Task}
    (htasks : tasks = Table.empty.setAll ((placed.filter fun p => p.1.text = key).map
      fun p => (p.2.id, p.2.within holder))) :
    tasks.keys = childKeys s.tasks key ∧
      ∀ k t, tasks.get? k = some t → t.Placed s holder k ∧ t.attempts = .empty := by
  have hids : (placed.filter fun p => p.1.text = key).map (·.2.id) = childKeys s.tasks key := by
    refine map_filter_eq_childKeys hplaced (fun key r p hr hp => ?_) key
    obtain ⟨hid, hparent, -⟩ := task_eq_ok hs hm hr hp
    exact ⟨hid, hparent⟩
  have hnodup : ((placed.filter fun p => p.1.text = key).map (·.2.id)).Nodup :=
    hids ▸ nodup_childKeys s.tasks key
  obtain ⟨hkeys, hget⟩ :=
    Table.get?_setAll_empty (β := Task) (g := fun p => p.2.within holder) hnodup
  rw [htasks]
  refine ⟨hkeys.trans hids, fun k t ht => ?_⟩
  obtain ⟨p, hp, hpid, rfl⟩ := (hget k t).1 ht
  obtain ⟨key', r, hr, hpr⟩ := Table.exists_of_mem_mapM hplaced (List.mem_filter.1 hp).1
  obtain ⟨hkey', -, hofRecord⟩ := task_eq_ok hs hm hr hpr
  obtain ⟨-, hattempts, -⟩ := Task.of_ofRecord hofRecord
  refine ⟨⟨hpid, rfl, r, p.2, ?_, hofRecord, ?_⟩, hattempts⟩
  · rw [← hpid, hkey']
    exact hr
  · rfl

/-- **The vertices take in their tasks.** -/
theorem filled_putTask (hs : s.Sound) (hm : s.Measurable) {d : Dag} (hd : d.Spans s)
    (hempty : ∀ k v, d.vertices.get? k = some v → v.tasks = .empty)
    {placed : List (VertexId × Task)} (hplaced : s.tasks.values.mapM (task d) = .ok placed) :
    (placed.foldl putTask d).Filled s := by
  -- what a vertex looks like afterwards
  have hvertex : ∀ k v', (placed.foldl putTask d).vertices.get? k = some v' →
      ∃ v, d.vertices.get? k = some v ∧ v' = v.setTasks v'.tasks ∧
        v'.tasks = Table.empty.setAll ((placed.filter fun p => p.1.text = k).map
          fun p => (p.2.id, p.2.within v'.id)) := by
    intro k v' hv'
    rw [get?_foldl_putTask, Option.map_eq_some_iff] at hv'
    obtain ⟨v, hv, rfl⟩ := hv'
    rw [hempty k v hv]
    exact ⟨v, hv, rfl, rfl⟩
  have hspans : (placed.foldl putTask d).Spans s := by
    rw [foldl_putTask] at hvertex ⊢
    refine hd.setVertices (Table.keys_foldl_modify _ _ _ _) fun k v' hv' => ?_
    obtain ⟨v, hv, hset, -⟩ := hvertex k v' hv'
    exact ⟨v, hv, hset⟩
  refine ⟨hspans, fun k v' hv' => ?_, fun k v' hv' => ?_⟩
  · obtain ⟨v, -, -, htasks⟩ := hvertex k v' hv'
    exact (placed_addTask hs hm hplaced v'.id k htasks).1
  · obtain ⟨v, -, -, htasks⟩ := hvertex k v' hv'
    exact (placed_addTask hs hm hplaced v'.id k htasks).2

theorem attempt_eq_ok (hs : s.Sound) (hm : s.Measurable) {d : Dag} {key : String} {r : Record}
    (hr : s.attempts.get? key = some r) {p : TaskId × Attempt} (h : attempt d r = .ok p) :
    p.2.id = key ∧ r.parent? = some p.1.text ∧ Attempt.ofRecord r.withRelations = .ok p.2 ∧
      TaskId.parse p.1.text = .ok p.1 := by
  have hfiled := hs .attempt key r hr
  obtain ⟨id, a, hid, ha, haid, hspec⟩ := attempt_spec hfiled (hm .attempt key r hr) d
  rw [hspec] at h
  by_cases hplace : HasTask d id.task
  · rw [if_pos hplace] at h
    cases h
    obtain ⟨parent, hparent⟩ := (AttemptId.of_parse hid).2
    exact ⟨haid, Record.parent?_attempt hfiled.kind_eq hid, ha, TaskId.parse_text hparent⟩
  · rw [if_neg hplace] at h
    cases h

/-- The task of a record names one vertex only. -/
theorem vertex_of_mem_childKeys (hs : s.Sound) {id : TaskId} (hid : TaskId.parse id.text = .ok id)
    {key : String} (h : id.text ∈ childKeys s.tasks key) : id.vertex.text = key := by
  obtain ⟨r, hr, hparent⟩ := mem_childKeys_iff.1 h
  have hfiled := hs .task id.text r hr
  have hentity : TaskId.parse r.entity = .ok id := by
    rw [← TaskId.parse_trimText, ← Record.key, hfiled.key_eq, hid]
  rw [Record.parent?_task hfiled.kind_eq hentity] at hparent
  exact Option.some.inj hparent

variable {d : Dag} {placed : List (TaskId × Attempt)}

/-- The attempts at a task all go through the vertex that holds it. -/
theorem filter_through_vertex (hs : s.Sound) (hm : s.Measurable)
    (hplaced : s.attempts.values.mapM (attempt d) = .ok placed) {k k' : String}
    (hk' : k' ∈ childKeys s.tasks k) :
    ((placed.filter fun p => p.1.vertex.text = k).filter fun p => p.1.text = k') =
      placed.filter fun p => p.1.text = k' := by
  rw [List.filter_filter]
  refine List.filter_congr fun p hp => ?_
  by_cases htext : p.1.text = k'
  · obtain ⟨key, r, hr, hpr⟩ := Table.exists_of_mem_mapM hplaced hp
    have hparse : TaskId.parse p.1.text = .ok p.1 := (attempt_eq_ok hs hm hr hpr).2.2.2
    have hvertex : p.1.vertex.text = k := vertex_of_mem_childKeys hs hparse (htext ▸ hk')
    simp [htext, hvertex]
  · simp [htext]

/-- A task takes in its attempts. -/
theorem stands_addAttempt (hs : s.Sound) (hm : s.Measurable)
    (hplaced : s.attempts.values.mapM (attempt d) = .ok placed) {holder key : String} {t : Task}
    (ht : t.Placed s holder key) (hempty : t.attempts = .empty) :
    (t.setAttempts (t.attempts.setAll ((placed.filter fun p => p.1.text = key).map
      fun p => (p.2.id, p.2.within t.id)))).Stands s holder key := by
  have hids : (placed.filter fun p => p.1.text = key).map (·.2.id) = childKeys s.attempts key := by
    refine map_filter_eq_childKeys hplaced (fun key r p hr hp => ?_) key
    obtain ⟨hid, hparent, -⟩ := attempt_eq_ok hs hm hr hp
    exact ⟨hid, hparent⟩
  have hnodup : ((placed.filter fun p => p.1.text = key).map (·.2.id)).Nodup :=
    hids ▸ nodup_childKeys s.attempts key
  obtain ⟨hkeys, hget⟩ :=
    Table.get?_setAll_empty (β := Attempt) (g := fun p => p.2.within t.id) hnodup
  obtain ⟨hid, hholder, r, t₀, hr, ht₀, hteq⟩ := ht
  rw [hempty]
  refine ⟨⟨hid, hholder, r, t₀, hr, ht₀, ?_⟩, hkeys.trans hids, fun k a ha => ?_⟩
  · rw [hteq]
    rfl
  · obtain ⟨p, hp, hpid, rfl⟩ := (hget k a).1 ha
    obtain ⟨key', r', hr', hpr'⟩ := Table.exists_of_mem_mapM hplaced (List.mem_filter.1 hp).1
    obtain ⟨hkey', -, hofRecord, -⟩ := attempt_eq_ok hs hm hr' hpr'
    refine ⟨hpid, rfl, r', p.2, ?_, hofRecord, rfl⟩
    rw [← hpid, hkey']
    exact hr'

/-- **The tasks take in their attempts.** -/
theorem treeOf_putAttempt (hs : s.Sound) (hm : s.Measurable) (hd : d.Filled s)
    (hplaced : s.attempts.values.mapM (attempt d) = .ok placed) :
    (placed.foldl putAttempt d).TreeOf s := by
  -- what a vertex looks like afterwards
  have hvertex : ∀ k v', (placed.foldl putAttempt d).vertices.get? k = some v' →
      ∃ v, d.vertices.get? k = some v ∧ v' = v.setTasks ((placed.filter fun p =>
        p.1.vertex.text = k).foldl (fun t p => t.modify p.1.text (Task.addAttempt · p.2))
          v.tasks) := by
    intro k v' hv'
    rw [get?_foldl_putAttempt, Option.map_eq_some_iff] at hv'
    obtain ⟨v, hv, rfl⟩ := hv'
    exact ⟨v, hv, rfl⟩
  have hspans : (placed.foldl putAttempt d).Spans s := by
    rw [foldl_putAttempt] at hvertex ⊢
    refine hd.toSpans.setVertices (Table.keys_foldl_modify _ _ _ _) fun k v' hv' => ?_
    obtain ⟨v, hv, rfl⟩ := hvertex k v' hv'
    exact ⟨v, hv, rfl⟩
  refine ⟨hspans, fun k v' hv' => ?_, fun k v' hv' k' t' ht' => ?_⟩
  · obtain ⟨v, hv, rfl⟩ := hvertex k v' hv'
    exact (Table.keys_foldl_modify _ _ _ _).trans (hd.task_keys k v hv)
  · obtain ⟨v, hv, rfl⟩ := hvertex k v' hv'
    have hget := get?_foldl_addAttempt v.tasks (placed.filter fun p => p.1.vertex.text = k) k'
    obtain ⟨t, ht, rfl⟩ := Option.map_eq_some_iff.1 (hget.symm.trans ht')
    have hmem : k' ∈ childKeys s.tasks k := by
      rw [← hd.task_keys k v hv]
      exact Table.mem_keys_iff.2 ⟨t, ht⟩
    obtain ⟨hplacedTask, hempty⟩ := hd.tasks k v hv k' t ht
    rw [filter_through_vertex hs hm hplaced hmem]
    exact stands_addAttempt hs hm hplaced hplacedTask hempty

end Link

end RunHistory
