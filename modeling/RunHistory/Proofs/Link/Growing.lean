import RunHistory.Proofs.Link.Refused
import RunHistory.Proofs.State.Growing
import RunHistory.Proofs.State.Related

/-!
# Trees that grow

When more of a file is read, the tree of the run grows.  Whatever stands in the tree of a part of
the file stands in the tree of all of it, in the same place and in the same order: new vertices,
tasks and attempts come behind those that were there, and no field of anyone's information is lost.

The two trees are linked from the records that are held at the two times, and what is held only
grows.  The children of an entity are those whose ids name it, and the ids stay what they are.

## Main definitions

* `Facts.Grows`, `Attempt.Grows`, `Task.Grows`, `Vertex.Grows`, `Dag.Grows`: an entity, with
  everything that it holds, which has grown into another one.

## Main results

* `State.Sound.treeOf`: what is linked is the tree of the state, whatever numbers there are in it.
* `childKeys_prefix`: **children stay in their order.**
* `Dag.TreeOf.grows`: the tree of a state that has grown.
* `link_ingest_grows`: **the tree of a part of a file grows into that of all of it.**
-/

namespace RunHistory

/-! ### Entities that have grown -/

/-- The facts of an entity that has grown: it is the same entity, and no field of its information is
lost. -/
structure Facts.Grows (f f' : Facts) : Prop where
  /-- It is the same entity. -/
  id_eq : f'.id = f.id
  /-- No field of its information is lost. -/
  info : f.info.keys ⊆ f'.info.keys

/-- An attempt that has grown. -/
structure Attempt.Grows (a a' : Attempt) : Prop where
  /-- The facts have grown. -/
  facts : a.toFacts.Grows a'.toFacts
  /-- It stands in the same task. -/
  holder_eq : a'.holder = a.holder

/-- A task that has grown. -/
structure Task.Grows (t t' : Task) : Prop where
  /-- The facts have grown. -/
  facts : t.toFacts.Grows t'.toFacts
  /-- It stands in the same vertex. -/
  holder_eq : t'.holder = t.holder
  /-- Its attempts come first among the new ones, and have grown. -/
  attempts : t.attempts.Grows Attempt.Grows t'.attempts

/-- A vertex that has grown. -/
structure Vertex.Grows (v v' : Vertex) : Prop where
  /-- The facts have grown. -/
  facts : v.toFacts.Grows v'.toFacts
  /-- It stands in the same run. -/
  holder_eq : v'.holder = v.holder
  /-- Its tasks come first among the new ones, and have grown. -/
  tasks : v.tasks.Grows Task.Grows v'.tasks

/-- A run that has grown. -/
structure Dag.Grows (d d' : Dag) : Prop where
  /-- The facts have grown. -/
  facts : d.toFacts.Grows d'.toFacts
  /-- Its vertices come first among the new ones, and have grown. -/
  vertices : d.vertices.Grows Vertex.Grows d'.vertices

/-! ### The facts of a record -/

theorem Dag.facts_ofRecord {r : Record} {d : Dag} (h : Dag.ofRecord r = .ok d) :
    Facts.ofRecord r = .ok d.toFacts := by
  obtain ⟨facts, hfacts, h⟩ := bind_eq_ok_iff.1 h
  cases h
  exact hfacts

theorem Vertex.facts_ofRecord {r : Record} {v : Vertex} (h : Vertex.ofRecord r = .ok v) :
    Facts.ofRecord r = .ok v.toFacts := by
  obtain ⟨facts, hfacts, h⟩ := bind_eq_ok_iff.1 h
  obtain ⟨taskCount, -, h⟩ := bind_eq_ok_iff.1 h
  obtain ⟨initTime, -, h⟩ := bind_eq_ok_iff.1 h
  cases h
  exact hfacts

theorem Task.facts_ofRecord {r : Record} {t : Task} (h : Task.ofRecord r = .ok t) :
    Facts.ofRecord r = .ok t.toFacts := by
  obtain ⟨facts, hfacts, h⟩ := bind_eq_ok_iff.1 h
  cases h
  exact hfacts

theorem Attempt.facts_ofRecord {r : Record} {a : Attempt} (h : Attempt.ofRecord r = .ok a) :
    Facts.ofRecord r = .ok a.toFacts := by
  obtain ⟨facts, hfacts, h⟩ := bind_eq_ok_iff.1 h
  cases h
  exact hfacts

namespace Record.Grows

variable {r r' : Record}

theorem key_eq (h : r.Grows r') : r'.key = r.key := by
  rw [h.own]
  rfl

theorem parent?_eq (h : r.Grows r') : r'.parent? = r.parent? := by
  rw [h.own]
  rfl

theorem infoOf (h : r.Grows r') : (Facts.infoOf r).keys ⊆ (Facts.infoOf r').keys := by
  unfold Facts.infoOf
  cases hinfo : r.info with
  | none => exact List.nil_subset _
  | some info =>
    obtain ⟨info', hinfo', hkeys⟩ := h.info info hinfo
    rw [hinfo']
    exact hkeys.subset

/-- The names of the related entities are those that the first record tells. -/
theorem withRelations (h : r.Grows r') :
    (Facts.infoOf r.withRelations).keys ⊆ (Facts.infoOf r'.withRelations).keys := by
  have hrelated : r'.related = r.related := by
    rw [h.own]
    rfl
  unfold Facts.infoOf Record.withRelations
  rw [hrelated]
  cases hinfo : r.info with
  | none => exact List.nil_subset _
  | some info =>
    obtain ⟨info', hinfo', hkeys⟩ := h.info info hinfo
    rw [hinfo']
    show (Relation.intoInfo r.related info).keys ⊆ (Relation.intoInfo r.related info').keys
    rw [Relation.intoInfo_eq, Relation.intoInfo_eq, Table.keys_setAll, Table.keys_setAll]
    intro name hname
    rw [List.mem_eraseDups, List.mem_append] at hname ⊢
    exact hname.imp_left fun hmem => hkeys.subset hmem

/-- The facts that are made of a record grow with it. -/
theorem facts (h : r.Grows r') {f f' : Facts} (hf : Facts.ofRecord r = .ok f)
    (hf' : Facts.ofRecord r' = .ok f') : f.Grows f' := by
  obtain ⟨hid, hinfo⟩ := Facts.of_ofRecord hf
  obtain ⟨hid', hinfo'⟩ := Facts.of_ofRecord hf'
  refine ⟨?_, ?_⟩
  · rw [hid, hid', h.key_eq]
  · rw [hinfo, hinfo']
    exact h.infoOf

end Record.Grows

/-! ### Children -/

theorem Table.grows_of_keys {α β : Type} {related : α → β → Prop} {t : Table α} {u : Table β}
    (hkeys : t.keys <+: u.keys)
    (h : ∀ key a b, t.get? key = some a → u.get? key = some b → related a b) :
    t.Grows related u := by
  refine ⟨hkeys, ?_⟩
  intro key a ha
  have hmem : key ∈ u.keys := hkeys.subset (Table.mem_keys_iff.2 ⟨a, ha⟩)
  obtain ⟨b, hb⟩ := Table.mem_keys_iff.1 hmem
  exact ⟨b, hb, h key a b ha hb⟩

theorem childKeys_eq_filter (records : Table Record) (parent : String) :
    childKeys records parent =
      records.keys.filter fun key => (records.get? key).bind Record.parent? = some parent := by
  have hread : ∀ e ∈ records.entries, decide (e.2.parent? = some parent) =
      decide ((records.get? e.1).bind Record.parent? = some parent) := by
    intro e he
    rw [Table.get?_eq_some_iff.2 he]
    rfl
  rw [childKeys, List.filter_congr hread, Table.keys, List.filter_map]
  rfl

/-- **Children stay in their order**, and new ones come behind them. -/
theorem childKeys_prefix {records records' : Table Record}
    (h : records.Grows Record.Grows records') (parent : String) :
    childKeys records parent <+: childKeys records' parent := by
  obtain ⟨more, hmore⟩ := h.keys
  have hold : ∀ key ∈ records.keys,
      decide ((records'.get? key).bind Record.parent? = some parent) =
        decide ((records.get? key).bind Record.parent? = some parent) := by
    intro key hkey
    obtain ⟨r, hr⟩ := Table.mem_keys_iff.1 hkey
    obtain ⟨r', hr', hgrows⟩ := h.get? key r hr
    rw [hr, hr', Option.bind_some, Option.bind_some, hgrows.parent?_eq]
  rw [childKeys_eq_filter, childKeys_eq_filter, ← hmore, List.filter_append,
    List.filter_congr hold]
  exact List.prefix_append _ _

/-! ### What is linked is the tree of the state -/

open Link in
/-- A state that is linked has no infinite number where a whole one belongs. -/
theorem State.Sound.measurable_of_link {s : State} (hs : s.Sound) {d : Dag}
    (h : s.link.outcome.result = .ok d) : s.Measurable := by
  rw [State.result_link] at h
  obtain ⟨bare, hdag, h⟩ := bind_eq_ok_iff.1 h
  obtain ⟨vertices, hvertices, h⟩ := bind_eq_ok_iff.1 h
  obtain ⟨tasks, htasks, h⟩ := bind_eq_ok_iff.1 h
  obtain ⟨attempts, hattempts, -⟩ := bind_eq_ok_iff.1 h
  rcases dag_spec hs with ⟨-, hnone⟩ | ⟨r, hr, hmade⟩
  · exact absurd (hnone.symm.trans hdag) (by simp)
  have hothers := measurable_withoutAttempts hs hr (hmade.symm.trans hdag) hvertices htasks
  intro kind key held hheld
  cases kind with
  | attempt =>
    obtain ⟨p, -, hp⟩ := exists_ok_of_mem_mapM hattempts (Table.mem_values_iff.2 ⟨key, hheld⟩)
    obtain ⟨a, ha, -⟩ := bind_eq_ok_iff.1 hp
    have hkind := (hs .attempt key held hheld).kind_ne_vertex (by decide)
    exact (Attempt.tells_ofRecord hkind).measurable ha
  | dag => exact hothers .dag key held hheld
  | vertex => exact hothers .vertex key held hheld
  | task => exact hothers .task key held hheld

theorem State.Sound.treeOf {s : State} (hs : s.Sound) {d : Dag}
    (h : s.link.outcome.result = .ok d) : d.TreeOf s := by
  rcases hs.link_cases (hs.measurable_of_link h) with ⟨-, e, he, -⟩ | ⟨-, d', hd', htree⟩
  · exact absurd (he.symm.trans h) (by simp)
  · obtain rfl := Except.ok.inj (hd'.symm.trans h)
    exact htree

/-- A state that is linked lacks no record. -/
theorem State.Sound.complete_of_link {s : State} (hs : s.Sound) {d : Dag}
    (h : s.link.outcome.result = .ok d) : ¬s.Incomplete := by
  rcases hs.link_cases (hs.measurable_of_link h) with ⟨-, e, he, -⟩ | ⟨hcomplete, -⟩
  · cases he.symm.trans h
  · exact hcomplete

/-! ### The tree of a state that has grown -/

section

variable {s s' : State} (h : s.Grows s')

include h

theorem State.Grows.held {kind : Kind} {key : String} {r r' : Record}
    (hr : s.held? kind key = some r) (hr' : s'.held? kind key = some r') : r.Grows r' := by
  obtain ⟨r'', hr'', hgrows⟩ := (h.bucket kind).get? key r hr
  obtain rfl := Option.some.inj (hr'.symm.trans hr'')
  exact hgrows

theorem Attempt.Stands.grows {holder holder' key : String} {a a' : Attempt}
    (ha : a.Stands s holder key) (ha' : a'.Stands s' holder' key) (hholder : holder' = holder) :
    a.Grows a' := by
  obtain ⟨r, a₀, hr, hmade, hown⟩ := ha.record
  obtain ⟨r', a₀', hr', hmade', hown'⟩ := ha'.record
  have hinfo := (Facts.of_ofRecord (Attempt.facts_ofRecord hmade)).2
  have hinfo' := (Facts.of_ofRecord (Attempt.facts_ofRecord hmade')).2
  refine ⟨⟨ha'.id_eq.trans ha.id_eq.symm, ?_⟩, ?_⟩
  · rw [hown, hown']
    show a₀.info.keys ⊆ a₀'.info.keys
    rw [hinfo, hinfo']
    exact (h.held hr hr').withRelations
  · rw [ha.holder_eq, ha'.holder_eq, hholder]

theorem Task.Stands.grows {holder holder' key : String} {t t' : Task}
    (ht : t.Stands s holder key) (ht' : t'.Stands s' holder' key) (hholder : holder' = holder) :
    t.Grows t' := by
  obtain ⟨r, t₀, hr, hmade, hown⟩ := ht.record
  obtain ⟨r', t₀', hr', hmade', hown'⟩ := ht'.record
  have hid : t'.id = t.id := ht'.id_eq.trans ht.id_eq.symm
  refine ⟨?_, ?_, Table.grows_of_keys ?_ ?_⟩
  · rw [hown, hown']
    show t₀.toFacts.Grows t₀'.toFacts
    exact (h.held hr hr').facts (Task.facts_ofRecord hmade) (Task.facts_ofRecord hmade')
  · rw [ht.holder_eq, ht'.holder_eq, hholder]
  · rw [ht.keys_eq, ht'.keys_eq]
    exact childKeys_prefix (h.bucket .attempt) key
  · intro k a a' ha ha'
    exact (ht.attempts k a ha).grows h (ht'.attempts k a' ha') hid

theorem Dag.TreeOf.grows_vertex {d d' : Dag} (hd : d.TreeOf s) (hd' : d'.TreeOf s') {key : String}
    {v v' : Vertex} (hv : d.vertices.get? key = some v) (hv' : d'.vertices.get? key = some v') :
    v.Grows v' := by
  have hplaced := hd.vertices key v hv
  have hplaced' := hd'.vertices key v' hv'
  obtain ⟨r, v₀, hr, hmade, hown⟩ := hplaced.record
  obtain ⟨r', v₀', hr', hmade', hown'⟩ := hplaced'.record
  have hid : v'.id = v.id := hplaced'.id_eq.trans hplaced.id_eq.symm
  refine ⟨?_, ?_, Table.grows_of_keys ?_ ?_⟩
  · rw [hown, hown']
    show v₀.toFacts.Grows v₀'.toFacts
    exact (h.held hr hr').facts (Vertex.facts_ofRecord hmade) (Vertex.facts_ofRecord hmade')
  · rw [hplaced.holder_eq, hplaced'.holder_eq, hd.id_eq, hd'.id_eq, h.run_eq]
  · rw [hd.task_keys key v hv, hd'.task_keys key v' hv']
    exact childKeys_prefix (h.bucket .task) key
  · intro k t t' ht ht'
    exact (hd.tasks key v hv k t ht).grows h (hd'.tasks key v' hv' k t' ht') hid

/-- **The tree of a state that has grown** has grown as well. -/
theorem Dag.TreeOf.grows {d d' : Dag} (hd : d.TreeOf s) (hd' : d'.TreeOf s') : d.Grows d' := by
  obtain ⟨r, d₀, hr, hmade, hown⟩ := hd.record
  obtain ⟨r', d₀', hr', hmade', hown'⟩ := hd'.record
  rw [h.run_eq] at hr'
  refine ⟨?_, Table.grows_of_keys ?_ ?_⟩
  · rw [hown, hown']
    show d₀.toFacts.Grows d₀'.toFacts
    exact (h.held hr hr').facts (Dag.facts_ofRecord hmade) (Dag.facts_ofRecord hmade')
  · rw [hd.keys_eq, hd'.keys_eq]
    exact (h.bucket .vertex).keys
  · intro key v v' hv hv'
    exact hd.grows_vertex h hd' hv hv'

end

/-- **The tree of a part of a file grows into that of all of it.**  If the records of the part are
linked, and so are the records of all, then what stands in the first tree stands in the second one
in the same place, in the same order and before everything new, and has all fields of its
information there. -/
theorem link_ingest_grows {run path₁ path₂ : String} {before after : List (List Char)}
    {s₁ s₂ : State} {d₁ d₂ : Dag} (h₁ : (ingest run path₁ ⟨before, none⟩).result = .ok s₁)
    (hd₁ : s₁.link.outcome.result = .ok d₁)
    (h₂ : (ingest run path₂ ⟨before ++ after, none⟩).result = .ok s₂)
    (hd₂ : s₂.link.outcome.result = .ok d₂) : d₁.Grows d₂ := by
  obtain ⟨verdicts, s, -, -, hs, hgrows⟩ := exists_ingest_grows h₂ path₁
  obtain rfl := Except.ok.inj (hs.symm.trans h₁)
  have htree₁ := (sound_ingest h₁).1.treeOf hd₁
  have htree₂ := (sound_ingest h₂).1.treeOf hd₂
  exact htree₁.grows hgrows htree₂

/-- The texts of the records of a run, one of its vertices, and one of the vertex's tasks. -/
def earlyTexts : List (List Char) := [
  bareText "dag_1" "DAG", bareText "dag_1_vertex_2" "VERTEX",
  bareText "dag_1_vertex_2_task_3" "TASK"]

/-- The texts of the records of a second vertex and task, and of an attempt at the first task. -/
def lateTexts : List (List Char) := [
  bareText "dag_1_vertex_1" "VERTEX", bareText "dag_1_vertex_2_task_1" "TASK",
  bareText "dag_1_vertex_2_task_3_attempt_4" "TASK_ATTEMPT"]

/-- A file is linked into a tree whose tasks have the given ids. -/
def linksTasks (texts : List (List Char)) (ids : List String) : Bool :=
  (ingest "dag_1" "history" ⟨texts, none⟩).result.toOption.any fun s =>
    s.link.outcome.result.toOption.any fun d => d.tasks.map (fun t => t.id) == ids

theorem exists_of_linksTasks {texts : List (List Char)} {ids : List String}
    (h : linksTasks texts ids = true) :
    ∃ s d, (ingest "dag_1" "history" ⟨texts, none⟩).result = .ok s ∧
      s.link.outcome.result = .ok d ∧ d.tasks.map (fun t => t.id) = ids := by
  unfold linksTasks at h
  cases hs : (ingest "dag_1" "history" ⟨texts, none⟩).result with
  | error e => simp [hs, Except.toOption] at h
  | ok s =>
    cases hd : s.link.outcome.result with
    | error e => simp [hs, hd, Except.toOption] at h
    | ok d =>
      refine ⟨s, d, rfl, hd, ?_⟩
      simpa [hs, hd, Except.toOption] using h

/-- A task with a lower number comes behind the one that was there. -/
theorem link_ingest_grows_behind : ∃ s₁ s₂ d₁ d₂,
    (ingest "dag_1" "history" ⟨earlyTexts, none⟩).result = .ok s₁ ∧
      s₁.link.outcome.result = .ok d₁ ∧
      (ingest "dag_1" "history" ⟨earlyTexts ++ lateTexts, none⟩).result = .ok s₂ ∧
      s₂.link.outcome.result = .ok d₂ ∧
      d₁.tasks.map (fun t => t.id) = ["dag_1_vertex_2_task_3"] ∧
      d₂.tasks.map (fun t => t.id) = ["dag_1_vertex_2_task_3", "dag_1_vertex_2_task_1"] ∧
      d₁.Grows d₂ := by
  have hearly : linksTasks earlyTexts ["dag_1_vertex_2_task_3"] = true := by decide +kernel
  have hall : linksTasks (earlyTexts ++ lateTexts)
      ["dag_1_vertex_2_task_3", "dag_1_vertex_2_task_1"] = true := by decide +kernel
  obtain ⟨s₁, d₁, hs₁, hd₁, htasks₁⟩ := exists_of_linksTasks hearly
  obtain ⟨s₂, d₂, hs₂, hd₂, htasks₂⟩ := exists_of_linksTasks hall
  exact ⟨s₁, s₂, d₁, d₂, hs₁, hd₁, hs₂, hd₂, htasks₁, htasks₂,
    link_ingest_grows hs₁ hd₁ hs₂ hd₂⟩

end RunHistory
