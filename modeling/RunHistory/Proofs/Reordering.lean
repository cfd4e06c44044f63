import Mathlib.Data.List.Dedup
import RunHistory.Proofs.Link.Alike
import RunHistory.Proofs.Link.Complete

/-!
# Records in another order

The order of the records of a run matters only among the records of one entity.  When records are
reordered without that, every entity is held with the same record as before, and the tree has the
same entities in the same places; what differs is the order in which a run lists its vertices, a
vertex its tasks and a task its attempts.  In particular children may come before their parents.

## Main definitions

* `Reordering`: the same records of each entity, in order.
* `State.SameHeld`: two states of a run that hold the same record of each entity.

## Main results

* `State.held?_foldl_accept_eq_some_iff`: what is held of an entity after some records.
* `State.SameHeld.foldl_accept`: **reordered records lead to states that hold the same.**
* `State.SameHeld.alike`: **trees of states that hold the same are alike.**
* `link_ingest_reordered`: files with reordered records.
-/

namespace RunHistory

/-! ### Reordered records -/

/-- The same records of each entity, in order. -/
def Reordering (a b : List Record) : Prop :=
  ∀ kind key, Record.ofEntity kind key a = Record.ofEntity kind key b

/-- Reordered records are the same records, each as often as before. -/
theorem Reordering.perm {a b : List Record} (h : Reordering a b) : a.Perm b := by
  -- both are all groups of records of one entity, for the entities of either
  let entities := ((a ++ b).map fun r => (r.kind, r.key)).dedup
  have hgroups : ∀ records : List Record, (∀ r ∈ records, r ∈ a ++ b) →
      (entities.flatMap fun e => Record.ofEntity e.1 e.2 records).Perm records := by
    intro records hmem
    have hnodup : entities.Nodup := List.nodup_dedup _
    have hgroup : ∀ r ∈ records, (r.kind, r.key) ∈ entities := fun r hr =>
      List.mem_dedup.2 (List.mem_map.2 ⟨r, hmem r hr, rfl⟩)
    have hperm := perm_flatMap_filter (fun r : Record => (r.kind, r.key)) hnodup hgroup
    simpa only [Record.ofEntity, Prod.ext_iff] using hperm
  have ha := hgroups a fun r hr => List.mem_append_left b hr
  have hb := hgroups b fun r hr => List.mem_append_right a hr
  have hsame : (entities.flatMap fun e => Record.ofEntity e.1 e.2 a) =
      entities.flatMap fun e => Record.ofEntity e.1 e.2 b :=
    List.flatMap_congr fun e _ => h e.1 e.2
  exact (hsame ▸ ha).symm.trans hb

/-! ### States that hold the same -/

theorem State.run_foldl_accept (records : List Record) (s : State) :
    (records.foldl accept s).run = s.run := by
  induction records generalizing s with
  | nil => rfl
  | cons r records ih =>
    rw [List.foldl_cons, ih]
    exact run_accept s r

/-- What is held of an entity after some records is made from the records of the entity alone. -/
theorem State.held?_foldl_accept (records : List Record) (s : State) (kind : Kind) (key : String) :
    (records.foldl accept s).held? kind key =
      (Record.ofEntity kind key records).foldl joinHeld (s.held? kind key) := by
  induction records generalizing s with
  | nil => rfl
  | cons r records ih =>
    rw [List.foldl_cons, ih, held?_accept]
    by_cases h : r.kind = kind ∧ r.key = key
    · simp [Record.ofEntity, h]
    · simp [Record.ofEntity, h]

/-- What is held of an entity is the first of its records, with the information of all of them. -/
theorem State.held?_foldl_accept_eq_some_iff {run : String} {records : List Record} {kind : Kind}
    {key : String} {r : Record} : (records.foldl accept (.start run)).held? kind key = some r ↔
      ∃ first later, Record.ofEntity kind key records = first :: later ∧
        r = later.foldl Record.absorb first := by
  rw [held?_foldl_accept, held?, bucket_start, Table.get?_empty]
  cases Record.ofEntity kind key records with
  | nil => simp
  | cons first later =>
    rw [List.foldl_cons, joinHeld, foldl_joinHeld]
    simp [eq_comm]

/-- Two states of a run that hold the same record of each entity. -/
structure State.SameHeld (s₁ s₂ : State) : Prop where
  /-- They are states of the same run. -/
  run_eq : s₁.run = s₂.run
  /-- They hold the same record of each entity. -/
  held?_eq : ∀ kind key, s₁.held? kind key = s₂.held? kind key

namespace State.SameHeld

variable {s₁ s₂ : State}

theorem symm (h : s₁.SameHeld s₂) : s₂.SameHeld s₁ :=
  ⟨h.run_eq.symm, fun kind key => (h.held?_eq kind key).symm⟩

/-- **Reordered records lead to states that hold the same.** -/
theorem foldl_accept {a b : List Record} (h : Reordering a b) (run : String) :
    (a.foldl accept (start run)).SameHeld (b.foldl accept (start run)) := by
  refine ⟨by rw [run_foldl_accept, run_foldl_accept], fun kind key => ?_⟩
  rw [held?_foldl_accept, held?_foldl_accept, h kind key]

theorem withSkipped (h : s₁.SameHeld s₂) (count₁ count₂ : Nat) :
    (s₁.withSkipped count₁).SameHeld (s₂.withSkipped count₂) := by
  refine ⟨h.run_eq, fun kind key => ?_⟩
  have hheld := h.held?_eq kind key
  cases kind <;> exact hheld

theorem record_eq (h : s₁.SameHeld s₂) {kind : Kind} {key : String} {a b : Record}
    (ha : s₁.held? kind key = some a) (hb : s₂.held? kind key = some b) : a = b := by
  rw [h.held?_eq, hb] at ha
  exact (Option.some.inj ha).symm

theorem measurable (h : s₁.SameHeld s₂) (hm : s₁.Measurable) : s₂.Measurable := by
  intro kind key r hr
  exact hm kind key r ((h.held?_eq kind key).trans hr)

theorem get?_bucket (h : s₁.SameHeld s₂) (kind : Kind) (key : String) :
    (s₁.bucket kind).get? key = (s₂.bucket kind).get? key := h.held?_eq kind key

theorem mem_keys_iff (h : s₁.SameHeld s₂) (kind : Kind) (key : String) :
    key ∈ (s₁.bucket kind).keys ↔ key ∈ (s₂.bucket kind).keys := by
  rw [Table.mem_keys_iff, Table.mem_keys_iff, h.get?_bucket]

theorem perm_keys (h : s₁.SameHeld s₂) (kind : Kind) :
    (s₁.bucket kind).keys.Perm (s₂.bucket kind).keys :=
  (List.perm_ext_iff_of_nodup (Table.nodup_keys _) (Table.nodup_keys _)).2 (h.mem_keys_iff kind)

theorem mem_childKeys_iff (h : s₁.SameHeld s₂) (kind : Kind) (parent key : String) :
    key ∈ childKeys (s₁.bucket kind) parent ↔ key ∈ childKeys (s₂.bucket kind) parent := by
  rw [RunHistory.mem_childKeys_iff, RunHistory.mem_childKeys_iff, h.get?_bucket]

theorem perm_childKeys (h : s₁.SameHeld s₂) (kind : Kind) (parent : String) :
    (childKeys (s₁.bucket kind) parent).Perm (childKeys (s₂.bucket kind) parent) :=
  (List.perm_ext_iff_of_nodup (nodup_childKeys _ _) (nodup_childKeys _ _)).2
    (h.mem_childKeys_iff kind parent)

theorem orphaned (h : s₁.SameHeld s₂) {kind : Kind} (horphan : s₁.Orphaned kind) :
    s₂.Orphaned kind := by
  obtain ⟨r, hr, parent, hparent, hout⟩ := horphan
  obtain ⟨key, hkey⟩ := Table.mem_values_iff.1 hr
  refine ⟨r, Table.mem_values_iff.2 ⟨key, ?_⟩, parent, hparent, fun hin => hout ?_⟩
  · rw [← h.get?_bucket, hkey]
  · exact (h.mem_keys_iff _ parent).2 hin

theorem incomplete (h : s₁.SameHeld s₂) (hincomplete : s₁.Incomplete) : s₂.Incomplete := by
  rcases hincomplete with hnone | horphan | horphan
  · have hperm := h.perm_keys .dag
    refine .inl ?_
    rw [show (s₁.bucket .dag).keys = [] from hnone] at hperm
    exact hperm.nil_eq.symm
  · exact .inr (.inl (h.orphaned horphan))
  · exact .inr (.inr (h.orphaned horphan))

/-! ### Their trees -/

variable {d e : Dag}

/-- An attempt is made from the record that is held, so it is the same one. -/
theorem attempt_eq (h : s₁.SameHeld s₂) {holder key : String} {a b : Attempt}
    (ha : a.Stands s₁ holder key) (hb : b.Stands s₂ holder key) : a = b := by
  obtain ⟨r, a₀, hr, ha₀, hainfo⟩ := ha.record
  obtain ⟨r', b₀, hr', hb₀, hbinfo⟩ := hb.record
  obtain rfl : r = r' := h.record_eq hr hr'
  obtain rfl : a₀ = b₀ := Except.ok.inj (ha₀.symm.trans hb₀)
  rw [hainfo, hbinfo]

theorem task_alike (h : s₁.SameHeld s₂) {holder key : String} {t u : Task}
    (ht : t.Stands s₁ holder key) (hu : u.Stands s₂ holder key) : t.Alike List.Perm Eq u := by
  obtain ⟨r, t₀, hr, ht₀, hown⟩ := ht.record
  obtain ⟨r', u₀, hr', hu₀, hown'⟩ := hu.record
  obtain rfl : r = r' := h.record_eq hr hr'
  obtain rfl : t₀ = u₀ := Except.ok.inj (ht₀.symm.trans hu₀)
  have hid : t.id = u.id := ht.id_eq.trans hu.id_eq.symm
  refine ⟨?_, Table.alike_of_keys ?_ (fun k => ?_) fun k a b ha hb => ?_⟩
  · rw [hown, hown']
    rfl
  · rw [ht.keys_eq, hu.keys_eq]
    exact h.perm_childKeys .attempt key
  · rw [ht.keys_eq, hu.keys_eq]
    exact h.mem_childKeys_iff .attempt key k
  · have hstands := ht.attempts k a ha
    rw [hid] at hstands
    exact h.attempt_eq hstands (hu.attempts k b hb)

theorem vertex_alike (h : s₁.SameHeld s₂) (hd : d.TreeOf s₁) (he : e.TreeOf s₂)
    (hown : e = d.setVertices e.vertices) {key : String} {v w : Vertex}
    (hv : d.vertices.get? key = some v) (hw : e.vertices.get? key = some w) :
    v.Alike List.Perm Eq w := by
  obtain ⟨r, v₀, hr, hv₀, hvown⟩ := (hd.vertices key v hv).record
  obtain ⟨r', w₀, hr', hw₀, hwown⟩ := (he.vertices key w hw).record
  obtain rfl : r = r' := h.record_eq hr hr'
  obtain rfl : v₀ = w₀ := Except.ok.inj (hv₀.symm.trans hw₀)
  have hadopt : e.adopt v₀ = d.adopt v₀ := by rw [hown]; rfl
  have hid : v.id = w.id :=
    (hd.vertices key v hv).id_eq.trans (he.vertices key w hw).id_eq.symm
  refine ⟨?_, Table.alike_of_keys ?_ (fun k => ?_) fun k t u ht hu => ?_⟩
  · rw [hwown, hadopt, hvown]
    rfl
  · rw [hd.task_keys key v hv, he.task_keys key w hw]
    exact h.perm_childKeys .task key
  · rw [hd.task_keys key v hv, he.task_keys key w hw]
    exact h.mem_childKeys_iff .task key k
  · have hstands := hd.tasks key v hv k t ht
    rw [hid] at hstands
    exact h.task_alike hstands (he.tasks key w hw k u hu)

/-- **Trees of states that hold the same are alike**, but for the order of what they list. -/
theorem alike (h : s₁.SameHeld s₂) (hd : d.TreeOf s₁) (he : e.TreeOf s₂) :
    d.Alike List.Perm Eq e := by
  obtain ⟨r, d₀, hr, hd₀, hdown⟩ := hd.record
  obtain ⟨r', e₀, hr', he₀, heown⟩ := he.record
  rw [← h.run_eq] at hr'
  obtain rfl : r = r' := h.record_eq hr hr'
  obtain rfl : d₀ = e₀ := Except.ok.inj (hd₀.symm.trans he₀)
  have hown : e = d.setVertices e.vertices := by
    rw [hdown, heown]
    rfl
  refine ⟨hown, Table.alike_of_keys ?_ (fun k => ?_) fun k v w hv hw => ?_⟩
  · rw [hd.keys_eq, he.keys_eq]
    exact h.perm_keys .vertex
  · rw [hd.keys_eq, he.keys_eq]
    exact h.mem_keys_iff .vertex k
  · exact h.vertex_alike hd he hown hv hw

end State.SameHeld

/-! ### Files -/

/-- What can become of two files: both are incomplete, or both have a tree, and the trees are
alike. -/
inductive SameButOrder : Except Failure Dag → Except Failure Dag → Prop where
  /-- Both histories are incomplete. -/
  | incomplete {e₁ e₂ : Failure} (first : e₁.category = .incompleteLog)
    (second : e₂.category = .incompleteLog) : SameButOrder (.error e₁) (.error e₂)
  /-- Both have a tree, and the trees differ in the order of what they list only. -/
  | alike {d₁ d₂ : Dag} (alike : d₁.Alike List.Perm Eq d₂) : SameButOrder (.ok d₁) (.ok d₂)

/-- **Files with reordered records of a run lead to states that hold the same**, and to trees that
are alike, or to none because both files are incomplete.  Infinite numbers where whole ones belong
are left out of account. -/
theorem link_ingest_reordered {run : String} (path₁ path₂ : String)
    {texts₁ texts₂ : List (List Char)} {verdicts₁ verdicts₂ : List Verdict}
    (hverdicts₁ : texts₁.mapM (judgeText run) = .ok verdicts₁)
    (hverdicts₂ : texts₂.mapM (judgeText run) = .ok verdicts₂)
    (h : Reordering (verdicts₁.filterMap Verdict.record?) (verdicts₂.filterMap Verdict.record?)) :
    ∃ s₁ s₂, (ingest run path₁ ⟨texts₁, none⟩).result = .ok s₁ ∧
      (ingest run path₂ ⟨texts₂, none⟩).result = .ok s₂ ∧ s₁.SameHeld s₂ ∧
      (s₁.Measurable → SameButOrder s₁.link.outcome.result s₂.link.outcome.result) := by
  obtain ⟨count₁, hs₁⟩ := State.ofVerdicts_eq run verdicts₁
  obtain ⟨count₂, hs₂⟩ := State.ofVerdicts_eq run verdicts₂
  have hingest₁ : (ingest run path₁ ⟨texts₁, none⟩).result = .ok (.ofVerdicts run verdicts₁) :=
    ingest_eq_ok_iff.2 ⟨rfl, verdicts₁, hverdicts₁, rfl⟩
  have hingest₂ : (ingest run path₂ ⟨texts₂, none⟩).result = .ok (.ofVerdicts run verdicts₂) :=
    ingest_eq_ok_iff.2 ⟨rfl, verdicts₂, hverdicts₂, rfl⟩
  have hsame : (State.ofVerdicts run verdicts₁).SameHeld (.ofVerdicts run verdicts₂) := by
    rw [hs₁, hs₂]
    exact (State.SameHeld.foldl_accept h run).withSkipped count₁ count₂
  refine ⟨_, _, hingest₁, hingest₂, hsame, fun hm => ?_⟩
  rcases (sound_ingest hingest₁).1.link_cases hm with
    ⟨hincomplete, e₁, he₁, hcategory₁⟩ | ⟨hcomplete, d₁, hd₁, htree₁⟩
  · rcases (sound_ingest hingest₂).1.link_cases (hsame.measurable hm) with
      ⟨-, e₂, he₂, hcategory₂⟩ | ⟨hcomplete, -⟩
    · rw [he₁, he₂]
      exact .incomplete hcategory₁ hcategory₂
    · exact absurd (hsame.incomplete hincomplete) hcomplete
  · rcases (sound_ingest hingest₂).1.link_cases (hsame.measurable hm) with
      ⟨hincomplete, -⟩ | ⟨-, d₂, hd₂, htree₂⟩
    · exact absurd (hsame.symm.incomplete hincomplete) hcomplete
    · rw [hd₁, hd₂]
      exact .alike (hsame.alike htree₁ htree₂)

/-- The text of a record of a run that tells how the run ended. -/
def statusText (status : String) : List Char :=
  ("\x7b\"entity\":\"dag_1\",\"entitytype\":\"DAG\",\"otherInfo\":\x7b\"status\":\"" ++ status ++
    "\"\x7d\x7d").toList

/-- A text is judged to be a record of a run, about an entity of a kind. -/
def accepts (run : String) (kind : Kind) (text : List Char) : Bool :=
  (judgeText run text).toOption.any fun v => v.record?.any fun r => decide (r.kind = kind)

theorem exists_of_accepts {run : String} {kind : Kind} {text : List Char}
    (h : accepts run kind text = true) :
    ∃ r, judgeText run text = .ok (.accepted r) ∧ r.kind = kind := by
  rw [accepts] at h
  cases hv : judgeText run text with
  | error e => simp [hv, Except.toOption] at h
  | ok v =>
    obtain ⟨r, hr, hkind⟩ : ∃ r, v.record? = some r ∧ r.kind = kind := by
      simpa [hv, Except.toOption, Option.any_eq_true] using h
    exact ⟨r, by rw [Verdict.record?_eq_some_iff.1 hr], hkind⟩

/-- The texts of five records, each child before its parent. -/
def childrenFirst : List (List Char) := [
  bareText "dag_1_vertex_2_task_3_attempt_4" "TASK_ATTEMPT",
  bareText "dag_1_vertex_2_task_3" "TASK", statusText "RUNNING",
  bareText "dag_1_vertex_2" "VERTEX", statusText "SUCCEEDED"]

/-- The same texts, each parent before its children. -/
def parentsFirst : List (List Char) := [
  statusText "RUNNING", statusText "SUCCEEDED", bareText "dag_1_vertex_2" "VERTEX",
  bareText "dag_1_vertex_2_task_3" "TASK",
  bareText "dag_1_vertex_2_task_3_attempt_4" "TASK_ATTEMPT"]

theorem link_ingest_reordered_children_first : ∃ s₁ s₂ d₁ d₂,
    (ingest "dag_1" "one" ⟨childrenFirst, none⟩).result = .ok s₁ ∧
      (ingest "dag_1" "two" ⟨parentsFirst, none⟩).result = .ok s₂ ∧ s₁.SameHeld s₂ ∧
      s₁.link.outcome.result = .ok d₁ ∧ s₂.link.outcome.result = .ok d₂ ∧
      d₁.Alike List.Perm Eq d₂ := by
  have hfirst : accepts "dag_1" .dag (statusText "RUNNING") = true := by decide +kernel
  have hsecond : accepts "dag_1" .dag (statusText "SUCCEEDED") = true := by decide +kernel
  have hvertex : accepts "dag_1" .vertex (bareText "dag_1_vertex_2" "VERTEX") = true := by
    decide +kernel
  have htask : accepts "dag_1" .task (bareText "dag_1_vertex_2_task_3" "TASK") = true := by
    decide +kernel
  have hattempt : accepts "dag_1" .attempt
    (bareText "dag_1_vertex_2_task_3_attempt_4" "TASK_ATTEMPT") = true := by decide +kernel
  obtain ⟨first, hfirst, hfirstKind⟩ := exists_of_accepts hfirst
  obtain ⟨second, hsecond, hsecondKind⟩ := exists_of_accepts hsecond
  obtain ⟨vertex, hvertex, hvertexKind⟩ := exists_of_accepts hvertex
  obtain ⟨task, htask, htaskKind⟩ := exists_of_accepts htask
  obtain ⟨attempt, hattempt, hattemptKind⟩ := exists_of_accepts hattempt
  have hverdicts₁ : childrenFirst.mapM (judgeText "dag_1") = .ok [.accepted attempt,
      .accepted task, .accepted first, .accepted vertex, .accepted second] :=
    mapM_eq_ok_iff.2 (.cons hattempt (.cons htask (.cons hfirst (.cons hvertex
      (.cons hsecond .nil)))))
  have hverdicts₂ : parentsFirst.mapM (judgeText "dag_1") = .ok [.accepted first,
      .accepted second, .accepted vertex, .accepted task, .accepted attempt] :=
    mapM_eq_ok_iff.2 (.cons hfirst (.cons hsecond (.cons hvertex (.cons htask
      (.cons hattempt .nil)))))
  -- only the two records of the run can be about one entity, and they keep their order
  have hreordering : Reordering [attempt, task, first, vertex, second]
      [first, second, vertex, task, attempt] := by
    intro kind key
    cases kind <;>
      simp [Record.ofEntity, List.filter_cons, hfirstKind, hsecondKind, hvertexKind, htaskKind,
        hattemptKind]
  have hlinked : ((ingest "dag_1" "one" ⟨childrenFirst, none⟩).result.toOption.any fun s =>
      decide s.Measurable && s.link.outcome.result.toOption.isSome) = true := by
    decide +kernel
  obtain ⟨s₁, s₂, h₁, h₂, hsame, h⟩ :=
    link_ingest_reordered "one" "two" hverdicts₁ hverdicts₂ hreordering
  obtain ⟨hm, hsome⟩ : s₁.Measurable ∧ s₁.link.outcome.result.toOption.isSome = true := by
    simpa [h₁, Except.toOption] using hlinked
  have hboth := h hm
  refine ⟨s₁, s₂, ?_⟩
  generalize s₁.link.outcome.result = result₁ at hboth hsome ⊢
  generalize s₂.link.outcome.result = result₂ at hboth ⊢
  cases hboth with
  | incomplete => simp [Except.toOption] at hsome
  | alike halike => exact ⟨_, _, h₁, h₂, hsame, rfl, rfl, halike⟩

end RunHistory
