import RunHistory.Proofs.Entity.Apart

/-!
# The lineage of an id

An id carries the ids of all that hold its entity, up to the run.  Records are kept by the text of
their ids, and what holds an entity is found by the text of an id that was read before, so ids are
turned into texts and read from them again at every level.  Each id that is carried is read from its
own text, with gaps behind it or not, and belongs to the same run; and no text is an id of two kinds
below the run.

## Main definitions

* `EntityId`: an id of any kind.
* `EntityId.parse`: the id of a kind that a text writes.
* `EntityId.holder?`: the id of what holds an entity.
* `EntityId.Carries`: an id carries itself and the ids of all that hold its entity.

## Main results

* `EntityId.parse_holder`: the id of what holds an entity was read in its turn.
* `EntityId.Carries.parse_text`: from holder to holder, what an id carries is read from its text.
* `EntityId.kind_eq_of_parse`: no text is an id of two kinds below the run.
* `EntityId.parse_lineage`: **every id that is carried is read from its own text.**
-/

namespace RunHistory

/-- The id of an entity of any kind. -/
inductive EntityId where
  /-- The id of a run. -/
  | dag (id : DagId)
  /-- The id of a vertex. -/
  | vertex (id : VertexId)
  /-- The id of a task. -/
  | task (id : TaskId)
  /-- The id of an attempt. -/
  | attempt (id : AttemptId)
  deriving DecidableEq, Repr

namespace EntityId

/-- The kind of the entity. -/
def kind : EntityId → Kind
  | .dag _ => .dag
  | .vertex _ => .vertex
  | .task _ => .task
  | .attempt _ => .attempt

/-- The id as text. -/
def text : EntityId → String
  | .dag id => id.text
  | .vertex id => id.text
  | .task id => id.text
  | .attempt id => id.text

/-- The run that the entity belongs to. -/
def run : EntityId → DagId
  | .dag id => id
  | .vertex id => id.dag
  | .task id => id.dag
  | .attempt id => id.dag

/-- The id of what holds the entity; nothing holds a run. -/
def holder? : EntityId → Option EntityId
  | .dag _ => none
  | .vertex id => some (.dag id.dag)
  | .task id => some (.vertex id.vertex)
  | .attempt id => some (.task id.task)

/-- The id of a kind that a text writes. -/
def parse (kind : Kind) (text : String) : Except IdFault EntityId :=
  match kind with
  | .dag => (DagId.parse text).map .dag
  | .vertex => (VertexId.parse text).map .vertex
  | .task => (TaskId.parse text).map .task
  | .attempt => (AttemptId.parse text).map .attempt

/-- An id carries itself and the ids of all that hold its entity. -/
inductive Carries : EntityId → EntityId → Prop where
  /-- It carries itself. -/
  | self (id : EntityId) : Carries id id
  /-- It carries what the id of the holder carries. -/
  | above {id holder other : EntityId} (hholder : id.holder? = some holder)
    (h : Carries holder other) : Carries id other

variable {kind : Kind} {text : String} {id holder : EntityId}

/-! ### One id -/

theorem kind_of_parse (h : parse kind text = .ok id) : id.kind = kind := by
  cases kind <;>
  · obtain ⟨_, -, rfl⟩ := map_eq_ok_iff.1 h
    rfl

/-- An id is read from its own text. -/
theorem parse_text (h : parse kind text = .ok id) : parse id.kind id.text = .ok id := by
  cases kind with
  | dag =>
    obtain ⟨d, hd, rfl⟩ := map_eq_ok_iff.1 h
    exact map_eq_ok_iff.2 ⟨d, DagId.parse_text hd, rfl⟩
  | vertex =>
    obtain ⟨v, hv, rfl⟩ := map_eq_ok_iff.1 h
    exact map_eq_ok_iff.2 ⟨v, VertexId.parse_text hv, rfl⟩
  | task =>
    obtain ⟨t, ht, rfl⟩ := map_eq_ok_iff.1 h
    exact map_eq_ok_iff.2 ⟨t, TaskId.parse_text ht, rfl⟩
  | attempt =>
    obtain ⟨a, ha, rfl⟩ := map_eq_ok_iff.1 h
    exact map_eq_ok_iff.2 ⟨a, AttemptId.parse_text ha, rfl⟩

/-- The text of an id below the run falls into the text of the holder's id and a number, and the
holder belongs to the same run. -/
theorem parse_cases (h : parse kind text = .ok id) : kind = .dag ∧ id.holder? = none ∨
    ∃ parent seq holder, Id.split kind text = .ok (parent, seq) ∧
      parse (Id.parentKind kind) parent = .ok holder ∧ id.holder? = some holder ∧
        holder.run = id.run := by
  cases kind with
  | dag =>
    obtain ⟨d, -, rfl⟩ := map_eq_ok_iff.1 h
    exact .inl ⟨rfl, rfl⟩
  | vertex =>
    obtain ⟨v, hv, rfl⟩ := map_eq_ok_iff.1 h
    obtain ⟨⟨parent, seq⟩, hsplit, hv⟩ := bind_eq_ok_iff.1 hv
    obtain ⟨d, hd, hv⟩ := bind_eq_ok_iff.1 hv
    cases hv
    exact .inr ⟨parent, seq, .dag d, hsplit, map_eq_ok_iff.2 ⟨d, hd, rfl⟩, rfl, rfl⟩
  | task =>
    obtain ⟨t, ht, rfl⟩ := map_eq_ok_iff.1 h
    obtain ⟨⟨parent, seq⟩, hsplit, ht⟩ := bind_eq_ok_iff.1 ht
    obtain ⟨v, hv, ht⟩ := bind_eq_ok_iff.1 ht
    cases ht
    exact .inr ⟨parent, seq, .vertex v, hsplit, map_eq_ok_iff.2 ⟨v, hv, rfl⟩, rfl, rfl⟩
  | attempt =>
    obtain ⟨a, ha, rfl⟩ := map_eq_ok_iff.1 h
    obtain ⟨⟨parent, seq⟩, hsplit, ha⟩ := bind_eq_ok_iff.1 ha
    obtain ⟨t, ht, ha⟩ := bind_eq_ok_iff.1 ha
    cases ha
    exact .inr ⟨parent, seq, .task t, hsplit, map_eq_ok_iff.2 ⟨t, ht, rfl⟩, rfl, rfl⟩

/-- **No text is an id of two kinds below the run.** -/
theorem kind_eq_of_parse {kind' : Kind} {id' : EntityId} (hkind : kind ≠ .dag)
    (hkind' : kind' ≠ .dag) (h : parse kind text = .ok id) (h' : parse kind' text = .ok id') :
    kind = kind' := by
  rcases parse_cases h with ⟨hdag, -⟩ | ⟨parent, seq, holder, hsplit, -⟩
  · exact absurd hdag hkind
  · rcases parse_cases h' with ⟨hdag, -⟩ | ⟨parent', seq', holder', hsplit', -⟩
    · exact absurd hdag hkind'
    · exact Id.kind_eq_of_split hsplit hsplit'

/-! ### The ids that are carried -/

/-- The id of what holds an entity was read from a text in its turn, and belongs to the same run. -/
theorem parse_holder (h : parse kind text = .ok id) (hholder : id.holder? = some holder) :
    (∃ parent, parse (Id.parentKind kind) parent = .ok holder) ∧ holder.run = id.run := by
  rcases parse_cases h with ⟨-, hnone⟩ | ⟨parent, seq, holder', -, hparent, hsome, hrun⟩
  · cases hnone.symm.trans hholder
  · cases hsome.symm.trans hholder
    exact ⟨⟨parent, hparent⟩, hrun⟩

/-- **What an id carries is read from its own text**, and belongs to the same run. -/
theorem Carries.parse_text {other : EntityId} (hcarries : id.Carries other)
    (h : parse kind text = .ok id) :
    parse other.kind other.text = .ok other ∧ other.run = id.run := by
  -- the induction climbs from holder to holder, and each was read from some text
  induction hcarries generalizing kind text with
  | self id => exact ⟨EntityId.parse_text h, rfl⟩
  | above hholder _ ih =>
    obtain ⟨⟨parent, hparent⟩, hrun⟩ := parse_holder h hholder
    obtain ⟨hother, hother_run⟩ := ih hparent
    exact ⟨hother, hother_run.trans hrun⟩

/-- Every id carries that of the run. -/
theorem carries_run (id : EntityId) : id.Carries (.dag id.run) := by
  have hdag (d : DagId) : Carries (.dag d) (.dag d) := .self (.dag d)
  have hvertex (v : VertexId) : Carries (.vertex v) (.dag v.dag) := .above rfl (hdag v.dag)
  have htask (t : TaskId) : Carries (.task t) (.dag t.dag) := .above rfl (hvertex t.vertex)
  cases id with
  | dag d => exact hdag d
  | vertex v => exact hvertex v
  | task t => exact htask t
  | attempt a => exact .above rfl (htask a.task)

/-- **Every id that an id carries is read from its own text**, with the same run, up to the id of
the run; the id itself is among them.  And a text that is an id of one kind below the run is an id
of no other. -/
theorem parse_lineage (h : parse kind text = .ok id) :
    id.kind = kind ∧ parse kind id.text = .ok id ∧ id.Carries (.dag id.run) ∧
      (∀ other, id.Carries other →
        parse other.kind other.text = .ok other ∧ other.run = id.run) ∧
      (kind ≠ .dag → ∀ kind', kind' ≠ .dag → kind' ≠ kind → ∀ id',
        parse kind' text ≠ .ok id') := by
  have hkind : id.kind = kind := kind_of_parse h
  refine ⟨hkind, ?_, id.carries_run, fun other hother => hother.parse_text h, ?_⟩
  · rw [← hkind]
    exact EntityId.parse_text h
  · intro hbelow kind' hbelow' hne id' h'
    exact hne (kind_eq_of_parse hbelow' hbelow h' h)

/-- A native vertex stands inside, and there are gaps behind it and behind the task. -/
theorem parse_lineage_gaps :
    EntityId.parse .attempt "\tvertex_1_2_3_04 _task_5\u2003_attempt_6 " =
        .ok (.attempt ⟨"vertex_1_2_3_04 _task_5\u2003_attempt_6",
          ⟨"vertex_1_2_3_04 _task_5", ⟨"vertex_1_2_3_04", ⟨"dag_1_2_3"⟩, 4⟩, 5⟩, 6⟩) ∧
      EntityId.parse .task "vertex_1_2_3_04 _task_5" =
        .ok (.task ⟨"vertex_1_2_3_04 _task_5", ⟨"vertex_1_2_3_04", ⟨"dag_1_2_3"⟩, 4⟩, 5⟩) ∧
      EntityId.parse .vertex "vertex_1_2_3_04" =
        .ok (.vertex ⟨"vertex_1_2_3_04", ⟨"dag_1_2_3"⟩, 4⟩) ∧
      ∀ id, EntityId.parse .task "\tvertex_1_2_3_04 _task_5\u2003_attempt_6 " ≠ .ok id := by
  have h : EntityId.parse .attempt "\tvertex_1_2_3_04 _task_5\u2003_attempt_6 " =
      .ok (.attempt ⟨"vertex_1_2_3_04 _task_5\u2003_attempt_6",
        ⟨"vertex_1_2_3_04 _task_5", ⟨"vertex_1_2_3_04", ⟨"dag_1_2_3"⟩, 4⟩, 5⟩, 6⟩) := by
    decide +kernel
  obtain ⟨-, -, -, hcarried, hapart⟩ := parse_lineage h
  refine ⟨h, ?_, ?_, hapart (by decide) .task (by decide) (by decide)⟩
  · exact (hcarried _ (.above rfl (.self _))).1
  · exact (hcarried _ (.above rfl (.above rfl (.self _)))).1

end EntityId

end RunHistory
