import Mathlib.Data.List.Find
import RunHistory.Proofs.Link.Undisturbed
import RunHistory.Proofs.Reordering

/-!
# Related entities that come to nothing

Of the related entities in a record only the names of the node and the container are used, and only
those in the first record of an attempt.  So nothing else about them makes a difference: records
that differ in nothing but their related entities are judged alike, and when the first record of
each attempt still gives the same names, they are linked into the same tree or refused for the same
cause.

## Main definitions

* `Record.SameTold`: records that tell the same but for related entities.
* `Record.SameBut`: objects that differ in nothing but their related entities.
* `Verdict.SameTold`: verdicts that differ in such records only.
* `State.SameTold`: states that hold such records, with the same names in those of attempts.
* `SameFirstNames`: the first records of each attempt give the same names.

## Main results

* `State.SameTold.outcome_link`: **such states are linked alike.**
* `Record.SameBut.sameTold_judge`: objects that differ in related entities only are judged alike.
* `State.sameTold_foldl_accept`: **only the names in the first records make a difference.**
-/

namespace RunHistory

/-! ### Records -/

/-- Records that tell the same of the same entity, but for related entities. -/
structure Record.SameTold (r r' : Record) : Prop where
  /-- They are about entities of the same kind. -/
  kind_eq : r.kind = r'.kind
  /-- They are about the same entity. -/
  entity_eq : r.entity = r'.entity
  /-- They have the same information. -/
  info_eq : r.info = r'.info

namespace Record.SameTold

theorem refl (r : Record) : r.SameTold r := ⟨rfl, rfl, rfl⟩

variable {r r' : Record} (h : r.SameTold r')

include h

theorem key_eq : r.key = r'.key := congrArg trimText h.entity_eq

theorem owner_eq : r.owner = r'.owner := by
  rw [Record.owner, Record.owner, h.kind_eq, h.entity_eq, h.key_eq]

theorem facts : Facts.ofRecord r = Facts.ofRecord r' := by
  have hinfo : Facts.infoOf r = Facts.infoOf r' := by rw [Facts.infoOf, Facts.infoOf, h.info_eq]
  rw [Facts.ofRecord, Facts.ofRecord, hinfo, h.key_eq]

theorem dag : Dag.ofRecord r = Dag.ofRecord r' := by
  rw [Dag.ofRecord, Dag.ofRecord, h.facts]

theorem vertex : Vertex.ofRecord r = Vertex.ofRecord r' := by
  rw [Vertex.ofRecord, Vertex.ofRecord, h.facts]

theorem task (d : Dag) : Link.task d r = Link.task d r' := by
  rw [Link.task, Link.task, Task.ofRecord, Task.ofRecord, h.facts]

/-- The names of related entities come into the information of an attempt. -/
theorem attempt (hnames : Relation.found r.related = Relation.found r'.related) (d : Dag) :
    Link.attempt d r = Link.attempt d r' := by
  have hwritten : r.withRelations.SameTold r'.withRelations := by
    refine ⟨h.kind_eq, h.entity_eq, ?_⟩
    show r.info.map _ = r'.info.map _
    rw [h.info_eq]
    refine congrArg (Option.map · r'.info) (funext fun info => ?_)
    rw [Relation.intoInfo_eq, Relation.intoInfo_eq, hnames]
  rw [Link.attempt, Link.attempt, Attempt.ofRecord, Attempt.ofRecord, hwritten.facts]

end Record.SameTold

/-! ### Judging -/

/-- Verdicts that differ in what their records say of related entities only. -/
inductive Verdict.SameTold : Verdict → Verdict → Prop where
  /-- Both are about something that is no entity. -/
  | ignored (label : Record.Label) : SameTold (.ignored label) (.ignored label)
  /-- Both are about an entity of another run. -/
  | foreign {r r' : Record} (h : r.SameTold r') (owner : String) :
    SameTold (.foreign r owner) (.foreign r' owner)
  /-- Both are about an entity of the wanted run. -/
  | accepted {r r' : Record} (h : r.SameTold r') : SameTold (.accepted r) (.accepted r')

namespace Verdict.SameTold

theorem refl (v : Verdict) : v.SameTold v := by
  cases v with
  | ignored label => exact .ignored label
  | foreign r owner => exact .foreign (.refl r) owner
  | accepted r => exact .accepted (.refl r)

theorem notice?_eq {v v' : Verdict} (h : v.SameTold v') (run : String) :
    v.notice? run = v'.notice? run := by
  cases h with
  | ignored label => rfl
  | foreign h owner => rw [notice?, notice?, h.kind_eq, h.entity_eq]
  | accepted h => rfl

theorem skipped_eq {v v' : Verdict} (h : v.SameTold v') {s s' : State}
    (hs : s.skipped = s'.skipped) : (s.apply v).skipped = (s'.apply v').skipped := by
  cases h with
  | ignored label => exact hs
  | foreign h owner => exact congrArg (· + 1) hs
  | accepted h => simpa [State.apply, State.accept] using hs

end Verdict.SameTold

namespace Record

/-- Objects that differ in nothing but their related entities. -/
def SameBut (raw raw' : Table Value) : Prop :=
  ∀ name, name ∉ relatedFields → raw.get? name = raw'.get? name

/-- What is in use depends on the values under the names alone. -/
theorem fieldInUse_congr {raw raw' : Table Value} {names : List String}
    (h : ∀ name ∈ names, raw.get? name = raw'.get? name) :
    fieldInUse raw names = fieldInUse raw' names :=
  List.find?_congr fun name hname => by rw [h name hname]

theorem valueInUse_congr {raw raw' : Table Value} {names : List String}
    (h : ∀ name ∈ names, raw.get? name = raw'.get? name) :
    valueInUse raw names = valueInUse raw' names := by
  rw [valueInUse, valueInUse, fieldInUse_congr h]
  cases hname : fieldInUse raw' names with
  | none => rfl
  | some name =>
    rw [Option.bind_some, Option.bind_some, h name (List.mem_of_find?_eq_some hname)]

namespace SameBut

variable {raw raw' : Table Value} (h : SameBut raw raw')

include h

theorem valueInUse_eq {names : List String} (hnames : ∀ name ∈ names, name ∉ relatedFields) :
    valueInUse raw names = valueInUse raw' names :=
  valueInUse_congr fun name hname => h name (hnames name hname)

theorem classify_eq : classify raw = classify raw' := by
  have hentity : valueInUse raw ["entity"] = valueInUse raw' ["entity"] :=
    h.valueInUse_eq (by decide)
  have hlabel : valueInUse raw labelFields = valueInUse raw' labelFields :=
    h.valueInUse_eq (by decide)
  rw [classify, classify, hentity, hlabel]

theorem sameTold_ofObject (entity label : String) (kind : Kind) : SameResult Record.SameTold
    (ofObject raw entity label kind) (ofObject raw' entity label kind) := by
  have hinfo : valueInUse raw infoFields = valueInUse raw' infoFields :=
    h.valueInUse_eq (by decide)
  have hfield : fieldInUse raw infoFields = fieldInUse raw' infoFields :=
    fieldInUse_congr fun name hname => h name ((by decide : ∀ name ∈ infoFields,
      name ∉ relatedFields) name hname)
  have hkind : (subjectOf raw kind).kind = (subjectOf raw' kind).kind := by cases kind <;> rfl
  unfold ofObject
  rw [hinfo, hfield]
  cases valueInUse raw' infoFields with
  | null => exact .ok ⟨hkind, rfl, rfl⟩
  | object fields => exact .ok ⟨hkind, rfl, rfl⟩
  | _ => exact .error _

end SameBut

/-- **Records that tell the same are judged alike.** -/
theorem SameTold.sameTold_judge {r r' : Record} (h : r.SameTold r') (run : String) :
    SameResult Verdict.SameTold (r.judge run) (r'.judge run) := by
  unfold judge
  rw [h.owner_eq]
  cases r'.owner with
  | error e => exact .error e
  | ok owner =>
    by_cases howner : owner = run
    · simp only [Except.map, howner, if_true]
      exact .ok (.accepted h)
    · simp only [Except.map, howner, if_false]
      exact .ok (.foreign h owner)

end Record

/-- **Objects that differ in related entities only are judged alike.** -/
theorem Record.SameBut.sameTold_judge {raw raw' : Table Value} (h : SameBut raw raw')
    (run : String) :
    SameResult Verdict.SameTold (RunHistory.judge run raw) (RunHistory.judge run raw') := by
  unfold RunHistory.judge route
  rw [h.classify_eq]
  cases classify raw' with
  | error e => exact .error e
  | ok label =>
    simp only [ok_bind]
    cases label.kind with
    | none => exact .ok (.ignored label)
    | some kind =>
      have hrecord := h.sameTold_ofObject label.entity label.text kind
      dsimp only
      generalize ofObject raw label.entity label.text kind = routed at hrecord ⊢
      generalize ofObject raw' label.entity label.text kind = routed' at hrecord ⊢
      cases hrecord with
      | error e => exact .error e
      | ok hsame => exact hsame.sameTold_judge run

/-! ### States -/

theorem Table.map_values_congr {α β : Type} {t u : Table α} {f : α → β} (hkeys : t.keys = u.keys)
    (h : ∀ key a b, t.get? key = some a → u.get? key = some b → f a = f b) :
    t.values.map f = u.values.map f := by
  have htables : t.mapValues f = u.mapValues f := by
    apply Table.ext_get?
    · rw [Table.keys_mapValues, Table.keys_mapValues, hkeys]
    · intro key
      rw [Table.get?_mapValues, Table.get?_mapValues]
      cases ha : t.get? key with
      | none =>
        rw [Table.get?_eq_none_iff, hkeys, ← Table.get?_eq_none_iff] at ha
        rw [ha]
      | some a =>
        obtain ⟨b, hb⟩ := Table.mem_keys_iff.1 (hkeys ▸ Table.mem_keys_iff.2 ⟨a, ha⟩)
        rw [hb, Option.map_some, Option.map_some, h key a b ha hb]
  rw [← Table.values_mapValues, ← Table.values_mapValues, htables]

theorem upToFailure_congr {ε α β : Type} {f : α → Except ε β} {items items' : List α}
    (h : items.map f = items'.map f) : upToFailure f items = upToFailure f items' := by
  rw [upToFailure_eq_of_map, h, ← upToFailure_eq_of_map]

/-- States of a run whose records tell the same, with the same names in those of attempts. -/
structure State.SameTold (s s' : State) : Prop where
  /-- They are states of the same run. -/
  run_eq : s.run = s'.run
  /-- They hold records of the same entities, in the same order. -/
  keys_eq : ∀ kind, (s.bucket kind).keys = (s'.bucket kind).keys
  /-- The records tell the same. -/
  record : ∀ kind key r r', s.held? kind key = some r → s'.held? kind key = some r' →
    r.SameTold r' ∧ (kind = .attempt → Relation.found r.related = Relation.found r'.related)

/-- How a state is linked depends on what the stages make of its records. -/
theorem State.outcome_link_congr {s s' : State} (hrun : s.run = s'.run)
    (hdags : s.dags.values.map Dag.ofRecord = s'.dags.values.map Dag.ofRecord)
    (hvertices : s.vertices.values.map Vertex.ofRecord = s'.vertices.values.map Vertex.ofRecord)
    (htasks : ∀ d, s.tasks.values.map (Link.task d) = s'.tasks.values.map (Link.task d))
    (hattempts : ∀ d, s.attempts.values.map (Link.attempt d) =
      s'.attempts.values.map (Link.attempt d)) : s.link.outcome = s'.link.outcome := by
  have hdag : Link.dag s = Link.dag s' := by
    unfold Link.dag
    cases hs : s.dags.values with
    | nil =>
      rw [hs] at hdags
      rw [List.map_eq_nil_iff.1 hdags.symm, hrun]
    | cons r rest =>
      rw [hs] at hdags
      obtain ⟨r', rest', hs', hr, -⟩ := List.map_eq_cons_iff.1 hdags.symm
      rw [hs']
      exact hr.symm
  rw [link, link, hdag, upToFailure_congr hvertices]
  cases Link.dag s' with
  | error e => rfl
  | ok bare =>
    simp only [upToFailure_congr (htasks _), upToFailure_congr (hattempts _)]
    cases (upToFailure Vertex.ofRecord s'.vertices.values).failure with
    | some e => rfl
    | none =>
      dsimp only
      cases (upToFailure (Link.task _) s'.tasks.values).failure with
      | some e => rfl
      | none =>
        dsimp only
        cases (upToFailure (Link.attempt _) s'.attempts.values).failure <;> rfl

/-- **Such states are linked alike.** -/
theorem State.SameTold.outcome_link {s s' : State} (h : s.SameTold s') :
    s.link.outcome = s'.link.outcome := by
  apply State.outcome_link_congr h.run_eq
  · exact Table.map_values_congr (h.keys_eq .dag) fun key r r' hr hr' =>
      (h.record .dag key r r' hr hr').1.dag
  · exact Table.map_values_congr (h.keys_eq .vertex) fun key r r' hr hr' =>
      (h.record .vertex key r r' hr hr').1.vertex
  · intro d
    exact Table.map_values_congr (h.keys_eq .task) fun key r r' hr hr' =>
      (h.record .task key r r' hr hr').1.task d
  · intro d
    refine Table.map_values_congr (h.keys_eq .attempt) fun key r r' hr hr' => ?_
    obtain ⟨hsame, hnames⟩ := h.record .attempt key r r' hr hr'
    exact hsame.attempt (hnames rfl) d

/-! ### Records taken in -/

theorem filterMap_eq_of_forall₂ {α β γ : Type} {f : α → Option γ} {g : β → Option γ} {l : List α}
    {l' : List β} (h : List.Forall₂ (fun a b => f a = g b) l l') :
    l.filterMap f = l'.filterMap g := by
  induction h with
  | nil => rfl
  | cons hab _ ih => rw [List.filterMap_cons, List.filterMap_cons, hab, ih]

theorem Record.forall₂_ofEntity {a b : List Record} (h : List.Forall₂ Record.SameTold a b)
    (kind : Kind) (key : String) :
    List.Forall₂ Record.SameTold (ofEntity kind key a) (ofEntity kind key b) := by
  refine List.rel_filter (fun r r' hr => ?_) h
  show decide (r.kind = kind ∧ r.key = key) = true ↔ _
  rw [hr.kind_eq, hr.key_eq]

/-- The first records of each attempt give the same names. -/
def SameFirstNames (a b : List Record) : Prop :=
  ∀ key first first', (Record.ofEntity .attempt key a).head? = some first →
    (Record.ofEntity .attempt key b).head? = some first' →
      Relation.found first.related = Relation.found first'.related

/-- **Only the names in the first records make a difference.** -/
theorem State.sameTold_foldl_accept {a b : List Record} (h : List.Forall₂ Record.SameTold a b)
    (hfirst : SameFirstNames a b) (run : String) :
    (a.foldl accept (.start run)).SameTold (b.foldl accept (.start run)) := by
  refine ⟨by rw [run_foldl_accept, run_foldl_accept], ?_, ?_⟩
  · intro kind
    have hkind : List.Forall₂ Record.SameTold (a.filter fun r => r.kind = kind)
        (b.filter fun r => r.kind = kind) :=
      List.rel_filter (fun r r' hr => by simp only [hr.kind_eq]) h
    have hkeys := List.rel_map (fun _ _ hr => hr.key_eq) hkind
    rw [List.forall₂_eq_eq_eq] at hkeys
    rw [(held_foldl_accept run a kind).1, (held_foldl_accept run b kind).1, hkeys]
  · intro kind key r r' hr hr'
    obtain ⟨first, later, hrecords, rfl⟩ := held?_foldl_accept_eq_some_iff.1 hr
    obtain ⟨first', later', hrecords', rfl⟩ := held?_foldl_accept_eq_some_iff.1 hr'
    have hall := Record.forall₂_ofEntity h kind key
    rw [hrecords, hrecords'] at hall
    have hinfos : (first :: later).filterMap Record.info =
        (first' :: later').filterMap Record.info :=
      filterMap_eq_of_forall₂ (hall.imp fun _ _ hr => hr.info_eq)
    obtain ⟨hsame, -⟩ := List.forall₂_cons.1 hall
    rw [Record.foldl_absorb_eq, Record.foldl_absorb_eq, hinfos]
    refine ⟨⟨hsame.kind_eq, hsame.entity_eq, rfl⟩, ?_⟩
    rintro rfl
    exact hfirst key first first' (by rw [hrecords]; rfl) (by rw [hrecords']; rfl)

end RunHistory
