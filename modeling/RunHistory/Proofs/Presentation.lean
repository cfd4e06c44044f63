import RunHistory.Proofs.Record.Routing
import RunHistory.Proofs.Relations

/-!
# The same history in another dress

Much in how a record is written makes no difference: blanks around the id of its entity, which of
its many spellings the label of a kind has, and under which of its two keys the label stands.  The
same goes for blanks around the name of the wanted run.  Whatever of this is changed, in however many
records, a history leads to the same tree, or is refused for a cause of the same category.

What a record comes to is seen from its essence, the record with its id cleaned of blanks and
without its label and the fields that nothing reads.  States hold the essence of what they take in
and are linked by nothing else, so two runs are compared in what they leave when both are stripped.

## Main definitions

* `SameClass`: two results of which both are failures of one category, or neither is a failure.
* `Record.Respelled`: objects that differ in their dress only.
* `Record.essence`, `State.essence`: what linking sees of a record, and of a state.
* `outcomeOf`: what a sequence of records comes to for a wanted run.

## Main results

* `State.accept_essence`: **what is taken in is the essence.**
* `State.outcome_link_essence`: **what is linked is the essence.**
* `Record.Respelled.sameClass_judge`: objects that differ in their dress only are judged alike.
* `parse_respelled`: **a history in another dress leads to the same outcome.**
-/

namespace RunHistory

/-! ### Results of one class -/

/-- Two results of which both are failures of one category, or neither is a failure, and then they
are related. -/
inductive SameClass {α β : Type} (related : α → β → Prop) :
    Except Failure α → Except Failure β → Prop where
  /-- Both are failures. -/
  | error {e e' : Failure} (category : e.category = e'.category) :
    SameClass related (.error e) (.error e')
  /-- Neither is. -/
  | ok {a : α} {b : β} (values : related a b) : SameClass related (.ok a) (.ok b)

namespace SameClass

variable {α β γ δ : Type} {related : α → β → Prop}

theorem of_eq (x : Except Failure α) : SameClass Eq x x := by
  cases x with
  | error e => exact .error rfl
  | ok a => exact .ok rfl

theorem map {related' : γ → δ → Prop} {x : Except Failure α} {y : Except Failure β}
    (h : SameClass related x y) {f : α → γ} {g : β → δ}
    (hnext : ∀ a b, related a b → related' (f a) (g b)) :
    SameClass related' (x.map f) (y.map g) := by
  cases h with
  | error hcategory => exact .error hcategory
  | ok hvalues => exact .ok (hnext _ _ hvalues)

/-- Steps with results of one class follow each other. -/
theorem bind {related' : γ → δ → Prop} {x : Except Failure α} {y : Except Failure β}
    (h : SameClass related x y) {f : α → Except Failure γ} {g : β → Except Failure δ}
    (hnext : ∀ a b, related a b → SameClass related' (f a) (g b)) :
    SameClass related' (x >>= f) (y >>= g) := by
  cases h with
  | error hcategory => exact .error hcategory
  | ok hvalues => exact hnext _ _ hvalues

theorem mapM {f : γ → Except Failure α} {g : δ → Except Failure β} {items : List γ}
    {items' : List δ} (h : List.Forall₂ (fun c d => SameClass related (f c) (g d)) items items') :
    SameClass (List.Forall₂ related) (items.mapM f) (items'.mapM g) := by
  induction h with
  | nil => exact .ok .nil
  | cons hfirst _ ih =>
    rw [List.mapM_cons, List.mapM_cons]
    exact hfirst.bind fun a b hab => ih.bind fun rest rest' hrest => .ok (.cons hab hrest)

end SameClass

/-! ### Another dress -/

/-- Values that are the same, or texts that are the same but for the blanks around them. -/
inductive Value.SameButBlanks : Value → Value → Prop where
  /-- They are the same. -/
  | same (v : Value) : SameButBlanks v v
  /-- They are such texts. -/
  | text {s s' : String} (trimmed : trimText s = trimText s') : SameButBlanks (.str s) (.str s')

/-- Labels that are the same, or spellings of one kind. -/
inductive Value.SameLabel : Value → Value → Prop where
  /-- They are the same. -/
  | same (v : Value) : SameLabel v v
  /-- They are spellings of one kind. -/
  | spelling {kind : Kind} {s s' : String} (named : kind.NamedBy s) (named' : kind.NamedBy s') :
    SameLabel (.str s) (.str s')

theorem Value.SameButBlanks.text_or {v v' : Value} (h : v.SameButBlanks v') :
    (∃ s s', v = .str s ∧ v' = .str s' ∧ trimText s = trimText s') ∨
      (∀ s, v ≠ .str s) ∧ ∀ s, v' ≠ .str s := by
  cases h with
  | text htrimmed => exact .inl ⟨_, _, rfl, rfl, htrimmed⟩
  | same =>
    by_cases htext : ∃ s, v = .str s
    · obtain ⟨s, rfl⟩ := htext
      exact .inl ⟨s, s, rfl, rfl, rfl⟩
    · exact .inr ⟨not_exists.1 htext, not_exists.1 htext⟩

theorem Value.SameLabel.text_or {v v' : Value} (h : v.SameLabel v') :
    (∃ s s', v = .str s ∧ v' = .str s' ∧ Kind.ofLabel? s = Kind.ofLabel? s') ∨
      (∀ s, v ≠ .str s) ∧ ∀ s, v' ≠ .str s := by
  cases h with
  | spelling hnamed hnamed' =>
    refine .inl ⟨_, _, rfl, rfl, ?_⟩
    rw [Kind.ofLabel?_eq_some_iff.2 hnamed, Kind.ofLabel?_eq_some_iff.2 hnamed']
  | same =>
    by_cases htext : ∃ s, v = .str s
    · obtain ⟨s, rfl⟩ := htext
      exact .inl ⟨s, s, rfl, rfl, rfl⟩
    · exact .inr ⟨not_exists.1 htext, not_exists.1 htext⟩

namespace Record

/-- An object has one label, and under one key. -/
def Labelled (raw : Table Value) (name : String) (label : Value) : Prop :=
  name ∈ labelFields ∧
    ∀ other ∈ labelFields, raw.get? other = if other = name then some label else none

/-- Objects with one label each that differ in their dress only: in blanks around the entity, and in
the spelling and the key of the label. -/
structure Respelled (raw raw' : Table Value) : Prop where
  /-- The entities are the same but for blanks. -/
  entity : Option.Rel Value.SameButBlanks (raw.get? "entity") (raw'.get? "entity")
  /-- The labels are spellings of one kind. -/
  label : ∃ name name' label label', Labelled raw name label ∧ Labelled raw' name' label' ∧
    Value.SameLabel label label'
  /-- All else is the same. -/
  others : ∀ name, name ≠ "entity" → name ∉ labelFields → raw.get? name = raw'.get? name

/-! ### The essence of a record -/

/-- What linking sees of a record: the entity without blanks around it, what is said of it and of
related entities. -/
def essence (r : Record) : Record := ⟨r.subject, r.key, "", r.info, .empty⟩

@[simp] theorem kind_essence (r : Record) : r.essence.kind = r.kind := rfl

@[simp] theorem key_essence (r : Record) : r.essence.key = r.key := trimText_trimText r.entity

theorem essence_absorb (first later : Record) :
    (first.absorb later).essence = first.essence.absorb later.essence := by
  rw [absorb, absorb]
  rfl

theorem facts_essence (r : Record) : Facts.ofRecord r.essence = Facts.ofRecord r := by
  have hinfo : Facts.infoOf r.essence = Facts.infoOf r := rfl
  rw [Facts.ofRecord, Facts.ofRecord, hinfo, key_essence]

theorem owner_congr_essence {r r' : Record} (h : r.essence = r'.essence) : r.owner = r'.owner := by
  refine owner_congr ?_ ?_
  · rw [← kind_essence r, h, kind_essence]
  · rw [← key_essence r, h, key_essence]

end Record

open Record

/-! ### The essence of a state -/

theorem mergeRecord_essence (bucket : Table Record) (r : Record) :
    (mergeRecord bucket r).mapValues essence =
      mergeRecord (bucket.mapValues essence) r.essence := by
  rw [mergeRecord, mergeRecord, key_essence, Table.get?_mapValues]
  cases bucket.get? r.key with
  | none => rw [Option.map_none, Table.mapValues_set]
  | some first => rw [Option.map_some, Table.mapValues_set, essence_absorb]

namespace State

/-- What linking sees of a state. -/
def essence (s : State) : State where
  run := s.run
  dags := s.dags.mapValues Record.essence
  vertices := s.vertices.mapValues Record.essence
  tasks := s.tasks.mapValues Record.essence
  attempts := s.attempts.mapValues Record.essence
  skipped := s.skipped

@[simp] theorem essence_start (run : String) : (start run).essence = start run := rfl

/-- **What is taken in is the essence.** -/
theorem accept_essence (s : State) (r : Record) :
    (s.accept r).essence = s.essence.accept r.essence := by
  unfold accept
  rw [kind_essence]
  cases r.kind <;>
    simp only [setBucket, bucket, essence, mergeRecord_essence]

theorem foldl_accept_essence (records : List Record) (s : State) :
    (records.foldl accept s).essence = (records.map Record.essence).foldl accept s.essence := by
  induction records generalizing s with
  | nil => rfl
  | cons r records ih => rw [List.foldl_cons, ih, accept_essence, List.map_cons, List.foldl_cons]

theorem map_values_essence {α : Type} {f : Record → α} (h : ∀ r, f r.essence = f r)
    (t : Table Record) : (t.mapValues Record.essence).values.map f = t.values.map f := by
  rw [Table.values_mapValues, List.map_map]
  exact List.map_congr_left fun r _ => h r

/-- **What is linked is the essence.** -/
theorem outcome_link_essence (s : State) : s.essence.link.outcome = s.link.outcome := by
  apply outcome_link_congr
  · rfl
  · refine map_values_essence (fun r => ?_) s.dags
    rw [Dag.ofRecord, Dag.ofRecord, facts_essence]
  · refine map_values_essence (fun r => ?_) s.vertices
    rw [Vertex.ofRecord, Vertex.ofRecord, facts_essence]
  · refine fun d => map_values_essence (fun r => ?_) s.tasks
    rw [Link.task, Link.task, Task.ofRecord, Task.ofRecord, facts_essence]
  · refine fun d => map_values_essence (fun r => ?_) s.attempts
    -- relations are written into the information, which is of the essence
    have hwritten : Facts.ofRecord r.essence.withRelations = Facts.ofRecord r.withRelations :=
      facts_essence r.withRelations
    rw [Link.attempt, Link.attempt, Attempt.ofRecord, Attempt.ofRecord, hwritten]

end State

/-! ### Judging -/

/-- What linking sees of a verdict. -/
def Verdict.essence? (v : Verdict) : Option Record := v.record?.map Record.essence

/-- Verdicts in which linking sees the same lead to states that are linked alike. -/
theorem State.outcome_link_ofVerdicts_essence {verdicts verdicts' : List Verdict}
    (h : List.Forall₂ (fun v v' => Verdict.essence? v = Verdict.essence? v') verdicts verdicts')
    (run : String) :
    (ofVerdicts run verdicts).link.outcome = (ofVerdicts run verdicts').link.outcome := by
  have hrecords : (verdicts.filterMap Verdict.record?).map Record.essence =
      (verdicts'.filterMap Verdict.record?).map Record.essence := by
    rw [List.map_filterMap, List.map_filterMap]
    exact filterMap_eq_of_forall₂ h
  obtain ⟨count, hcount⟩ := ofVerdicts_eq run verdicts
  obtain ⟨count', hcount'⟩ := ofVerdicts_eq run verdicts'
  rw [hcount, hcount', outcome_link_withSkipped, outcome_link_withSkipped,
    ← outcome_link_essence, foldl_accept_essence, hrecords, ← foldl_accept_essence,
    outcome_link_essence]

/-- Records of one essence are judged alike. -/
theorem Record.sameClass_judge {r r' : Record} (h : r.essence = r'.essence) (run : String) :
    SameClass (fun v v' => Verdict.essence? v = Verdict.essence? v') (r.judge run)
      (r'.judge run) := by
  unfold judge
  rw [owner_congr_essence h]
  refine (SameClass.of_eq r'.owner).map fun owner owner' howner => ?_
  subst howner
  by_cases hrun : owner = run
  · rw [if_pos hrun, if_pos hrun]
    exact congrArg some h
  · rw [if_neg hrun, if_neg hrun]
    rfl

namespace Record

theorem Labelled.valueInUse_eq {raw : Table Value} {name : String} {label : Value}
    (h : Labelled raw name label) : valueInUse raw labelFields = label := by
  obtain ⟨hname, hget⟩ := h
  have hlower := hget "entitytype" (by simp [labelFields])
  have hupper := hget "entityType" (by simp [labelFields])
  rw [labelFields, valueInUse_pair, hlower, hupper]
  rcases List.mem_pair.1 hname with rfl | rfl <;> simp

/-- Objects that say nothing of an entity are refused alike. -/
theorem sameClass_of_not_about {raw raw' : Table Value} (related : Label → Label → Prop)
    (h : ∀ entity label, ¬About raw entity label)
    (h' : ∀ entity label, ¬About raw' entity label) :
    SameClass related (classify raw) (classify raw') := by
  obtain ⟨e, he, hcategory⟩ := classify_of_not_about h
  obtain ⟨e', he', hcategory'⟩ := classify_of_not_about h'
  rw [he, he']
  exact .error (hcategory.trans hcategory'.symm)

namespace Respelled

variable {raw raw' : Table Value} (h : Respelled raw raw')

include h

theorem sameButBlanks_entity :
    (valueInUse raw ["entity"]).SameButBlanks (valueInUse raw' ["entity"]) := by
  have hentity := h.entity
  rw [valueInUse_singleton, valueInUse_singleton]
  generalize raw.get? "entity" = entity at hentity ⊢
  generalize raw'.get? "entity" = entity' at hentity ⊢
  cases hentity with
  | none => exact .same .null
  | some hsame => exact hsame

theorem sameLabel : (valueInUse raw labelFields).SameLabel (valueInUse raw' labelFields) := by
  obtain ⟨name, name', label, label', hlabel, hlabel', hsame⟩ := h.label
  rw [hlabel.valueInUse_eq, hlabel'.valueInUse_eq]
  exact hsame

/-- The other fields are read alike. -/
theorem valueInUse_eq {names : List String}
    (hnames : ∀ name ∈ names, name ≠ "entity" ∧ name ∉ labelFields) :
    valueInUse raw names = valueInUse raw' names :=
  valueInUse_congr fun name hname => h.others name (hnames name hname).1 (hnames name hname).2

/-- What is said is about the same entity, but for blanks, and about the same kind. -/
theorem sameClass_classify : SameClass
    (fun l l' : Label => trimText l.entity = trimText l'.entity ∧ l.kind = l'.kind)
    (classify raw) (classify raw') := by
  rcases h.sameButBlanks_entity.text_or with ⟨s, s', hs, hs', htrimmed⟩ | ⟨hne, hne'⟩
  · rcases h.sameLabel.text_or with ⟨t, t', ht, ht', hkind⟩ | ⟨hne, hne'⟩
    · rw [classify_of_about (about_iff.2 ⟨hs, ht⟩), classify_of_about (about_iff.2 ⟨hs', ht'⟩)]
      refine .ok ?_
      dsimp only
      exact ⟨htrimmed, hkind⟩
    · exact sameClass_of_not_about _ (fun _ label ha => hne label (about_iff.1 ha).2)
        fun _ label ha => hne' label (about_iff.1 ha).2
  · exact sameClass_of_not_about _ (fun entity _ ha => hne entity (about_iff.1 ha).1)
      fun entity _ ha => hne' entity (about_iff.1 ha).1

theorem sameClass_ofObject {entity entity' : String} (hentity : trimText entity = trimText entity')
    (label label' : String) (kind : Kind) :
    SameClass (fun r r' : Record => r.essence = r'.essence) (ofObject raw entity label kind)
      (ofObject raw' entity' label' kind) := by
  have hinfo : valueInUse raw infoFields = valueInUse raw' infoFields :=
    h.valueInUse_eq (by decide)
  have hsubject : subjectOf raw kind = subjectOf raw' kind := by
    cases kind with
    | attempt => exact congrArg Subject.attempt (h.valueInUse_eq (by decide))
    | _ => rfl
  unfold ofObject
  rw [hinfo, hsubject]
  cases valueInUse raw' infoFields with
  | null => exact .ok (by simp only [essence, key, hentity])
  | object fields => exact .ok (by simp only [essence, key, hentity])
  | _ => exact .error rfl

theorem sameClass_route : SameClass
    (fun found found' : Label × Option Record =>
      found.2.map Record.essence = found'.2.map Record.essence) (route raw) (route raw') := by
  refine h.sameClass_classify.bind fun l l' hl => ?_
  obtain ⟨hentity, hkind⟩ := hl
  rw [hkind]
  cases l'.kind with
  | none => exact .ok rfl
  | some kind =>
    exact (h.sameClass_ofObject hentity l.text l'.text kind).map fun r r' hr => congrArg some hr

/-- **Objects that differ in their dress only are judged alike.** -/
theorem sameClass_judge (run : String) :
    SameClass (fun v v' => Verdict.essence? v = Verdict.essence? v') (RunHistory.judge run raw)
      (RunHistory.judge run raw') := by
  refine h.sameClass_route.bind fun found found' hfound => ?_
  obtain ⟨label, r⟩ := found
  obtain ⟨label', r'⟩ := found'
  cases r with
  | none =>
    obtain rfl : r' = none := Option.map_eq_none_iff.1 hfound.symm
    exact .ok rfl
  | some r =>
    obtain ⟨r', rfl, hr⟩ := Option.map_eq_some_iff.1 hfound.symm
    exact Record.sameClass_judge hr.symm run

end Respelled

end Record

/-! ### Whole histories -/

theorem sameClass_wantedRun {wanted wanted' : Value} (h : wanted.SameButBlanks wanted') :
    SameClass Eq (wantedRun wanted) (wantedRun wanted') := by
  cases h with
  | same => exact .of_eq _
  | @text s s' htrimmed =>
    have hblank : allBlank s.toList = allBlank s'.toList := by
      rw [← allBlank_trim s.toList, ← allBlank_trim s'.toList]
      exact congrArg allBlank (String.ofList_inj.1 htrimmed)
    rw [wantedRun, wantedRun, hblank, htrimmed]
    exact .of_eq _

/-- What a sequence of records comes to for a wanted run. -/
def outcomeOf (wanted : Value) (raws : List (Table Value)) : Except Failure Dag := do
  let run ← wantedRun wanted
  let verdicts ← raws.mapM (judge run)
  (State.ofVerdicts run verdicts).link.outcome.result

theorem sameClass_outcomeOf {wanted wanted' : Value} {raws raws' : List (Table Value)}
    (hwanted : wanted.SameButBlanks wanted') (h : List.Forall₂ Record.Respelled raws raws') :
    SameClass Eq (outcomeOf wanted raws) (outcomeOf wanted' raws') := by
  refine (sameClass_wantedRun hwanted).bind fun run run' hrun => ?_
  subst hrun
  refine (SameClass.mapM (h.imp fun raw raw' hraw => hraw.sameClass_judge run)).bind
    fun verdicts verdicts' hverdicts => ?_
  rw [State.outcome_link_ofVerdicts_essence hverdicts run]
  exact .of_eq _

/-- A history comes to what its records come to. -/
theorem result_parse_of_writes {cfg : Configuration} {source : Source}
    {raws : List (Table Value)} (h : source.Writes cfg raws) (wanted : Value) :
    (parse cfg source wanted).result = outcomeOf wanted raws := by
  obtain ⟨bytes, texts, hcontent, hchunks, hdecode⟩ := h
  rw [result_parse, outcomeOf, Source.bytes_eq_ok_iff.2 hcontent]
  cases wantedRun wanted with
  | error e => rfl
  | ok run =>
    have hjudge : texts.mapM (judgeText run) = raws.mapM (judge run) := mapM_bind_of_ok hdecode
    simp only [ok_bind, hchunks]
    rw [← hjudge]
    rcases upToFailure_cases (judgeText run) texts with ⟨hnone, hall⟩ | ⟨e, hsome, herror⟩
    · rw [hall, ingest_of_mapM hall]
      rfl
    · rw [herror]
      simp only [ingest, hsome]
      rfl

/-- **A history in another dress leads to the same outcome.**  The records of two histories with one
label each, that differ in the blanks around entities and in the spellings and the keys of labels
only, come to the same tree or to failures of the same category, whatever the run that is wanted and
whatever the blanks around its name.  So do any two files that hold such records. -/
theorem parse_respelled {wanted wanted' : Value} {raws raws' : List (Table Value)}
    (hwanted : wanted.SameButBlanks wanted') (h : List.Forall₂ Record.Respelled raws raws') :
    SameClass Eq (outcomeOf wanted raws) (outcomeOf wanted' raws') ∧
      ∀ cfg cfg' source source', Source.Writes source cfg raws → Source.Writes source' cfg' raws' →
        SameClass Eq (parse cfg source wanted).result (parse cfg' source' wanted').result := by
  have hsame := sameClass_outcomeOf hwanted h
  refine ⟨hsame, fun cfg cfg' source source' hwrites hwrites' => ?_⟩
  rw [result_parse_of_writes hwrites, result_parse_of_writes hwrites']
  exact hsame

/-- A record without information and with its fields the other way round. -/
def turnedObject (entity label : String) : Table Value where
  entries := [("entityType", .str label), ("entity", .str entity)]
  nodup := by
    show ["entityType", "entity"].Nodup
    decide

theorem bareObject_respelled (kind : Kind) {entity entity' label label' : String}
    (hentity : trimText entity = trimText entity') (hlabel : Kind.ofLabel? label = some kind)
    (hlabel' : Kind.ofLabel? label' = some kind) :
    Record.Respelled (bareObject entity label) (turnedObject entity' label') := by
  refine ⟨.some (.text hentity), ⟨"entitytype", "entityType", .str label, .str label', ?_, ?_, ?_⟩, ?_⟩
  · simp [Record.Labelled, Record.labelFields, bareObject, Table.get?, lookupEntry]
  · simp [Record.Labelled, Record.labelFields, turnedObject, Table.get?, lookupEntry]
  · exact .spelling (Kind.ofLabel?_eq_some_iff.1 hlabel) (Kind.ofLabel?_eq_some_iff.1 hlabel')
  · intro name hne hlabels
    have hlower : "entitytype" ≠ name := fun h => hlabels (h ▸ by decide)
    have hupper : "entityType" ≠ name := fun h => hlabels (h ▸ by decide)
    simp [bareObject, turnedObject, Table.get?, lookupEntry, hne.symm, hlower, hupper]

/-- A task, its vertex and its run. -/
def plainObjects : List (Table Value) :=
  [bareObject "dag_1_vertex_2_task_3" "TASK", bareObject "dag_1_vertex_2" "VERTEX",
    bareObject "dag_1" "DAG"]

/-- The same among blanks and in small letters, with the labels under the other key. -/
def turnedObjects : List (Table Value) :=
  [turnedObject "\tdag_1_vertex_2_task_3 " "tez_task_id",
    turnedObject " dag_1_vertex_2" " Vertex_ID", turnedObject "dag_1 " "Dag"]

theorem plainObjects_respelled : List.Forall₂ Record.Respelled plainObjects turnedObjects :=
  .cons (bareObject_respelled .task (by decide) (by decide) (by decide))
    (.cons (bareObject_respelled .vertex (by decide) (by decide) (by decide))
      (.cons (bareObject_respelled .dag (by decide) (by decide) (by decide)) .nil))

/-- Small letters, blanks and the other key lead to the tree of the plain records. -/
theorem parse_respelled_small_letters : ∃ d,
    (parse .standard (printedLog plainObjects) (.str "dag_1")).result = .ok d ∧
      d.tasks.map (fun t => t.id) = ["dag_1_vertex_2_task_3"] ∧
      (parse .standard (printedLog turnedObjects) (.str " dag_1\n")).result = .ok d := by
  have htasks : (outcomeOf (.str "dag_1") plainObjects).toOption.map
      (fun d => d.tasks.map fun t => t.id) = some ["dag_1_vertex_2_task_3"] := by decide +kernel
  obtain ⟨d, houtcome, htasks⟩ := exists_of_toOption_map htasks
  have hplain : ∀ entity label, Json.Plain (.object (bareObject entity label).entries) :=
    fun entity label => ⟨(bareObject entity label).nodup, trivial, trivial, trivial⟩
  have hplain' : ∀ entity label, Json.Plain (.object (turnedObject entity label).entries) :=
    fun entity label => ⟨(turnedObject entity label).nodup, trivial, trivial, trivial⟩
  have hwrites : (printedLog plainObjects).Writes .standard plainObjects :=
    printedLog_writes (by simp [plainObjects, hplain]) (by decide)
  have hwrites' : (printedLog turnedObjects).Writes .standard turnedObjects :=
    printedLog_writes (by simp [turnedObjects, hplain']) (by decide)
  have hwanted : Value.SameButBlanks (.str "dag_1") (.str " dag_1\n") := .text (by decide)
  have hresult := (result_parse_of_writes hwrites (.str "dag_1")).trans houtcome
  refine ⟨d, hresult, htasks, ?_⟩
  have hsame := (parse_respelled hwanted plainObjects_respelled).2 _ _ _ _ hwrites hwrites'
  rw [hresult] at hsame
  generalize (parse .standard _ (.str " dag_1\n")).result = result at hsame ⊢
  cases hsame with
  | ok hd => rw [hd]

end RunHistory
