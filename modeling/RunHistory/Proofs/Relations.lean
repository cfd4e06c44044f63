import RunHistory.Proofs.Framing.Files
import RunHistory.Proofs.Info.Names
import RunHistory.Proofs.Link.Variants
import RunHistory.Proofs.Lookups

/-!
# The nodes and containers of a history

In the tree of a history each attempt has the names of its node and its container from the first
record of the attempt in the file, if the related entities there give them, and else from the
information of all its records; all else in its information has its last value.  Any other related
entities come to nothing: with others in their place the history is read in the same way, with the
same notices, and never refused for them.

## Main definitions

* `Chunks.ofAttempt`: the records of an attempt in a file.
* `Record.Variant`: texts that write the same but for related entities.

## Main results

* `ofEntity_of_accepted`: the records of an entity of the run are all accepted.
* `Dag.TreeOf.exists_held`, `Dag.TreeOf.exists_of_mem_keys`: the attempts of a tree are those that
  are held.
* `parse_eq_of_sameTold`: histories that differ in related entities are read in the same way.
* `parse_relations`: **the names of nodes and containers in the tree of a history.**
-/

namespace RunHistory

/-! ### The records of an entity -/

/-- The records of an attempt in a file, in order. -/
def Chunks.ofAttempt (chunks : Chunks) (id : String) : List Record :=
  Record.ofEntity .attempt id (chunks.records.filterMap recordOf?)

/-- To which run a record belongs depends on its kind and its id. -/
theorem Record.owner_congr {r r' : Record} (hkind : r.kind = r'.kind) (hkey : r.key = r'.key) :
    r.owner = r'.owner := by
  unfold owner
  rw [hkind]
  -- ids are read alike without the blanks around them
  have hvertex : VertexId.parse r.entity = VertexId.parse r'.entity := by
    rw [← VertexId.parse_trimText, ← VertexId.parse_trimText r'.entity]
    exact congrArg VertexId.parse hkey
  have htask : TaskId.parse r.entity = TaskId.parse r'.entity := by
    rw [← TaskId.parse_trimText, ← TaskId.parse_trimText r'.entity]
    exact congrArg TaskId.parse hkey
  have hattempt : AttemptId.parse r.entity = AttemptId.parse r'.entity := by
    rw [← AttemptId.parse_trimText, ← AttemptId.parse_trimText r'.entity]
    exact congrArg AttemptId.parse hkey
  cases r'.kind with
  | dag => rw [hkey]
  | vertex => rw [hvertex]
  | task => rw [htask]
  | attempt => rw [hattempt]

/-- The record that is accepted is that of a text, if it belongs to the run. -/
theorem record?_of_judgeText {run : String} {text : List Char} {v : Verdict}
    (h : judgeText run text = .ok v) :
    v.record? = (recordOf? text).filter fun r => r.owner.toOption = some run := by
  obtain ⟨raw, hraw, hjudge⟩ := bind_eq_ok_iff.1 h
  obtain ⟨v', hv', hrecord⟩ := (settled_of_judge hjudge).exists_verdict
  obtain rfl := Except.ok.inj (hv'.symm.trans hjudge)
  have hrecordOf : recordOf? text = routed? raw := by
    rw [recordOf?, hraw]
    rfl
  rw [hrecord, hrecordOf, belongs]
  cases routed? raw with
  | none => rfl
  | some r => rfl

/-- The records that are accepted are those of the run. -/
theorem filterMap_record? {run : String} {texts : List (List Char)} {verdicts : List Verdict}
    (h : texts.mapM (judgeText run) = .ok verdicts) : verdicts.filterMap Verdict.record? =
      (texts.filterMap recordOf?).filter fun r => r.owner.toOption = some run := by
  rw [List.filter_filterMap]
  exact (filterMap_eq_of_forall₂ ((mapM_eq_ok_iff.1 h).imp fun _ _ hv =>
    (record?_of_judgeText hv).symm)).symm

/-- **The records of an entity of the run are all accepted.** -/
theorem ofEntity_of_accepted {run : String} {texts : List (List Char)} {verdicts : List Verdict}
    (h : texts.mapM (judgeText run) = .ok verdicts) {kind : Kind} {key : String} {first : Record}
    {later : List Record}
    (hrecords : Record.ofEntity kind key (verdicts.filterMap Verdict.record?) = first :: later) :
    Record.ofEntity kind key (texts.filterMap recordOf?) = first :: later := by
  rw [filterMap_record? h, Record.ofEntity, List.filter_filter] at hrecords
  obtain ⟨hentity, howner⟩ : (first.kind = kind ∧ first.key = key) ∧
      first.owner.toOption = some run := by
    have hmem : first ∈ first :: later := List.mem_cons_self
    rw [← hrecords, List.mem_filter] at hmem
    simpa using hmem.2
  rw [← hrecords]
  refine List.filter_congr fun r _ => ?_
  by_cases hr : r.kind = kind ∧ r.key = key
  · have hsame : r.owner = first.owner :=
      Record.owner_congr (hr.1.trans hentity.1.symm) (hr.2.trans hentity.2.symm)
    simp [hr, hsame, howner]
  · simp [hr]

/-! ### The attempts of a tree -/

namespace Dag.TreeOf

variable {s : State} {d : Dag} (hd : d.TreeOf s)

include hd

/-- An attempt of the tree is made from the record that is held of it. -/
theorem exists_held (hs : s.Sound) {a : Attempt} (h : a ∈ d.attempts) : ∃ r a₀ holder,
    s.held? .attempt a.id = some r ∧ Attempt.ofRecord r.withRelations = .ok a₀ ∧
      a = a₀.within holder := by
  obtain ⟨id, v, t, -, hv, ht, ha⟩ := hd.exists_of_mem_attempts hs h
  obtain ⟨r, a₀, hr, ha₀, hwithin⟩ := ((hd.tasks _ v hv _ t ht).attempts a.id a ha).record
  exact ⟨r, a₀, t.id, hr, ha₀, hwithin⟩

/-- And every attempt that is held stands in the tree. -/
theorem exists_of_mem_keys (hs : s.Sound) (hcomplete : ¬s.Incomplete) {key : String}
    (h : key ∈ s.attempts.keys) : ∃ a ∈ d.attempts, a.id = key := by
  have hperm := hd.perm_attempts hs (fun ho => hcomplete (.inr (.inl ho)))
    fun ho => hcomplete (.inr (.inr ho))
  exact List.mem_map.1 (hperm.mem_iff.2 h)

end Dag.TreeOf

theorem Attempt.Unites.within {a : Attempt} {related : Value} {infos : List (Table Value)}
    (h : a.Unites related infos) (holder : String) : (a.within holder).Unites related infos :=
  ⟨h.empty, h.node, h.container, h.others⟩

/-! ### Histories that differ in related entities -/

/-- Texts that are the same, or write objects that differ in nothing but their related entities. -/
inductive Record.Variant (text text' : List Char) : Prop where
  /-- They are the same. -/
  | same (h : text = text')
  /-- They write such objects. -/
  | objects {raw raw' : Table Value} (hraw : decode text = .ok raw)
    (hraw' : decode text' = .ok raw') (h : SameBut raw raw')

/-- **Such texts are judged alike.** -/
theorem Record.Variant.sameTold_judgeText {text text' : List Char} (h : Variant text text')
    (run : String) : SameResult Verdict.SameTold (judgeText run text) (judgeText run text') := by
  cases h with
  | same h =>
    rw [h]
    cases judgeText run text' with
    | error e => exact .error e
    | ok v => exact .ok (.refl v)
  | objects hraw hraw' h =>
    rw [judgeText, judgeText, hraw, hraw', ok_bind, ok_bind]
    exact h.sameTold_judge run

theorem forall₂_variant {texts texts' : List (List Char)} {raws raws' : List (Table Value)}
    (hdecode : texts.mapM Record.decode = .ok raws)
    (hdecode' : texts'.mapM Record.decode = .ok raws')
    (h : List.Forall₂ Record.SameBut raws raws') : List.Forall₂ Record.Variant texts texts' := by
  rw [mapM_eq_ok_iff] at hdecode hdecode'
  induction h generalizing texts texts' with
  | nil =>
    cases hdecode
    cases hdecode'
    exact .nil
  | cons hsame _ ih =>
    cases hdecode with
    | cons hraw hraws =>
      cases hdecode' with
      | cons hraw' hraws' => exact .cons (.objects hraw hraw' hsame) (ih hraws hraws')

theorem exists_mapM_variant {run : String} {texts texts' : List (List Char)}
    {verdicts : List Verdict} (h : List.Forall₂ Record.Variant texts texts')
    (hverdicts : texts.mapM (judgeText run) = .ok verdicts) : ∃ verdicts',
      texts'.mapM (judgeText run) = .ok verdicts' ∧
        List.Forall₂ Verdict.SameTold verdicts verdicts' := by
  obtain ⟨hfailure, hdone⟩ := forall₂_upToFailure (h.imp fun _ _ hv => hv.sameTold_judgeText run)
  rcases upToFailure_cases (judgeText run) texts with ⟨hnone, hall⟩ | ⟨e, hsome, herror⟩
  · obtain rfl := Except.ok.inj (hall.symm.trans hverdicts)
    rcases upToFailure_cases (judgeText run) texts' with ⟨-, hall'⟩ | ⟨e', hsome', -⟩
    · exact ⟨_, hall', hdone⟩
    · rw [hnone, hsome'] at hfailure
      cases hfailure
  · cases herror.symm.trans hverdicts

theorem ingest_of_mapM {run : String} {texts : List (List Char)} {verdicts : List Verdict}
    (h : texts.mapM (judgeText run) = .ok verdicts) (path : String) :
    ingest run path ⟨texts, none⟩ =
      ⟨verdicts.filterMap (Verdict.notice? run), .ok (.ofVerdicts run verdicts)⟩ := by
  rcases upToFailure_cases (judgeText run) texts with ⟨hnone, hall⟩ | ⟨e, -, herror⟩
  · obtain rfl := Except.ok.inj (hall.symm.trans h)
    simp only [ingest, hnone]
  · cases herror.symm.trans h

theorem forall₂_record? {verdicts verdicts' : List Verdict}
    (h : List.Forall₂ Verdict.SameTold verdicts verdicts') :
    List.Forall₂ Record.SameTold (verdicts.filterMap Verdict.record?)
      (verdicts'.filterMap Verdict.record?) := by
  induction h with
  | nil => exact .nil
  | cons hv _ ih =>
    cases hv with
    | ignored label => exact ih
    | foreign h owner => exact ih
    | accepted h => exact .cons h ih

namespace State

theorem skipped_foldl_apply_congr {verdicts verdicts' : List Verdict}
    (h : List.Forall₂ Verdict.SameTold verdicts verdicts') {s s' : State}
    (hs : s.skipped = s'.skipped) :
    (verdicts.foldl apply s).skipped = (verdicts'.foldl apply s').skipped := by
  induction h generalizing s s' with
  | nil => exact hs
  | cons hv _ ih => exact ih (hv.skipped_eq hs)

/-- **Verdicts that differ in related entities lead to states that are linked alike**, if the first
records of each attempt give the same names. -/
theorem outcome_link_ofVerdicts {verdicts verdicts' : List Verdict}
    (h : List.Forall₂ Verdict.SameTold verdicts verdicts')
    (hfirst : SameFirstNames (verdicts.filterMap Verdict.record?)
      (verdicts'.filterMap Verdict.record?)) (run : String) :
    (ofVerdicts run verdicts).link.outcome = (ofVerdicts run verdicts').link.outcome := by
  obtain ⟨count, hcount⟩ := ofVerdicts_eq run verdicts
  obtain ⟨count', hcount'⟩ := ofVerdicts_eq run verdicts'
  rw [hcount, hcount', outcome_link_withSkipped, outcome_link_withSkipped]
  exact (sameTold_foldl_accept (forall₂_record? h) hfirst run).outcome_link

theorem held?_ofVerdicts_eq_some_iff {run : String} {verdicts : List Verdict} {kind : Kind}
    {key : String} {r : Record} : (ofVerdicts run verdicts).held? kind key = some r ↔
      ∃ first later,
        Record.ofEntity kind key (verdicts.filterMap Verdict.record?) = first :: later ∧
          r = later.foldl Record.absorb first := by
  obtain ⟨count, hcount⟩ := ofVerdicts_eq run verdicts
  rw [hcount, ← held?_foldl_accept_eq_some_iff]
  cases kind <;> rfl

end State

/-- A history whose records can all be judged is linked. -/
theorem parse_of_mapM {cfg : Configuration} {source : Source} {wanted : Value} {run : String}
    {bytes : List UInt8} {texts : List (List Char)} {verdicts : List Verdict}
    (hrun : wantedRun wanted = .ok run) (hcontent : source.content = .file bytes)
    (hchunks : cfg.chunks bytes = .ok ⟨texts, none⟩)
    (hverdicts : texts.mapM (judgeText run) = .ok verdicts) : parse cfg source wanted =
      (Outcome.mk (verdicts.filterMap (Verdict.notice? run))
        (.ok (State.ofVerdicts run verdicts))).andThen fun s =>
          s.link.outcome.andThen fun d => ⟨[parsedNotice d s.skipped], .ok d⟩ := by
  unfold parse
  rw [hrun, Source.bytes_eq_ok_iff.2 hcontent]
  simp only [hchunks, ingest_of_mapM hverdicts]

/-- **Histories that differ in related entities are read in the same way**, with the same notices,
if the first records of each attempt give the same names. -/
theorem parse_eq_of_sameTold {cfg : Configuration} {source : Source} {wanted : Value} {run : String}
    {bytes bytes' : List UInt8} {texts texts' : List (List Char)} {verdicts verdicts' : List Verdict}
    (hrun : wantedRun wanted = .ok run) (hcontent : source.content = .file bytes)
    (hchunks : cfg.chunks bytes = .ok ⟨texts, none⟩)
    (hchunks' : cfg.chunks bytes' = .ok ⟨texts', none⟩)
    (hverdicts : texts.mapM (judgeText run) = .ok verdicts)
    (hverdicts' : texts'.mapM (judgeText run) = .ok verdicts')
    (h : List.Forall₂ Verdict.SameTold verdicts verdicts')
    (hfirst : SameFirstNames (verdicts.filterMap Verdict.record?)
      (verdicts'.filterMap Verdict.record?)) :
    parse cfg { source with content := .file bytes' } wanted = parse cfg source wanted := by
  have hnotices : verdicts.filterMap (Verdict.notice? run) =
      verdicts'.filterMap (Verdict.notice? run) :=
    filterMap_eq_of_forall₂ (h.imp fun _ _ hv => hv.notice?_eq run)
  have hskipped : (State.ofVerdicts run verdicts).skipped =
      (State.ofVerdicts run verdicts').skipped := State.skipped_foldl_apply_congr h rfl
  rw [parse_of_mapM hrun rfl hchunks' hverdicts', parse_of_mapM hrun hcontent hchunks hverdicts,
    hnotices]
  simp only [Outcome.andThen, State.outcome_link_ofVerdicts h hfirst run, hskipped]

/-- **The names of nodes and containers in the tree of a history.**  Each attempt of the tree holds
what its records in the file tell: the related entities in the first of them, and the information of
all.  Any other related entities that name the same leave the history as it is read, with all its
notices. -/
theorem parse_relations {cfg : Configuration} {source : Source} {wanted : Value} {d : Dag}
    (h : (parse cfg source wanted).result = .ok d) : ∃ bytes chunks,
      source.content = .file bytes ∧ cfg.chunks bytes = .ok chunks ∧
      (∀ a ∈ d.attempts, ∃ first later, chunks.ofAttempt a.id = first :: later ∧
        a.Unites first.related ((first :: later).filterMap Record.info)) ∧
      ∀ bytes' chunks', cfg.chunks bytes' = .ok chunks' → chunks'.ending = none →
        List.Forall₂ Record.Variant chunks.records chunks'.records →
        (∀ a ∈ d.attempts, ∀ first first', (chunks.ofAttempt a.id).head? = some first →
          (chunks'.ofAttempt a.id).head? = some first' →
            Relation.SameNames first.related first'.related) →
        parse cfg { source with content := .file bytes' } wanted = parse cfg source wanted := by
  obtain ⟨s, ⟨run, bytes, ⟨texts, ending⟩, hrun, hcontent, hchunks, hingest⟩, hlink⟩ :=
    exists_of_parse h
  obtain ⟨hs, -⟩ := sound_ingest hingest
  have hd := hs.treeOf hlink
  obtain ⟨hending, verdicts, hverdicts, rfl⟩ := ingest_eq_ok_iff.1 hingest
  obtain rfl : ending = none := hending
  refine ⟨bytes, _, hcontent, hchunks, ?_, ?_⟩
  · intro a ha
    obtain ⟨r, a₀, holder, hr, ha₀, hwithin⟩ := hd.exists_held hs ha
    obtain ⟨first, later, hrecords, rfl⟩ := State.held?_ofVerdicts_eq_some_iff.1 hr
    refine ⟨first, later, ofEntity_of_accepted hverdicts hrecords, ?_⟩
    rw [hwithin]
    exact (Attempt.unites_of_ofRecord ha₀).within holder
  · rintro bytes' ⟨texts', ending'⟩ hchunks' rfl hvariant hnames
    obtain ⟨verdicts', hverdicts', hsame⟩ := exists_mapM_variant hvariant hverdicts
    refine parse_eq_of_sameTold hrun hcontent hchunks hchunks' hverdicts hverdicts' hsame ?_
    -- an attempt with a first record is held, so it stands in the tree
    intro key first first' hhead hhead'
    obtain ⟨later, hrecords⟩ := List.head?_eq_some_iff.1 hhead
    obtain ⟨later', hrecords'⟩ := List.head?_eq_some_iff.1 hhead'
    have hheld : key ∈ (State.ofVerdicts run verdicts).attempts.keys := Table.mem_keys_iff.2
      ⟨_, State.held?_ofVerdicts_eq_some_iff.2 ⟨first, later, hrecords, rfl⟩⟩
    obtain ⟨a, ha, rfl⟩ := hd.exists_of_mem_keys hs (hs.complete_of_link hlink) hheld
    have hall := ofEntity_of_accepted hverdicts hrecords
    have hall' := ofEntity_of_accepted hverdicts' hrecords'
    exact (hnames a ha first first' (by rw [Chunks.ofAttempt, hall]; rfl)
      (by rw [Chunks.ofAttempt, hall']; rfl)).found_eq

/-- What is decoded are the records. -/
theorem filterMap_recordOf? {texts : List (List Char)} {raws : List (Table Value)}
    (h : texts.mapM Record.decode = .ok raws) :
    texts.filterMap recordOf? = raws.filterMap routed? := by
  refine filterMap_eq_of_forall₂ ((mapM_eq_ok_iff.1 h).imp fun text raw hraw => ?_)
  rw [recordOf?, hraw]
  rfl

/-- A source holds a sequence of records. -/
def Source.Writes (source : Source) (cfg : Configuration) (raws : List (Table Value)) : Prop :=
  ∃ bytes texts, source.content = .file bytes ∧ cfg.chunks bytes = .ok ⟨texts, none⟩ ∧
    texts.mapM Record.decode = .ok raws

/-- Some objects, one in each line. -/
def printedLog (objects : List (Table Value)) : Source where
  asked := none
  shown := "log"
  content := .file ((logOf (objects.map (printedLine · ['\n']))).flatMap String.utf8EncodeChar)

/-- **What is printed is held.** -/
theorem printedLog_writes {objects : List (Table Value)}
    (hplain : ∀ o ∈ objects, Json.Plain (.object o.entries))
    (hdepth : ∀ o ∈ objects, Json.depth (.object o.entries) ≤ Limits.usual.levels) :
    (printedLog objects).Writes .standard objects := by
  have hrun : Separator.RunOf isRecordEnd ['\n'] :=
    Separator.runOf_cons.2 ⟨rfl, Separator.runOf_nil⟩
  have htells : List.Forall₂ (Line.Tells (Framing.overlapFor 65536)) objects
      (objects.map (printedLine · ['\n'])) := by
    rw [List.forall₂_map_right_iff, List.forall₂_same]
    exact fun o ho => printedLine_tells (hplain o ho) (by decide) hrun (by decide)
  have hholds : Limits.usual.holdsBlock 65536 = true := by decide
  exact ⟨_, _, rfl, chunks_log (by decide) (by decide) hholds htells hdepth,
    mapM_decode_texts htells⟩

/-- A record of an attempt with related entities and one field of information. -/
def attemptObject (related : Value) (name : String) (v : Value) : Table Value where
  entries := [("entity", .str "dag_1_vertex_2_task_3_attempt_4"),
    ("entitytype", .str "TASK_ATTEMPT"), ("relatedEntities", related),
    ("otherInfo", .object [(name, v)])]
  nodup := by
    show ["entity", "entitytype", "relatedEntities", "otherInfo"].Nodup
    decide

/-- A record without information. -/
def bareObject (entity label : String) : Table Value where
  entries := [("entity", .str entity), ("entitytype", .str label)]
  nodup := by
    show ["entity", "entitytype"].Nodup
    decide

/-- The records of a run with one attempt, of which two records tell. -/
def attemptObjects (first later : Value) : List (Table Value) := [
  attemptObject first "containerId" (.int 7), attemptObject later "nodeId" (.str "later"),
  bareObject "dag_1_vertex_2_task_3" "TASK", bareObject "dag_1_vertex_2" "VERTEX",
  bareObject "dag_1" "DAG"]

/-- Their log. -/
def attemptLog (first later : Value) : Source where
  asked := none
  shown := "log"
  content := .file ((logOf ((attemptObjects first later).map (printedLine · ['\n']))).flatMap
    String.utf8EncodeChar)

/-- An entry under another key is passed over. -/
theorem lookupEntry_append_cons {β : Type} {key k : String} (h : k ≠ key) (a : β)
    (front back : List (String × β)) :
    lookupEntry key (front ++ (k, a) :: back) = lookupEntry key (front ++ back) := by
  induction front with
  | nil => rw [List.nil_append, lookupEntry, if_neg h, List.nil_append]
  | cons e front ih => rw [List.cons_append, List.cons_append, lookupEntry, ih, lookupEntry]

theorem attemptObject_sameBut (related related' : Value) (name : String) (v : Value) :
    Record.SameBut (attemptObject related name v) (attemptObject related' name v) := by
  intro other hother
  have hne : "relatedEntities" ≠ other := fun h => hother (h ▸ List.mem_cons_self)
  have hpassed : ∀ related : Value, (attemptObject related name v).get? other = lookupEntry other
      [("entity", .str "dag_1_vertex_2_task_3_attempt_4"), ("entitytype", .str "TASK_ATTEMPT"),
        ("otherInfo", .object [(name, v)])] :=
    fun related => lookupEntry_append_cons hne related [_, _] [_]
  rw [hpassed, hpassed]

/-- There are no lists or objects in a record without information. -/
theorem depth_bareObject (entity label : String) :
    Json.depth (.object (bareObject entity label).entries) = 1 := rfl

theorem depth_attemptObject (related : Value) (name : String) {v : Value}
    (hv : Json.depth v = 0) : Json.depth (.object (attemptObject related name v).entries) =
      max (Json.depth related) 1 + 1 := by
  simp [attemptObject, Json.depth, Json.depthOfFields, hv]

theorem chunks_attemptLog {first later : Value} (hfirst : Json.Plain first)
    (hlater : Json.Plain later) (hdepth : Json.depth first < Limits.usual.levels)
    (hdepth' : Json.depth later < Limits.usual.levels) : ∃ bytes texts,
      (attemptLog first later).content = .file bytes ∧
      Configuration.standard.chunks bytes = .ok ⟨texts, none⟩ ∧
      texts.mapM Record.decode = .ok (attemptObjects first later) := by
  have hone : (Nat.toDigits 10 7).length ≤ Json.maxDigits := by decide
  have hbare : ∀ entity label, Json.Plain (.object (bareObject entity label).entries) :=
    fun entity label => ⟨(bareObject entity label).nodup, trivial, trivial, trivial⟩
  have hplain : ∀ o ∈ attemptObjects first later, Json.Plain (.object o.entries) := by
    simp only [attemptObjects, List.forall_mem_cons]
    refine ⟨?_, ?_, hbare _ _, hbare _ _, hbare _ _, by simp⟩
    · exact ⟨(attemptObject first _ _).nodup, trivial, trivial, hfirst,
        ⟨List.nodup_singleton _, hone, trivial⟩, trivial⟩
    · exact ⟨(attemptObject later _ _).nodup, trivial, trivial, hlater,
        ⟨List.nodup_singleton _, trivial, trivial⟩, trivial⟩
  refine printedLog_writes hplain ?_
  have hlevels : 1 < Limits.usual.levels := by decide
  simp only [attemptObjects, List.forall_mem_cons, depth_bareObject]
  refine ⟨?_, ?_, hlevels.le, hlevels.le, hlevels.le, by simp⟩
  · rw [depth_attemptObject _ _ rfl]
    exact Nat.max_lt.2 ⟨hdepth, hlevels⟩
  · rw [depth_attemptObject _ _ rfl]
    exact Nat.max_lt.2 ⟨hdepth', hlevels⟩

/-- An entry of related entities. -/
def relatedEntry (tag name : String) : Value :=
  .object [("entitytype", .str tag), ("entity", .str name)]

/-- The ids of the attempts that some objects tell of, with the names of their nodes and
containers. -/
def attemptNames (raws : List (Table Value)) :
    Option (List (String × Option String × Option String)) :=
  (raws.mapM (judge "dag_1") >>= fun verdicts =>
    (State.ofVerdicts "dag_1" verdicts).link.outcome.result).toOption.map fun d =>
      d.attempts.map fun a => (a.id, a.node, a.container)

theorem exists_of_attemptNames {source : Source} {bytes : List UInt8} {texts : List (List Char)}
    {raws : List (Table Value)} {names : List (String × Option String × Option String)}
    (hcontent : source.content = .file bytes)
    (hchunks : Configuration.standard.chunks bytes = .ok ⟨texts, none⟩)
    (hdecode : texts.mapM Record.decode = .ok raws) (h : attemptNames raws = some names) :
    ∃ d, (parse .standard source (.str "dag_1")).result = .ok d ∧
      d.attempts.map (fun a => (a.id, a.node, a.container)) = names := by
  obtain ⟨d, hd, hnames⟩ := exists_of_toOption_map h
  obtain ⟨verdicts, hverdicts, hlink⟩ := bind_eq_ok_iff.1 hd
  refine ⟨d, ?_, hnames⟩
  have hwanted : wantedRun (.str "dag_1") = .ok "dag_1" := rfl
  have hjudged : texts.mapM (judgeText "dag_1") = .ok verdicts :=
    (mapM_bind_of_ok hdecode).trans hverdicts
  rw [result_parse, hwanted, Source.bytes_eq_ok_iff.2 hcontent]
  simp only [ok_bind, hchunks, ingest_of_mapM hjudged, hlink]

/-- Related entities whose first entry has the tag of a node. -/
def nodeHere : Value := .list [relatedEntry "NODEID" "here"]

/-- The same name with another tag and in front of something else. -/
def nodeHereToo : Value :=
  .list [relatedEntry "nodeId" "here", .null, relatedEntry "nodeId" "there"]

/-- The names in the first record of an attempt. -/
def namesAtFirst (id : String) (raws : List (Table Value)) :
    Option (Option String × Option String) :=
  (Record.ofEntity .attempt id (raws.filterMap routed?)).head?.map fun r =>
    (Relation.at? r.related 0 Relation.node, Relation.at? r.related 1 Relation.container)

theorem sameNames_of_namesAtFirst {chunks chunks' : Chunks} {raws raws' : List (Table Value)}
    (hdecode : chunks.records.mapM Record.decode = .ok raws)
    (hdecode' : chunks'.records.mapM Record.decode = .ok raws') {id : String}
    (h : namesAtFirst id raws = namesAtFirst id raws') {first first' : Record}
    (hfirst : (chunks.ofAttempt id).head? = some first)
    (hfirst' : (chunks'.ofAttempt id).head? = some first') :
    Relation.SameNames first.related first'.related := by
  rw [Chunks.ofAttempt, filterMap_recordOf? hdecode] at hfirst
  rw [Chunks.ofAttempt, filterMap_recordOf? hdecode'] at hfirst'
  rw [namesAtFirst, namesAtFirst, hfirst, hfirst', Option.map_some, Option.map_some,
    Option.some.injEq, Prod.mk.injEq] at h
  constructor
  · intro name
    rw [← Relation.at?_eq_some_iff, ← Relation.at?_eq_some_iff, h.1]
  · intro name
    rw [← Relation.at?_eq_some_iff, ← Relation.at?_eq_some_iff, h.2]

theorem parse_relations_here : ∃ d a,
    (parse .standard (attemptLog nodeHere (.list [relatedEntry "nodeId" "there"]))
      (.str "dag_1")).result = .ok d ∧ a ∈ d.attempts ∧ a.node = some "here" ∧
      a.container = some "7" ∧
      (∃ chunks : Chunks, ∃ first later, chunks.ofAttempt a.id = first :: later ∧
        a.Unites first.related ((first :: later).filterMap Record.info)) ∧
      parse .standard (attemptLog nodeHereToo (.str "none")) (.str "dag_1") =
        parse .standard (attemptLog nodeHere (.list [relatedEntry "nodeId" "there"]))
          (.str "dag_1") := by
  have hentry : ∀ tag name, Json.Plain (relatedEntry tag name) := by
    intro tag name
    refine ⟨?_, trivial, trivial, trivial⟩
    show ["entitytype", "entity"].Nodup
    decide
  obtain ⟨bytes, texts, hcontent, hchunks, hdecode⟩ := chunks_attemptLog
    (show Json.Plain nodeHere from ⟨hentry _ _, trivial⟩)
    (show Json.Plain (.list [relatedEntry "nodeId" "there"]) from ⟨hentry _ _, trivial⟩)
    (by decide) (by decide)
  obtain ⟨bytes', texts', hcontent', hchunks', hdecode'⟩ := chunks_attemptLog
    (show Json.Plain nodeHereToo from ⟨hentry _ _, trivial, hentry _ _, trivial⟩)
    (show Json.Plain (.str "none") from trivial) (by decide) (by decide)
  have hnames : attemptNames (attemptObjects nodeHere (.list [relatedEntry "nodeId" "there"])) =
      some [("dag_1_vertex_2_task_3_attempt_4", some "here", some "7")] := by decide +kernel
  have hfirst : namesAtFirst "dag_1_vertex_2_task_3_attempt_4"
      (attemptObjects nodeHere (.list [relatedEntry "nodeId" "there"])) =
        namesAtFirst "dag_1_vertex_2_task_3_attempt_4"
          (attemptObjects nodeHereToo (.str "none")) := by decide +kernel
  obtain ⟨d, hd, hattempts⟩ := exists_of_attemptNames hcontent hchunks hdecode hnames
  obtain ⟨a, hall, ha⟩ := List.map_eq_singleton_iff.1 hattempts
  simp only [Prod.mk.injEq] at ha
  obtain ⟨hid, hnode, hcontainer⟩ := ha
  have hmem : a ∈ d.attempts := by
    rw [hall]
    exact List.mem_singleton_self a
  obtain ⟨bytes₁, chunks₁, hcontent₁, hchunks₁, hunites, hvariant⟩ := parse_relations hd
  obtain rfl : bytes₁ = bytes := Found.file.inj (hcontent₁.symm.trans hcontent)
  obtain rfl : chunks₁ = ⟨texts, none⟩ := Except.ok.inj (hchunks₁.symm.trans hchunks)
  refine ⟨d, a, hd, hmem, hnode, hcontainer, ⟨_, hunites a hmem⟩, ?_⟩
  have hsource : attemptLog nodeHereToo (.str "none") =
      { attemptLog nodeHere (.list [relatedEntry "nodeId" "there"]) with
        content := .file bytes' } := by rw [← hcontent']; rfl
  rw [hsource]
  refine hvariant bytes' ⟨texts', none⟩ hchunks' rfl ?_ ?_
  · refine forall₂_variant hdecode hdecode' (.cons ?_ (.cons ?_ (List.forall₂_same.2 ?_)))
    · exact attemptObject_sameBut _ _ _ _
    · exact attemptObject_sameBut _ _ _ _
    · exact fun raw _ name _ => rfl
  · intro a' ha' first first' hhead hhead'
    rw [hall, List.mem_singleton] at ha'
    rw [ha', hid] at hhead hhead'
    exact sameNames_of_namesAtFirst hdecode hdecode' hfirst hhead hhead'

end RunHistory
