import RunHistory.Proofs.Isolation
import RunHistory.Proofs.Link.Placing
import RunHistory.Proofs.State.Growing

/-!
# The books kept while records are taken in

Whatever has been read of a file, the state is in order: each record that is held stands among the
records of its kind, under its entity without the blanks around it, and what it stands under is the
text of an id of that kind and of the wanted run.  Of the run itself one record is held at most.
Every record that was read is either held, or was added to one that is, or was counted as a record
of another run.  And while the rest of the file is read, no record that is held gives way to another
one.

Linking rests on all of this: it takes the first record of a run, it reads ids again from their
texts, and it looks entities up by those texts.

## Main definitions

* `Kind.readId`: the text of an id and of the run that it names.
* `isRecord`: whether an object is a record, of whatever run.
* `State.Orderly`: a state in order.

## Main results

* `Record.Filed.readId`, `State.Sound.orderly`: **every sound state of a wanted run is in order.**
* `State.skipped_apply`: what one object adds to the count of records of other runs.
* `State.skipped_foldl_apply`: **every record that was read is accounted for.**
* `ingest_orderly`: **the state after any part of a file.**
-/

namespace RunHistory

/-! ### Ids by kind -/

/-- The text of the id of a kind that a text writes, and that of the run which the id names. -/
def Kind.readId (kind : Kind) (text : String) : Except IdFault (String × String) :=
  match kind with
  | .dag => (DagId.parse text).map fun id => (id.text, id.text)
  | .vertex => (VertexId.parse text).map fun id => (id.text, id.dag.text)
  | .task => (TaskId.parse text).map fun id => (id.text, id.dag.text)
  | .attempt => (AttemptId.parse text).map fun id => (id.text, id.dag.text)

/-- The run that is asked for is the text of its id. -/
theorem DagId.parse_wantedRun {wanted : Value} {run : String} (h : wantedRun wanted = .ok run) :
    DagId.parse run = .ok ⟨run⟩ := by
  unfold wantedRun at h
  split at h
  · next s =>
    by_cases hblank : allBlank s.toList = true
    · rw [if_pos hblank] at h
      cases h
    · rw [if_neg hblank] at h
      obtain rfl := Except.ok.inj h
      exact DagId.parse_trimText hblank
  · cases h

/-- **What a record stands under is the text of an id of its kind and run.** -/
theorem Record.Filed.readId {run key : String} {kind : Kind} {r : Record}
    (h : r.Filed run kind key) (hrun : DagId.parse run = .ok ⟨run⟩) :
    kind.readId key = .ok (key, run) := by
  have hkey : trimText r.entity = key := h.key_eq
  -- the id is read from the entity, and read alike without the blanks around it
  cases kind with
  | dag =>
    rw [h.key_dag]
    exact map_eq_ok_iff.2 ⟨_, hrun, rfl⟩
  | vertex =>
    obtain ⟨id, hid, hdag⟩ := h.exists_vertexId
    refine map_eq_ok_iff.2 ⟨id, ?_, ?_⟩
    · rw [← hkey, VertexId.parse_trimText, hid]
    · rw [VertexId.of_parse hid, hkey, hdag]
  | task =>
    obtain ⟨id, hid, hdag⟩ := h.exists_taskId
    refine map_eq_ok_iff.2 ⟨id, ?_, ?_⟩
    · rw [← hkey, TaskId.parse_trimText, hid]
    · rw [(TaskId.of_parse hid).1, hkey, hdag]
  | attempt =>
    obtain ⟨id, hid, hdag⟩ := h.exists_attemptId
    refine map_eq_ok_iff.2 ⟨id, ?_, ?_⟩
    · rw [← hkey, AttemptId.parse_trimText, hid]
    · rw [(AttemptId.of_parse hid).1, hkey, hdag]

/-! ### States in order -/

/-- A state in order. -/
structure State.Orderly (s : State) : Prop where
  /-- Each record stands among the records of its kind. -/
  kind_eq : ∀ kind key r, s.held? kind key = some r → r.kind = kind
  /-- It stands under its entity without the blanks around it. -/
  key_eq : ∀ kind key r, s.held? kind key = some r → trimText r.entity = key
  /-- What it stands under is the text of an id of the kind and of the run. -/
  readId : ∀ kind, ∀ key ∈ (s.bucket kind).keys, kind.readId key = .ok (key, s.run)
  /-- Of the run itself one record is held at most. -/
  dags : s.dags.keys = [] ∨ s.dags.keys = [s.run]

theorem eq_nil_or_singleton {α : Type} {l : List α} {a : α} (hnodup : l.Nodup)
    (h : ∀ b ∈ l, b = a) : l = [] ∨ l = [a] := by
  cases l with
  | nil => exact .inl rfl
  | cons b rest =>
    obtain rfl := h b List.mem_cons_self
    have hrest : rest = [] := by
      apply List.eq_nil_iff_forall_not_mem.2
      intro c hc
      obtain rfl := h c (List.mem_cons_of_mem b hc)
      exact (List.nodup_cons.1 hnodup).1 hc
    exact .inr (by rw [hrest])

/-- **A sound state of a wanted run is in order.** -/
theorem State.Sound.orderly {s : State} (hs : s.Sound) (hrun : DagId.parse s.run = .ok ⟨s.run⟩) :
    s.Orderly := by
  refine ⟨?_, ?_, ?_, ?_⟩
  · intro kind key r hr
    exact (hs kind key r hr).kind_eq
  · intro kind key r hr
    exact (hs kind key r hr).key_eq
  · intro kind key hkey
    obtain ⟨r, hr⟩ := Table.mem_keys_iff.1 hkey
    exact (hs kind key r hr).readId hrun
  · apply eq_nil_or_singleton s.dags.nodup_keys
    intro key hkey
    obtain ⟨r, hr⟩ := Table.mem_keys_iff.1 hkey
    exact (hs .dag key r hr).key_dag

/-! ### Counting -/

/-- Whether an object is a record, of whatever run. -/
def isRecord (raw : Table Value) : Bool := (routed? raw).isSome

namespace State

/-- An object is no record, or it belongs to the run, or it adds one to the count. -/
theorem skipped_apply {run : String} {raw : Table Value} {v : Verdict}
    (h : judge run raw = .ok v) (s : State) :
    (s.apply v).skipped + (if belongs run raw then 1 else 0) =
      s.skipped + if isRecord raw then 1 else 0 := by
  obtain ⟨⟨label, found⟩, hroute, h⟩ := bind_eq_ok_iff.1 h
  have hrouted : routed? raw = found := by
    rw [routed?, hroute]
    rfl
  unfold belongs isRecord
  rw [hrouted]
  cases found with
  | none =>
    obtain rfl := Except.ok.inj h
    rfl
  | some r =>
    obtain ⟨owner, howner, h⟩ := map_eq_ok_iff.1 h
    by_cases hrun : owner = run
    · rw [if_pos hrun] at h
      subst h
      simp [howner, hrun, Except.toOption, apply, accept]
    · rw [if_neg hrun] at h
      subst h
      simp [howner, hrun, Except.toOption, apply, skip]

/-- **Every record that was read is accounted for**: it belongs to the run, or it is counted. -/
theorem skipped_foldl_apply {run : String} {raws : List (Table Value)} {verdicts : List Verdict}
    (h : raws.mapM (judge run) = .ok verdicts) (s : State) :
    (verdicts.foldl apply s).skipped + raws.countP (belongs run) =
      s.skipped + raws.countP isRecord := by
  have hall := mapM_eq_ok_iff.1 h
  clear h
  induction hall generalizing s with
  | nil => rfl
  | @cons raw v raws verdicts hv _ ih =>
    have hstep := skipped_apply hv s
    have hrest := ih (s.apply v)
    rw [List.foldl_cons, List.countP_cons, List.countP_cons]
    omega

end State

/-! ### Any part of a file -/

theorem exists_mapM_decode {run : String} {texts : List (List Char)} {verdicts : List Verdict}
    (h : texts.mapM (judgeText run) = .ok verdicts) :
    ∃ raws, texts.mapM Record.decode = .ok raws ∧ raws.mapM (judge run) = .ok verdicts := by
  have hdecode : ∀ text ∈ texts, ∃ raw, Record.decode text = .ok raw := by
    intro text htext
    obtain ⟨v, -, hv⟩ := exists_ok_of_mem_mapM h htext
    obtain ⟨raw, hraw, -⟩ := bind_eq_ok_iff.1 hv
    exact ⟨raw, hraw⟩
  obtain ⟨raws, hraws⟩ := exists_mapM_eq_ok hdecode
  refine ⟨raws, hraws, ?_⟩
  rw [← mapM_bind_of_ok hraws]
  exact h

/-- **The state after any part of a file.**  When all of a file can be read for a wanted run, then
so can each first part of it.  The state after that part is in order, its count makes up for the
records that were not accepted, and what it holds only grows while the rest is read. -/
theorem ingest_orderly {wanted : Value} {run path : String} {before after : List (List Char)}
    {s' : State} (hrun : wantedRun wanted = .ok run)
    (h : (ingest run path ⟨before ++ after, none⟩).result = .ok s') :
    ∃ raws s, before.mapM Record.decode = .ok raws ∧
      (ingest run path ⟨before, none⟩).result = .ok s ∧ s.run = run ∧ s.Orderly ∧
      s.skipped + raws.countP (belongs run) = raws.countP isRecord ∧ s.Grows s' := by
  obtain ⟨verdicts, s, hverdicts, rfl, hingest, hgrows⟩ := exists_ingest_grows h path
  obtain ⟨raws, hraws, hjudge⟩ := exists_mapM_decode hverdicts
  obtain ⟨hsound, hsame⟩ := sound_ingest hingest
  refine ⟨raws, _, hraws, hingest, hsame, ?_, ?_, hgrows⟩
  · apply hsound.orderly
    rw [hsame]
    exact DagId.parse_wantedRun hrun
  · have hcount := State.skipped_foldl_apply hjudge (.start run)
    rw [show (State.start run).skipped = 0 from rfl, Nat.zero_add] at hcount
    exact hcount

/-- The texts of a record of a run, of one of another run, and of something else. -/
def mixedTexts : List (List Char) := [
  bareText " dag_1_vertex_2 " "VERTEX", bareText "dag_2" "DAG", bareText "application_1" "APP"]

/-- An id with blanks around it is held without them, and the record of another run is counted. -/
theorem ingest_orderly_among_others : ∃ raws s s',
    (ingest "dag_1" "history" ⟨mixedTexts ++ [bareText "dag_1_vertex_2" "VERTEX"], none⟩).result =
        .ok s' ∧
      mixedTexts.mapM Record.decode = .ok raws ∧
      (ingest "dag_1" "history" ⟨mixedTexts, none⟩).result = .ok s ∧
      s.vertices.keys = ["dag_1_vertex_2"] ∧ s.skipped = 1 ∧ s.Orderly ∧
      s.skipped + raws.countP (belongs "dag_1") = raws.countP isRecord ∧ s.Grows s' := by
  have hall : (ingest "dag_1" "history"
      ⟨mixedTexts ++ [bareText "dag_1_vertex_2" "VERTEX"], none⟩).result.toOption.isSome =
        true := by
    decide +kernel
  have hpart : (ingest "dag_1" "history" ⟨mixedTexts, none⟩).result.toOption.map
      (fun s => (s.vertices.keys, s.skipped)) = some (["dag_1_vertex_2"], 1) := by
    decide +kernel
  cases hs' : (ingest "dag_1" "history"
      ⟨mixedTexts ++ [bareText "dag_1_vertex_2" "VERTEX"], none⟩).result with
  | error e => simp [hs', Except.toOption] at hall
  | ok s' =>
    obtain ⟨raws, s, hraws, hs, -, horderly, hcount, hgrows⟩ :=
      ingest_orderly (show wantedRun (.str " dag_1") = .ok "dag_1" from rfl) hs'
    rw [hs] at hpart
    obtain ⟨hkeys, hskipped⟩ : s.vertices.keys = ["dag_1_vertex_2"] ∧ s.skipped = 1 := by
      simpa [Except.toOption] using hpart
    exact ⟨raws, s, s', rfl, hraws, hs, hkeys, hskipped, horderly, hcount, hgrows⟩

end RunHistory
