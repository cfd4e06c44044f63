import RunHistory.Proofs.Answers
import RunHistory.Proofs.Framing.Files
import RunHistory.Proofs.Isolation
import RunHistory.Proofs.Reordering
import RunHistory.Proofs.Table.Parts

/-!
# Records read twice

Information may be added in any grouping, and adding it again right away changes nothing.  So the
records of an entity come to one record, and taking all of them in a second time is adding that one
record a second time: each field ends with the value that it had, although older values are written
over it in between, and it stays in its place.

It follows that a part of a file that is read twice over tells nothing new.  Only the number of
records of other runs grows, and the notices are given again.

## Main results

* `Record.absorb_assoc`, `Record.absorb_self`: **adding information is associative and idempotent.**
* `foldl_joinHeld_again`, `foldl_mergeRecord_again`, `State.bucket_foldl_accept_again`: the records
  of one entity, of one kind, and all of them, taken in again.
* `ingest_again`: **a part of a file that is read twice over.**
* `parse_again`: **a file of which a part is read twice over.**
* `link_ingest_replayed`: both of them, and a log that is appended to itself.
-/

namespace RunHistory

/-- A step on each item of a list, done again.  If the steps may be taken in any grouping, the list
comes to one step, and that step again changes nothing. -/
theorem foldl_foldl_self {α : Type} (f : α → α → α) [assoc : Std.Associative f]
    [idem : Std.IdempotentOp f] (items : List α) (a : α) :
    items.foldl f (items.foldl f a) = items.foldl f a := by
  cases items with
  | nil => rfl
  | cons b rest =>
    have hone : ∀ c, (b :: rest).foldl f c = f c (rest.foldl f b) := fun c => List.foldl_assoc
    calc (b :: rest).foldl f ((b :: rest).foldl f a)
        = f (f a (rest.foldl f b)) (rest.foldl f b) := by rw [hone, hone]
      _ = f a (f (rest.foldl f b) (rest.foldl f b)) := assoc.assoc _ _ _
      _ = f a (rest.foldl f b) := by rw [idem.idempotent]
      _ = (b :: rest).foldl f a := (hone a).symm

/-! ### The records of one entity -/

namespace Record

@[simp] theorem mergedInfo_none (a : Option (Table Value)) : mergedInfo a none = a := by
  cases a <;> rfl

theorem mergedInfo_assoc (a b c : Option (Table Value)) :
    mergedInfo (mergedInfo a b) c = mergedInfo a (mergedInfo b c) := by
  cases c with
  | none => rw [mergedInfo_none, mergedInfo_none]
  | some c =>
    cases b with
    | none => cases a <;> rfl
    | some b =>
      cases a with
      | none => rfl
      | some a => exact congrArg some (a.overlay_assoc b c)

theorem mergedInfo_self (a : Option (Table Value)) : mergedInfo a a = a := by
  cases a with
  | none => rfl
  | some a => exact congrArg some a.overlay_self

/-- **Information may be added in any grouping.** -/
theorem absorb_assoc (a b c : Record) : (a.absorb b).absorb c = a.absorb (b.absorb c) := by
  show a.withInfo (mergedInfo (mergedInfo a.info b.info) c.info) = _
  rw [mergedInfo_assoc]
  rfl

/-- **A record adds nothing to itself.** -/
theorem absorb_self (a : Record) : a.absorb a = a := by
  unfold absorb
  rw [mergedInfo_self]
  rfl

instance : Std.Associative absorb := ⟨absorb_assoc⟩

instance : Std.IdempotentOp absorb := ⟨absorb_self⟩

end Record

theorem foldl_joinHeld_again (records : List Record) (held : Option Record) :
    records.foldl joinHeld (records.foldl joinHeld held) = records.foldl joinHeld held := by
  have hagain : ∀ first, records.foldl joinHeld (records.foldl joinHeld (some first)) =
      records.foldl joinHeld (some first) := by
    intro first
    rw [foldl_joinHeld, foldl_joinHeld, foldl_foldl_self]
  cases held with
  | some first => exact hagain first
  | none =>
    cases records with
    | nil => rfl
    | cons first later =>
      -- the first record could as well have been held before
      have hstart : (first :: later).foldl joinHeld none =
          (first :: later).foldl joinHeld (some first) := by
        rw [List.foldl_cons, List.foldl_cons, joinHeld, joinHeld, first.absorb_self]
      rw [hstart]
      exact hagain first

/-! ### The records of one kind, and of all kinds -/

theorem foldl_mergeRecord_again (records : List Record) (bucket : Table Record) :
    records.foldl mergeRecord (records.foldl mergeRecord bucket) =
      records.foldl mergeRecord bucket := by
  apply Table.ext_get?
  · rw [keys_foldl_mergeRecord, keys_foldl_mergeRecord, eraseDups_eraseDups_append]
    exact eraseDups_append_of_subset (List.subset_append_right bucket.keys _)
  · intro key
    rw [get?_foldl_mergeRecord, get?_foldl_mergeRecord, foldl_joinHeld_again]

namespace State

theorem bucket_foldl_accept_again (records : List Record) (s : State) (kind : Kind) :
    (records.foldl accept (records.foldl accept s)).bucket kind =
      (records.foldl accept s).bucket kind := by
  rw [bucket_foldl_accept, bucket_foldl_accept, foldl_mergeRecord_again]

/-- A state is told by its run, the records of each kind, and the number of records of other
runs. -/
theorem withSkipped_congr {s s' : State} (hrun : s.run = s'.run)
    (hbucket : ∀ kind, s.bucket kind = s'.bucket kind) (count : Nat) :
    s.withSkipped count = s'.withSkipped count := by
  refine ext_bucket hrun rfl fun kind => ?_
  have hkind := hbucket kind
  cases kind <;> exact hkind

/-- Verdicts that are taken in again change nothing but the number of records of other runs. -/
theorem ofVerdicts_again (run : String) (before again : List Verdict) (count : Nat) :
    (ofVerdicts run (before ++ again ++ again)).withSkipped count =
      (ofVerdicts run (before ++ again)).withSkipped count := by
  obtain ⟨count₁, hfirst⟩ := ofVerdicts_eq run (before ++ again ++ again)
  obtain ⟨count₂, hsecond⟩ := ofVerdicts_eq run (before ++ again)
  rw [hfirst, hsecond]
  simp only [List.filterMap_append, List.foldl_append]
  generalize (before.filterMap Verdict.record?).foldl accept (start run) = s
  generalize again.filterMap Verdict.record? = records
  refine withSkipped_congr ?_ ?_ count
  · show (records.foldl accept (records.foldl accept s)).run = (records.foldl accept s).run
    rw [run_foldl_accept]
  · intro kind
    have hagain := bucket_foldl_accept_again records s kind
    cases kind <;> exact hagain

end State

/-! ### Files -/

theorem result_ingest (run path : String) (texts : List (List Char)) :
    (ingest run path ⟨texts, none⟩).result =
      (texts.mapM (judgeText run)).map (State.ofVerdicts run) := by
  unfold ingest
  rcases upToFailure_cases (judgeText run) texts with ⟨hnone, hdone⟩ | ⟨e, hsome, herror⟩
  · rw [hdone]
    simp [hnone, Except.map]
  · rw [herror]
    simp [hsome, Except.map]

/-- What is done with each item of a list and of a part at its end that comes again. -/
theorem mapM_append_again {ε α β : Type} (f : α → Except ε β) (before again : List α) :
    (∃ e, (before ++ again).mapM f = .error e ∧ (before ++ again ++ again).mapM f = .error e) ∨
      ∃ front back, (before ++ again).mapM f = .ok (front ++ back) ∧
        (before ++ again ++ again).mapM f = .ok (front ++ back ++ back) := by
  have htwice : (before ++ again ++ again).mapM f = (do
      let front ← (before ++ again).mapM f
      let back ← again.mapM f
      return front ++ back) := List.mapM_append
  rw [htwice, List.mapM_append]
  cases before.mapM f with
  | error e => exact .inl ⟨e, rfl, rfl⟩
  | ok front =>
    cases again.mapM f with
    | error e => exact .inl ⟨e, rfl, rfl⟩
    | ok back => exact .inr ⟨front, back, rfl, rfl⟩

/-- **A part of a file that is read twice over** leads to the same state but for the number of
records of other runs, or to the same failure. -/
theorem ingest_again (run path₁ path₂ : String) (before again : List (List Char)) (count : Nat) :
    (ingest run path₂ ⟨before ++ again ++ again, none⟩).result.map (State.withSkipped · count) =
      (ingest run path₁ ⟨before ++ again, none⟩).result.map (State.withSkipped · count) := by
  rw [result_ingest, result_ingest]
  rcases mapM_append_again (judgeText run) before again with
    ⟨e, honce, htwice⟩ | ⟨front, back, honce, htwice⟩
  · rw [honce, htwice]
  · rw [honce, htwice]
    exact congrArg Except.ok (State.ofVerdicts_again run front back count)

theorem link_ingest_again (run path₁ path₂ : String) (before again : List (List Char)) :
    ((ingest run path₂ ⟨before ++ again ++ again, none⟩).result >>= fun s =>
        s.link.outcome.result) =
      (ingest run path₁ ⟨before ++ again, none⟩).result >>= fun s => s.link.outcome.result := by
  -- linking does not look at the number in which the states may differ
  have hlink : ∀ x : Except Failure State, (x >>= fun s => s.link.outcome.result) =
      x.map (State.withSkipped · 0) >>= fun s => s.link.outcome.result := by
    intro x
    cases x with
    | error e => rfl
    | ok s => exact congrArg Outcome.result (State.outcome_link_withSkipped s 0).symm
  rw [hlink, ingest_again run path₁ path₂ before again 0, ← hlink]

/-- **A file of which a part is read twice over** leads to the same tree, or to the same failure. -/
theorem parse_again {cfg : Configuration} {bytes₁ bytes₂ : List UInt8}
    {before again : List (List Char)} (h₁ : cfg.chunks bytes₁ = .ok ⟨before ++ again, none⟩)
    (h₂ : cfg.chunks bytes₂ = .ok ⟨before ++ again ++ again, none⟩) (source : Source)
    (wanted : Value) : (parse cfg { source with content := .file bytes₂ } wanted).result =
      (parse cfg { source with content := .file bytes₁ } wanted).result := by
  rw [result_parse, result_parse]
  cases wantedRun wanted with
  | error e => rfl
  | ok run =>
    have hbytes₁ : ({ source with content := .file bytes₁ } : Source).bytes = .ok bytes₁ := rfl
    have hbytes₂ : ({ source with content := .file bytes₂ } : Source).bytes = .ok bytes₂ := rfl
    simp only [ok_bind, hbytes₁, hbytes₂, h₁, h₂]
    exact link_ingest_again run source.shown source.shown before again

/-- Files with the same records, and the same that ends them, are read in the same way. -/
theorem parse_of_chunks_eq {cfg : Configuration} {bytes₁ bytes₂ : List UInt8}
    (h : cfg.chunks bytes₂ = cfg.chunks bytes₁) (source : Source) (wanted : Value) :
    parse cfg { source with content := .file bytes₂ } wanted =
      parse cfg { source with content := .file bytes₁ } wanted := by
  unfold parse Source.bytes
  simp only [h]

open Framing in
/-- **A log that is ended, and appended to itself**, leads to the same tree, or to the same
failure. -/
theorem parse_log_again {blockSize : Int} (hpos : 1 ≤ blockSize) (hsize : isSize blockSize = true)
    (limits : Limits) {log : List Char}
    (hended : ∀ c, log.getLast? = some c → isRecordEnd c = true)
    (hruns : RunsUpTo isRecordEnd (overlapFor blockSize) (log ++ log)) (source : Source)
    (wanted : Value) :
    (parse (.inBlocksOf blockSize limits) { source with
        content := .file ((log ++ log).flatMap String.utf8EncodeChar) } wanted).result =
      (parse (.inBlocksOf blockSize limits) { source with
        content := .file (log.flatMap String.utf8EncodeChar) } wanted).result := by
  cases hholds : limits.holdsBlock blockSize with
  | false =>
    -- neither is read
    have hmemory : ∀ bytes, (Configuration.inBlocksOf blockSize limits).chunks bytes =
        .error .outOfMemory := by
      intro bytes
      rw [Configuration.chunks, texts_eq hsize, hholds]
      rfl
    exact congrArg Outcome.result
      (parse_of_chunks_eq ((hmemory _).trans (hmemory _).symm) source wanted)
  | true =>
    have honce := chunks_utf8 hpos hsize hholds hruns.of_append
    have htwice := chunks_utf8 hpos hsize hholds hruns
    rw [pieces_append_of_ended hended] at htwice
    by_cases hshallow : ∀ text ∈ pieces isRecordEnd log, Json.tooDeep? limits.levels text = none
    · have hshallow' : ∀ text ∈ pieces isRecordEnd log ++ pieces isRecordEnd log,
          Json.tooDeep? limits.levels text = none :=
        fun text htext => hshallow text (or_self_iff.1 (List.mem_append.1 htext))
      rw [Chunks.within_eq hshallow] at honce
      rw [Chunks.within_eq hshallow'] at htwice
      exact @parse_again _ _ _ [] _ honce htwice source wanted
    · -- the first record that is nested too deep is the same
      simp only [not_forall] at hshallow
      obtain ⟨text, htext, hdeep⟩ := hshallow
      rw [Chunks.within_append_of_tooDeep htext hdeep _ none none] at htwice
      exact congrArg Outcome.result (parse_of_chunks_eq (htwice.trans honce.symm) source wanted)

open Framing in
/-- **Replaying tells nothing new.**  Reading a part of a file once more right away leaves what is
known of the run as it was, but for the number of records of other runs, and leads to the same tree
with the same notices.  So it is with files, however they are written and read, if the records of
one are those of the other with a part once more, and in particular with a log and the log that is
appended to itself.  A log must be ended, or else its last record goes on with the first one. -/
theorem link_ingest_replayed :
    (∀ (run path₁ path₂ : String) (before again : List (List Char)) (s : State),
      (ingest run path₁ ⟨before ++ again, none⟩).result = .ok s →
        ∃ s', (ingest run path₂ ⟨before ++ again ++ again, none⟩).result = .ok s' ∧
          s'.withSkipped 0 = s.withSkipped 0 ∧ s'.link.outcome = s.link.outcome) ∧
    (∀ (cfg : Configuration) (bytes₁ bytes₂ : List UInt8) (before again : List (List Char)),
      cfg.chunks bytes₁ = .ok ⟨before ++ again, none⟩ →
        cfg.chunks bytes₂ = .ok ⟨before ++ again ++ again, none⟩ →
          ∀ (source : Source) (wanted : Value),
            (parse cfg { source with content := .file bytes₂ } wanted).result =
              (parse cfg { source with content := .file bytes₁ } wanted).result) ∧
    ∀ (blockSize : Int) (limits : Limits) (log : List Char), 1 ≤ blockSize →
      isSize blockSize = true →
      (∀ c, log.getLast? = some c → isRecordEnd c = true) →
        RunsUpTo isRecordEnd (overlapFor blockSize) (log ++ log) →
          ∀ (source : Source) (wanted : Value),
            (parse (.inBlocksOf blockSize limits) { source with
                content := .file ((log ++ log).flatMap String.utf8EncodeChar) } wanted).result =
              (parse (.inBlocksOf blockSize limits) { source with
                content := .file (log.flatMap String.utf8EncodeChar) } wanted).result := by
  refine ⟨?_, ?_, ?_⟩
  · intro run path₁ path₂ before again s h
    have hsame := ingest_again run path₁ path₂ before again 0
    rw [h] at hsame
    obtain ⟨s', hs', hskipped⟩ := map_eq_ok_iff.1 hsame
    refine ⟨s', hs', hskipped, ?_⟩
    rw [← s'.outcome_link_withSkipped 0, hskipped, s.outcome_link_withSkipped]
  · intro cfg bytes₁ bytes₂ before again h₁ h₂ source wanted
    exact parse_again h₁ h₂ source wanted
  · intro blockSize limits log hpos hsize hended hruns source wanted
    exact parse_log_again hpos hsize limits hended hruns source wanted

/-- The text that a value is, if it is one. -/
def Value.str? : Value → Option String
  | .str s => some s
  | _ => none

theorem Value.str?_eq_some_iff {v : Value} {s : String} : v.str? = some s ↔ v = .str s := by
  cases v <;> simp [Value.str?]

/-- The status of a run, as the record that is held of it says. -/
def State.status? (s : State) : Option Value :=
  (s.held? .dag s.run).bind fun r => r.info.bind (Table.get? · "status")

/-- A text as a log that is shown as `log`. -/
def asLog (text : List Char) : Source := ⟨none, "log", .file (text.flatMap String.utf8EncodeChar)⟩

/-- The records of a run that goes on and then ends. -/
def statusTexts : List (List Char) := [statusText "RUNNING", statusText "SUCCEEDED"]

/-- The same records as lines. -/
def statusLog : List Char := statusTexts.flatMap (· ++ ['\n'])

/-- The status that a run ends with is not lost when the record of its going on is read again. -/
theorem link_ingest_replayed_status :
    (∃ s, (ingest "dag_1" "log" ⟨statusTexts ++ statusTexts, none⟩).result = .ok s ∧
      s.status? = some (.str "SUCCEEDED")) ∧
    ∃ d,
      (parse (.inBlocksOf 64 .usual) (asLog (statusLog ++ statusLog)) (.str "dag_1")).result =
        .ok d := by
  obtain ⟨hrecords, -, hlog⟩ := link_ingest_replayed
  constructor
  · have hstatus : ((ingest "dag_1" "log" ⟨statusTexts, none⟩).result.toOption.bind fun s =>
        s.status?.bind Value.str?) = some "SUCCEEDED" := by
      decide +kernel
    cases hs : (ingest "dag_1" "log" ⟨statusTexts, none⟩).result with
    | error e => simp [hs, Except.toOption] at hstatus
    | ok s =>
      rw [hs] at hstatus
      have hend : s.status? = some (.str "SUCCEEDED") := by
        change s.status?.bind Value.str? = some "SUCCEEDED" at hstatus
        obtain ⟨v, hv, htext⟩ := Option.bind_eq_some_iff.1 hstatus
        rw [hv, Value.str?_eq_some_iff.1 htext]
      obtain ⟨s', hs', hsame, -⟩ := hrecords "dag_1" "log" "log" [] statusTexts s hs
      have heq : (s'.withSkipped 0).status? = (s.withSkipped 0).status? :=
        congrArg State.status? hsame
      exact ⟨s', hs', heq.trans hend⟩
  · have hended : ∀ c, statusLog.getLast? = some c → isRecordEnd c = true := by
      intro c hc
      have hlast : statusLog.getLast? = some '\n' := by decide +kernel
      rw [hlast] at hc
      cases hc
      rfl
    have hlength : (statusLog ++ statusLog).length ≤ Framing.overlapFor 64 := by decide +kernel
    have hparsed : (parse (.inBlocksOf 64 .usual) (asLog statusLog)
        (.str "dag_1")).result.toOption.isSome = true := by
      decide +kernel
    have hsame := hlog 64 .usual statusLog (by decide) (by decide) hended
      (fun run hin _ => hin.length_le.trans hlength) (asLog []) (.str "dag_1")
    have hlogged : ∀ text, { asLog [] with content := .file (text.flatMap String.utf8EncodeChar) } =
        asLog text := fun _ => rfl
    rw [hlogged, hlogged] at hsame
    rw [hsame]
    cases hresult : (parse (.inBlocksOf 64 .usual) (asLog statusLog) (.str "dag_1")).result with
    | error e => simp [hresult, Except.toOption] at hparsed
    | ok d => exact ⟨d, rfl⟩

end RunHistory
