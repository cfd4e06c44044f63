import RunHistory.Proofs.Framing.Files
import RunHistory.Proofs.Isolation

/-!
# The first failure decides

Records are judged one after the other, and the first one that cannot be judged, or is nested too
deep to be read, ends the reading.  Which failure this is, and the notices that are given before it,
depend on the records up to there alone: the file may go on with anything, and whatever the records
so far leave out is not looked for.

## Main definitions

* `Raises`: a record that cannot be judged, and the failure for which it cannot.
* `EndsReading`: a record that reading a file ends at, and the failure that it ends with.
* `foreignWarning?`: the warning that is given of a record of another run.

## Main results

* `judgeText_eq_error_iff`: a record is judged unless it raises a failure.
* `parse_first_failure`: **the first failure decides**, and the warnings before it are those of the
  records of other runs.
-/

namespace RunHistory

/-! ### Records that cannot be judged -/

/-- The text of a record cannot be judged, whatever the wanted run. -/
inductive Raises (text : List Char) (e : Failure) : Prop where
  /-- It writes no object. -/
  | decode (h : Record.decode text = .error e)
  /-- The object is neither a record nor about something that is no entity. -/
  | route {raw : Table Value} (hraw : Record.decode text = .ok raw)
    (h : Record.route raw = .error e)
  /-- The id of the entity names no run. -/
  | owner {raw : Table Value} {label : Record.Label} {r : Record}
    (hraw : Record.decode text = .ok raw) (hroute : Record.route raw = .ok (label, some r))
    (h : r.owner = .error e)

/-- A record is judged unless it raises a failure. -/
theorem judgeText_eq_error_iff {run : String} {text : List Char} {e : Failure} :
    judgeText run text = .error e ↔ Raises text e := by
  constructor
  · intro h
    rcases bind_eq_error_iff.1 h with hraw | ⟨raw, hraw, h⟩
    · exact .decode hraw
    rcases bind_eq_error_iff.1 h with hroute | ⟨⟨label, routed⟩, hroute, h⟩
    · exact .route hraw hroute
    cases routed with
    | none => cases h
    | some r => exact .owner hraw hroute (map_eq_error_iff.1 h)
  · intro h
    cases h with
    | decode h => exact bind_eq_error_iff.2 (.inl h)
    | route hraw h =>
      exact bind_eq_error_iff.2 (.inr ⟨_, hraw, bind_eq_error_iff.2 (.inl h)⟩)
    | owner hraw hroute h =>
      exact bind_eq_error_iff.2 (.inr ⟨_, hraw,
        bind_eq_error_iff.2 (.inr ⟨_, hroute, map_eq_error_iff.2 h⟩)⟩)

theorem Raises.category {text : List Char} {e : Failure} (h : Raises text e) :
    e.category = .malformedInput ∨ e.category = .value ∨ e.category = .beyond := by
  have hrefused := judgeText_refused ((@judgeText_eq_error_iff "" text e).2 h)
  generalize e.category = category at hrefused
  cases hrefused with
  | malformed h => exact .inl rfl
  | tooLong h => exact .inr (.inl rfl)
  | halfPair h => exact .inr (.inr rfl)

/-- No notice goes with such a failure. -/
theorem Raises.notice?_eq_none {text : List Char} {e : Failure} (h : Raises text e) :
    e.notice? = none := by
  rcases h.category with hcategory | hcategory | hcategory <;> cases e <;>
    first | rfl | cases hcategory

/-- Reading a file ends at the text of a record with a failure, when there is room for so many
levels.  What a text means that holds half of a pair of units is not described. -/
inductive EndsReading (levels : Nat) (text : List Char) (e : Failure) : Prop where
  /-- It is nested too deep. -/
  | deep {isList : Bool} (h : Json.tooDeep? levels text = some isList) (he : e = .tooDeep isList)
  /-- It is not, and it cannot be judged. -/
  | raises (hlevels : Json.tooDeep? levels text = none)
    (hwhole : Json.read text ≠ .error .halfPair) (h : Raises text e)

theorem tooDeep?_of_not_endsReading {levels : Nat} {text : List Char}
    (h : ∀ e, ¬EndsReading levels text e) : Json.tooDeep? levels text = none := by
  cases hdeep : Json.tooDeep? levels text with
  | none => rfl
  | some isList => exact absurd (.deep hdeep rfl) (h (.tooDeep isList))

theorem exists_verdict {levels : Nat} {text : List Char} (h : ∀ e, ¬EndsReading levels text e)
    (hwhole : Json.read text ≠ .error .halfPair) (run : String) :
    ∃ v, judgeText run text = .ok v := by
  cases hjudge : judgeText run text with
  | ok v => exact ⟨v, rfl⟩
  | error e =>
    have hraises := judgeText_eq_error_iff.1 hjudge
    exact absurd (.raises (tooDeep?_of_not_endsReading h) hwhole hraises) (h e)

/-! ### The notices on the way -/

/-- The notice that is given of the text of a record. -/
def noticeOn? (run : String) (text : List Char) : Option Notice :=
  (judgeText run text).toOption.bind (Verdict.notice? run)

/-- The warning that is given of the text of a record of another run. -/
def foreignWarning? (run : String) (text : List Char) : Option Notice := do
  let r ← recordOf? text
  let owner ← r.owner.toOption
  if owner = run then none
  else
    match r.kind with
    | .dag => some (.otherRun run owner)
    | _ => some (.foreign r.entity run)

/-- Warnings are given of the records of other runs only. -/
theorem filter_noticeOn? (run : String) (text : List Char) :
    (noticeOn? run text).filter (fun n => n.level = .warning) = foreignWarning? run text := by
  unfold noticeOn? foreignWarning? recordOf? judgeText
  cases Record.decode text with
  | error e => rfl
  | ok raw =>
    show ((judge run raw).toOption.bind _).filter _ = (routed? raw).bind _
    unfold judge routed?
    cases Record.route raw with
    | error e => rfl
    | ok found =>
      obtain ⟨label, routed⟩ := found
      cases routed with
      | none =>
        show label.notice?.filter _ = none
        unfold Record.Label.notice?
        cases label.kind <;> rfl
      | some r =>
        show ((r.judge run).toOption.bind _).filter _ = r.owner.toOption.bind _
        unfold Record.judge
        cases r.owner with
        | error e => rfl
        | ok owner =>
          by_cases howner : owner = run
          · simp [howner, Except.map, Except.toOption, Verdict.notice?]
          · simp only [Except.map, Except.toOption, howner, if_false, Option.bind_some,
              Verdict.notice?]
            cases r.kind <;> rfl

/-! ### The first failure -/

section

variable {run : String} {before : List (List Char)}
  (hbefore : ∀ text ∈ before, ∃ v, judgeText run text = .ok v)

include hbefore

/-- The notices on the way to a text that cannot be judged, and its failure. -/
theorem ingest_of_raises {bad : List Char} {e : Failure} (hbad : Raises bad e) (path : String)
    (after : List (List Char)) (ending : Option Chunks.Ending) :
    ingest run path ⟨before ++ bad :: after, ending⟩ =
      ⟨before.filterMap (noticeOn? run), .error e⟩ := by
  have hfirst : upToFailure (judgeText run) (bad :: after) = ⟨[], some e⟩ := by
    rw [upToFailure, judgeText_eq_error_iff.2 hbad]
  have hprogress := upToFailure_append hbefore (bad :: after)
  rw [hfirst, List.append_nil] at hprogress
  rw [ingest, hprogress]
  simp only
  rw [Outcome.refuse, hbad.notice?_eq_none, List.filterMap_filterMap, Option.toList_none,
    List.append_nil]
  rfl

/-- The notices on the way to a text that is nested too deep, and its failure. -/
theorem ingest_of_tooDeep (path : String) (isList : Bool) :
    ingest run path ⟨before, some (.tooDeep isList)⟩ =
      ⟨before.filterMap (noticeOn? run), .error (.tooDeep isList)⟩ := by
  have hprogress := upToFailure_append hbefore []
  rw [List.append_nil] at hprogress
  rw [ingest, hprogress]
  simp only [upToFailure, List.append_nil]
  rw [Outcome.refuse, List.filterMap_filterMap]
  show Outcome.mk (_ ++ []) _ = _
  rw [List.append_nil]
  rfl

end

/-- Reading the records of a file ends at the first that ends it. -/
theorem ingest_first_failure {levels : Nat} {before : List (List Char)} {bad : List Char}
    {e : Failure} (hbefore : ∀ text ∈ before, ∀ e, ¬EndsReading levels text e)
    (hwhole : ∀ text ∈ before, Json.read text ≠ .error .halfPair) (hbad : EndsReading levels bad e)
    (run path : String) (after : List (List Char)) (ending : Option Chunks.Ending) :
    ingest run path ((Chunks.mk (before ++ bad :: after) ending).within levels) =
      ⟨before.filterMap (noticeOn? run), .error e⟩ := by
  have hjudged : ∀ text ∈ before, ∃ v, judgeText run text = .ok v :=
    fun text htext => exists_verdict (hbefore text htext) (hwhole text htext) run
  have hshallow : ∀ text ∈ before, Json.tooDeep? levels text = none :=
    fun text htext => tooDeep?_of_not_endsReading (hbefore text htext)
  cases hbad with
  | @deep isList hdeep he =>
    subst he
    -- there is room for the records before, and none of those behind is read
    have hnone : (Chunks.mk (bad :: after) ending).within levels =
        ⟨[], some (.tooDeep isList)⟩ := by
      rw [Chunks.within, upToFailure, shallow, hdeep]
      rfl
    rw [Chunks.within_append hshallow, hnone, List.append_nil]
    exact ingest_of_tooDeep hjudged path _
  | raises hlevels _ hraises =>
    have hfront : ∀ text ∈ before ++ [bad], Json.tooDeep? levels text = none := by
      intro text htext
      rcases List.mem_append.1 htext with htext | htext
      · exact hshallow text htext
      · rw [List.mem_singleton.1 htext]
        exact hlevels
    have hwithin := Chunks.within_append hfront after ending
    rw [List.append_assoc, List.append_assoc, List.singleton_append, List.singleton_append]
      at hwithin
    rw [hwithin]
    exact ingest_of_raises hjudged hraises path _ _

/-- **The first failure decides.**  When the texts of the records of a file are some that reading
does not end at, then one that it ends at with a failure, and then any others, reading the file ends
with this very failure, in blocks of any size that there is memory for and for any wanted run.  The
failure decides how it is reported, its wording, and what stands beside that.  The notices given are
those of the records before, and the warnings among them those of the records of other runs. -/
theorem parse_first_failure {blockSize : Int} (hpos : 1 ≤ blockSize)
    (hbound : blockSize < Int.pow 2 63) {limits : Limits}
    (hholds : limits.holdsBlock blockSize = true) {text : List Char}
    (hruns : Framing.RunsUpTo isRecordEnd (Framing.overlapFor blockSize) text)
    {before after : List (List Char)} {bad : List Char} {e : Failure}
    (hpieces : Framing.pieces isRecordEnd text = before ++ bad :: after)
    (hbefore : ∀ piece ∈ before, ∀ e, ¬EndsReading limits.levels piece e)
    (hwhole : ∀ piece ∈ before, Json.read piece ≠ .error .halfPair)
    (hbad : EndsReading limits.levels bad e) {source : Source}
    (hcontent : source.content = .file (text.flatMap String.utf8EncodeChar)) {wanted : Value}
    {run : String} (hrun : wantedRun wanted = .ok run) :
    parse (.inBlocksOf blockSize limits) source wanted =
        ⟨before.filterMap (noticeOn? run), .error e⟩ ∧
      (before.filterMap (noticeOn? run)).filter (fun n => n.level = .warning) =
        before.filterMap (foreignWarning? run) := by
  constructor
  · have hchunks := chunks_utf8 hpos (isSize_of_pos hpos hbound) hholds hruns
    rw [hpieces] at hchunks
    rw [parse, hrun, Source.bytes_eq_ok_iff.2 hcontent]
    simp only [hchunks]
    rw [ingest_first_failure hbefore hwhole hbad]
    rfl
  · rw [List.filter_filterMap]
    simp only [filter_noticeOn?]

theorem exists_endsReading_x : ∃ e, EndsReading Limits.usual.levels ['x'] e ∧ Raises ['x'] e := by
  have hlevels : Json.tooDeep? Limits.usual.levels ['x'] = none := by decide +kernel
  have hdecode : ((Record.decode ['x']).map fun _ => ()).mapError Failure.category =
      .error .malformedInput := by decide +kernel
  have hwhole : Json.read ['x'] ≠ .error .halfPair := by
    intro hhalf
    rw [Record.decode, hhalf] at hdecode
    cases hdecode
  cases hbad : Record.decode ['x'] with
  | error e => exact ⟨e, .raises hlevels hwhole (.decode hbad), .decode hbad⟩
  | ok raw =>
    rw [hbad] at hdecode
    cases hdecode

/-- A record of another run, a text that is no record, and another such text. -/
def brokenText : List Char := bareText "dag_2" "DAG" ++ "\nx\n\ny".toList

theorem parse_first_failure_broken : ∃ e, EndsReading Limits.usual.levels ['x'] e ∧
    (parse (.inBlocksOf 7 .usual) ⟨none, "log", .file (brokenText.flatMap String.utf8EncodeChar)⟩
      (.str "dag_1")) = ⟨[.otherRun "dag_1" "dag_2"], .error e⟩ := by
  have hpieces : Framing.pieces isRecordEnd brokenText =
      [bareText "dag_2" "DAG"] ++ ['x'] :: [['y']] := by decide +kernel
  have hlength : brokenText.length ≤ Framing.overlapFor 7 := by decide +kernel
  have hlevels : Json.tooDeep? Limits.usual.levels (bareText "dag_2" "DAG") = none := by
    decide +kernel
  have hread : (Json.read (bareText "dag_2" "DAG")).toOption.isSome = true := by decide +kernel
  have hjudged : (judgeText "dag_1" (bareText "dag_2" "DAG")).toOption.isSome = true := by
    decide +kernel
  have hnotices : [bareText "dag_2" "DAG"].filterMap (noticeOn? "dag_1") =
      [.otherRun "dag_1" "dag_2"] := by decide +kernel
  have hbefore : ∀ piece ∈ [bareText "dag_2" "DAG"], ∀ e,
      ¬EndsReading Limits.usual.levels piece e := by
    intro piece hpiece e he
    rw [List.mem_singleton.1 hpiece] at he
    cases he with
    | deep hdeep => cases hlevels.symm.trans hdeep
    | raises _ _ hraises =>
      rw [judgeText_eq_error_iff.2 hraises] at hjudged
      cases hjudged
  have hwhole : ∀ piece ∈ [bareText "dag_2" "DAG"], Json.read piece ≠ .error .halfPair := by
    intro piece hpiece hhalf
    rw [List.mem_singleton.1 hpiece] at hhalf
    rw [hhalf] at hread
    cases hread
  obtain ⟨e, hbad, -⟩ := exists_endsReading_x
  have hcontent : (Source.mk none "log"
      (.file (brokenText.flatMap String.utf8EncodeChar))).content =
        .file (brokenText.flatMap String.utf8EncodeChar) := rfl
  obtain ⟨hparse, -⟩ := parse_first_failure (show (1 : Int) ≤ 7 by decide) (by decide)
    (show Limits.usual.holdsBlock 7 = true by decide)
    (fun run hin _ => hin.length_le.trans hlength) hpieces hbefore hwhole hbad hcontent
    (show wantedRun (.str "dag_1") = .ok "dag_1" from rfl)
  exact ⟨e, hbad, hparse.trans (by rw [hnotices])⟩

/-- A history whose only record is none. -/
def strayRecord : Source := ⟨none, "log", .file (['x'].flatMap String.utf8EncodeChar)⟩

/-- In blocks of a size that no text could have, the failure is another one. -/
theorem not_parse_first_failure_huge_blocks : ¬∀ blockSize : Int, 1 ≤ blockSize →
    ∀ limits : Limits, limits.holdsBlock blockSize = true →
    ∀ (text : List Char) (before after : List (List Char)) (bad : List Char) (e : Failure)
      (source : Source) (wanted : Value) (run : String),
      Framing.RunsUpTo isRecordEnd (Framing.overlapFor blockSize) text →
      Framing.pieces isRecordEnd text = before ++ bad :: after →
      (∀ piece ∈ before, ∀ e, ¬EndsReading limits.levels piece e) →
      (∀ piece ∈ before, Json.read piece ≠ .error .halfPair) →
      EndsReading limits.levels bad e →
      source.content = .file (text.flatMap String.utf8EncodeChar) →
      wantedRun wanted = .ok run →
      (parse (.inBlocksOf blockSize limits) source wanted).result = .error e := by
  intro h
  have hpieces : Framing.pieces isRecordEnd ['x'] = [] ++ ['x'] :: [] := by decide +kernel
  have hruns : Framing.RunsUpTo isRecordEnd (Framing.overlapFor (Int.pow 2 63)) ['x'] :=
    fun run hin _ => hin.length_le.trans (le_trans (by decide) (le_max_right _ _))
  -- memory is no limit here
  let limits : Limits := { Limits.usual with holdsBlock := fun _ => true }
  obtain ⟨hrefused, -⟩ := parse_out_of_range (show isSize (Int.pow 2 63) = false by decide) limits
    (show wantedRun (.str "dag_1") = .ok "dag_1" from rfl)
    (show strayRecord.content = .file _ from rfl)
  obtain ⟨e, hbad, hraises⟩ := exists_endsReading_x
  have hresult := h (Int.pow 2 63) (by decide) limits rfl ['x'] [] [] ['x'] e strayRecord
    (.str "dag_1") "dag_1" hruns hpieces (by simp) (by simp) hbad rfl rfl
  -- a record is never refused for the size of the blocks
  obtain rfl := Except.error.inj (hrefused.symm.trans hresult)
  rcases hraises.category with hcategory | hcategory | hcategory <;> cases hcategory

end RunHistory
