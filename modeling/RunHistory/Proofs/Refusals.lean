import RunHistory.Proofs.Encoding.Valid
import RunHistory.Proofs.Entity.Refused
import RunHistory.Proofs.Framing.ClassRuns
import RunHistory.Proofs.Json.Stops
import RunHistory.Proofs.Link.Refused

/-!
# What a history is refused for

A history that is read in the standard way is refused for a cause that lies in what was asked, in
its bytes, in one of its records, or in what its records leave out.  Some causes are not reported as
such.  An infinite number stands where a whole one belongs, an integer or a sequence number has too
many digits, the system does not look for the file, there is no memory for a block, or a record is
nested too deep.  What a record means that holds half of a pair of 16-bit units is not described
here.

## Main definitions

* `Malformed`, `TooLong`, `RefusedAs`: what is wrong with the text of a record.
* `Configuration.inBlocksOf`: the standard way of reading, in blocks of a size.
* `Source.Holds`, `Source.Reaches`: the records of a history, and what is known after them.
* `Justified`: what must be the case when a history is refused.

## Main results

* `judgeText_refused`, `ingest_refused`: the stages before linking.
* `result_parse`: reading a history is a row of stages.
* `parse_justified`: **a history is refused for no other causes.**
-/

namespace RunHistory

/-! ### Single records -/

/-- What is wrong with the text of a record that is not well formed. -/
inductive Malformed (text : List Char) : Prop where
  /-- It is not written in JSON. -/
  | notJson {fault : Json.Fault} (h : Json.read text = .error (.fault fault))
  /-- It is a value other than an object. -/
  | notObject {value : Value} (h : Json.read text = .ok value) (hvalue : value.object? = none)
  /-- The entity or the label of its type is no text. -/
  | unlabelled {raw : Table Value} (h : Record.decode text = .ok raw)
    (hno : ∀ entity label, ¬(Record.valueInUse raw ["entity"] = .str entity ∧
      Record.valueInUse raw Record.labelFields = .str label))
  /-- The label names a kind, and the information is neither null nor an object. -/
  | invalidInfo {raw : Table Value} {label : Record.Label} {kind : Kind}
    (h : Record.decode text = .ok raw) (hlabel : Record.classify raw = .ok label)
    (hkind : label.kind = some kind) (hnull : Record.valueInUse raw Record.infoFields ≠ .null)
    (hobject : (Record.valueInUse raw Record.infoFields).object? = none)
  /-- The entity is no run, and its text is no id of its kind. -/
  | refusedId {raw : Table Value} {label : Record.Label} {r : Record} {kind : Kind} {shown : String}
    (h : Record.decode text = .ok raw) (hr : Record.route raw = .ok (label, some r))
    (hid : r.IdRefused (.unreadable kind shown))

/-- The text of a record has more digits in a row than are read. -/
inductive TooLong (text : List Char) : Prop where
  /-- In an integer. -/
  | integer {count : Nat} (h : Json.read text = .error (.tooManyDigits count))
    (hlong : 4300 < count) (hin : Json.HoldsInteger text count)
  /-- In a sequence number of an id that is not that of a run. -/
  | sequence {raw : Table Value} {label : Record.Label} {r : Record} {part : List Char}
    (h : Record.decode text = .ok raw) (hr : Record.route raw = .ok (label, some r))
    (hkind : r.kind ≠ .dag) (hpart : Id.SeqPart r.kind r.entity.toList part)
    (hlong : 4300 < part.length)

/-- What is wrong with the text of a record that is refused with a failure of a category. -/
inductive RefusedAs (text : List Char) : Failure.Category → Prop where
  /-- It is not well formed. -/
  | malformed (h : Malformed text) : RefusedAs text .malformedInput
  /-- It has too many digits in a row. -/
  | tooLong (h : TooLong text) : RefusedAs text .value
  /-- It holds half of a pair of units. -/
  | halfPair (h : Json.read text = .error .halfPair) : RefusedAs text .beyond

theorem Value.object?_eq_none {v : Value} (h : ∀ fields, v = .object fields → False) :
    v.object? = none := by
  cases v with
  | object fields => exact absurd rfl (h fields)
  | _ => rfl

theorem Record.decode_refused {text : List Char} {e : Failure} (h : Record.decode text = .error e) :
    RefusedAs text e.category := by
  rw [Record.decode] at h
  split at h
  · next fault hread =>
    cases h
    exact .malformed (.notJson hread)
  · next count hread =>
    cases h
    obtain ⟨hlong, hin⟩ := Json.holdsInteger_of_read hread
    exact .tooLong (.integer hread hlong hin)
  · next hread =>
    cases h
    exact .halfPair hread
  · next isList hread => exact absurd hread (Json.read_ne_tooDeep isList)
  · next value hread =>
    split at h
    · cases h
    · next hvalue =>
      cases h
      exact .malformed (.notObject hread hvalue)

theorem Record.route_refused {text : List Char} {raw : Table Value} {e : Failure}
    (hraw : Record.decode text = .ok raw) (h : Record.route raw = .error e) :
    e.category = .malformedInput ∧ Malformed text := by
  rcases bind_eq_error_iff.1 h with hlabel | ⟨label, hlabel, h⟩
  · rw [Record.classify] at hlabel
    split at hlabel
    · cases hlabel
    · next hno =>
      cases hlabel
      exact ⟨rfl, .unlabelled hraw fun entity label hboth => hno entity label hboth.1 hboth.2⟩
  · split at h
    · cases h
    · next kind hkind =>
      have h' := map_eq_error_iff.1 h
      rw [Record.ofObject] at h'
      split at h'
      · cases h'
      · cases h'
      · next hnull hobject =>
        cases h'
        exact ⟨rfl, .invalidInfo hraw hlabel hkind hnull (Value.object?_eq_none hobject)⟩

theorem judgeText_refused {run : String} {text : List Char} {e : Failure}
    (h : judgeText run text = .error e) : RefusedAs text e.category := by
  rcases bind_eq_error_iff.1 h with hraw | ⟨raw, hraw, h⟩
  · exact Record.decode_refused hraw
  rcases bind_eq_error_iff.1 h with hroute | ⟨⟨label, routed⟩, hroute, h⟩
  · obtain ⟨hcategory, hmalformed⟩ := Record.route_refused hraw hroute
    rw [hcategory]
    exact .malformed hmalformed
  cases routed with
  | none => cases h
  | some r =>
    obtain ⟨fault, hfault, rfl⟩ := Record.owner_eq_error (map_eq_error_iff.1 h)
    cases fault with
    | unreadable kind shown => exact .malformed (.refusedId hraw hroute hfault)
    | tooManyDigits count =>
      obtain ⟨part, hpart, hlength, hlong⟩ := hfault.exists_seqPart
      -- the id of a run has no sequence number, and is refused in no other way
      have hkind : r.kind ≠ .dag := by
        cases hfault with
        | vertex hkind => simp [hkind]
        | task hkind => simp [hkind]
        | attempt hkind => simp [hkind]
      exact .tooLong (.sequence hraw hroute hkind hpart (hlength ▸ hlong))

/-! ### Reading -/

theorem ingest_refused {run path : String} {chunks : Chunks} {e : Failure}
    (h : (ingest run path chunks).result = .error e) :
    (∃ text ∈ chunks.records, judgeText run text = .error e) ∨
      ∃ ending, chunks.ending = some ending ∧ e = ending.failure path := by
  rcases upToFailure_cases (judgeText run) chunks.records with ⟨hnone, -⟩ | ⟨e', hsome, herror⟩
  · cases hending : chunks.ending with
    | none => simp [ingest, hnone, hending] at h
    | some ending =>
      simp only [ingest, hnone, hending, Outcome.result_refuse, Except.error.injEq] at h
      exact .inr ⟨ending, rfl, h.symm⟩
  · simp only [ingest, hsome, Outcome.result_refuse, Except.error.injEq] at h
    exact .inl (h ▸ mapM_eq_error herror)

theorem shallow_eq_error_iff {levels : Nat} {text : List Char} {ending : Chunks.Ending} :
    shallow levels text = .error ending ↔
      ∃ isList, Json.tooDeep? levels text = some isList ∧ ending = .tooDeep isList := by
  unfold shallow
  cases Json.tooDeep? levels text <;> simp [eq_comm]

/-- The records of a file end with one that is nested too deep, or with the file. -/
theorem Chunks.ending_within {levels : Nat} {chunks : Chunks} {ending : Chunks.Ending}
    (h : (chunks.within levels).ending = some ending) :
    (∃ text ∈ chunks.records, ∃ isList, Json.tooDeep? levels text = some isList ∧
        ending = .tooDeep isList) ∨ chunks.ending = some ending := by
  rcases upToFailure_cases (shallow levels) chunks.records with ⟨hnone, -⟩ | ⟨e, hsome, herror⟩
  · rw [within, hnone] at h
    exact .inr h
  · rw [within, hsome] at h
    obtain rfl : e = ending := Option.some.inj h
    obtain ⟨text, htext, hdeep⟩ := mapM_eq_error herror
    exact .inl ⟨text, htext, shallow_eq_error_iff.1 hdeep⟩

/-- Records that are not nested too deep are left as they are, in front of the others. -/
theorem Chunks.within_append {levels : Nat} {front : List (List Char)}
    (h : ∀ text ∈ front, Json.tooDeep? levels text = none) (back : List (List Char))
    (ending : Option Ending) : (Chunks.mk (front ++ back) ending).within levels =
      ⟨front ++ ((Chunks.mk back ending).within levels).records,
        ((Chunks.mk back ending).within levels).ending⟩ := by
  have hshallow : ∀ text ∈ front, shallow levels text = .ok text := by
    intro text htext
    rw [shallow, h text htext]
  have hfront : front.filterMap (fun text => (shallow levels text).toOption) = front := by
    conv_rhs => rw [← List.filterMap_some (l := front)]
    refine List.filterMap_congr fun text htext => ?_
    rw [hshallow text htext]
    rfl
  have hall := upToFailure_append (fun text htext => ⟨text, hshallow text htext⟩) back
  rw [hfront] at hall
  rw [within, hall]
  rfl

theorem Chunks.within_eq {levels : Nat} {chunks : Chunks}
    (h : ∀ text ∈ chunks.records, Json.tooDeep? levels text = none) :
    chunks.within levels = chunks := by
  have hall := within_append h [] chunks.ending
  rw [List.append_nil] at hall
  rw [hall]
  show Chunks.mk (chunks.records ++ []) chunks.ending = chunks
  rw [List.append_nil]

/-- Nothing comes of the records behind one that is nested too deep. -/
theorem Chunks.within_append_of_tooDeep {levels : Nat} {front : List (List Char)}
    {text : List Char} (htext : text ∈ front) (hdeep : Json.tooDeep? levels text ≠ none)
    (back : List (List Char)) (ending ending' : Option Ending) :
    (Chunks.mk (front ++ back) ending).within levels =
      (Chunks.mk front ending').within levels := by
  rcases upToFailure_cases (shallow levels) front with ⟨-, hall⟩ | ⟨e, hsome, -⟩
  · obtain ⟨text', -, hshallow⟩ := exists_ok_of_mem_mapM hall htext
    rw [shallow] at hshallow
    cases hlevels : Json.tooDeep? levels text with
    | none => exact absurd hlevels hdeep
    | some isList =>
      rw [hlevels] at hshallow
      cases hshallow
  · simp only [within, upToFailure_append_of_failure hsome, hsome]
    rfl

/-! ### Whole histories -/

/-- The standard way of reading, in blocks of a size and on a machine with limits. -/
def Configuration.inBlocksOf (blockSize : Int) (limits : Limits) : Configuration :=
  { Configuration.standard with blockSize := blockSize, limits := limits }

/-- A text stands between the separators of a history. -/
def Source.Cuts (source : Source) (cfg : Configuration) (text : List Char) : Prop :=
  ∃ bytes chunks, source.content = .file bytes ∧ cfg.texts bytes = .ok chunks ∧
    text ∈ chunks.records

/-- A text is one of the records of a history. -/
def Source.Holds (source : Source) (cfg : Configuration) (text : List Char) : Prop :=
  ∃ bytes chunks, source.content = .file bytes ∧ cfg.chunks bytes = .ok chunks ∧
    text ∈ chunks.records

/-- The records of a history are all judged, and this is known of the wanted run then. -/
def Source.Reaches (source : Source) (cfg : Configuration) (wanted : Value) (s : State) : Prop :=
  ∃ run bytes chunks, wantedRun wanted = .ok run ∧ source.content = .file bytes ∧
    cfg.chunks bytes = .ok chunks ∧ (ingest run source.shown chunks).result = .ok s

/-- What must be the case when a history is refused with a failure of a category.  There are no
failures of the categories that are left out. -/
def Justified (cfg : Configuration) (source : Source) (wanted : Value) : Failure.Category → Prop
  | .invalidArgument =>
    (∀ name, wanted = .str name → allBlank name.toList = true) ∨ source.content = .nothing
  | .historyIO => (∃ bytes, source.content = .file bytes ∧ ¬Encoding.IsUtf8 bytes) ∨
    ∃ reason, source.content = .closed reason
  | .malformedInput => ∃ text, source.Holds cfg text ∧ Malformed text
  | .incompleteLog => ∃ s, source.Reaches cfg wanted s ∧ s.Incomplete
  | .overflow => ∃ s, source.Reaches cfg wanted s ∧ s.Infinite
  | .value => ∃ text, source.Holds cfg text ∧ TooLong text
  | .system => ∃ reason, source.content = .refused reason
  | .memory => cfg.limits.holdsBlock cfg.blockSize = false
  | .recursion => ∃ text, source.Cuts cfg text ∧ Json.tooDeep? cfg.limits.levels text ≠ none
  | .beyond => ∃ text, source.Holds cfg text ∧ Json.read text = .error .halfPair
  | _ => False

theorem ofName?_utf8 : Encoding.ofName? "utf-8" = some .utf8 := by decide +kernel

theorem isSize_of_pos {n : Int} (hpos : 1 ≤ n) (hbound : n < Int.pow 2 63) : isSize n = true := by
  have hlow : -Int.pow 2 63 ≤ n := Int.le_trans (by decide) hpos
  rw [isSize, Bool.and_eq_true, decide_eq_true_eq, decide_eq_true_eq]
  exact ⟨hlow, hbound⟩

/-- The texts of the records of a file that is read in the standard way. -/
theorem texts_eq {blockSize : Int} (hsize : isSize blockSize = true) (limits : Limits)
    (bytes : List UInt8) :
    (Configuration.inBlocksOf blockSize limits).texts bytes =
      if limits.holdsBlock blockSize then
        .ok ⟨records (Separator.runOf isRecordEnd).scan (Framing.overlapFor blockSize)
          (Encoding.feed .utf8 blockSize bytes).fault.isNone
          (Encoding.feed .utf8 blockSize bytes).blocks,
          (Encoding.feed .utf8 blockSize bytes).fault.map .fault⟩
      else .error .outOfMemory := by
  have hname : Encoding.ofName? (Configuration.inBlocksOf blockSize limits).encoding =
      some .utf8 := ofName?_utf8
  have hscan : scannerFor (Configuration.inBlocksOf blockSize limits).separator
      (Configuration.inBlocksOf blockSize limits).blockSize = .ok _ :=
    scannerFor_eq parse_standard_separator hsize
  rw [Configuration.texts, hname]
  simp only
  rw [hscan]
  rfl

/-- The texts of the records of a file end with a fault in its bytes, or with the file. -/
theorem texts_cases {blockSize : Int} (hsize : isSize blockSize = true) (limits : Limits)
    (bytes : List UInt8) :
    limits.holdsBlock blockSize = false ∧
        (Configuration.inBlocksOf blockSize limits).texts bytes = .error .outOfMemory ∨
      ∃ chunks, (Configuration.inBlocksOf blockSize limits).texts bytes = .ok chunks ∧
        ∀ ending, chunks.ending = some ending →
          ∃ fault, ending = .fault fault ∧ ¬Encoding.IsUtf8 bytes := by
  rw [texts_eq hsize]
  cases hholds : limits.holdsBlock blockSize with
  | false => exact .inl ⟨rfl, rfl⟩
  | true =>
    refine .inr ⟨_, rfl, fun ending hending => ?_⟩
    obtain ⟨fault, hfault, rfl⟩ := Option.map_eq_some_iff.1 hending
    exact ⟨fault, rfl, Encoding.not_isUtf8_of_fault hfault⟩

theorem wantedRun_refused {wanted : Value} {e : Failure} (h : wantedRun wanted = .error e) :
    e.category = .invalidArgument ∧ ∀ name, wanted = .str name → allBlank name.toList = true := by
  rw [wantedRun.eq_def] at h
  split at h
  · next name =>
    split at h
    · next hblank =>
      cases h
      refine ⟨rfl, fun other hother => ?_⟩
      cases hother
      exact hblank
    · cases h
  · next hno =>
    cases h
    exact ⟨rfl, fun name hname => absurd hname (hno name)⟩

/-- **Reading a history is a row of stages**, and ends at the first that fails. -/
theorem result_parse (cfg : Configuration) (source : Source) (wanted : Value) :
    (parse cfg source wanted).result = (do
      let run ← wantedRun wanted
      let bytes ← source.bytes
      let chunks ← cfg.chunks bytes
      let s ← (ingest run source.shown chunks).result
      s.link.outcome.result) := by
  unfold parse
  cases wantedRun wanted with
  | error e => rfl
  | ok run =>
    cases source.bytes with
    | error e => rfl
    | ok bytes =>
      simp only [ok_bind]
      cases cfg.chunks bytes with
      | error e => rfl
      | ok chunks =>
        rw [ok_bind, Outcome.result_andThen]
        refine congrArg (Except.bind _) (funext fun s => ?_)
        -- the notice that comes last changes nothing in the result
        rw [Outcome.result_andThen]
        cases s.link.outcome.result <;> rfl

/-- A history that is read has a state, which is linked into its tree. -/
theorem exists_of_parse {cfg : Configuration} {source : Source} {wanted : Value} {d : Dag}
    (h : (parse cfg source wanted).result = .ok d) :
    ∃ s, source.Reaches cfg wanted s ∧ s.link.outcome.result = .ok d := by
  rw [result_parse] at h
  obtain ⟨run, hrun, h⟩ := bind_eq_ok_iff.1 h
  obtain ⟨bytes, hbytes, h⟩ := bind_eq_ok_iff.1 h
  obtain ⟨chunks, hchunks, h⟩ := bind_eq_ok_iff.1 h
  obtain ⟨s, hs, hlink⟩ := bind_eq_ok_iff.1 h
  exact ⟨s, ⟨run, bytes, chunks, hrun, Source.bytes_eq_ok_iff.1 hbytes, hchunks, hs⟩, hlink⟩

section

variable {cfg : Configuration} {source : Source} {wanted : Value} {e : Failure}

/-- What getting the bytes of a history is refused for. -/
theorem justified_of_bytes (h : source.bytes = .error e) :
    Justified cfg source wanted e.category := by
  unfold Source.bytes at h
  cases hcontent : source.content with
  | file bytes =>
    rw [hcontent] at h
    cases h
  | closed reason =>
    rw [hcontent] at h
    cases h
    exact .inr ⟨reason, hcontent⟩
  | nothing =>
    rw [hcontent] at h
    cases h
    exact .inr hcontent
  | refused reason =>
    rw [hcontent] at h
    cases h
    exact ⟨reason, hcontent⟩

/-- What reading the records of a history is refused for. -/
theorem justified_of_ingest {run : String} {bytes : List UInt8} {chunks : Chunks}
    (hcontent : source.content = .file bytes) (htexts : cfg.texts bytes = .ok chunks)
    (hending : ∀ ending, chunks.ending = some ending →
      ∃ fault, ending = .fault fault ∧ ¬Encoding.IsUtf8 bytes)
    (h : (ingest run source.shown (chunks.within cfg.limits.levels)).result = .error e) :
    Justified cfg source wanted e.category := by
  rcases ingest_refused h with ⟨text, hmem, htext⟩ | ⟨ending, hsome, rfl⟩
  · have hchunks : cfg.chunks bytes = .ok (chunks.within cfg.limits.levels) := by
      rw [Configuration.chunks, htexts]
      rfl
    have hholds : source.Holds cfg text := ⟨bytes, _, hcontent, hchunks, hmem⟩
    have hrefused := judgeText_refused htext
    generalize e.category = category at hrefused
    cases hrefused with
    | malformed h => exact ⟨text, hholds, h⟩
    | tooLong h => exact ⟨text, hholds, h⟩
    | halfPair h => exact ⟨text, hholds, h⟩
  · rcases Chunks.ending_within hsome with ⟨text, hmem, isList, hdeep, rfl⟩ | hsome
    · exact ⟨text, ⟨bytes, chunks, hcontent, htexts, hmem⟩, by simp [hdeep]⟩
    · obtain ⟨fault, rfl, hbytes⟩ := hending ending hsome
      exact .inl ⟨bytes, hcontent, hbytes⟩

/-- What linking the records of a history is refused for. -/
theorem justified_of_link {s : State} (hreaches : source.Reaches cfg wanted s)
    (h : s.link.outcome.result = .error e) : Justified cfg source wanted e.category := by
  obtain ⟨run, bytes, chunks, -, -, -, hingest⟩ := id hreaches
  rcases (sound_ingest hingest).1.link_refused h with ⟨hcategory, hincomplete⟩ | ⟨rfl, hinfinite⟩
  · rw [hcategory]
    exact ⟨s, hreaches, hincomplete⟩
  · exact ⟨s, hreaches, hinfinite⟩

end

/-- A history that is refused is so for a cause. -/
theorem justified_of_parse {blockSize : Int} (hpos : 1 ≤ blockSize)
    (hbound : blockSize < Int.pow 2 63) {limits : Limits} {source : Source} {wanted : Value}
    {e : Failure} (h : (parse (.inBlocksOf blockSize limits) source wanted).result = .error e) :
    Justified (.inBlocksOf blockSize limits) source wanted e.category := by
  rw [result_parse] at h
  rcases bind_eq_error_iff.1 h with hrun | ⟨run, hrun, h⟩
  · obtain ⟨hcategory, hblank⟩ := wantedRun_refused hrun
    rw [hcategory]
    exact .inl hblank
  rcases bind_eq_error_iff.1 h with hbytes | ⟨bytes, hbytes, h⟩
  · exact justified_of_bytes hbytes
  have hcontent := Source.bytes_eq_ok_iff.1 hbytes
  rcases texts_cases (isSize_of_pos hpos hbound) limits bytes with
    ⟨hholds, htexts⟩ | ⟨chunks, htexts, hending⟩
  · rw [Configuration.chunks, htexts] at h
    cases h
    exact hholds
  have hchunks : (Configuration.inBlocksOf blockSize limits).chunks bytes =
      .ok (chunks.within limits.levels) := by
    rw [Configuration.chunks, htexts]
    rfl
  rw [hchunks, ok_bind] at h
  -- either reading the records fails, or linking them does
  rcases bind_eq_error_iff.1 h with hread | ⟨s, hs, hlink⟩
  · exact justified_of_ingest hcontent htexts hending hread
  · exact justified_of_link ⟨run, bytes, _, hrun, hcontent, hchunks, hs⟩ hlink

/-- A history with one record, of a run that started at no finite time. -/
def infiniteStart : Source where
  asked := some "history"
  shown := "history"
  content := .file (("\x7b\"entity\":\"dag_1\",\"entitytype\":\"DAG\"," ++
    "\"otherInfo\":\x7b\"startTime\":Infinity\x7d\x7d").toList.flatMap String.utf8EncodeChar)

theorem scannerFor_out_of_range {separator : String} {pattern : Separator.Pattern} {blockSize : Int}
    (hsep : Separator.parse separator = .ok pattern) (hsize : isSize blockSize = false) :
    scannerFor separator blockSize = .error .blockSizeOutOfRange := by
  simp [scannerFor, scannerOf, hsep, hsize, bind, Except.bind]

/-- No history is read in blocks of a size that no text could have. -/
theorem parse_out_of_range {blockSize : Int} (hsize : isSize blockSize = false) (limits : Limits)
    {source : Source} {wanted : Value} {run : String} (hrun : wantedRun wanted = .ok run)
    {bytes : List UInt8} (hcontent : source.content = .file bytes) :
    (parse (.inBlocksOf blockSize limits) source wanted).result = .error .blockSizeOutOfRange ∧
      ∀ s, ¬source.Reaches (.inBlocksOf blockSize limits) wanted s := by
  have hchunks : ∀ bytes, (Configuration.inBlocksOf blockSize limits).chunks bytes =
      .error .blockSizeOutOfRange := by
    intro bytes
    have hname : Encoding.ofName? (Configuration.inBlocksOf blockSize limits).encoding =
        some .utf8 := ofName?_utf8
    have hscan : scannerFor (Configuration.inBlocksOf blockSize limits).separator
        (Configuration.inBlocksOf blockSize limits).blockSize = .error .blockSizeOutOfRange :=
      scannerFor_out_of_range parse_standard_separator hsize
    rw [Configuration.chunks, Configuration.texts, hname]
    simp only
    rw [hscan]
    rfl
  refine ⟨?_, ?_⟩
  · rw [result_parse, hrun, Source.bytes_eq_ok_iff.2 hcontent, ok_bind, ok_bind, hchunks]
    rfl
  · rintro s ⟨run, bytes, chunks, -, -, hok, -⟩
    rw [hchunks] at hok
    cases hok

/-- A history with one record, of a run. -/
def oneRun : Source where
  asked := some "history"
  shown := "history"
  content := .file ((bareText "dag_1" "DAG").flatMap String.utf8EncodeChar)

end RunHistory
