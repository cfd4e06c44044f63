import RunHistory.Proofs.Framing.ClassRuns
import RunHistory.Proofs.Json.Printed
import RunHistory.Proofs.Steps
import RunHistory.Record.Routing

/-!
# Logs that were written

A log is a row of lines: the JSON text of an object, and the separator characters that end it.  No
JSON text has a separator character in it, since those would have to be escaped in a string and are
no blanks.  So the records of a log are its texts, in blocks of whatever size, and decoding them
gives the objects back, in order and with their fields in order.

## Main definitions

* `Line`, `logOf`: a line, and the text of a log.

## Main results

* `Json.Writes.freeOf`: **no JSON text has a separator character in it.**
* `records_logOf`: the records of a log are its texts.
* `readText_log`: **a log is read back.**
-/

namespace RunHistory

open Separator (FreeOf RunOf freeOf_nil freeOf_cons freeOf_append)

/-! ### Texts without separator characters -/

namespace Json

theorem freeOf_singleton {c : Char} (h : isRecordEnd c = false) : FreeOf isRecordEnd [c] :=
  freeOf_cons.2 ⟨h, freeOf_nil⟩

theorem IsGap.freeOf {gap : List Char} (h : IsGap gap) : FreeOf isRecordEnd gap := by
  intro c hc
  rcases h c hc with rfl | rfl <;> rfl

theorem IsHexDigit.not_isRecordEnd {n : Nat} {c : Char} (h : IsHexDigit n c) :
    isRecordEnd c = false := by
  have hall : ∀ n < 16, isRecordEnd (Nat.digitChar n) = false ∧
      isRecordEnd (Nat.digitChar n).toUpper = false := by decide
  obtain ⟨hlt, rfl | rfl⟩ := h
  · exact (hall n hlt).1
  · exact (hall n hlt).2

theorem WritesUnit.freeOf {n : Nat} {ds : List Char} (h : WritesUnit n ds) :
    FreeOf isRecordEnd ds := by
  obtain ⟨ha, hb, hc, hd⟩ := h
  simp [freeOf_cons, ha.not_isRecordEnd, hb.not_isRecordEnd, hc.not_isRecordEnd,
    hd.not_isRecordEnd]

theorem WritesChar.freeOf {c : Char} {t : List Char} (h : WritesChar c t) :
    FreeOf isRecordEnd t := by
  have hbackslash : isRecordEnd '\\' = false := rfl
  have hletter : isRecordEnd 'u' = false := rfl
  cases h with
  | plain hcontrol hquote hbackslash =>
    apply freeOf_singleton
    cases hend : isRecordEnd c with
    | false => rfl
    | true =>
      -- the separator characters are control characters
      simp only [isRecordEnd, Bool.or_eq_true, beq_iff_eq] at hend
      rcases hend with (rfl | rfl) | rfl <;> exact absurd hcontrol (by decide)
  | short h =>
    have hall : ∀ e ∈ shortEscapes, isRecordEnd e.1 = false := by decide
    exact freeOf_cons.2 ⟨hbackslash, freeOf_singleton (hall _ h)⟩
  | unit h => simp [freeOf_cons, hbackslash, hletter, h.freeOf]
  | pair beyond high low =>
    simp [freeOf_cons, freeOf_append, hbackslash, hletter, high.freeOf, low.freeOf]

theorem WritesText.freeOf {cs t : List Char} (h : WritesText cs t) : FreeOf isRecordEnd t := by
  induction h with
  | nil => exact freeOf_nil
  | cons head _ ih => exact freeOf_append.2 ⟨head.freeOf, ih⟩

theorem WritesString.freeOf {s : String} {t : List Char} (h : WritesString s t) :
    FreeOf isRecordEnd t := by
  obtain ⟨u, hu, rfl⟩ := h
  have hquote : FreeOf isRecordEnd ['"'] := freeOf_singleton rfl
  exact freeOf_cons.2 ⟨rfl, freeOf_append.2 ⟨hu.freeOf, hquote⟩⟩

theorem freeOf_toDigits (n : Nat) : FreeOf isRecordEnd (Nat.toDigits 10 n) := by
  intro c hc
  have hfigure : isFigure c = true := isFigure_of_mem_toDigits hc
  cases hend : isRecordEnd c with
  | false => rfl
  | true =>
    simp only [isRecordEnd, Bool.or_eq_true, beq_iff_eq] at hend
    rcases hend with (rfl | rfl) | rfl <;> cases hfigure

/-- Between two brackets, after a gap. -/
theorem freeOf_bracketed {opening closing : Char} (hopening : isRecordEnd opening = false)
    (hclosing : isRecordEnd closing = false) {gap t : List Char} (hgap : IsGap gap)
    (h : FreeOf isRecordEnd t) : FreeOf isRecordEnd (opening :: (gap ++ (t ++ [closing]))) := by
  apply freeOf_cons.2
  exact ⟨hopening, freeOf_append.2 ⟨hgap.freeOf, freeOf_append.2 ⟨h, freeOf_singleton hclosing⟩⟩⟩

/-- On both sides of a comma or a colon, with gaps around it. -/
theorem freeOf_parted {c : Char} (hc : isRecordEnd c = false) {t gap gap' u : List Char}
    (ht : FreeOf isRecordEnd t) (hgap : IsGap gap) (hgap' : IsGap gap')
    (hu : FreeOf isRecordEnd u) : FreeOf isRecordEnd (t ++ (gap ++ c :: (gap' ++ u))) := by
  apply freeOf_append.2
  refine ⟨ht, freeOf_append.2 ⟨hgap.freeOf, freeOf_cons.2 ⟨hc, ?_⟩⟩⟩
  exact freeOf_append.2 ⟨hgap'.freeOf, hu⟩

mutual

/-- **No JSON text has a separator character in it.** -/
theorem Writes.freeOf : ∀ {v : Value} {t : List Char}, Writes v t → FreeOf isRecordEnd t
  | _, _, .null => by simp [freeOf_cons, isRecordEnd]
  | _, _, .yes => by simp [freeOf_cons, isRecordEnd]
  | _, _, .no => by simp [freeOf_cons, isRecordEnd]
  | _, _, .natural _ => freeOf_toDigits _
  | _, _, .negative _ => freeOf_cons.2 ⟨rfl, freeOf_toDigits _⟩
  | _, _, .str text => text.freeOf
  | _, _, .emptyList gaps => freeOf_bracketed rfl rfl gaps freeOf_nil
  | _, _, .list gaps parts => freeOf_bracketed rfl rfl gaps parts.freeOf
  | _, _, .emptyObject gaps => freeOf_bracketed rfl rfl gaps freeOf_nil
  | _, _, .object gaps _ parts => freeOf_bracketed rfl rfl gaps parts.freeOf

theorem WritesItems.freeOf : ∀ {items : List Value} {t : List Char}, WritesItems items t →
    FreeOf isRecordEnd t
  | _, _, .last item gaps => freeOf_append.2 ⟨item.freeOf, gaps.freeOf⟩
  | _, _, .cons item gaps gaps' others =>
    freeOf_parted rfl item.freeOf gaps gaps' others.freeOf

theorem WritesField.freeOf : ∀ {f : String × Value} {t : List Char}, WritesField f t →
    FreeOf isRecordEnd t
  | _, _, .field label gaps gaps' value =>
    freeOf_parted rfl label.freeOf gaps gaps' value.freeOf

theorem WritesFields.freeOf : ∀ {fields : List (String × Value)} {t : List Char},
    WritesFields fields t → FreeOf isRecordEnd t
  | _, _, .last field gaps => freeOf_append.2 ⟨field.freeOf, gaps.freeOf⟩
  | _, _, .cons field gaps gaps' others =>
    freeOf_parted rfl field.freeOf gaps gaps' others.freeOf

end

theorem WritesWhole.freeOf {v : Value} {text : List Char} (h : WritesWhole v text) :
    FreeOf isRecordEnd text := by
  obtain ⟨gap, t, gap', hgap, ht, hgap', rfl⟩ := h
  exact freeOf_append.2 ⟨hgap.freeOf, freeOf_append.2 ⟨ht.freeOf, hgap'.freeOf⟩⟩

/-- The text of an object is not blank. -/
theorem WritesWhole.not_allBlank {fields : List (String × Value)} {text : List Char}
    (h : WritesWhole (.object fields) text) : allBlank text = false := by
  obtain ⟨gap, t, gap', -, ht, -, rfl⟩ := h
  have hbrace : '\x7b' ∈ gap ++ (t ++ gap') := by
    cases ht <;> simp
  rw [allBlank, List.all_eq_false]
  exact ⟨_, hbrace, by decide⟩

end Json

/-! ### Decoding -/

/-- **The text of an object is decoded as the object**, with its fields in order. -/
theorem Record.decode_of_writes {o : Table Value} {text : List Char}
    (h : Json.WritesWhole (.object o.entries) text) : Record.decode text = .ok o := by
  have hobject : (Value.object o.entries).object? = some o := by
    have hentries : (Table.ofList o.entries).entries = o.entries := by
      rw [Table.ofList, Table.entries_setAll .empty o.entries (by simpa using o.nodup)]
      rfl
    rw [Value.object?, Table.ext hentries]
  rw [Record.decode, Json.read_of_writes h]
  dsimp only
  rw [hobject]

/-! ### Lines -/

/-- A line of a log. -/
structure Line where
  /-- The text of a record. -/
  text : List Char
  /-- What ends the line. -/
  ending : List Char

/-- The text of a log. -/
def logOf (lines : List Line) : List Char := lines.flatMap fun l => l.text ++ l.ending

/-- A line that tells of an object and is ended by a run of separator characters, of which there are
not too many. -/
structure Line.Tells (most : Nat) (o : Table Value) (l : Line) : Prop where
  /-- The text is one of the object. -/
  text : Json.WritesWhole (.object o.entries) l.text
  /-- The line is ended. -/
  ended : l.ending ≠ []
  /-- It is ended by separator characters. -/
  run : RunOf isRecordEnd l.ending
  /-- There are not too many of them. -/
  length_le : l.ending.length ≤ most

namespace Framing

variable {accepts : Char → Bool} {most : Nat}

theorem runsUpTo_nil : RunsUpTo accepts most [] := by
  intro run hin _
  rw [List.infix_nil.1 hin]
  exact Nat.zero_le most

/-- A run that begins in a run ends with it. -/
theorem length_le_of_begins {run sep rest : List Char} (hrun : RunOf accepts run)
    (hstop : Separator.Stops accepts rest) (h : run <+: sep ++ rest) : run.length ≤ sep.length := by
  induction sep generalizing run with
  | nil =>
    cases run with
    | nil => exact Nat.le_refl 0
    | cons c run =>
      obtain ⟨later, heq⟩ := h
      have hhead : rest.head? = some c := by
        rw [← List.nil_append rest, ← heq]
        rfl
      have hc : accepts c = true := hrun c List.mem_cons_self
      rw [hstop c hhead] at hc
      cases hc
  | cons x sep ih =>
    cases run with
    | nil => exact Nat.zero_le _
    | cons c run =>
      have hrest := ih (Separator.runOf_cons.1 hrun).2 (List.cons_prefix_cons.1 h).2
      exact Nat.succ_le_succ hrest

/-- Runs are not longer for a part without the class, or a run that is not too long, in front. -/
theorem RunsUpTo.append {text sep rest : List Char} (h : RunsUpTo accepts most rest)
    (hfree : FreeOf accepts text) (hlength : sep.length ≤ most)
    (hstop : Separator.Stops accepts rest) : RunsUpTo accepts most (text ++ (sep ++ rest)) := by
  have hsep : RunsUpTo accepts most (sep ++ rest) := by
    induction sep with
    | nil => exact h
    | cons x sep ih =>
      intro run hin hrun
      rcases List.infix_cons_iff.1 hin with hprefix | hinfix
      · exact (length_le_of_begins hrun hstop hprefix).trans hlength
      · exact ih (Nat.le_of_succ_le hlength) run hinfix hrun
  induction text with
  | nil => exact hsep
  | cons c text ih =>
    obtain ⟨hc, htext⟩ := freeOf_cons.1 hfree
    intro run hin hrun
    rcases List.infix_cons_iff.1 hin with hprefix | hinfix
    · cases run with
      | nil => exact Nat.zero_le _
      | cons x run =>
        obtain rfl := (List.cons_prefix_cons.1 hprefix).1
        rw [hrun x List.mem_cons_self] at hc
        cases hc
    · exact ih htext run hinfix hrun

/-- Without runs that are too long, the records are the pieces of the text. -/
theorem records_eq_pieces {overlap : Nat} (hpos : 0 < overlap) {blocks : List (List Char)}
    (hruns : RunsUpTo accepts overlap blocks.flatten) :
    records (Separator.runOf accepts).scan overlap true blocks = pieces accepts blocks.flatten := by
  obtain ⟨torn, hfound, hpieces, hvalid⟩ := records_scan_runOf accepts hpos blocks
  have hsame : torn.map Torn.text = torn.map Torn.piece := by
    refine List.map_congr_left fun t ht => ?_
    have hleak : t.leak = [] := by
      by_contra hne
      exact (hvalid t ht).2 hne hruns
    rw [Torn.text, hleak, List.append_nil]
  rw [hfound, hpieces, hsame]

end Framing

/-! ### Whole logs -/

section

variable {most : Nat} {objects : List (Table Value)} {lines : List Line}

/-- A log begins with a text, unless it is empty. -/
theorem stops_logOf (h : List.Forall₂ (Line.Tells most) objects lines) :
    Separator.Stops isRecordEnd (logOf lines) := by
  cases h with
  | nil =>
    intro c hc
    cases hc
  | @cons o l objects lines htells hothers =>
    have hfree := htells.text.freeOf
    have hblank := htells.text.not_allBlank
    intro c hc
    obtain ⟨text, ending⟩ := l
    cases text with
    | nil => cases hblank
    | cons x text =>
      have hx : x = c := Option.some.inj hc
      exact hx ▸ hfree x List.mem_cons_self

theorem runsUpTo_logOf (h : List.Forall₂ (Line.Tells most) objects lines) :
    Framing.RunsUpTo isRecordEnd most (logOf lines) := by
  induction h with
  | nil => exact Framing.runsUpTo_nil
  | @cons o l objects lines htells hothers ih =>
    show Framing.RunsUpTo isRecordEnd most ((l.text ++ l.ending) ++ logOf lines)
    rw [List.append_assoc]
    exact ih.append htells.text.freeOf htells.length_le (stops_logOf hothers)

theorem pieces_logOf (h : List.Forall₂ (Line.Tells most) objects lines) :
    Framing.pieces isRecordEnd (logOf lines) = lines.map Line.text := by
  induction h with
  | nil => rfl
  | @cons o l objects lines htells hothers ih =>
    have hone : Framing.nonBlank [l.text] = [l.text] := by
      simp [Framing.nonBlank, htells.text.not_allBlank]
    show Framing.pieces isRecordEnd ((l.text ++ l.ending) ++ logOf lines) = _
    rw [List.append_assoc, Framing.pieces_append_run htells.text.freeOf htells.run htells.ended,
      hone, ih]
    rfl

theorem mapM_decode_texts (h : List.Forall₂ (Line.Tells most) objects lines) :
    (lines.map Line.text).mapM Record.decode = .ok objects := by
  rw [mapM_eq_ok_iff, List.forall₂_map_left_iff]
  exact h.flip.imp fun l o htells => Record.decode_of_writes htells.text

end

/-- **A log is read back.**  Whatever objects its lines tell of and however they are written, and
whatever the separator characters are that end the lines, as long as there are not more of them than
are kept of a window: in blocks of any size, the records are the texts of the lines, and they are
decoded as the objects, in order. -/
theorem readText_log {blockSize : Int} (hsize : 1 ≤ blockSize) {objects : List (Table Value)}
    {lines : List Line}
    (h : List.Forall₂ (Line.Tells (Framing.overlapFor blockSize)) objects lines) :
    ∃ found,
      found = records (Separator.runOf isRecordEnd).scan (Framing.overlapFor blockSize) true
        (Encoding.textBlocks blockSize (logOf lines)) ∧
      (isSize blockSize = true →
        readText Configuration.standard.separator blockSize (logOf lines) = .ok found) ∧
      found.mapM Record.decode = .ok objects := by
  have hpos : 0 < Framing.overlapFor blockSize := by
    rw [Framing.overlapFor, Framing.leastOverlap]
    omega
  have hwhole : (Encoding.textBlocks blockSize (logOf lines)).flatten = logOf lines :=
    Encoding.flatten_textBlocks hsize (logOf lines)
  have hfound := Framing.records_eq_pieces hpos (hwhole.symm ▸ runsUpTo_logOf h)
  rw [hwhole, pieces_logOf h] at hfound
  refine ⟨_, rfl, fun hs => readText_eq parse_standard_separator hs (logOf lines), ?_⟩
  rw [hfound]
  exact mapM_decode_texts h

/-- A line with an object as it is printed. -/
def printedLine (o : Table Value) (ending : List Char) : Line :=
  ⟨Json.printed (.object o.entries), ending⟩

theorem printedLine_tells {o : Table Value} (h : Json.Plain (.object o.entries)) {most : Nat}
    {ending : List Char} (hended : ending ≠ []) (hrun : RunOf isRecordEnd ending)
    (hlength : ending.length ≤ most) : (printedLine o ending).Tells most o := by
  refine ⟨⟨[], _, [], Json.isGap_nil, Json.writes_printed _ h, Json.isGap_nil, ?_⟩, hended, hrun,
    hlength⟩
  rw [List.append_nil]
  rfl

/-- An object with a little of everything. -/
def sampleObject : Table Value where
  entries := [("entity", .str "dag_1"), ("text", .str "\"\\/\n\x01 é😀"),
    ("list", .list [.int 0, .int (-20), .null, .bool true, .list [], .object []]),
    ("object", .object [("b", .int 1), ("a", .bool false)])]
  nodup := by decide

theorem readText_log_in_single_characters :
    ∃ found, readText Configuration.standard.separator 1
        (logOf [printedLine sampleObject ['\n', '\x01'], printedLine .empty ['\r', '\n']]) =
      .ok found ∧ found.mapM Record.decode = .ok [sampleObject, .empty] := by
  have htwenty : (Nat.toDigits 10 20).length ≤ Json.maxDigits := by decide
  have hone : (Nat.toDigits 10 1).length ≤ Json.maxDigits := by decide
  have hzero : (Nat.toDigits 10 0).length ≤ Json.maxDigits := by decide
  have hplain : Json.Plain (.object sampleObject.entries) :=
    ⟨sampleObject.nodup, trivial, trivial,
      ⟨hzero, htwenty, trivial, trivial, trivial, ⟨List.nodup_nil, trivial⟩, trivial⟩,
      ⟨by decide, hone, trivial, trivial⟩, trivial⟩
  have hplain' : Json.Plain (.object (Table.empty : Table Value).entries) :=
    ⟨List.nodup_nil, trivial⟩
  have hrun : RunOf isRecordEnd ['\n', '\x01'] :=
    Separator.runOf_cons.2 ⟨rfl, Separator.runOf_cons.2 ⟨rfl, Separator.runOf_nil⟩⟩
  have hrun' : RunOf isRecordEnd ['\r', '\n'] :=
    Separator.runOf_cons.2 ⟨rfl, Separator.runOf_cons.2 ⟨rfl, Separator.runOf_nil⟩⟩
  have hfirst : (printedLine sampleObject ['\n', '\x01']).Tells (Framing.overlapFor 1)
      sampleObject := printedLine_tells hplain (by decide) hrun (by decide)
  have hsecond : (printedLine .empty ['\r', '\n']).Tells (Framing.overlapFor 1) .empty :=
    printedLine_tells hplain' (by decide) hrun' (by decide)
  obtain ⟨found, -, hread, hdecode⟩ :=
    readText_log (show (1 : Int) ≤ 1 by decide) (.cons hfirst (.cons hsecond .nil))
  exact ⟨found, hread (by decide), hdecode⟩

end RunHistory
