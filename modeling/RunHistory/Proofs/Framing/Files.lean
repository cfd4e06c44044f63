import RunHistory.Proofs.Log
import RunHistory.Proofs.Refusals

/-!
# The records of a file

A file in UTF-8 is read in the standard way: its line ends become line feeds, it comes in blocks,
and records end at line ends and at U+0001.  Since a line end ends a record in whatever form, the
records are the pieces between the separators in the text that the bytes write.

## Main results

* `Framing.pieces_lineFeeds`: line feeds for line ends leave the pieces as they are.
* `Framing.pieces_append_of_ended`: a text that is ended, and another one after it.
* `chunks_utf8`: **the records of a file are the pieces of its text.**
* `chunks_log`: the records of a log are the texts of its lines.
-/

namespace RunHistory

open Separator (RunOf runOf_cons runOf_nil)
open Encoding (LineFed lineFeeds lineFed_lineFeeds)

namespace Framing

/-! ### Texts one after the other -/

section

variable {accepts : Char → Bool}

theorem pieces_cut (a b : List Char) {c : Char} (hc : accepts c = true) :
    pieces accepts (a ++ c :: b) = pieces accepts a ++ pieces accepts b := by
  unfold pieces
  rw [List.splitOnP_append_cons a b hc, nonBlank_append]

theorem pieces_cons {c : Char} (hc : accepts c = true) (cs : List Char) :
    pieces accepts (c :: cs) = pieces accepts cs :=
  pieces_runOf_append (runOf_cons.2 ⟨hc, runOf_nil⟩) cs

/-- A text that is ended by a separator, and another one after it. -/
theorem pieces_append_of_ended {a : List Char} (h : ∀ c, a.getLast? = some c → accepts c = true)
    (b : List Char) : pieces accepts (a ++ b) = pieces accepts a ++ pieces accepts b := by
  rcases List.eq_nil_or_concat a with rfl | ⟨front, c, rfl⟩
  · rfl
  · have hc : accepts c = true := h c (by simp)
    have hfront : pieces accepts (front ++ [c]) = pieces accepts front ++ pieces accepts [] :=
      pieces_cut front [] hc
    rw [List.concat_eq_append, List.append_assoc, List.singleton_append, pieces_cut front b hc,
      hfront, show pieces accepts [] = [] from rfl, List.append_nil]

end

/-! ### Line feeds for line ends -/

theorem pieces_of_lineFed {cs fed : List Char} (h : LineFed cs fed) :
    ∀ front, pieces isRecordEnd (front ++ fed) = pieces isRecordEnd (front ++ cs) := by
  have hreturn : isRecordEnd '\r' = true := rfl
  have hfeed : isRecordEnd '\n' = true := rfl
  induction h with
  | nil =>
    intro front
    rfl
  | @pair cs fed _ ih =>
    intro front
    rw [pieces_cut front fed hfeed, pieces_cut front ('\n' :: cs) hreturn, pieces_cons hfeed]
    exact congrArg _ (ih [])
  | @single cs fed _ _ ih =>
    intro front
    rw [pieces_cut front fed hfeed, pieces_cut front cs hreturn]
    exact congrArg _ (ih [])
  | @other c cs fed _ _ ih =>
    -- whether the character ends a record does not matter
    intro front
    have hrest := ih (front ++ [c])
    rwa [List.append_assoc, List.append_assoc] at hrest

/-- Line feeds for line ends leave the pieces as they are. -/
theorem pieces_lineFeeds (cs : List Char) :
    pieces isRecordEnd (lineFeeds cs) = pieces isRecordEnd cs :=
  pieces_of_lineFed (lineFed_lineFeeds cs) []

/-- A run in front of the text with line feeds comes of one that is not shorter. -/
theorem exists_run_of_prefix {cs fed : List Char} (h : LineFed cs fed) :
    ∀ run, run <+: fed → RunOf isRecordEnd run →
      ∃ run', run' <+: cs ∧ RunOf isRecordEnd run' ∧ run.length ≤ run'.length := by
  have hreturn : isRecordEnd '\r' = true := rfl
  have hfeed : isRecordEnd '\n' = true := rfl
  induction h with
  | nil =>
    intro run hprefix _
    rw [List.prefix_nil.1 hprefix]
    exact ⟨[], List.prefix_rfl, runOf_nil, Nat.le_refl 0⟩
  | @pair cs fed _ ih =>
    intro run hprefix hrun
    cases run with
    | nil => exact ⟨[], List.nil_prefix, runOf_nil, Nat.le_refl 0⟩
    | cons x run =>
      obtain ⟨run', hprefix', hrun', hle⟩ :=
        ih run (List.cons_prefix_cons.1 hprefix).2 (runOf_cons.1 hrun).2
      refine ⟨'\r' :: '\n' :: run', ?_, runOf_cons.2 ⟨hreturn, runOf_cons.2 ⟨hfeed, hrun'⟩⟩, ?_⟩
      · exact List.cons_prefix_cons.2 ⟨rfl, List.cons_prefix_cons.2 ⟨rfl, hprefix'⟩⟩
      · simp only [List.length_cons]
        omega
  | @single cs fed _ _ ih =>
    intro run hprefix hrun
    cases run with
    | nil => exact ⟨[], List.nil_prefix, runOf_nil, Nat.le_refl 0⟩
    | cons x run =>
      obtain ⟨run', hprefix', hrun', hle⟩ :=
        ih run (List.cons_prefix_cons.1 hprefix).2 (runOf_cons.1 hrun).2
      refine ⟨'\r' :: run', List.cons_prefix_cons.2 ⟨rfl, hprefix'⟩, runOf_cons.2 ⟨hreturn, hrun'⟩,
        ?_⟩
      exact Nat.succ_le_succ hle
  | @other c cs fed _ _ ih =>
    intro run hprefix hrun
    cases run with
    | nil => exact ⟨[], List.nil_prefix, runOf_nil, Nat.le_refl 0⟩
    | cons x run =>
      obtain ⟨rfl, hrest⟩ := List.cons_prefix_cons.1 hprefix
      obtain ⟨hx, hrun⟩ := runOf_cons.1 hrun
      obtain ⟨run', hprefix', hrun', hle⟩ := ih run hrest hrun
      refine ⟨x :: run', List.cons_prefix_cons.2 ⟨rfl, hprefix'⟩, runOf_cons.2 ⟨hx, hrun'⟩, ?_⟩
      exact Nat.succ_le_succ hle

theorem RunsUpTo.of_suffix {accepts : Char → Bool} {most : Nat} {text rest : List Char}
    (h : RunsUpTo accepts most text) (hrest : rest <:+ text) : RunsUpTo accepts most rest := by
  intro run hin hrun
  exact h run (hin.trans hrest.isInfix) hrun

theorem runsUpTo_cons {accepts : Char → Bool} {most : Nat} {c : Char} {rest : List Char}
    (hfront : ∀ run, run <+: c :: rest → RunOf accepts run → run.length ≤ most)
    (hrest : RunsUpTo accepts most rest) : RunsUpTo accepts most (c :: rest) := by
  intro run hin hrun
  rcases List.infix_cons_iff.1 hin with hprefix | hinfix
  · exact hfront run hprefix hrun
  · exact hrest run hinfix hrun

/-- Line feeds for line ends make no run longer. -/
theorem RunsUpTo.of_lineFed {most : Nat} {cs fed : List Char} (hfed : LineFed cs fed)
    (h : RunsUpTo isRecordEnd most cs) : RunsUpTo isRecordEnd most fed := by
  have hfront : ∀ {cs fed : List Char}, LineFed cs fed → RunsUpTo isRecordEnd most cs →
      ∀ run, run <+: fed → RunOf isRecordEnd run → run.length ≤ most := by
    intro cs fed hfed h run hprefix hrun
    obtain ⟨run', hprefix', hrun', hle⟩ := exists_run_of_prefix hfed run hprefix hrun
    exact hle.trans (h run' hprefix'.isInfix hrun')
  induction hfed with
  | nil => exact h
  | @pair cs fed hrest ih =>
    apply runsUpTo_cons (hfront (.pair hrest) h)
    exact ih (h.of_suffix (List.suffix_append ['\r', '\n'] cs))
  | @single cs fed head hrest ih =>
    apply runsUpTo_cons (hfront (.single head hrest) h)
    exact ih (h.of_suffix (List.suffix_cons '\r' cs))
  | @other c cs fed ne hrest ih =>
    apply runsUpTo_cons (hfront (.other ne hrest) h)
    exact ih (h.of_suffix (List.suffix_cons c cs))

end Framing

/-! ### Files -/

open Framing in
/-- **The records of a file are the pieces of its text**, up to one that is nested too deep, in
blocks of any size that there is memory for, when no run of separator characters is longer than what
is kept of a window. -/
theorem chunks_utf8 {blockSize : Int} (hpos : 1 ≤ blockSize) (hsize : isSize blockSize = true)
    {limits : Limits} (hholds : limits.holdsBlock blockSize = true) {text : List Char}
    (hruns : RunsUpTo isRecordEnd (overlapFor blockSize) text) :
    (Configuration.inBlocksOf blockSize limits).chunks (text.flatMap String.utf8EncodeChar) =
      .ok ((Chunks.mk (pieces isRecordEnd text) none).within limits.levels) := by
  have hoverlap : 0 < overlapFor blockSize := by
    rw [overlapFor, leastOverlap]
    omega
  have hwhole : (Encoding.textBlocks blockSize (lineFeeds text)).flatten = lineFeeds text :=
    Encoding.flatten_textBlocks hpos (lineFeeds text)
  have hfound := records_eq_pieces hoverlap
    (hwhole.symm ▸ RunsUpTo.of_lineFed (lineFed_lineFeeds text) hruns)
  rw [hwhole, pieces_lineFeeds] at hfound
  rw [Configuration.chunks, texts_eq hsize, if_pos hholds, Encoding.feed_utf8, Option.isNone_none,
    hfound]
  rfl

/-- The texts of lines are nested as deep as the objects that they tell of. -/
theorem tooDeep?_of_tells {most levels : Nat} {objects : List (Table Value)} {lines : List Line}
    (h : List.Forall₂ (Line.Tells most) objects lines)
    (hdepth : ∀ o ∈ objects, Json.depth (.object o.entries) ≤ levels) :
    ∀ text ∈ lines.map Line.text, Json.tooDeep? levels text = none := by
  induction h with
  | nil => simp
  | @cons o l objects lines htells _ ih =>
    intro text htext
    rcases List.mem_cons.1 htext with rfl | htext
    · exact Json.tooDeep?_of_writes htells.text (hdepth o List.mem_cons_self)
    · exact ih (fun o' ho' => hdepth o' (List.mem_cons_of_mem o ho')) text htext

/-- **The records of a log are the texts of its lines.** -/
theorem chunks_log {blockSize : Int} (hpos : 1 ≤ blockSize) (hsize : isSize blockSize = true)
    {limits : Limits} (hholds : limits.holdsBlock blockSize = true) {objects : List (Table Value)}
    {lines : List Line}
    (h : List.Forall₂ (Line.Tells (Framing.overlapFor blockSize)) objects lines)
    (hdepth : ∀ o ∈ objects, Json.depth (.object o.entries) ≤ limits.levels) :
    (Configuration.inBlocksOf blockSize limits).chunks
      ((logOf lines).flatMap String.utf8EncodeChar) = .ok ⟨lines.map Line.text, none⟩ := by
  rw [chunks_utf8 hpos hsize hholds (runsUpTo_logOf h), pieces_logOf h,
    Chunks.within_eq (tooDeep?_of_tells h hdepth)]

end RunHistory
