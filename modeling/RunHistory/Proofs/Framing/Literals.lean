import RunHistory.Proofs.Framing.Conservation
import RunHistory.Proofs.Separator.Literals

/-!
# Records between occurrences of a fixed text

When records are separated by a fixed text that is not longer than what is kept of a window, cutting
a text window by window gives the same records as cutting the whole text at once, at the occurrences
of the separator that do not overlap, from left to right.

A separator that overlaps itself could be found elsewhere when the scan starts elsewhere.  It is
not, since no occurrence ever begins inside what was set aside, whatever blocks follow: what is left
of a window has no occurrence but possibly one at its very end, and that one is kept for the next
window.

## Main definitions

* `Framing.CutAt`: a text cut at the occurrences of another.
* `Framing.Clear`: no occurrence begins inside what was set aside.

## Main results

* `Framing.CutAt.eq`: a text is cut in one way only.
* `Framing.Clear.shift`: reading a block leaves no occurrence in what was set aside.
* `Framing.exists_cutAt`: reading the blocks that are left, whatever was read before.
* `readText_literal`: **records are the pieces between the occurrences of the separator.**
-/

namespace RunHistory

open Separator (OccursAt EndsFirst TextSpans)

namespace Framing

variable {s : List Char}

/-! ### Cutting a text -/

/-- A text cut at the occurrences of another, from left to right: each piece ends where the first
occurrence after the one before begins, and in the last piece there is none. -/
inductive CutAt (s : List Char) : List Char → List (List Char) → Prop where
  /-- The text does not occur any more. -/
  | last {piece : List Char} (free : ∀ n, ¬OccursAt s piece n) : CutAt s piece [piece]
  /-- A piece, and the text after it. -/
  | next {piece rest : List Char} {pieces : List (List Char)} (first : EndsFirst s piece)
    (tail : CutAt s rest pieces) : CutAt s (piece ++ (s ++ rest)) (piece :: pieces)

/-- **A text is cut in one way only.** -/
theorem CutAt.eq {text : List Char} {pieces other : List (List Char)} (h : CutAt s text pieces)
    (h' : CutAt s text other) : pieces = other := by
  induction h generalizing other with
  | @last piece free =>
    cases h' with
    | last _ => rfl
    | @next piece' rest _ _ _ => exact absurd (Separator.occursAt_length piece' rest) (free _)
  | @next piece rest pieces first tail ih =>
    obtain ⟨text, htext⟩ : ∃ text, text = piece ++ (s ++ rest) := ⟨_, rfl⟩
    rw [← htext] at h'
    cases h' with
    | last free => exact absurd (htext ▸ Separator.occursAt_length piece rest) (free _)
    | @next piece' rest' pieces' first' tail' =>
      -- either piece ends at the first occurrence, so they are equally long
      have hle : piece.length ≤ piece'.length :=
        (@EndsFirst.length_le _ _ rest first _) (htext ▸ Separator.occursAt_length piece' rest')
      have hge : piece'.length ≤ piece.length :=
        (@EndsFirst.length_le _ _ rest' first' _) (htext ▸ Separator.occursAt_length piece rest)
      obtain ⟨rfl, hrest⟩ := List.append_inj htext (by omega)
      obtain ⟨-, rfl⟩ := List.append_inj hrest rfl
      rw [ih tail']

/-- Pieces that end where the separator first occurs, in front of a text that is cut. -/
theorem CutAt.of_breaks {text : List Char} {pieces : List (List Char)} (h : CutAt s text pieces) :
    ∀ {breaks : List Break}, (∀ b ∈ breaks, b.mark = s ∧ EndsFirst s b.piece) →
      CutAt s (written breaks ++ text) (breaks.map Break.piece ++ pieces) := by
  intro breaks
  induction breaks with
  | nil => exact fun _ => h
  | cons b breaks ih =>
    intro hbreaks
    obtain ⟨hmark, hfirst⟩ := hbreaks b List.mem_cons_self
    have htail := ih fun b' hb' => hbreaks b' (List.mem_cons_of_mem b hb')
    rw [written_cons, hmark, List.append_assoc, List.append_assoc]
    exact .next hfirst htail

/-! ### One window -/

/-- At the spans of its occurrences a text falls into pieces that end where the separator first
occurs; the spans that are not taken are those of what is left. -/
theorem endsFirst_of_breaks {place : Nat} {text left : List Char} {spans : List Span}
    {breaks : List Break} (h : Breaks place text spans breaks left) : ∀ {held : List Span},
      TextSpans s place text (spans ++ held) →
        (∀ b ∈ breaks, b.mark = s ∧ EndsFirst s b.piece) ∧
          TextSpans s (place + (written breaks).length) left held := by
  induction h with
  | done => exact fun hspans => ⟨by simp, hspans⟩
  | @next place piece mark rest left spans breaks _ ih =>
    intro held hspans
    -- both relations take the text apart; named, it can be compared piece by piece
    obtain ⟨text, htext⟩ : ∃ text, text = piece ++ (mark ++ rest) := ⟨_, rfl⟩
    obtain ⟨all, hall⟩ : ∃ all, all = (⟨place + piece.length,
      place + piece.length + mark.length⟩ :: spans ++ held : List Span) := ⟨_, rfl⟩
    rw [← htext, ← hall] at hspans
    cases hspans with
    | last _ => simp at hall
    | @next _ piece' rest' spans' first tail =>
      rw [List.cons_append, List.cons_eq_cons, Span.mk.injEq] at hall
      obtain ⟨⟨hstart, hstop⟩, rfl⟩ := hall
      obtain ⟨rfl, hmark⟩ := List.append_inj htext (by omega)
      obtain ⟨rfl, rfl⟩ := List.append_inj hmark (by omega)
      obtain ⟨hbreaks, hleft⟩ := ih tail
      refine ⟨fun b hb => ?_, ?_⟩
      · rcases List.mem_cons.1 hb with rfl | hb
        · exact ⟨rfl, first⟩
        · exact hbreaks b hb
      · have hplace : place + (written (⟨piece', s⟩ :: breaks)).length =
            place + piece'.length + s.length + (written breaks).length := by
          simp only [written_cons, List.length_append]; omega
        rw [hplace]
        exact hleft

/-- The text occurs in another at the end only, if at all. -/
def OnlyAtEnd (s text : List Char) : Prop := ∀ n, OccursAt s text n → text.length ≤ n + s.length

/-- What is left of a window has no occurrence but one at its end, which is held back; and none at
all if no block follows. -/
theorem onlyAtEnd_of_held {last : Bool} {place size : Nat} {left : List Char} {spans : List Span}
    (hsize : size = place + left.length)
    (h : TextSpans s place left (spans.dropWhile fun x => last || x.stop != size)) :
    OnlyAtEnd s left ∧ (last = true → ∀ n, ¬OccursAt s left n) := by
  obtain ⟨held, hheld⟩ : ∃ held, held = spans.dropWhile fun x => last || x.stop != size := ⟨_, rfl⟩
  rw [← hheld] at h
  cases h with
  | last free => exact ⟨fun n hn => absurd hn (free n), fun _ => free⟩
  | @next _ piece rest held first tail =>
    have hhead := List.head?_dropWhile_not (fun x => last || x.stop != size) spans
    rw [← hheld, List.head?_cons] at hhead
    simp only [Bool.or_eq_false_iff, bne_eq_false_iff_eq] at hhead
    obtain ⟨hlast, hstop⟩ := hhead
    have hrest : rest = [] := by
      simp only [List.length_append] at hsize
      exact List.length_eq_zero_iff.1 (by omega)
    refine ⟨fun n hn => ?_, fun h => absurd h (by simp [hlast])⟩
    have hle := first.length_le hn
    rw [hrest, List.append_nil, List.length_append]
    omega

/-! ### What was set aside -/

/-- Whatever follows what is carried over, no occurrence begins in what was set aside. -/
def Clear (s aside carry : List Char) : Prop :=
  ∀ later, ∀ n < aside.length, ¬OccursAt s (aside ++ (carry ++ later)) n

theorem clear_nil (s carry : List Char) : Clear s [] carry :=
  fun _ n hn => absurd hn (Nat.not_lt_zero n)

theorem Clear.append {aside carry : List Char} (h : Clear s aside carry) (block : List Char) :
    Clear s aside (carry ++ block) := by
  intro later n hn hin
  rw [List.append_assoc] at hin
  exact h (block ++ later) n hn hin

/-- The first occurrence in a window is the first in what was set aside with it. -/
theorem Clear.endsFirst {aside piece rest : List Char} (h : Clear s aside (piece ++ (s ++ rest)))
    (hpiece : EndsFirst s piece) : EndsFirst s (aside ++ piece) := by
  intro n hn hin
  rcases Nat.lt_or_ge n aside.length with hbefore | hbehind
  · refine h [] n hbefore ?_
    rw [show aside ++ (piece ++ (s ++ rest) ++ []) = aside ++ piece ++ s ++ rest by simp]
    exact hin.append rest
  · rw [List.append_assoc, Separator.occursAt_append_of_le hbehind] at hin
    rw [List.length_append] at hn
    exact hpiece (n - aside.length) (by omega) hin

/-- Without an occurrence in a window there is none in what was set aside with it. -/
theorem Clear.free {aside rest : List Char} (h : Clear s aside rest)
    (hrest : ∀ n, ¬OccursAt s rest n) (n : Nat) : ¬OccursAt s (aside ++ rest) n := by
  intro hin
  rcases Nat.lt_or_ge n aside.length with hbefore | hbehind
  · exact h [] n hbefore (by rwa [List.append_nil])
  · rw [Separator.occursAt_append_of_le hbehind] at hin
    exact hrest _ hin

/-- **Reading a block leaves no occurrence in what was set aside**, if enough is carried over. -/
theorem Clear.shift {aside rest : List Char} (h : Clear s aside rest) (hend : OnlyAtEnd s rest)
    {overlap : Nat} (hoverlap : s.length ≤ overlap) :
    Clear s (aside ++ rest.take (rest.length - overlap)) (rest.drop (rest.length - overlap)) := by
  intro later n hn hin
  rw [List.append_assoc, ← List.append_assoc (rest.take _), List.take_append_drop] at hin
  rcases Nat.lt_or_ge n aside.length with hbefore | hbehind
  · exact h later n hbefore hin
  · -- it would end before the end of what is left, where there is none
    rw [Separator.occursAt_append_of_le hbehind] at hin
    rw [List.length_append, List.length_take] at hn
    rw [Separator.occursAt_append_of_add_le (by omega)] at hin
    have hle := hend _ hin
    omega

/-! ### All windows -/

/-- One window: its pieces end where the separator first occurs, and no occurrence is left. -/
theorem endsFirst_window (hne : s ≠ []) {last : Bool} {text : List Char}
    {aside done : List (List Char)} {c : Cut} {breaks : List Break}
    (hw : Window last 0 text ((Separator.literal s).scan text) aside done c breaks)
    (hclear : Clear s (setAside aside) text) :
    (∀ b ∈ resume (setAside aside) breaks, b.mark = s ∧ EndsFirst s b.piece) ∧
      Clear s (setAside c.aside) c.rest ∧ OnlyAtEnd s c.rest ∧
      (last = true → ∀ n, ¬OccursAt s c.rest n) := by
  have hspans := Separator.scan_literal hne text
  rw [← List.takeWhile_append_dropWhile (p := fun x => last || x.stop != 0 + text.length)
    (l := (Separator.literal s).scan text)] at hspans
  obtain ⟨hbreaks, hleft⟩ := endsFirst_of_breaks hw.cut hspans
  have htext := hw.cut.text_eq
  have hsize : 0 + text.length = 0 + (written breaks).length + c.rest.length := by
    rw [htext, List.length_append]; omega
  obtain ⟨hend, hfree⟩ := onlyAtEnd_of_held hsize hleft
  cases breaks with
  | nil =>
    rw [written_nil, List.nil_append] at htext
    rw [hw.aside_eq, if_pos rfl, ← htext]
    rw [← htext] at hend hfree
    exact ⟨by simp [resume], hclear, hend, hfree⟩
  | cons b breaks =>
    rw [hw.aside_eq, if_neg (by simp)]
    refine ⟨fun x hx => ?_, clear_nil s c.rest, hend, hfree⟩
    rcases List.mem_cons.1 hx with rfl | hx
    · obtain ⟨hmark, hfirst⟩ := hbreaks b List.mem_cons_self
      rw [htext, written_cons, hmark, List.append_assoc, List.append_assoc] at hclear
      exact ⟨hmark, hclear.endsFirst hfirst⟩
    · exact hbreaks x (List.mem_cons_of_mem b hx)

/-- **Reading the blocks that are left.**  The records still to come are the pieces of what was set
aside and carried over and the blocks that are left. -/
theorem exists_cutAt (hne : s ≠ []) {overlap : Nat} (hoverlap : s.length ≤ overlap) :
    ∀ (blocks : List (List Char)) (p : Progress), Clear s (setAside p.aside) p.carry →
      ∃ pieces, CutAt s (setAside p.aside ++ (p.carry ++ blocks.flatten)) pieces ∧
        finish (Separator.literal s).scan
          (blocks.foldl (step (Separator.literal s).scan overlap) p) =
            p.done.reverse ++ nonBlank pieces := by
  have hscan := Separator.orderly_scan (Separator.literal s)
  intro blocks
  induction blocks with
  | nil =>
    intro p hclear
    obtain ⟨breaks, hw⟩ := exists_window_block hscan true p []
    obtain ⟨hbreaks, hleft, -, hfree⟩ := endsFirst_window hne hw (hclear.append [])
    refine ⟨(resume (setAside p.aside) breaks).map Break.piece ++
      [setAside (window (Separator.literal s).scan true p []).aside ++
        (window (Separator.literal s).scan true p []).rest], ?_, ?_⟩
    · rw [List.flatten_nil, hw.whole]
      exact (CutAt.last (hleft.free (hfree rfl))).of_breaks hbreaks
    · rw [List.foldl_nil, finish, reverse_addRecord, hw.delivered, complete_eq, List.append_assoc,
        ← nonBlank_append]
  | cons block blocks ih =>
    intro p hclear
    obtain ⟨breaks, hw⟩ := exists_window_block hscan false p block
    obtain ⟨hbreaks, hleft, hend, -⟩ := endsFirst_window hne hw (hclear.append block)
    obtain ⟨c, hc⟩ : ∃ c, c = window (Separator.literal s).scan false p block := ⟨_, rfl⟩
    rw [← hc] at hw hleft hend
    have hnext := hleft.shift hend hoverlap
    rw [← setAside_cons] at hnext
    obtain ⟨pieces, hcut, hfinish⟩ := ih (step (Separator.literal s).scan overlap p block)
      (by rw [step, ← hc]; exact hnext)
    rw [step, ← hc] at hcut
    simp only [setAside_cons, List.append_assoc] at hcut
    rw [← List.append_assoc (c.rest.take _), List.take_append_drop, ← List.append_assoc] at hcut
    refine ⟨(resume (setAside p.aside) breaks).map Break.piece ++ pieces, ?_, ?_⟩
    · rw [List.flatten_cons, ← List.append_assoc p.carry, ← List.append_assoc, hw.whole,
        List.append_assoc]
      exact hcut.of_breaks hbreaks
    · rw [List.foldl_cons, hfinish, step, ← hc, hw.delivered, List.append_assoc, ← nonBlank_append]

end Framing

example : Separator.parse "\\r\\n" = .ok (Separator.literal "\r\n".toList) := rfl

open Framing in
/-- **Records are the pieces between the occurrences of the separator.**  The separator is a text
that is not empty.  Any text is cut in one way at the occurrences of the separator that do not
overlap, from left to right, and in whatever blocks the text is read, as long as the separator is
not longer than what is kept of a window, the records are the pieces that are not blank. -/
theorem readText_literal {s : List Char} (hne : s ≠ []) (text : List Char) :
    ∃ pieces, CutAt s text pieces ∧ (∀ other, CutAt s text other → other = pieces) ∧
      ∀ blockSize : Int, 1 ≤ blockSize → s.length ≤ overlapFor blockSize →
        records (Separator.literal s).scan (overlapFor blockSize) true
            (Encoding.textBlocks blockSize text) = nonBlank pieces ∧
          ∀ separator, (separator = String.ofList s ∧ Separator.Plain s ∨
              Separator.parse separator = .ok (Separator.literal s)) → isSize blockSize = true →
            readText separator blockSize text = .ok (nonBlank pieces) := by
  have hread : ∀ blockSize : Int, 1 ≤ blockSize → s.length ≤ overlapFor blockSize →
      ∃ pieces, CutAt s text pieces ∧
        records (Separator.literal s).scan (overlapFor blockSize) true
          (Encoding.textBlocks blockSize text) = nonBlank pieces := by
    intro blockSize hsize hoverlap
    obtain ⟨pieces, hcut, hfinish⟩ := exists_cutAt hne hoverlap
      (Encoding.textBlocks blockSize text) .start (clear_nil s _)
    rw [Encoding.flatten_textBlocks hsize] at hcut
    exact ⟨pieces, hcut, hfinish⟩
  -- blocks as long as the separator will do to cut the text
  obtain ⟨pieces, hcut, -⟩ := hread (max 1 s.length) (by omega) (by rw [overlapFor]; omega)
  refine ⟨pieces, hcut, fun other hother => hother.eq hcut, fun blockSize hsize hoverlap => ?_⟩
  obtain ⟨pieces', hcut', hrecords⟩ := hread blockSize hsize hoverlap
  rw [hcut'.eq hcut] at hrecords
  refine ⟨hrecords, fun separator hseparator hbound => ?_⟩
  have hparse : Separator.parse separator = .ok (Separator.literal s) := by
    rcases hseparator with ⟨rfl, hplain⟩ | hparse
    · exact Separator.parse_plain hplain
    · exact hparse
  rw [readText_eq hparse hbound, hrecords]

open Framing in
/-- A separator that overlaps itself, in blocks of one character. -/
theorem readText_literal_overlapping :
    readText "aa" 1 "xaaay".toList = .ok ["x".toList, "ay".toList] := by
  obtain ⟨pieces, -, honly, hread⟩ := readText_literal (s := "aa".toList) (by decide) "xaaay".toList
  have hfree : ∀ n, ¬OccursAt "aa".toList "ay".toList n := by
    intro n hn
    have hle : n + 2 ≤ 2 := hn.add_length_le (by decide)
    obtain rfl : n = 0 := by omega
    exact absurd hn (by decide)
  have hcut : CutAt "aa".toList "xaaay".toList ["x".toList, "ay".toList] :=
    @CutAt.next _ "x".toList "ay".toList _ (by decide) (.last hfree)
  rw [(hread 1 (by decide) (by decide)).2 "aa" (.inl ⟨rfl, by decide⟩) (by decide), ← honly _ hcut]
  rfl

end RunHistory
