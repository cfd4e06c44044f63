import RunHistory.Proofs.Framing.Blocks
import RunHistory.Proofs.Separator.Order

/-!
# Nothing is lost between records

Whatever finds the separators of a window, as long as it finds them one after the other, cutting a
text into records loses nothing, repeats nothing and moves nothing: the text is its pieces with the
separators found between them, and the records are the pieces that are not blank.  This holds of
empty separators, of separators that touch the end of a window and are looked for again, and of the
text after the last separator.

## Main definitions

* `Framing.Break`, `Framing.written`: a piece with the separator after it, and the text of some.
* `Framing.taken`, `Framing.separators`: the separators taken in one window, and in all of them.
* `Framing.placed`: the separators of a text that falls into pieces, each with its place.
* `Framing.Window`: what cutting one window does.

## Main results

* `Framing.exists_window`: **cutting one window**, whatever its separators are.
* `Framing.exists_breaks`: reading the blocks that are left, whatever was read before.
* `readText_conserved`: **the text is its pieces with the separators found between them.**
-/

namespace RunHistory

/-- The part of a text that a span marks. -/
def Span.textIn (s : Span) (text : List Char) : List Char := (text.take s.stop).drop s.start

namespace Framing

/-! ### Pieces and separators -/

/-- A piece of a text, and the separator after it. -/
structure Break where
  /-- The piece. -/
  piece : List Char
  /-- The separator. -/
  mark : List Char
  deriving DecidableEq

/-- The text of pieces with their separators. -/
def written (breaks : List Break) : List Char := breaks.flatMap fun b => b.piece ++ b.mark

@[simp] theorem written_nil : written [] = [] := rfl

@[simp] theorem written_cons (b : Break) (breaks : List Break) :
    written (b :: breaks) = b.piece ++ (b.mark ++ written breaks) := by
  simp [written]

@[simp] theorem written_append (a b : List Break) : written (a ++ b) = written a ++ written b := by
  simp [written]

/-- The separators with their places, when the first piece begins at a place. -/
def placed : Nat → List Break → List (Nat × List Char)
  | _, [] => []
  | place, b :: breaks =>
    (place + b.piece.length, b.mark) ::
      placed (place + b.piece.length + b.mark.length) breaks

theorem placed_append (b : List Break) : ∀ (a : List Break) (place : Nat),
    placed place (a ++ b) = placed place a ++ placed (place + (written a).length) b := by
  intro a
  induction a with
  | nil => intro place; rfl
  | cons x a ih =>
    intro place
    have hplace : place + (written (x :: a)).length =
        place + x.piece.length + x.mark.length + (written a).length := by
      simp only [written_cons, List.length_append]; omega
    rw [List.cons_append, placed, ih, hplace]
    rfl

/-- Pieces of which the first began with what was set aside. -/
def resume (aside : List Char) : List Break → List Break
  | [] => []
  | b :: breaks => ⟨aside ++ b.piece, b.mark⟩ :: breaks

@[simp] theorem resume_nil : ∀ breaks : List Break, resume [] breaks = breaks
  | [] => rfl
  | _ :: _ => rfl

theorem placed_resume (aside : List Char) (breaks : List Break) (place : Nat) :
    placed place (resume aside breaks) = placed (place + aside.length) breaks := by
  cases breaks with
  | nil => rfl
  | cons b breaks =>
    have hplace : place + (aside ++ b.piece).length = place + aside.length + b.piece.length := by
      rw [List.length_append]; omega
    rw [resume, placed, hplace]
    rfl

/-! ### Texts and their spans -/

/-- A text that begins at a place falls at its spans into pieces with separators, and what is left
after the last span. -/
inductive Breaks : Nat → List Char → List Span → List Break → List Char → Prop where
  /-- No span. -/
  | done (place : Nat) (text : List Char) : Breaks place text [] [] text
  /-- A piece, and the separator that a span marks. -/
  | next {place : Nat} {piece mark rest left : List Char} {spans : List Span}
    {breaks : List Break}
    (tail : Breaks (place + piece.length + mark.length) rest spans breaks left) :
    Breaks place (piece ++ (mark ++ rest))
      (⟨place + piece.length, place + piece.length + mark.length⟩ :: spans)
      (⟨piece, mark⟩ :: breaks) left

variable {place : Nat} {text left : List Char} {spans : List Span} {breaks : List Break}

theorem Breaks.text_eq (h : Breaks place text spans breaks left) :
    text = written breaks ++ left := by
  induction h with
  | done => rfl
  | next _ ih => rw [ih]; simp

/-- The separators of a window are the texts of the spans, at their places. -/
theorem Breaks.placed_eq (h : Breaks place text spans breaks left) (front : List Char)
    (hfront : front.length = place) (offset : Nat) :
    placed (offset + place) breaks =
      spans.map fun s => (offset + s.start, s.textIn (front ++ text)) := by
  induction h generalizing front with
  | done => rfl
  | @next place piece mark rest left spans breaks _ ih =>
    have hmark : (⟨place + piece.length, place + piece.length + mark.length⟩ : Span).textIn
        (front ++ (piece ++ (mark ++ rest))) = mark := by
      have hstop : place + piece.length + mark.length = (front ++ (piece ++ mark)).length := by
        simp only [List.length_append]; omega
      have hstart : place + piece.length = (front ++ piece).length := by
        rw [List.length_append, hfront]
      have htext : front ++ (piece ++ (mark ++ rest)) = front ++ (piece ++ mark) ++ rest := by simp
      rw [Span.textIn, htext, hstop, List.take_left, hstart, ← List.append_assoc, List.drop_left]
    have hrest := ih (front ++ (piece ++ mark)) (by simp only [List.length_append]; omega)
    have htext : front ++ (piece ++ mark) ++ rest = front ++ (piece ++ (mark ++ rest)) := by simp
    rw [htext] at hrest
    rw [placed, List.map_cons, hmark, ← hrest]
    simp only [Nat.add_assoc]

/-- A span marks off a piece before it, the separator and the rest. -/
theorem exists_parts {s : Span} (hstart : place ≤ s.start) (hstop : s.start ≤ s.stop)
    (hsize : s.stop ≤ place + text.length) :
    ∃ piece mark rest, text = piece ++ (mark ++ rest) ∧
      s = ⟨place + piece.length, place + piece.length + mark.length⟩ := by
  refine ⟨text.take (s.start - place), (text.drop (s.start - place)).take (s.stop - s.start),
    (text.drop (s.start - place)).drop (s.stop - s.start), ?_, ?_⟩
  · rw [List.take_append_drop, List.take_append_drop]
  · have hpiece : place + (text.take (s.start - place)).length = s.start := by
      rw [List.length_take]; omega
    have hmark : s.start + ((text.drop (s.start - place)).take (s.stop - s.start)).length =
        s.stop := by
      rw [List.length_take, List.length_drop]; omega
    rw [hpiece, hmark]

/-! ### One window -/

/-- The separators of a window that are taken: unless no block follows, those before the first that
touches the end of the window. -/
def taken (last : Bool) (size : Nat) (spans : List Span) : List Span :=
  spans.takeWhile fun s => last || s.stop != size

/-- What cutting a window does. -/
structure Window (last : Bool) (place : Nat) (text : List Char) (spans : List Span)
    (aside done : List (List Char)) (c : Cut) (breaks : List Break) : Prop where
  /-- At the separators taken the window falls into pieces and what is left. -/
  cut : Breaks place text (taken last (place + text.length) spans) breaks c.rest
  /-- The pieces that are not blank are delivered, the first with what was set aside. -/
  delivered : c.done.reverse =
    done.reverse ++ nonBlank ((resume (setAside aside) breaks).map Break.piece)
  /-- Only before the first piece something is set aside. -/
  aside_eq : c.aside = if breaks = [] then aside else []

/-- **Cutting one window**, whatever its separators are. -/
theorem exists_window (last : Bool) : ∀ {spans : List Span} {place : Nat} {text : List Char},
    Span.InOrder (place + text.length) place spans → ∀ aside done : List (List Char),
      ∃ breaks, Window last place text spans aside done
        (cutWindow last (place + text.length) spans ⟨place, text, aside, done⟩) breaks := by
  intro spans
  induction spans with
  | nil =>
    intro place text _ aside done
    exact ⟨[], .done place text, by simp [cutWindow, resume], rfl⟩
  | cons s spans ih =>
    intro place text horder aside done
    obtain ⟨⟨hstart, hstop, hsize⟩, hrest⟩ := horder
    rw [cutWindow]
    split
    · next hheld =>
      -- the separator touches the end of the window, and more may follow
      have htaken : taken last (place + text.length) (s :: spans) = [] := by
        simp_all [taken]
      exact ⟨[], htaken ▸ .done place text, by simp [resume], rfl⟩
    · next hheld =>
      -- the separator ends the record that is being read
      have htaken : taken last (place + text.length) (s :: spans) =
          s :: taken last (place + text.length) spans := by
        have hgoes : (last || s.stop != place + text.length) = true := by
          cases last <;> simp_all
        rw [taken, List.takeWhile_cons, if_pos hgoes, taken]
      obtain ⟨piece, mark, rest, rfl, rfl⟩ := exists_parts hstart hstop hsize
      have hrecord :
          complete aside ((piece ++ (mark ++ rest)).take (place + piece.length - place)) =
            setAside aside ++ piece := by
        rw [complete_eq, Nat.add_sub_cancel_left, List.take_left]
      have hleft : (piece ++ (mark ++ rest)).drop (place + piece.length + mark.length - place) =
          rest := by
        rw [← List.append_assoc,
          show place + piece.length + mark.length - place = (piece ++ mark).length by
            rw [List.length_append]; omega,
          List.drop_left]
      have hlength : place + (piece ++ (mark ++ rest)).length =
          place + piece.length + mark.length + rest.length := by
        simp only [List.length_append]; omega
      simp only [hrecord, hleft, hlength] at hrest htaken ⊢
      obtain ⟨breaks, hw⟩ := ih hrest [] (addRecord done (setAside aside ++ piece))
      refine ⟨⟨piece, mark⟩ :: breaks, ?_, ?_, ?_⟩
      · rw [hlength, htaken]
        exact .next hw.cut
      · rw [hw.delivered, reverse_addRecord, List.append_assoc, ← nonBlank_append,
          show setAside [] = [] from rfl, resume_nil]
        rfl
      · rw [hw.aside_eq]
        simp

/-- What was set aside and a window are the pieces found with it and what is left. -/
theorem Window.whole {last : Bool} {aside done : List (List Char)} {c : Cut}
    (h : Window last place text spans aside done c breaks) :
    setAside aside ++ text =
      written (resume (setAside aside) breaks) ++ (setAside c.aside ++ c.rest) := by
  rw [h.cut.text_eq, h.aside_eq]
  cases breaks with
  | nil => rfl
  | cons b breaks => simp [resume, setAside]

/-! ### All windows -/

variable {scan : Scanner} {overlap : Nat}

/-- The window of a block after what was read before. -/
theorem exists_window_block (hscan : scan.Orderly) (last : Bool) (p : Progress)
    (block : List Char) : ∃ breaks, Window last 0 (p.carry ++ block) (scan (p.carry ++ block))
      p.aside p.done (window scan last p block) breaks := by
  have horder : Span.InOrder (0 + (p.carry ++ block).length) 0 (scan (p.carry ++ block)) := by
    rw [Nat.zero_add]
    exact hscan _
  obtain ⟨breaks, hw⟩ := exists_window last horder p.aside p.done
  rw [Nat.zero_add] at hw
  exact ⟨breaks, hw⟩

/-- The separators taken in a window that begins at a place of the text: where they stand in the
text, and what they are. -/
def separatorsIn (scan : Scanner) (last : Bool) (offset : Nat) (text : List Char) :
    List (Nat × List Char) :=
  (taken last text.length (scan text)).map fun s => (offset + s.start, s.textIn text)

/-- The separators taken in the windows of the blocks that are left and at the end of the text.  The
next window begins at a place of the text, and the one after it where what it leaves begins. -/
def separators (scan : Scanner) (overlap : Nat) : Nat → Progress → List (List Char) →
    List (Nat × List Char)
  | offset, p, [] => separatorsIn scan true offset p.carry
  | offset, p, block :: blocks =>
    let next := step scan overlap p block
    separatorsIn scan false offset (p.carry ++ block) ++
      separators scan overlap (offset + (p.carry ++ block).length - next.carry.length) next blocks

theorem Window.placed_eq {last : Bool} {aside done : List (List Char)} {c : Cut}
    (h : Window last 0 text (scan text) aside done c breaks) (start : Nat) :
    placed start (resume (setAside aside) breaks) =
      separatorsIn scan last (start + (setAside aside).length) text := by
  have hcut := h.cut
  rw [Nat.zero_add] at hcut
  rw [placed_resume, ← Nat.add_zero (start + _), hcut.placed_eq [] rfl]
  rfl

/-- **Reading the blocks that are left.**  What was set aside and carried over and the blocks that
are left are pieces, with the separators taken between them, and a last piece. -/
theorem exists_breaks (hscan : scan.Orderly) (overlap : Nat) : ∀ (blocks : List (List Char))
    (p : Progress) (start : Nat), ∃ breaks last,
      setAside p.aside ++ (p.carry ++ blocks.flatten) = written breaks ++ last ∧
      finish scan (blocks.foldl (step scan overlap) p) =
        p.done.reverse ++ nonBlank (breaks.map Break.piece ++ [last]) ∧
      placed start breaks =
        separators scan overlap (start + (setAside p.aside).length) p blocks := by
  intro blocks
  induction blocks with
  | nil =>
    intro p start
    obtain ⟨breaks, hw⟩ := exists_window_block hscan true p []
    have hwhole := hw.whole
    rw [List.append_nil] at hwhole
    -- at the end of the text what is left is the last piece
    refine ⟨resume (setAside p.aside) breaks,
      setAside (window scan true p []).aside ++ (window scan true p []).rest, ?_, ?_, ?_⟩
    · rw [List.flatten_nil, List.append_nil]
      exact hwhole
    · rw [List.foldl_nil, finish, reverse_addRecord, hw.delivered, complete_eq, List.append_assoc,
        ← nonBlank_append]
    · rw [hw.placed_eq, separators, List.append_nil]
  | cons block blocks ih =>
    intro p start
    obtain ⟨found, hw⟩ := exists_window_block hscan false p block
    obtain ⟨c, hc⟩ : ∃ c, c = window scan false p block := ⟨_, rfl⟩
    rw [← hc] at hw
    obtain ⟨next, hnext⟩ : ∃ next, next = step scan overlap p block := ⟨_, rfl⟩
    -- what is left of the window is set aside or carried over
    have hkept : setAside c.aside ++ c.rest = setAside next.aside ++ next.carry := by
      rw [hnext, step, ← hc]
      simp
    have hdone : next.done = c.done := by rw [hnext, step, ← hc]
    have hwhole := hw.whole
    rw [hkept] at hwhole
    obtain ⟨breaks, last, htext, hfinish, hplaced⟩ :=
      ih next (start + (written (resume (setAside p.aside) found)).length)
    refine ⟨resume (setAside p.aside) found ++ breaks, last, ?_, ?_, ?_⟩
    · rw [written_append, List.append_assoc, ← htext, List.flatten_cons]
      rw [← List.append_assoc p.carry, ← List.append_assoc, hwhole]
      simp only [List.append_assoc]
    · rw [List.foldl_cons, ← hnext, hfinish, hdone, hw.delivered, List.append_assoc,
        ← nonBlank_append, List.map_append, List.append_assoc]
    · have hlength := congrArg List.length hwhole
      simp only [List.length_append] at hlength
      have hoffset : start + (setAside p.aside).length + (p.carry ++ block).length -
          next.carry.length = start + (written (resume (setAside p.aside) found)).length +
            (setAside next.aside).length := by
        rw [List.length_append]; omega
      rw [placed_append, hw.placed_eq, hplaced, separators, ← hnext, hoffset]

end Framing

open Framing in
/-- **The text is its pieces with the separators found between them.**  Whatever finds the
separators of a window, one after the other, a text that is read in blocks falls into pieces, with a
separator after each but the last, and the records are the pieces that are not blank, in order.  The
separators are those that were taken in the windows, each at its place. -/
theorem readText_conserved {scan : Scanner} (hscan : scan.Orderly) {blockSize : Int}
    (hsize : 1 ≤ blockSize) (text : List Char) :
    ∃ found breaks last,
      found = records scan (overlapFor blockSize) true (Encoding.textBlocks blockSize text) ∧
      (∀ separator, scannerFor separator blockSize = .ok scan →
        readText separator blockSize text = .ok found) ∧
      text = written breaks ++ last ∧
      found = nonBlank (breaks.map Break.piece ++ [last]) ∧
      placed 0 breaks = separators scan (overlapFor blockSize) 0 .start
        (Encoding.textBlocks blockSize text) := by
  obtain ⟨breaks, last, htext, hfinish, hplaced⟩ :=
    exists_breaks hscan (overlapFor blockSize) (Encoding.textBlocks blockSize text) .start 0
  have hblocks : setAside Progress.start.aside ++
      (Progress.start.carry ++ (Encoding.textBlocks blockSize text).flatten) = text := by
    rw [Encoding.flatten_textBlocks hsize]
    rfl
  rw [hblocks] at htext
  refine ⟨_, breaks, last, rfl, fun separator hseparator => ?_, htext, hfinish, hplaced⟩
  rw [readText, hseparator]
  rfl

/-- Separators that may be empty, in blocks of two characters: a separator that is found at the end
of a window is found again, longer, in the next. -/
theorem readText_conserved_empty_separators :
    ∃ breaks last, "axxbx".toList = Framing.written breaks ++ last ∧
      readText "x*" 2 "axxbx".toList =
        .ok (Framing.nonBlank (breaks.map Framing.Break.piece ++ [last])) := by
  obtain ⟨found, breaks, last, -, hread, htext, hfound, -⟩ :=
    readText_conserved (Separator.orderly_scan [[.run 0 (· == 'x')]]) (show (1 : Int) ≤ 2 by decide)
      "axxbx".toList
  exact ⟨breaks, last, htext, by rw [hread "x*" rfl, hfound]⟩

end RunHistory
