import Mathlib.Data.List.Induction
import RunHistory.Proofs.Framing.Blocks
import RunHistory.Proofs.Separator.Classes

/-!
# Records between runs of a class

When records are separated by runs of a class of characters, cutting a text window by window gives
the same records as cutting the whole text at once, as long as no run is longer than what is kept
of a window.  Of a longer run a part may be set aside with the record before it; then the records
are the same but for characters of the class at their ends.

While blocks are read, what was set aside is always a piece without the class and a part of the run
after it, and that run goes on in what is left of the window.  So a part of a run can only stand at
the end of a record.

## Main definitions

* `Framing.pieces`: the pieces of a text between runs of a class, without the blank ones.
* `Framing.cleared`: records without the characters of a class, without the blank ones.
* `Framing.Straddles`, `Framing.Framed`: what holds of the text set aside, and between two blocks.

## Main results

* `Framing.cutWindow_of_runSpans`: what cutting one window does.
* `Framing.Framed.step`, `Framing.framed_foldl`: reading a block keeps what holds between two.
* `records_scan_runOf`: the records and the pieces of a text, side by side.
* `readText_class_runs`: **records are the pieces between the runs of a class.**
-/

namespace RunHistory

open Separator (FreeOf RunOf RunSpans)

namespace Framing

variable {accepts : Char → Bool}

/-! ### Pieces -/

/-- The pieces of a text between runs of a class of characters, without the blank ones.  Between two
characters of a run there is an empty piece, which is blank. -/
def pieces (accepts : Char → Bool) (text : List Char) : List (List Char) :=
  nonBlank (text.splitOnP accepts)

/-- Records without the characters of a class, and of those the ones that are not blank then. -/
def cleared (accepts : Char → Bool) (records : List (List Char)) : List (List Char) :=
  nonBlank (records.map fun r => r.filter fun c => !accepts c)

/-- No run of a class in a text is longer than so many characters. -/
def RunsUpTo (accepts : Char → Bool) (most : Nat) (text : List Char) : Prop :=
  ∀ run, run <:+: text → RunOf accepts run → run.length ≤ most

theorem pieces_of_freeOf {piece : List Char} (h : FreeOf accepts piece) :
    pieces accepts piece = nonBlank [piece] := by
  rw [pieces, List.splitOnP_eq_singleton h]

theorem pieces_append_cons {piece : List Char} (h : FreeOf accepts piece) {c : Char}
    (hc : accepts c = true) (rest : List Char) :
    pieces accepts (piece ++ c :: rest) = nonBlank [piece] ++ pieces accepts rest := by
  rw [pieces, List.splitOnP_append_cons_of_forall_mem h c hc, nonBlank_cons, pieces]

/-- A run in front of a text adds no piece. -/
theorem pieces_runOf_append {run : List Char} (h : RunOf accepts run) (rest : List Char) :
    pieces accepts (run ++ rest) = pieces accepts rest := by
  induction run with
  | nil => rfl
  | cons c run ih =>
    obtain ⟨hc, hrun⟩ := Separator.runOf_cons.1 h
    have hcut : pieces accepts (c :: (run ++ rest)) =
        nonBlank [[]] ++ pieces accepts (run ++ rest) :=
      pieces_append_cons Separator.freeOf_nil hc (run ++ rest)
    rw [List.cons_append, hcut, ih hrun]
    rfl

/-- **A piece and a run after it come off as one piece.** -/
theorem pieces_append_run {piece run : List Char} (hp : FreeOf accepts piece)
    (hr : RunOf accepts run) (hne : run ≠ []) (rest : List Char) :
    pieces accepts (piece ++ (run ++ rest)) = nonBlank [piece] ++ pieces accepts rest := by
  cases run with
  | nil => exact absurd rfl hne
  | cons c run =>
    obtain ⟨hc, hrun⟩ := Separator.runOf_cons.1 hr
    rw [List.cons_append, pieces_append_cons hp hc, pieces_runOf_append hrun]

/-! ### Records with a part of the run after them -/

/-- A record as it was cut off: a piece, and the part of the run after it that came along. -/
structure Torn where
  /-- The piece without the class. -/
  piece : List Char
  /-- The part of the run after it. -/
  leak : List Char

/-- The record as it is delivered. -/
def Torn.text (t : Torn) : List Char := t.piece ++ t.leak

/-- The piece is without the class, and the part of the run of nothing else. -/
structure Torn.Valid (accepts : Char → Bool) (t : Torn) : Prop where
  /-- The piece has no character of the class. -/
  free : FreeOf accepts t.piece
  /-- The rest has no other. -/
  run : RunOf accepts t.leak

/-- A part of a text that was cut into records, whatever comes after it. -/
structure CutInto (accepts : Char → Bool) (text : List Char) (torn : List Torn) : Prop where
  /-- The pieces of the part come first. -/
  pieces_append : ∀ later, pieces accepts (text ++ later) =
    nonBlank (torn.map Torn.piece) ++ pieces accepts later
  /-- The records are valid. -/
  valid : ∀ t ∈ torn, t.Valid accepts

theorem CutInto.nil : CutInto accepts [] [] := ⟨fun _ => rfl, by simp⟩

theorem CutInto.append {a b : List Char} {s t : List Torn} (ha : CutInto accepts a s)
    (hb : CutInto accepts b t) : CutInto accepts (a ++ b) (s ++ t) where
  pieces_append later := by
    rw [List.append_assoc, ha.pieces_append, hb.pieces_append, List.map_append, nonBlank_append,
      List.append_assoc]
  valid r hr := (List.mem_append.1 hr).elim (ha.valid r) (hb.valid r)

/-- A piece and the whole run after it, of which a part came along with the piece. -/
theorem CutInto.single {piece leak run : List Char} (hp : FreeOf accepts piece)
    (hl : RunOf accepts leak) (hr : RunOf accepts run) (hne : run ≠ []) :
    CutInto accepts (piece ++ (leak ++ run)) [⟨piece, leak⟩] where
  pieces_append later := by
    have hrun : RunOf accepts (leak ++ run) := Separator.runOf_append.2 ⟨hl, hr⟩
    rw [List.append_assoc, pieces_append_run hp hrun (by simp [hne])]
    rfl
  valid t ht := by
    rw [List.mem_singleton] at ht
    exact ht ▸ ⟨hp, hl⟩

/-! ### What was set aside -/

/-- What was set aside is a piece and a part of the run after it, and that run goes on in what is
left. -/
structure Straddles (accepts : Char → Bool) (aside left : List Char) (t : Torn) : Prop where
  /-- What was set aside. -/
  text : aside = t.text
  /-- It is a piece and a part of a run. -/
  valid : t.Valid accepts
  /-- The run goes on. -/
  goes_on : t.leak ≠ [] → ∃ c rest, left = c :: rest ∧ accepts c = true

theorem Straddles.nil (left : List Char) : Straddles accepts [] left ⟨[], []⟩ :=
  ⟨rfl, ⟨Separator.freeOf_nil, Separator.runOf_nil⟩, fun h => absurd rfl h⟩

/-- A piece can follow what was set aside only if no run was begun there. -/
theorem Straddles.leak_or_piece {aside piece left : List Char} {t : Torn}
    (h : Straddles accepts aside (piece ++ left) t) (hp : FreeOf accepts piece) :
    t.leak = [] ∨ piece = [] := by
  rcases Classical.em (t.leak = []) with hleak | hleak
  · exact Or.inl hleak
  · obtain ⟨c, rest, heq, hc⟩ := h.goes_on hleak
    cases piece with
    | nil => exact Or.inr rfl
    | cons x piece =>
      obtain ⟨rfl, -⟩ := List.cons_eq_cons.1 (List.cons_append ▸ heq)
      rw [(Separator.freeOf_cons.1 hp).1] at hc
      exact absurd hc (by decide)

/-- What was set aside, with the piece in front of what is left. -/
theorem Straddles.append_piece {aside piece left : List Char} {t : Torn}
    (h : Straddles accepts aside (piece ++ left) t) (hp : FreeOf accepts piece) :
    Straddles accepts (aside ++ piece) left ⟨t.piece ++ piece, t.leak⟩ where
  text := by
    rcases h.leak_or_piece hp with hnil | hnil <;> simp [h.text, Torn.text, hnil]
  valid := ⟨Separator.freeOf_append.2 ⟨h.valid.free, hp⟩, h.valid.run⟩
  goes_on hleak := by
    have hnil := (h.leak_or_piece hp).resolve_left hleak
    simpa [hnil] using h.goes_on hleak

/-- What was set aside, with the front part of the run in front of what is left. -/
theorem Straddles.append_run {aside run left : List Char} {t : Torn} {c : Char}
    (h : Straddles accepts aside (run ++ c :: left) t) (hr : RunOf accepts (run ++ [c])) :
    Straddles accepts (aside ++ run) (c :: left) ⟨t.piece, t.leak ++ run⟩ where
  text := by simp [h.text, Torn.text]
  valid := ⟨h.valid.free, Separator.runOf_append.2
    ⟨h.valid.run, (Separator.runOf_append.1 hr).1⟩⟩
  goes_on _ := ⟨c, left, rfl, hr c (by simp)⟩

/-! ### One window -/

/-- What is left of a window: a piece and, unless no block follows, a run that touches the end. -/
def EndsIn (accepts : Char → Bool) (last : Bool) (left piece run : List Char) : Prop :=
  left = piece ++ run ∧ FreeOf accepts piece ∧ RunOf accepts run ∧ (last = true → run = [])

/-- What cutting a window does: from `before`, which was set aside or is in the window, the front
part is cut into records, and the rest is set aside or left. -/
structure CutOff (accepts : Char → Bool) (last : Bool) (before : List Char)
    (done : List (List Char)) (c : Cut) (front : List Char) (torn : List Torn) (t : Torn) :
    Prop where
  /-- Nothing is lost. -/
  whole : before = front ++ (t.text ++ c.rest)
  /-- The front part is cut into records. -/
  front_cut : CutInto accepts front torn
  /-- These are delivered. -/
  delivered : c.done.reverse = done.reverse ++ nonBlank (torn.map Torn.text)
  /-- What was set aside is a piece and a part of the run after it. -/
  straddles : Straddles accepts (setAside c.aside) c.rest t
  /-- What is left has no run but at its end. -/
  ends : ∃ piece run, EndsIn accepts last c.rest piece run

/-- A record that the next run of the window ends, in front of what the rest of the window does. -/
theorem CutOff.cons {last : Bool} {aside piece run rest front : List Char}
    {done : List (List Char)} {c : Cut} {torn : List Torn} {t t' : Torn}
    (h : Straddles accepts aside (piece ++ (run ++ rest)) t) (free : FreeOf accepts piece)
    (run_of : RunOf accepts run) (run_ne : run ≠ [])
    (hoff : CutOff accepts last rest (addRecord done (aside ++ piece)) c front torn t') :
    CutOff accepts last (t.text ++ (piece ++ (run ++ rest))) done c
      (t.piece ++ piece ++ (t.leak ++ run) ++ front) (⟨t.piece ++ piece, t.leak⟩ :: torn) t' := by
  have hrecord := h.append_piece free
  have htext : t.text ++ piece = Torn.text ⟨t.piece ++ piece, t.leak⟩ := by
    rw [← h.text, hrecord.text]
  refine ⟨?_, ?_, ?_, hoff.straddles, hoff.ends⟩
  · rw [← List.append_assoc, htext, hoff.whole]
    simp [Torn.text]
  · exact (CutInto.single hrecord.valid.free hrecord.valid.run run_of run_ne).append hoff.front_cut
  · rw [hoff.delivered, reverse_addRecord, List.append_assoc, ← nonBlank_cons, hrecord.text]
    rfl

/-- **Cutting one window.**  Each run of the window ends a record that began with what was set
aside, and after the first of them nothing is set aside any more. -/
theorem cutWindow_of_runSpans (last : Bool) {place : Nat} {text : List Char} {spans : List Span}
    (h : RunSpans accepts place text spans) : ∀ (aside done : List (List Char)) (t : Torn),
      Straddles accepts (setAside aside) text t →
        ∃ front torn t',
          CutOff accepts last (t.text ++ text) done
            (cutWindow last (place + text.length) spans ⟨place, text, aside, done⟩) front torn t' ∧
          ∀ r ∈ t' :: torn, r.leak ≠ [] → t.leak ≠ [] := by
  -- by induction on the runs of the window
  induction h with
  | @last place piece free =>
    intro aside done t ht
    refine ⟨[], [], t, ⟨by simp [cutWindow], .nil, by simp [cutWindow], ht, piece, [], ?_⟩, by simp⟩
    exact ⟨by simp [cutWindow], free, Separator.runOf_nil, fun _ => rfl⟩
  | @next place piece run rest spans free run_of run_ne tail ih =>
    intro aside done t ht
    have hsize : place + (piece ++ (run ++ rest)).length =
        place + piece.length + run.length + rest.length := by
      simp only [List.length_append]; omega
    rw [hsize, cutWindow]
    split
    · next hheld =>
      -- the run touches the end of the window, and more may follow
      obtain ⟨hlast, hstop⟩ := Bool.and_eq_true_iff.1 hheld
      have hrest : rest = [] := by
        have := beq_iff_eq.1 hstop
        exact List.length_eq_zero_iff.1 (by simp only at this; omega)
      subst hrest
      refine ⟨[], [], t, ⟨by simp, .nil, by simp, ht, piece, run, by simp, free, run_of, ?_⟩,
        by simp⟩
      intro h
      simp [h] at hlast
    · -- the run ends the record that is being read
      have hrecord : complete aside ((piece ++ (run ++ rest)).take (place + piece.length - place)) =
          setAside aside ++ piece := by
        rw [complete_eq, Nat.add_sub_cancel_left, List.take_left]
      have hrest : (piece ++ (run ++ rest)).drop (place + piece.length + run.length - place) =
          rest := by
        rw [← List.append_assoc,
          show place + piece.length + run.length - place = (piece ++ run).length by
            rw [List.length_append]; omega,
          List.drop_left]
      simp only [hrecord, hrest]
      obtain ⟨front, torn, t', hoff, hleak⟩ :=
        ih [] (addRecord done (setAside aside ++ piece)) ⟨[], []⟩ (.nil rest)
      refine ⟨_, _, t', .cons ht free run_of run_ne hoff, ?_⟩
      intro r hr hne
      rcases List.mem_cons.1 hr with rfl | hr
      · exact absurd rfl (hleak _ (by simp) hne)
      · rcases List.mem_cons.1 hr with rfl | hr
        · exact hne
        · exact absurd rfl (hleak r (by simp [hr]) hne)

/-! ### Between two windows -/

theorem RunsUpTo.of_append {most : Nat} {a b : List Char} (h : RunsUpTo accepts most (a ++ b)) :
    RunsUpTo accepts most a :=
  fun run hin hrun => h run (hin.trans (List.prefix_append a b).isInfix) hrun

theorem Straddles.append_left {aside left : List Char} {t : Torn}
    (h : Straddles accepts aside left t) (block : List Char) :
    Straddles accepts aside (left ++ block) t where
  text := h.text
  valid := h.valid
  goes_on hleak := by
    obtain ⟨c, rest, heq, hc⟩ := h.goes_on hleak
    exact ⟨c, rest ++ block, by rw [heq]; rfl, hc⟩

/-- Of what is left of a window all but a tail is set aside too.  Only if the run at its end is
longer than the tail, a part of the run is. -/
theorem Straddles.keep {overlap : Nat} (hpos : 0 < overlap) {last : Bool}
    {aside left piece run : List Char} {t : Torn} (h : Straddles accepts aside left t)
    (hends : EndsIn accepts last left piece run) :
    ∃ t', Straddles accepts (aside ++ left.take (left.length - overlap))
        (left.drop (left.length - overlap)) t' ∧
      (t'.leak ≠ [] → t.leak ≠ [] ∨ overlap < run.length) := by
  obtain ⟨rfl, hpiece, hrun, -⟩ := hends
  obtain ⟨n, hn⟩ : ∃ n, n = (piece ++ run).length - overlap := ⟨_, rfl⟩
  rw [← hn]
  rw [List.length_append] at hn
  rcases Nat.lt_or_ge piece.length n with hlt | hge
  · -- the tail begins inside the run
    obtain ⟨k, rfl⟩ : ∃ k, n = piece.length + k := ⟨n - piece.length, by omega⟩
    obtain ⟨c, rest, hdrop⟩ : ∃ c rest, run.drop k = c :: rest :=
      List.exists_cons_of_ne_nil (by rw [Ne, List.drop_eq_nil_iff]; omega)
    have hsplit : run = run.take k ++ c :: rest := by rw [← hdrop, List.take_append_drop]
    have hpart := h.append_piece hpiece
    rw [hsplit] at hpart hrun
    have hfront : RunOf accepts (run.take k ++ [c]) := by
      rw [List.append_cons] at hrun
      exact (Separator.runOf_append.1 hrun).1
    refine ⟨⟨t.piece ++ piece, t.leak ++ run.take k⟩, ?_, fun _ => Or.inr (by omega)⟩
    have hall := hpart.append_run hfront
    rw [List.take_length_add_append, List.drop_length_add_append, hdrop, ← List.append_assoc]
    exact hall
  · -- the tail holds the whole run
    have hfree : FreeOf accepts ((piece ++ run).take n) := by
      rw [List.take_append_of_le_length hge]
      exact fun c hc => hpiece c (List.mem_of_mem_take hc)
    rw [← List.take_append_drop n (piece ++ run)] at h
    exact ⟨_, h.append_piece hfree, Or.inl⟩

/-- **What holds between two blocks.**  The text read so far is cut into the records delivered, what
was set aside, and what is carried over; a part of a run came along with a record only if a run was
too long. -/
structure Framed (accepts : Char → Bool) (overlap : Nat) (read : List Char) (p : Progress)
    (front : List Char) (torn : List Torn) (t : Torn) : Prop where
  /-- Nothing is lost. -/
  whole : read = front ++ (t.text ++ p.carry)
  /-- The front part is cut into records. -/
  front_cut : CutInto accepts front torn
  /-- These were delivered. -/
  delivered : p.done.reverse = nonBlank (torn.map Torn.text)
  /-- What was set aside is a piece and a part of the run after it. -/
  straddles : Straddles accepts (setAside p.aside) p.carry t
  /-- The runs that were torn apart are long. -/
  long : ∀ r ∈ t :: torn, r.leak ≠ [] → ¬RunsUpTo accepts overlap read

theorem framed_start (overlap : Nat) :
    Framed accepts overlap [] .start [] [] ⟨[], []⟩ :=
  ⟨rfl, .nil, rfl, .nil [], by simp⟩

/-- A window after what was read before. -/
theorem Framed.window {overlap : Nat} {read front : List Char} {p : Progress} {torn : List Torn}
    {t : Torn} (h : Framed accepts overlap read p front torn t) (last : Bool) (block : List Char) :
    ∃ front' torn' t',
      CutOff accepts last (t.text ++ (p.carry ++ block)) p.done
        (Framing.window (Separator.runOf accepts).scan last p block) front' torn' t' ∧
      CutInto accepts (front ++ front') (torn ++ torn') ∧
      ∀ r ∈ t' :: (torn ++ torn'), r.leak ≠ [] → ¬RunsUpTo accepts overlap (read ++ block) := by
  obtain ⟨front', torn', t', hoff, hleak⟩ :=
    cutWindow_of_runSpans last (Separator.scan_runOf accepts (p.carry ++ block)) p.aside p.done t
      (h.straddles.append_left block)
  rw [Nat.zero_add] at hoff
  refine ⟨front', torn', t', hoff, h.front_cut.append hoff.front_cut, ?_⟩
  intro r hr hne hruns
  rw [List.mem_cons, List.mem_append] at hr
  rcases hr with rfl | hr | hr
  · exact h.long t (by simp) (hleak r (by simp) hne) hruns.of_append
  · exact h.long r (by simp [hr]) hne hruns.of_append
  · exact h.long t (by simp) (hleak r (by simp [hr]) hne) hruns.of_append

/-- **Reading a block keeps what holds between two.** -/
theorem Framed.step {overlap : Nat} (hpos : 0 < overlap) {read front : List Char} {p : Progress}
    {torn : List Torn} {t : Torn} (h : Framed accepts overlap read p front torn t)
    (block : List Char) :
    ∃ front' torn' t', Framed accepts overlap (read ++ block)
      (Framing.step (Separator.runOf accepts).scan overlap p block) front' torn' t' := by
  obtain ⟨front', torn', t', hoff, hcut, hlong⟩ := h.window false block
  obtain ⟨c, hc⟩ : ∃ c, c = Framing.window (Separator.runOf accepts).scan false p block := ⟨_, rfl⟩
  rw [← hc] at hoff
  obtain ⟨piece, run, hends⟩ := hoff.ends
  obtain ⟨t'', hkeep, hleak⟩ := hoff.straddles.keep hpos hends
  have htext : t'.text ++ c.rest = t''.text ++ c.rest.drop (c.rest.length - overlap) := by
    rw [← hkeep.text, ← hoff.straddles.text, List.append_assoc, List.take_append_drop]
  have hwhole : read ++ block = front ++ front' ++ (t'.text ++ c.rest) := by
    rw [h.whole, List.append_assoc, List.append_assoc, List.append_assoc, hoff.whole]
  refine ⟨front ++ front', torn ++ torn', t'', ?_⟩
  rw [Framing.step, ← hc]
  refine ⟨by rw [hwhole, htext], hcut, ?_, ?_, ?_⟩
  · rw [hoff.delivered, h.delivered, List.map_append, nonBlank_append]
  · rw [setAside_cons]
    exact hkeep
  · intro r hr hne
    rcases List.mem_cons.1 hr with rfl | hr
    · rcases hleak hne with hne' | hlen
      · exact hlong t' (by simp) hne'
      · -- the run at the end of the window is too long
        intro hruns
        obtain ⟨hrest, -, hrun, -⟩ := hends
        have hin : run <:+: read ++ block := by
          rw [hwhole, hrest]
          exact ⟨front ++ front' ++ (t'.text ++ piece), [], by simp⟩
        have := hruns run hin hrun
        omega
    · exact hlong r (by simp [hr]) hne

/-- Reading any blocks does. -/
theorem framed_foldl (accepts : Char → Bool) {overlap : Nat} (hpos : 0 < overlap)
    (blocks : List (List Char)) :
    ∃ front torn t, Framed accepts overlap blocks.flatten
      (blocks.foldl (Framing.step (Separator.runOf accepts).scan overlap) .start) front torn t := by
  induction blocks using List.reverseRecOn with
  | nil => exact ⟨[], [], _, framed_start overlap⟩
  | append_singleton blocks block ih =>
    obtain ⟨front, torn, t, h⟩ := ih
    rw [List.foldl_append, List.flatten_append, List.flatten_singleton]
    exact h.step hpos block

/-! ### The end of the text -/

/-- **The records and the pieces of a text, side by side.**  Every record is a piece with a part of
the run after it, and that part is empty unless a run is longer than what is kept of a window. -/
theorem records_scan_runOf (accepts : Char → Bool) {overlap : Nat} (hpos : 0 < overlap)
    (blocks : List (List Char)) :
    ∃ torn : List Torn,
      records (Separator.runOf accepts).scan overlap true blocks = nonBlank (torn.map Torn.text) ∧
      pieces accepts blocks.flatten = nonBlank (torn.map Torn.piece) ∧
      ∀ t ∈ torn, t.Valid accepts ∧ (t.leak ≠ [] → ¬RunsUpTo accepts overlap blocks.flatten) := by
  obtain ⟨front, torn, t, h⟩ := framed_foldl accepts hpos blocks
  obtain ⟨p, hp⟩ : ∃ p, p = blocks.foldl (step (Separator.runOf accepts).scan overlap) .start :=
    ⟨_, rfl⟩
  rw [← hp] at h
  obtain ⟨front', torn', t', hoff, hcut, hlong⟩ := h.window true []
  rw [List.append_nil] at hoff hlong
  -- nothing is left but a piece, which completes what was set aside
  obtain ⟨piece, run, hrest, hfree, -, hrun⟩ := hoff.ends
  rw [hrun rfl, List.append_nil] at hrest
  have hstr := hoff.straddles
  rw [hrest, ← List.append_nil piece] at hstr
  have hall := hstr.append_piece hfree
  have hleak : t'.leak = [] := by
    rcases Classical.em (t'.leak = []) with hnil | hne
    · exact hnil
    · obtain ⟨c, rest, heq, -⟩ := hall.goes_on hne
      exact absurd heq (by simp)
  refine ⟨torn ++ torn' ++ [⟨t'.piece ++ piece, t'.leak⟩], ?_, ?_, ?_⟩
  · rw [records, if_pos rfl, ← hp, finish, reverse_addRecord, hoff.delivered, h.delivered,
      complete_eq, hrest, hall.text]
    simp only [List.map_append, nonBlank_append]
    rfl
  · have hwhole : blocks.flatten = front ++ front' ++ (t'.piece ++ piece) := by
      rw [h.whole, List.append_assoc, hoff.whole, hrest, Torn.text, hleak, List.append_nil]
    rw [hwhole, hcut.pieces_append, pieces_of_freeOf hall.valid.free]
    simp only [List.map_append, nonBlank_append]
    rfl
  · intro r hr
    rcases List.mem_append.1 hr with hr | hr
    · exact ⟨hcut.valid r hr, hlong r (by simp [hr])⟩
    · rw [List.mem_singleton.1 hr]
      exact ⟨hall.valid, fun hne => absurd hleak hne⟩

/-! ### Records and pieces -/

theorem Torn.Valid.filter_text {t : Torn} (h : t.Valid accepts) :
    (t.text.filter fun c => !accepts c) = t.piece := by
  have hpiece : (t.piece.filter fun c => !accepts c) = t.piece :=
    List.filter_eq_self.2 fun c hc => by simp [h.free c hc]
  have hleak : (t.leak.filter fun c => !accepts c) = [] :=
    List.filter_eq_nil_iff.2 fun c hc => by simp [h.run c hc]
  rw [Torn.text, List.filter_append, hpiece, hleak, List.append_nil]

theorem cleared_torn {torn : List Torn} (h : ∀ t ∈ torn, t.Valid accepts) :
    cleared accepts (nonBlank (torn.map Torn.text)) = nonBlank (torn.map Torn.piece) := by
  induction torn with
  | nil => rfl
  | cons t torn ih =>
    have ht := h t (by simp)
    have hrest := ih fun r hr => h r (by simp [hr])
    rw [List.map_cons, List.map_cons, nonBlank_cons t.text, nonBlank_cons t.piece, ← hrest]
    simp only [cleared, List.map_append, nonBlank_append]
    congr 1
    by_cases hblank : allBlank t.text = true
    · -- of a blank record nothing is left either
      have hpiece : allBlank t.piece = true := by
        rw [Torn.text, allBlank, List.all_append, Bool.and_eq_true] at hblank
        exact hblank.1
      simp [nonBlank, hblank, hpiece]
    · simp [nonBlank, hblank, ht.filter_text]

end Framing

/-- The characters that standard separators are runs of: line ends and U+0001. -/
def isRecordEnd (c : Char) : Bool := c == '\r' || c == '\n' || c == '\x01'

theorem parse_standard_separator :
    Separator.parse Configuration.standard.separator = .ok (Separator.runOf isRecordEnd) := rfl

open Framing in
/-- **Records between runs of a class.**  The text is read in blocks, and records end at runs of
characters of a class.  If no run in the text is longer than what is kept of a window, the records
are the pieces between the runs that are not blank.  However long the runs are, they are those
pieces once the characters of the class are left out of them.  With every separator that is read as
the runs of the class these are the records of the text. -/
theorem readText_class_runs (accepts : Char → Bool) {blockSize : Int} (hsize : 1 ≤ blockSize)
    (text : List Char) :
    ∃ found,
      found = records (Separator.runOf accepts).scan (overlapFor blockSize) true
        (Encoding.textBlocks blockSize text) ∧
      (RunsUpTo accepts (overlapFor blockSize) text → found = pieces accepts text) ∧
      cleared accepts found = pieces accepts text ∧
      ∀ separator, Separator.parse separator = .ok (Separator.runOf accepts) →
        isSize blockSize = true → readText separator blockSize text = .ok found := by
  have hpos : 0 < overlapFor blockSize := by
    rw [overlapFor, leastOverlap]; omega
  obtain ⟨torn, hfound, hpieces, hvalid⟩ :=
    records_scan_runOf accepts hpos (Encoding.textBlocks blockSize text)
  rw [Encoding.flatten_textBlocks hsize] at hpieces hvalid
  refine ⟨_, rfl, ?_, ?_, fun separator hsep hbound => readText_eq hsep hbound text⟩
  · intro hruns
    have hsame : torn.map Torn.text = torn.map Torn.piece := by
      refine List.map_congr_left fun t ht => ?_
      have hleak : t.leak = [] := Classical.byContradiction fun hne => (hvalid t ht).2 hne hruns
      rw [Torn.text, hleak, List.append_nil]
    rw [hfound, hpieces, hsame]
  · rw [hfound, hpieces, cleared_torn fun t ht => (hvalid t ht).1]

/-- In blocks of one character every separator of more than one character straddles blocks. -/
theorem readText_standard_straddling :
    readText Configuration.standard.separator 1 "a\r\n\x01b c\n\n \nd".toList =
      .ok ["a".toList, "b c".toList, "d".toList] := by
  obtain ⟨found, -, hpieces, -, hread⟩ :=
    readText_class_runs isRecordEnd (show (1 : Int) ≤ 1 by decide)
      "a\r\n\x01b c\n\n \nd".toList
  rw [hread _ parse_standard_separator (by decide),
    hpieces fun run hin _ => hin.length_le.trans (by decide)]
  rfl

end RunHistory
