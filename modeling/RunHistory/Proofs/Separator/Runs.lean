import Mathlib.Data.List.TakeWhile
import RunHistory.Separator.Parser

/-!
# Scanning for runs of a class

A separator that is a run of characters of a class matches, from left to right, the maximal runs of
the class.  The scanner says so with spans; here the same is said of the text, which falls into
pieces without the class and runs of it.

## Main definitions

* `FreeOf`, `RunOf`: texts without characters of a class, and texts of nothing else.
* `RunSpans`: the spans of the maximal runs of a class in a text.

## Main results

* `matchAt_runOf`: a run of a class matches as far as it goes.
* `scan_runOf`: the scanner finds the spans of the maximal runs.
-/

namespace RunHistory.Separator

variable {accepts : Char → Bool}

/-! ### Pieces and runs -/

/-- A text without characters of the class. -/
def FreeOf (accepts : Char → Bool) (text : List Char) : Prop := ∀ c ∈ text, accepts c = false

/-- A text of nothing but characters of the class. -/
def RunOf (accepts : Char → Bool) (text : List Char) : Prop := ∀ c ∈ text, accepts c = true

@[simp] theorem freeOf_nil : FreeOf accepts [] := by simp [FreeOf]

@[simp] theorem runOf_nil : RunOf accepts [] := by simp [RunOf]

theorem freeOf_cons {c : Char} {text : List Char} :
    FreeOf accepts (c :: text) ↔ accepts c = false ∧ FreeOf accepts text := by
  simp [FreeOf]

theorem runOf_cons {c : Char} {text : List Char} :
    RunOf accepts (c :: text) ↔ accepts c = true ∧ RunOf accepts text := by
  simp [RunOf]

theorem freeOf_append {a b : List Char} :
    FreeOf accepts (a ++ b) ↔ FreeOf accepts a ∧ FreeOf accepts b := by
  simp [FreeOf, or_imp, forall_and]

theorem runOf_append {a b : List Char} :
    RunOf accepts (a ++ b) ↔ RunOf accepts a ∧ RunOf accepts b := by
  simp [RunOf, or_imp, forall_and]

/-- A text that does not go on with a character of the class. -/
def Stops (accepts : Char → Bool) (text : List Char) : Prop :=
  ∀ c ∈ text.head?, accepts c = false

theorem stops_dropWhile (text : List Char) : Stops accepts (text.dropWhile accepts) := by
  intro c hc
  cases h : text.dropWhile accepts with
  | nil => rw [h] at hc; simp at hc
  | cons x rest =>
    have hx := List.head_dropWhile_not accepts (l := text) (by rw [h]; simp)
    rw [h, List.head?_cons, Option.mem_some_iff] at hc
    simpa [h, hc] using hx

theorem runOf_takeWhile (text : List Char) : RunOf accepts (text.takeWhile accepts) :=
  fun _ hc => List.mem_takeWhile_imp hc

/-! ### One match -/

/-- The farthest place at which a run may end is where the class stops. -/
theorem runEnds_append : ∀ (run rest : List Char) (n : Nat) (acc : List (Nat × List Char)),
    RunOf accepts run → Stops accepts rest →
      ∃ nearer, runEnds accepts n (run ++ rest) acc = (n + run.length, rest) :: nearer := by
  intro run
  induction run with
  | nil =>
    intro rest n acc _ hstop
    cases rest with
    | nil => exact ⟨acc, rfl⟩
    | cons c rest =>
      have hc : accepts c = false := hstop c rfl
      exact ⟨acc, by simp [runEnds, hc]⟩
  | cons c run ih =>
    intro rest n acc hrun hstop
    obtain ⟨hc, hrun'⟩ := runOf_cons.1 hrun
    obtain ⟨nearer, h⟩ := ih rest (n + 1) ((n, c :: (run ++ rest)) :: acc) hrun' hstop
    refine ⟨nearer, ?_⟩
    rw [List.cons_append, runEnds, if_pos hc, h, List.length_cons]
    congr 2
    omega

theorem runEnds_of_stops {text : List Char} (n : Nat) (h : Stops accepts text) :
    runEnds accepts n text [] = [(n, text)] := by
  cases text with
  | nil => rfl
  | cons c rest => simp [runEnds, h c rfl]

/-- **A run of a class matches as far as it goes.** -/
theorem matchAt_runOf {run rest : List Char} (atStart advance : Bool) (hrun : RunOf accepts run)
    (hne : run ≠ []) (hstop : Stops accepts rest) :
    (Separator.runOf accepts).matchAt atStart advance (run ++ rest) = some run.length := by
  obtain ⟨nearer, h⟩ := runEnds_append run rest 0 [] hrun hstop
  have hlen : 0 < run.length := List.length_pos_iff.2 hne
  have hle : 0 + 1 ≤ 0 + run.length := by omega
  have hnz : (advance && (0 + run.length == 0)) = false := by
    simp [hne]
  simp only [Pattern.matchAt, Separator.runOf, List.findSome?_cons, matchItems, h,
    List.filter_cons, decide_eq_true hle, if_true, hnz]
  simp

theorem matchAt_runOf_of_stops {text : List Char} (atStart advance : Bool)
    (h : Stops accepts text) :
    (Separator.runOf accepts).matchAt atStart advance text = none := by
  simp [Pattern.matchAt, Separator.runOf, matchItems, runEnds_of_stops 0 h]

/-! ### All matches -/

theorem scanFrom_succ (p : Pattern) (fuel place : Nat) (advance : Bool) (acc : List Span)
    (cs : List Char) :
    p.scanFrom (fuel + 1) place advance acc cs =
      match p.matchAt (place == 0) advance cs with
      | some n => p.scanFrom fuel (place + n) (n == 0) (⟨place, place + n⟩ :: acc) (cs.drop n)
      | none =>
        match cs with
        | [] => acc.reverse
        | _ :: rest => p.scanFrom fuel (place + 1) false acc rest := rfl

/-- The separators found so far only stand in front of those that follow. -/
theorem scanFrom_acc (p : Pattern) : ∀ (fuel place : Nat) (advance : Bool) (acc : List Span)
    (cs : List Char),
    p.scanFrom fuel place advance acc cs = acc.reverse ++ p.scanFrom fuel place advance [] cs := by
  intro fuel
  induction fuel with
  | zero => intro place advance acc cs; simp [Pattern.scanFrom]
  | succ fuel ih =>
    intro place advance acc cs
    rw [scanFrom_succ, scanFrom_succ]
    cases p.matchAt (place == 0) advance cs with
    | some n =>
      simp only
      rw [ih _ _ (⟨place, place + n⟩ :: acc), ih _ _ [⟨place, place + n⟩]]
      simp
    | none =>
      cases cs with
      | nil => simp
      | cons c rest => simp only; exact ih _ _ acc rest

/-- The spans of the maximal runs of a class in a text that begins at a place. -/
inductive RunSpans (accepts : Char → Bool) : Nat → List Char → List Span → Prop where
  /-- No run is left. -/
  | last {place : Nat} {piece : List Char} (free : FreeOf accepts piece) :
    RunSpans accepts place piece []
  /-- A piece without the class, and a run after it. -/
  | next {place : Nat} {piece run rest : List Char} {spans : List Span}
    (free : FreeOf accepts piece) (run_of : RunOf accepts run) (run_ne : run ≠ [])
    (tail : RunSpans accepts (place + piece.length + run.length) rest spans) :
    RunSpans accepts place (piece ++ (run ++ rest))
      (⟨place + piece.length, place + piece.length + run.length⟩ :: spans)

/-- One more character in front of the first run. -/
theorem RunSpans.cons {place : Nat} {c : Char} {text : List Char} {spans : List Span}
    (hc : accepts c = false) (h : RunSpans accepts (place + 1) text spans) :
    RunSpans accepts place (c :: text) spans := by
  cases h with
  | last free => exact .last (freeOf_cons.2 ⟨hc, free⟩)
  | @next _ piece run rest spans free run_of run_ne tail =>
    have hplace : place + 1 + piece.length = place + (c :: piece).length := by
      rw [List.length_cons]; omega
    rw [hplace] at tail ⊢
    exact .next (freeOf_cons.2 ⟨hc, free⟩) run_of run_ne tail

/-- With fuel for every character the scanner finds the spans of all maximal runs. -/
theorem runSpans_scanFrom : ∀ (fuel place : Nat) (advance : Bool) (text : List Char),
    text.length < fuel →
      RunSpans accepts place text
        ((Separator.runOf accepts).scanFrom fuel place advance [] text) := by
  intro fuel
  induction fuel with
  | zero => intro _ _ text h; omega
  | succ fuel ih =>
    intro place advance text hfuel
    rw [scanFrom_succ]
    cases text with
    | nil =>
      rw [matchAt_runOf_of_stops _ _ (by simp [Stops])]
      exact .last freeOf_nil
    | cons c rest =>
      cases hc : accepts c with
      | false =>
        have hstop : Stops accepts (c :: rest) := by simpa [Stops] using hc
        rw [matchAt_runOf_of_stops _ _ hstop]
        exact (ih (place + 1) false rest (by simpa using hfuel)).cons hc
      | true =>
        -- the text is a run, not empty, and what comes after it
        obtain ⟨run, hrun⟩ : ∃ run, run = (c :: rest).takeWhile accepts := ⟨_, rfl⟩
        obtain ⟨after, hafter⟩ : ∃ after, after = (c :: rest).dropWhile accepts := ⟨_, rfl⟩
        have htext : c :: rest = run ++ after := by
          rw [hrun, hafter, List.takeWhile_append_dropWhile]
        have hne : run ≠ [] := by simp [hrun, hc]
        have hof : RunOf accepts run := hrun ▸ runOf_takeWhile _
        have hlen : (c :: rest).length = run.length + after.length := by
          rw [htext, List.length_append]
        have hpos : 0 < run.length := List.length_pos_iff.2 hne
        rw [htext, matchAt_runOf _ _ hof hne (hafter ▸ stops_dropWhile _)]
        simp only
        rw [scanFrom_acc, List.drop_left]
        exact @RunSpans.next accepts place [] run after _ freeOf_nil hof hne
          (ih (place + run.length) _ after (by omega))

/-- **The scanner finds the spans of the maximal runs.** -/
theorem scan_runOf (accepts : Char → Bool) (text : List Char) :
    RunSpans accepts 0 text ((Separator.runOf accepts).scan text) :=
  runSpans_scanFrom _ _ _ _ (by omega)

end RunHistory.Separator
