import Mathlib.Data.List.Infix
import RunHistory.Proofs.Separator.Runs

/-!
# Scanning for a fixed text

A separator that is a fixed text matches, from left to right, the occurrences of the text that do
not overlap: each time the first that begins where the one before it ends, or later.  A pattern
without special characters is such a text.

## Main definitions

* `OccursAt`: a text occurs at a place of another.
* `EndsFirst`: a piece with the text after it, in which the text does not occur before.
* `TextSpans`: the spans of the occurrences in a text.
* `Plain`: a text whose characters stand for themselves in a pattern.

## Main results

* `matchAt_literal`: a fixed text matches just where it stands.
* `scan_literal`: the scanner finds the spans of the occurrences.
* `parse_plain`: **a text of plain characters is the pattern of that text.**
-/

namespace RunHistory.Separator

variable {s : List Char}

/-! ### Occurrences -/

/-- A text occurs at a place of another. -/
def OccursAt (s text : List Char) (n : Nat) : Prop := s <+: text.drop n

instance (s text : List Char) (n : Nat) : Decidable (OccursAt s text n) :=
  inferInstanceAs (Decidable (s <+: text.drop n))

theorem occursAt_length (piece rest : List Char) :
    OccursAt s (piece ++ (s ++ rest)) piece.length := by
  rw [OccursAt, List.drop_left]
  exact List.prefix_append s rest

theorem OccursAt.add_length_le (hne : s ≠ []) {text : List Char} {n : Nat}
    (h : OccursAt s text n) : n + s.length ≤ text.length := by
  have hle := h.length_le
  have hpos := List.length_pos_iff.2 hne
  rw [List.length_drop] at hle
  omega

theorem OccursAt.append {text : List Char} {n : Nat} (h : OccursAt s text n) (rest : List Char) :
    OccursAt s (text ++ rest) n := by
  rw [OccursAt, List.drop_append]
  exact List.IsPrefix.trans h (List.prefix_append _ _)

/-- An occurrence behind a part of a text does not depend on the part. -/
theorem occursAt_append_of_le {a b : List Char} {n : Nat} (h : a.length ≤ n) :
    OccursAt s (a ++ b) n ↔ OccursAt s b (n - a.length) := by
  rw [OccursAt, OccursAt, List.drop_append, List.drop_eq_nil_of_le h, List.nil_append]

/-- An occurrence inside a part of a text does not depend on what follows. -/
theorem occursAt_append_of_add_le {a b : List Char} {n : Nat} (h : n + s.length ≤ a.length) :
    OccursAt s (a ++ b) n ↔ OccursAt s a n := by
  rw [OccursAt, OccursAt, List.drop_append_of_le_length (by omega)]
  constructor
  · intro hin
    exact List.prefix_of_prefix_length_le hin (List.prefix_append _ b)
      (by rw [List.length_drop]; omega)
  · intro hin
    exact hin.trans (List.prefix_append _ b)

/-- A piece with the text after it, in which the text does not occur before. -/
def EndsFirst (s piece : List Char) : Prop := ∀ n < piece.length, ¬OccursAt s (piece ++ s) n

instance (s piece : List Char) : Decidable (EndsFirst s piece) :=
  inferInstanceAs (Decidable (∀ n < piece.length, _))

/-- Whatever follows, the text does not occur before the end of such a piece. -/
theorem EndsFirst.length_le {piece rest : List Char} (h : EndsFirst s piece) {n : Nat}
    (hn : OccursAt s (piece ++ (s ++ rest)) n) : piece.length ≤ n := by
  by_contra hlt
  have hin : n + s.length ≤ (piece ++ s).length := by
    rw [List.length_append]; omega
  rw [← List.append_assoc, occursAt_append_of_add_le hin] at hn
  exact h n (by omega) hn

/-! ### One match -/

theorem matchItems_literal (atStart advance : Bool) : ∀ (s : List Char) (done : Nat)
    (cs : List Char), matchItems atStart advance (s.map fun c => .one (· == c)) done cs =
      if s <+: cs then (if advance && done + s.length == 0 then none else some (done + s.length))
      else none := by
  intro s
  induction s with
  | nil => intro done cs; simp [matchItems]
  | cons c s ih =>
    intro done cs
    cases cs with
    | nil => simp [matchItems]
    | cons x rest =>
      by_cases hx : x = c
      · subst hx
        have hdone : done + 1 + s.length = done + (x :: s).length := by
          rw [List.length_cons]; omega
        simp [matchItems, ih, hdone]
      · have hno : ¬(c :: s <+: x :: rest) := fun h =>
          hx (List.cons_prefix_cons.1 h).1.symm
        rw [if_neg hno]
        simp [matchItems, hx]

/-- **A fixed text matches just where it stands.** -/
theorem matchAt_literal (hne : s ≠ []) (atStart advance : Bool) (cs : List Char) :
    (literal s).matchAt atStart advance cs = if s <+: cs then some s.length else none := by
  have hnz : (advance && 0 + s.length == 0) = false := by simp [hne]
  rw [Pattern.matchAt, literal, List.findSome?_cons, matchItems_literal, hnz]
  by_cases h : s <+: cs
  · simp [h]
  · simp [h]

/-! ### All matches -/

/-- The spans of the occurrences of a text in one that begins at a place, each time the first that
does not overlap those before. -/
inductive TextSpans (s : List Char) : Nat → List Char → List Span → Prop where
  /-- The text does not occur any more. -/
  | last {place : Nat} {piece : List Char} (free : ∀ n, ¬OccursAt s piece n) :
    TextSpans s place piece []
  /-- A piece, and the text after it. -/
  | next {place : Nat} {piece rest : List Char} {spans : List Span} (first : EndsFirst s piece)
    (tail : TextSpans s (place + piece.length + s.length) rest spans) :
    TextSpans s place (piece ++ (s ++ rest))
      (⟨place + piece.length, place + piece.length + s.length⟩ :: spans)

/-- One more character in front, where the text does not occur. -/
theorem TextSpans.cons {place : Nat} {c : Char} {text : List Char}
    {spans : List Span} (hno : ¬s <+: c :: text) (h : TextSpans s (place + 1) text spans) :
    TextSpans s place (c :: text) spans := by
  cases h with
  | last free =>
    refine .last fun n hn => ?_
    cases n with
    | zero => exact hno hn
    | succ n => exact free n hn
  | @next _ piece rest spans first tail =>
    have hplace : place + 1 + piece.length = place + (c :: piece).length := by
      rw [List.length_cons]; omega
    rw [hplace] at tail ⊢
    refine .next (fun n hn hin => ?_) tail
    cases n with
    | zero =>
      -- the first occurrence would begin in front
      refine hno (hin.trans ?_)
      rw [List.drop_zero, List.cons_append, ← List.append_assoc]
      exact ⟨rest, rfl⟩
    | succ n =>
      rw [List.length_cons] at hn
      exact first n (by omega) hin

/-- With fuel for every character the scanner finds the spans of all occurrences. -/
theorem textSpans_scanFrom (hne : s ≠ []) : ∀ (fuel place : Nat) (advance : Bool)
    (text : List Char), text.length < fuel →
      TextSpans s place text ((literal s).scanFrom fuel place advance [] text) := by
  intro fuel
  induction fuel with
  | zero => intro _ _ text h; omega
  | succ fuel ih =>
    intro place advance text hfuel
    rw [scanFrom_succ, matchAt_literal hne]
    by_cases hin : s <+: text
    · -- the text stands here, and what follows is scanned from its end on
      obtain ⟨rest, rfl⟩ := hin
      have hpos := List.length_pos_iff.2 hne
      have hlength : rest.length < fuel := by
        rw [List.length_append] at hfuel; omega
      rw [if_pos (List.prefix_append s rest)]
      simp only
      rw [scanFrom_acc, List.drop_left]
      exact @TextSpans.next s place [] rest _ (by simp [EndsFirst])
        (ih (place + s.length) _ rest hlength)
    · rw [if_neg hin]
      cases text with
      | nil =>
        refine .last fun n hn => ?_
        have hle := hn.add_length_le hne
        have hpos := List.length_pos_iff.2 hne
        rw [List.length_nil] at hle
        omega
      | cons c rest =>
        rw [List.length_cons] at hfuel
        exact (ih (place + 1) false rest (by omega)).cons hin

/-- **The scanner finds the spans of the occurrences.** -/
theorem scan_literal (hne : s ≠ []) (text : List Char) :
    TextSpans s 0 text ((literal s).scan text) :=
  textSpans_scanFrom hne _ _ _ _ (by omega)

/-! ### Patterns of plain characters -/

/-- The characters that mean something else in a pattern.  A closing bracket or brace by itself does
not. -/
def specials : List Char := ['.', '^', '$', '*', '+', '?', '\x7b', '[', '\\', '|', '(', ')']

/-- A text whose characters stand for themselves in a pattern. -/
def Plain (s : List Char) : Prop := ∀ c ∈ s, c ∉ specials

instance : DecidablePred Plain := fun s => List.decidableBAll (· ∉ specials) s

/-- What is known after characters were read, the last one first. -/
def Draft.ofChars : List Char → Draft
  | [] => .start
  | c :: before => (Draft.ofChars before).char (charClass false c)

theorem Draft.settle_ofChars : ∀ before : List Char,
    (Draft.ofChars before).settle = ⟨[], before.map fun c => .one (· == c), none⟩
  | [] => rfl
  | c :: before => by
    have hsettle : (ofChars (c :: before)).settle = ⟨(ofChars before).settle.branches,
        .one (charClass false c) :: (ofChars before).settle.items, none⟩ := rfl
    rw [hsettle, settle_ofChars before]
    rfl

theorem Draft.branches_ofChars : ∀ before : List Char, (Draft.ofChars before).branches = []
  | [] => rfl
  | _ :: before => congrArg branches (settle_ofChars before)

theorem Draft.pattern_ofChars (before : List Char) :
    (Draft.ofChars before).pattern = literal before.reverse := by
  rw [pattern, close, settle_ofChars, branches_ofChars, literal]
  simp

theorem codeClass_toNat (anyCase : Bool) (c : Char) :
    codeClass anyCase c.toNat = charClass anyCase c := by
  have hvalid : c.toNat.isValidChar := c.valid
  rw [codeClass, if_pos hvalid, Char.ofNat_toNat]

/-- A plain character is taken up as it is. -/
theorem parseFrom_cons_of_plain (total fuel : Nat) (d : Draft) {c : Char} (hc : c ∉ specials)
    (rest : List Char) : parseFrom false total (fuel + 1) d (c :: rest) =
      parseFrom false total fuel (d.char (charClass false c)) rest := by
  simp only [specials, List.mem_cons, List.not_mem_nil, or_false, not_or] at hc
  obtain ⟨h1, h2, h3, h4, h5, h6, h7, h8, h9, h10, h11, h12⟩ := hc
  simp only [parseFrom, h1, h2, h3, h4, h5, h6, h7, h8, h9, h10, h11, h12, or_self, false_and,
    if_false]
  rw [codeClass_toNat]
  rfl

theorem parseFrom_plain (total : Nat) : ∀ (cs before : List Char) (fuel : Nat),
    cs.length ≤ fuel → Plain cs →
      parseFrom false total fuel (.ofChars before) cs = .ok (literal (before.reverse ++ cs)) := by
  intro cs
  induction cs with
  | nil =>
    intro before fuel _ _
    rw [List.append_nil, ← Draft.pattern_ofChars]
    cases fuel <;> rfl
  | cons c cs ih =>
    intro before fuel hfuel hplain
    cases fuel with
    | zero => simp at hfuel
    | succ fuel =>
      rw [List.length_cons] at hfuel
      have hnext := ih (c :: before) fuel (by omega) fun x hx =>
        hplain x (List.mem_cons_of_mem c hx)
      rw [List.reverse_cons, List.append_assoc, List.singleton_append] at hnext
      rw [parseFrom_cons_of_plain total fuel _ (hplain c List.mem_cons_self)]
      exact hnext

/-- **A text of plain characters is the pattern of that text.** -/
theorem parse_plain {s : List Char} (h : Plain s) : parse (String.ofList s) = .ok (literal s) := by
  rw [parse, String.toList_ofList]
  split
  · exact absurd (by decide) (h '(' List.mem_cons_self)
  · exact parseFrom_plain s.length s [] s.length (Nat.le_refl _) h

end RunHistory.Separator
