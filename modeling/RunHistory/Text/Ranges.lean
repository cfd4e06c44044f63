/-!
# Ranges of characters

A class of characters is given by a rising list of closed ranges of code points, as the character
tables of the Unicode standard print it.

## Main definitions

* `CodeRanges`, `CodeRanges.contains`: a class and its membership test.
* `CodeRanges.Apart`: two classes that share no code point, as a test on the ranges alone.

## Main results

* `CodeRanges.contains_iff`: membership is lying in one of the ranges.
* `CodeRanges.not_contains_of_apart`: classes whose ranges keep apart share no character.
-/

namespace RunHistory

/-- A class of characters: the first and last code point of each of its runs. -/
abbrev CodeRanges := List (Nat × Nat)

namespace CodeRanges

/-- Whether a code point lies in one of the ranges. -/
def contains (ranges : CodeRanges) (code : Nat) : Bool :=
  ranges.any fun r => r.1 ≤ code && code ≤ r.2

/-- Whether no range of the one class meets a range of the other. -/
def Apart (a b : CodeRanges) : Bool :=
  a.all fun r => b.all fun q => r.2 < q.1 || q.2 < r.1

theorem contains_iff {ranges : CodeRanges} {code : Nat} :
    ranges.contains code = true ↔ ∃ r ∈ ranges, r.1 ≤ code ∧ code ≤ r.2 := by
  simp [contains]

theorem not_contains_of_apart {a b : CodeRanges} (h : a.Apart b = true) {code : Nat}
    (ha : a.contains code = true) : b.contains code = false := by
  obtain ⟨r, hr, hlo, hhi⟩ := contains_iff.1 ha
  rw [Bool.eq_false_iff]
  intro hb
  obtain ⟨q, hq, hlo', hhi'⟩ := contains_iff.1 hb
  have := List.all_eq_true.1 (List.all_eq_true.1 h r hr) q hq
  simp at this
  omega

end CodeRanges

end RunHistory
