import RunHistory.Number.Whole
import RunHistory.Proofs.Json.Written

/-!
# Whole numbers and their decimal texts

The decimal text of an integer is a sign if the integer is below zero, and digits.  Read as a whole
number it gives the integer back, with any spaces around it, unless the digits are too many.

## Main definitions

* `Whole.Spaces`: a text of nothing but the spaces that count around a number.
* `Whole.Short`: an integer whose digits are not too many to be read.

## Main results

* `Whole.toList_toString_ofNat`, `Whole.toList_toString_negSucc`: the decimal text of an integer.
* `Whole.digitsValue_toDigits`: the digits of a number write the number.
* `Whole.strip_padded`: spaces around a text do not count.
* `Whole.ofText?_padded`: **a whole number is read from its decimal text.**
-/

namespace RunHistory.Whole

/-- A text of nothing but spaces, as they count around a number in plain text. -/
def Spaces (s : String) : Prop := ∀ c ∈ s.toList, isSpace c = true

/-- An integer whose digits are not too many to be read. -/
def Short (n : Int) : Prop := (Nat.toDigits 10 n.natAbs).length ≤ Id.maxDigits

instance : DecidablePred Spaces := fun s =>
  List.decidableBAll (fun c => isSpace c = true) s.toList

instance : DecidablePred Short := fun n =>
  inferInstanceAs (Decidable ((Nat.toDigits 10 n.natAbs).length ≤ Id.maxDigits))

/-! ### The text of an integer -/

theorem toList_toString_ofNat (n : Nat) : (toString (Int.ofNat n)).toList = Nat.toDigits 10 n :=
  Nat.toList_repr

theorem toList_toString_negSucc (n : Nat) :
    (toString (Int.negSucc n)).toList = '-' :: Nat.toDigits 10 (n + 1) := by
  show ("-" ++ (n + 1).repr).toList = _
  rw [String.toList_append, Nat.toList_repr]
  rfl

/-! ### Digits -/

theorem isFigure_iff {c : Char} :
    Json.isFigure c = true ↔ 0x30 ≤ c.toNat ∧ c.toNat ≤ 0x39 := by
  simp [Json.isFigure, Char.le_def, UInt32.le_iff_toNat_le]

theorem digitValue?_of_isFigure {c : Char} (h : Json.isFigure c = true) :
    digitValue? c = some (c.toNat - '0'.toNat) := by
  have hrange : 0x30 ≤ c.toNat ∧ c.toNat ≤ 0x30 + 9 := isFigure_iff.1 h
  have hzero : zeroDigits.find? (fun z => z ≤ c.toNat && c.toNat ≤ z + 9) = some 0x30 := by
    rw [zeroDigits, List.find?_cons_of_pos]
    simpa using hrange
  rw [digitValue?, hzero]
  rfl

theorem isDigit_of_isFigure {c : Char} (h : Json.isFigure c = true) : isDigit c = true := by
  rw [isDigit, digitValue?_of_isFigure h]
  rfl

/-- Figures are worth the same as digits of any script. -/
theorem foldl_digitValue {ds : List Char} (h : ∀ c ∈ ds, Json.isFigure c = true) (n : Nat) :
    ds.foldl (fun n c => 10 * n + (digitValue? c).getD 0) n =
      ds.foldl (fun n c => 10 * n + (c.toNat - '0'.toNat)) n := by
  induction ds generalizing n with
  | nil => rfl
  | cons c ds ih =>
    rw [List.foldl_cons, List.foldl_cons, digitValue?_of_isFigure (h c List.mem_cons_self),
      Option.getD_some]
    exact ih (fun c' hc' => h c' (List.mem_cons_of_mem c hc')) _

/-- The digits of a number write the number. -/
theorem digitsValue_toDigits (n : Nat) : digitsValue (Nat.toDigits 10 n) = n := by
  rw [digitsValue, foldl_digitValue fun c hc => Json.isFigure_of_mem_toDigits hc]
  exact Json.figures_toDigits n

/-- Digits without underscores between them are read as they are. -/
theorem digits?_of_isDigit {ds : List Char} (hne : ds ≠ []) (h : ∀ c ∈ ds, isDigit c = true) :
    digits? ds = some ds := by
  fun_induction digits? ds with
  | case1 => exact absurd rfl hne
  | case2 c hc => rfl
  | case3 c hc => exact absurd (h c List.mem_cons_self) hc
  | case4 c rest hc ih => exact absurd (h '_' (by simp)) (by decide)
  | case5 c rest hc => exact absurd (h '_' (by simp)) (by decide)
  | case6 c rest hrest _ hc ih =>
    rw [ih hrest fun c' hc' => h c' (List.mem_cons_of_mem c hc')]
    rfl
  | case7 c rest _ _ hc => exact absurd (h c List.mem_cons_self) hc

/-! ### Spaces and other characters -/

/-- ASCII characters are taken as they are. -/
theorem plain_of_lt {c : Char} (h : c.toNat < 128) : plain c = c := by
  rw [plain, if_neg fun hblank => Nat.not_le_of_lt h hblank.1]

theorem map_plain {cs : List Char} (h : ∀ c ∈ cs, c.toNat < 128) : cs.map plain = cs := by
  calc cs.map plain = cs.map id := List.map_congr_left fun c hc => plain_of_lt (h c hc)
    _ = cs := List.map_id cs

theorem isSpace_iff {c : Char} :
    isSpace c = true ↔ c.toNat = 0x20 ∨ 0x9 ≤ c.toNat ∧ c.toNat ≤ 0xD := by
  have heq : c = ' ' ↔ c.toNat = 0x20 := by
    rw [← Char.toNat_inj]
    rfl
  simp [isSpace, heq, Char.le_def, UInt32.le_iff_toNat_le]

theorem dropWhile_isSpace_append {cs : List Char} (hne : cs ≠ [])
    (hcs : ∀ c ∈ cs, isSpace c = false) (rest : List Char) :
    (cs ++ rest).dropWhile isSpace = cs ++ rest := by
  obtain ⟨c, tail, rfl⟩ := List.exists_cons_of_ne_nil hne
  exact List.dropWhile_cons_of_neg (by simp [hcs c List.mem_cons_self])

/-- Spaces around a text that has none are what is stripped of it. -/
theorem strip_padded {front cs back : List Char} (hfront : ∀ c ∈ front, isSpace c = true)
    (hback : ∀ c ∈ back, isSpace c = true) (hne : cs ≠ []) (hcs : ∀ c ∈ cs, isSpace c = false) :
    strip (front ++ cs ++ back) = cs := by
  have hreverse : cs.reverse.dropWhile isSpace = cs.reverse := by
    have h := dropWhile_isSpace_append (List.reverse_ne_nil_iff.2 hne)
      (fun c hc => hcs c (List.mem_reverse.1 hc)) []
    rwa [List.append_nil] at h
  rw [strip, List.append_assoc, List.dropWhile_append_of_pos hfront,
    dropWhile_isSpace_append hne hcs, List.reverse_append,
    List.dropWhile_append_of_pos fun c hc => hback c (List.mem_reverse.1 hc), hreverse,
    List.reverse_reverse]

/-! ### Reading the text of an integer -/

theorem mem_toString {n : Int} {c : Char} (h : c ∈ (toString n).toList) :
    c = '-' ∨ Json.isFigure c = true := by
  cases n with
  | ofNat n =>
    rw [toList_toString_ofNat] at h
    exact .inr (Json.isFigure_of_mem_toDigits h)
  | negSucc n =>
    rw [toList_toString_negSucc] at h
    exact (List.mem_cons.1 h).imp id Json.isFigure_of_mem_toDigits

/-- The text of an integer is plain, and has no spaces. -/
theorem plain_toString {n : Int} {c : Char} (h : c ∈ (toString n).toList) :
    c.toNat < 128 ∧ isSpace c = false := by
  rcases mem_toString h with rfl | hfigure
  · decide
  · have hrange := isFigure_iff.1 hfigure
    rw [← Bool.not_eq_true, isSpace_iff]
    omega

theorem Spaces.map_plain {s : String} (h : Spaces s) : s.toList.map plain = s.toList := by
  refine Whole.map_plain fun c hc => ?_
  have hrange := isSpace_iff.1 (h c hc)
  omega

/-- The text of an integer is a sign, if the integer is below zero, and its digits. -/
theorem signed_toString (n : Int) :
    signed (toString n).toList = (decide (n < 0), Nat.toDigits 10 n.natAbs) := by
  cases n with
  | ofNat n =>
    -- the first digit is no sign
    obtain ⟨d, ds, hdigits, hd⟩ := Json.exists_toDigits_eq_cons n
    have hminus : d ≠ '-' := (Json.ne_of_isFigure (by decide) hd).symm
    have hplus : d ≠ '+' := (Json.ne_of_isFigure (by decide) hd).symm
    have hpositive : ¬Int.ofNat n < 0 := Int.not_lt.2 (Int.natCast_nonneg n)
    rw [toList_toString_ofNat, decide_eq_false hpositive, hdigits]
    show signed (d :: ds) = (false, Nat.toDigits 10 n)
    simp [signed, hminus, hplus, hdigits]
  | negSucc n =>
    have hnegative : Int.negSucc n < 0 := by omega
    rw [toList_toString_negSucc, decide_eq_true hnegative]
    rfl

/-- **A whole number is read from its decimal text**, with any spaces around it. -/
theorem ofText?_padded {n : Int} (h : Short n) {front back : String} (hfront : Spaces front)
    (hback : Spaces back) : ofText? (front ++ toString n ++ back) = some n := by
  have hplain : (front ++ toString n ++ back).toList.map plain =
      front.toList ++ (toString n).toList ++ back.toList := by
    rw [String.toList_append, String.toList_append, List.map_append, List.map_append,
      hfront.map_plain, hback.map_plain, map_plain fun c hc => (plain_toString hc).1]
  have hne : (toString n).toList ≠ [] := by
    intro hnil
    have hsigned := signed_toString n
    rw [hnil] at hsigned
    exact Nat.toDigits_ne_nil (Prod.mk.inj hsigned).2.symm
  have hdigits : digits? (Nat.toDigits 10 n.natAbs) = some (Nat.toDigits 10 n.natAbs) :=
    digits?_of_isDigit Nat.toDigits_ne_nil fun c hc =>
      isDigit_of_isFigure (Json.isFigure_of_mem_toDigits hc)
  have hshort : ¬(Nat.toDigits 10 n.natAbs).length > Id.maxDigits := Nat.not_lt_of_le h
  rw [ofText?, hplain, strip_padded hfront hback hne fun c hc => (plain_toString hc).2,
    signed_toString]
  simp only [hdigits, if_neg hshort, digitsValue_toDigits, decide_eq_true_eq, Option.some.injEq]
  split <;> omega

end RunHistory.Whole
