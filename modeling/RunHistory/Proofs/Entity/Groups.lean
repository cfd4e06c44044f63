import Mathlib.Data.List.TakeWhile
import RunHistory.Entity.Id

/-!
# The parts of an id's text

A text falls at its underscores into groups in one way, and groups without underscores are those of
the text that joins them.  From this follows what the two ways of writing an id are: a native id is
a word joined with groups of digits, and an embedded id is the parent's text with a word and digits
behind it.  Neither digits nor word characters are blank.

## Main results

* `Id.groups_append`: the groups on either side of an underscore.
* `Id.groups_joined`, `Id.joined_groups`: a text and its groups determine each other.
* `Id.nativeGroups?_eq_some_iff`, `Id.embeddedParts?_eq_some_iff`: **the texts of the two ways of
  writing an id.**
* `not_isBlank_of_isDigit`, `not_isBlank_of_isWord`: digits and word characters are not blank.
-/

namespace RunHistory

/-! ### Classes of characters -/

theorem isDigit_eq_contains (c : Char) :
    isDigit c = CodeRanges.contains (zeroDigits.map fun z => (z, z + 9)) c.toNat := by
  rw [isDigit, digitValue?, Option.isSome_map, Bool.eq_iff_iff, List.find?_isSome,
    CodeRanges.contains_iff]
  simp

theorem not_isBlank_of_isDigit {c : Char} (h : isDigit c = true) : isBlank c = false := by
  rw [isDigit_eq_contains] at h
  exact CodeRanges.not_contains_of_apart (by decide +kernel) h

theorem not_isBlank_of_isWord {c : Char} (h : isWord c = true) : isBlank c = false :=
  CodeRanges.not_contains_of_apart (by decide +kernel) h

namespace Id

theorem isNumber_iff {cs : List Char} :
    isNumber cs = true ↔ cs ≠ [] ∧ ∀ c ∈ cs, isDigit c = true := by
  simp [isNumber]

theorem notMem_of_isNumber {cs : List Char} (h : isNumber cs = true) : '_' ∉ cs := fun hc =>
  absurd ((isNumber_iff.1 h).2 '_' hc) (by decide)

/-! ### Groups -/

theorem groups_cons_of_ne {c : Char} (hc : c ≠ '_') (cs : List Char) :
    ∃ g gs, groups cs = g :: gs ∧ groups (c :: cs) = (c :: g) :: gs := by
  induction cs generalizing c with
  | nil => exact ⟨[], [], rfl, by rw [groups, if_neg hc]; rfl⟩
  | cons d cs ih =>
    by_cases hd : d = '_'
    · refine ⟨[], groups cs, by rw [groups, if_pos hd], ?_⟩
      rw [groups, if_neg hc, groups, if_pos hd]
    · obtain ⟨g, gs, -, hgroups⟩ := ih hd
      exact ⟨d :: g, gs, hgroups, by rw [groups, if_neg hc, hgroups]⟩

theorem groups_ne_nil (cs : List Char) : groups cs ≠ [] := by
  cases cs with
  | nil => simp [groups]
  | cons c cs =>
    by_cases hc : c = '_'
    · simp [groups, hc]
    · obtain ⟨g, gs, -, h⟩ := groups_cons_of_ne hc cs
      simp [h]

/-- **The groups on either side of an underscore.** -/
theorem groups_append (a b : List Char) : groups (a ++ '_' :: b) = groups a ++ groups b := by
  induction a with
  | nil => rfl
  | cons c a ih =>
    by_cases hc : c = '_'
    · rw [List.cons_append, groups, if_pos hc, ih, groups, if_pos hc, List.cons_append]
    · obtain ⟨g, gs, ha, hca⟩ := groups_cons_of_ne hc a
      rw [List.cons_append, groups, if_neg hc, ih, ha, hca]
      rfl

theorem head?_groups_append (a b : List Char) :
    (groups (a ++ '_' :: b)).head? = (groups a).head? := by
  obtain ⟨g, gs, h⟩ := List.exists_cons_of_ne_nil (groups_ne_nil a)
  rw [groups_append, h]
  rfl

theorem groups_of_notMem {cs : List Char} (h : '_' ∉ cs) : groups cs = [cs] := by
  induction cs with
  | nil => rfl
  | cons c cs ih =>
    rw [List.mem_cons, not_or] at h
    rw [groups, if_neg (Ne.symm h.1), ih h.2]

@[simp] theorem joined_singleton (part : List Char) : joined [part] = part := by simp [joined]

theorem joined_cons_cons (part next : List Char) (parts : List (List Char)) :
    joined (part :: next :: parts) = part ++ '_' :: joined (next :: parts) := by
  simp [joined, List.intercalate]

theorem joined_cons {parts : List (List Char)} (hne : parts ≠ []) (part : List Char) :
    joined (part :: parts) = part ++ '_' :: joined parts := by
  cases parts with
  | nil => exact absurd rfl hne
  | cons next parts => exact joined_cons_cons part next parts

theorem joined_concat {parts : List (List Char)} (hne : parts ≠ []) (last : List Char) :
    joined (parts ++ [last]) = joined parts ++ '_' :: last := by
  induction parts with
  | nil => exact absurd rfl hne
  | cons part parts ih =>
    by_cases hlast : parts = []
    · rw [hlast, joined_singleton, List.singleton_append, joined_cons_cons, joined_singleton]
    · rw [List.cons_append, joined_cons (by simp), joined_cons hlast, ih hlast, List.append_assoc,
        List.cons_append]

/-- Groups without underscores are those of the text that joins them. -/
theorem groups_joined {parts : List (List Char)} (hne : parts ≠ []) (h : ∀ p ∈ parts, '_' ∉ p) :
    groups (joined parts) = parts := by
  induction parts with
  | nil => exact absurd rfl hne
  | cons part parts ih =>
    have hpart := groups_of_notMem (h part List.mem_cons_self)
    by_cases hlast : parts = []
    · rw [hlast, joined_singleton, hpart]
    · rw [joined_cons hlast, groups_append, hpart,
        ih hlast fun p hp => h p (List.mem_cons_of_mem part hp)]
      rfl

/-- A text is its groups with underscores between them. -/
theorem joined_groups (cs : List Char) : joined (groups cs) = cs := by
  induction cs with
  | nil => rfl
  | cons c cs ih =>
    by_cases hc : c = '_'
    · rw [groups, if_pos hc, joined_cons (groups_ne_nil cs), ih, hc]
      rfl
    · obtain ⟨g, gs, hcs, hccs⟩ := groups_cons_of_ne hc cs
      rw [hcs] at ih
      rw [hccs, ← ih]
      cases gs with
      | nil => simp
      | cons next gs => rw [joined_cons_cons, joined_cons_cons]; rfl

/-! ### The two ways of writing an id -/

theorem nativeGroups?_eq_some_iff {word : String} {count : Nat} {cs : List Char}
    {gs : List (List Char)} :
    nativeGroups? word count cs = some gs ↔
      groups cs = word.toList :: gs ∧ gs.length = count ∧ ∀ g ∈ gs, isNumber g = true := by
  rw [nativeGroups?]
  split
  · next w gs' hgroups =>
    rw [hgroups]
    constructor
    · intro h
      split at h
      · next hall =>
        simp only [Bool.and_eq_true, beq_iff_eq, List.all_eq_true] at hall
        cases h
        exact ⟨by rw [hall.1.1], hall.1.2, hall.2⟩
      · cases h
    · rintro ⟨heq, hlength, hnumber⟩
      obtain ⟨rfl, rfl⟩ := List.cons_eq_cons.1 heq
      rw [if_pos (by simpa [hlength] using hnumber)]
  · next hgroups => simp [hgroups]

/-- Digits are the digits at the end of a text that has no digit before them. -/
theorem takeWhile_isDigit_reverse {front digits : List Char}
    (hdigits : ∀ c ∈ digits, isDigit c = true) :
    (front ++ '_' :: digits).reverse.takeWhile isDigit = digits.reverse := by
  have hreverse : ∀ c ∈ digits.reverse, isDigit c = true := fun c hc =>
    hdigits c (List.mem_reverse.1 hc)
  rw [List.reverse_append, List.reverse_cons, List.append_assoc,
    List.takeWhile_append_of_pos hreverse, List.singleton_append,
    List.takeWhile_cons_of_neg (by decide), List.append_nil]

theorem dropWhile_isDigit_reverse {front digits : List Char}
    (hdigits : ∀ c ∈ digits, isDigit c = true) :
    (front ++ '_' :: digits).reverse.dropWhile isDigit = '_' :: front.reverse := by
  have hreverse : ∀ c ∈ digits.reverse, isDigit c = true := fun c hc =>
    hdigits c (List.mem_reverse.1 hc)
  rw [List.reverse_append, List.reverse_cons, List.append_assoc,
    List.dropWhile_append_of_pos hreverse, List.singleton_append,
    List.dropWhile_cons_of_neg (by decide)]

/-- An embedded id is the parent's text with the word and the digits behind it. -/
theorem embeddedParts?_eq_some_iff {word : String} {cs parent digits : List Char} :
    embeddedParts? word cs = some (parent, digits) ↔
      isNumber digits = true ∧ cs = joined [parent, word.toList, digits] := by
  constructor
  · intro h
    rw [embeddedParts?] at h
    split at h
    · cases h
    · next hall =>
      simp only [Bool.or_eq_true, not_or, Bool.not_eq_true', Bool.not_eq_false,
        List.isEmpty_iff] at hall
      obtain ⟨hne, hlink⟩ := hall
      obtain ⟨before, hbefore⟩ := List.isSuffixOf_iff_suffix.1 hlink
      rw [Option.some.injEq, Prod.mk.injEq] at h
      obtain ⟨rfl, rfl⟩ := h
      refine ⟨isNumber_iff.2 ⟨hne, fun c hc => ?_⟩, ?_⟩
      · exact List.mem_takeWhile_imp (List.mem_reverse.1 hc)
      · -- behind the rest of the text come its last digits, and the rest ends with the word
        have hwhole := congrArg List.reverse
          (List.takeWhile_append_dropWhile (p := isDigit) (l := cs.reverse))
        rw [List.reverse_append, List.reverse_reverse, ← hbefore] at hwhole
        rw [← hbefore, List.length_append, Nat.add_sub_cancel, List.take_left]
        rw [joined_cons_cons, joined_cons_cons, joined_singleton]
        simpa using hwhole.symm
  · rintro ⟨hnumber, rfl⟩
    obtain ⟨hne, hdigits⟩ := isNumber_iff.1 hnumber
    have htext : joined [parent, word.toList, digits] =
        parent ++ '_' :: word.toList ++ '_' :: digits := by
      rw [joined_cons_cons, joined_cons_cons, joined_singleton, List.append_assoc, List.cons_append]
    have hfront : ('_' :: (parent ++ '_' :: word.toList).reverse).reverse =
        parent ++ ('_' :: word.toList ++ ['_']) := by simp
    rw [htext, embeddedParts?, takeWhile_isDigit_reverse hdigits,
      dropWhile_isDigit_reverse hdigits, List.reverse_reverse, hfront]
    simp [hne]

end Id

end RunHistory
