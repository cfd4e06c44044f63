import Mathlib.Data.List.Infix
import RunHistory.Json.Reader

/-!
# Where reading stops

Reading a JSON text leaves an end of it, wherever it stops.  So if it stops at an integer that is
too long, then an integer of that many digits stands in the text.  And each level of lists and
objects takes a character, so there is always room for as many levels as a text has characters.

## Main definitions

* `Json.HoldsInteger`: an integer of so many digits stands in a text.
* `Json.ReadsIn`: what a reader may do with a text.

## Main results

* `Json.readsIn_all`: **reading a value keeps to the text.**
* `Json.holdsInteger_of_read`: the integer that a text was refused for stands in it.
* `Json.read_ne_tooDeep`: without a bound on the levels no text is nested too deep.
-/

namespace RunHistory.Json

/-- An integer of so many digits stands in a text: digits of a whole part, with neither a fraction
nor an exponent behind them. -/
def HoldsInteger (text : List Char) (count : Nat) : Prop :=
  ∃ before whole rest, text = before ++ (whole ++ rest) ∧
    wholeDigits (whole ++ rest) = some (whole, rest) ∧ fractionDigits rest = none ∧
      exponent rest = none ∧ whole.length = count

variable {text cs : List Char} {room : Nat} {halves : Bool}

theorem HoldsInteger.of_suffix {count : Nat} (h : HoldsInteger cs count) (hs : cs <:+ text) :
    HoldsInteger text count := by
  obtain ⟨before, whole, rest, rfl, hwhole, hfraction, hexponent, hlength⟩ := h
  obtain ⟨front, rfl⟩ := hs
  exact ⟨front ++ before, whole, rest, by rw [List.append_assoc], hwhole, hfraction, hexponent,
    hlength⟩

/-- Where reading may stop: at a fault, at an integer of too many digits that stands in the text, at
half of a pair, or at a level for which there is no room, in a text of more characters than levels.
-/
def Stop.StandsIn (room : Nat) (text : List Char) : Stop → Prop
  | .fault _ _ => True
  | .tooManyDigits count => maxDigits < count ∧ HoldsInteger text count
  | .halfPair => True
  | .tooDeep _ => room < text.length

theorem Stop.StandsIn.of_suffix {e : Stop} (h : e.StandsIn room cs) (hs : cs <:+ text) :
    e.StandsIn room text := by
  cases e with
  | fault problem rest => exact trivial
  | tooManyDigits count => exact ⟨h.1, h.2.of_suffix hs⟩
  | halfPair => exact trivial
  | tooDeep isList => exact Nat.lt_of_lt_of_le h hs.length_le

/-- What a reader may do with a text: leave an end of it, or stop in it. -/
def ReadsIn {α : Type} (room : Nat) (text : List Char) : Read α → Prop
  | .ok (_, rest) => rest <:+ text
  | .error e => e.StandsIn room text

theorem ReadsIn.of_suffix {α : Type} {r : Read α} (h : ReadsIn room cs r) (hs : cs <:+ text) :
    ReadsIn room text r := by
  cases r with
  | ok a => exact List.IsSuffix.trans h hs
  | error e => exact Stop.StandsIn.of_suffix h hs

/-- A level takes a character. -/
theorem ReadsIn.deeper {α : Type} {r : Read α} (h : ReadsIn (room - 1) cs r) (c : Char) :
    ReadsIn room (c :: cs) r := by
  cases r with
  | ok a => exact List.IsSuffix.trans h (List.suffix_cons c cs)
  | error e =>
    cases e with
    | fault problem rest => exact trivial
    | tooManyDigits count =>
      obtain ⟨hlong, hin⟩ : maxDigits < count ∧ HoldsInteger cs count := h
      exact ⟨hlong, hin.of_suffix (List.suffix_cons c cs)⟩
    | halfPair => exact trivial
    | tooDeep isList =>
      have hlt : room - 1 < cs.length := h
      show room < cs.length + 1
      omega

theorem ReadsIn.rest {α : Type} {r : Read α} (h : ReadsIn room text r) {a : α} {rest : List Char}
    (hr : r = .ok (a, rest)) : rest <:+ text := by
  rw [hr] at h
  exact h

theorem ReadsIn.stop {α : Type} {r : Read α} (h : ReadsIn room text r) {e : Stop}
    (hr : r = .error e) : e.StandsIn room text := by
  rw [hr] at h
  exact h

theorem skipSpace_suffix (cs : List Char) : skipSpace cs <:+ cs := List.dropWhile_suffix _

theorem suffix_of_skipSpace {c : Char} {rest after : List Char} (h : skipSpace rest = c :: after)
    (hs : rest <:+ text) : after <:+ text :=
  (List.suffix_cons c after).trans (h ▸ (skipSpace_suffix rest).trans hs)

/-! ### Texts -/

theorem readsIn_unitChar (n : Nat) (rest : List Char) :
    ReadsIn room rest (unitChar halves n rest) := by
  rw [unitChar]
  split_ifs
  · exact List.suffix_rfl
  · exact trivial
  · exact List.suffix_rfl

theorem readsIn_escapedUnit (n : Nat) (rest : List Char) :
    ReadsIn room rest (escapedUnit halves n rest) := by
  rw [escapedUnit]
  split
  · fun_cases lowUnit rest with
    | case1 a b c d next more hunit => exact trivial
    | case2 a b c d next more low hunit =>
      -- the two halves of a pair are read together, else the second is left
      split_ifs
      · exact ⟨['\\', 'u', a, b, c, d], rfl⟩
      · exact readsIn_unitChar n _
    | case3 hother => exact readsIn_unitChar n rest
  · exact readsIn_unitChar n rest

theorem readsIn_escape (halves : Bool) (start here cs : List Char) :
    ReadsIn room cs (escape halves start here cs) := by
  fun_cases escape halves start here cs with
  | case1 => exact trivial
  | case2 a b c d next more hunit => exact trivial
  | case3 a b c d next more n hunit =>
    exact (readsIn_escapedUnit n (next :: more)).of_suffix ⟨['u', a, b, c, d], rfl⟩
  | case4 => exact trivial
  | case5 => exact trivial
  | case6 c rest => exact List.suffix_cons c rest

theorem readsIn_readText (halves : Bool) (start : List Char) : ∀ (fuel : Nat) (acc cs : List Char),
    ReadsIn room cs (readText halves start fuel acc cs) := by
  intro fuel
  induction fuel with
  | zero => exact fun acc cs => trivial
  | succ fuel ih =>
    intro acc cs
    cases cs with
    | nil => exact trivial
    | cons c rest =>
      rw [readText]
      have hrest : rest <:+ c :: rest := List.suffix_cons c rest
      split_ifs
      · exact hrest
      · have hescape : ReadsIn room rest _ := readsIn_escape halves start (c :: rest) rest
        split
        · next e he => exact (hescape.stop he).of_suffix hrest
        · next x after he => exact (ih (x :: acc) after).of_suffix ((hescape.rest he).trans hrest)
      · exact trivial
      · exact (ih (c :: acc) rest).of_suffix hrest

/-! ### Numbers -/

theorem wholeDigits_eq_some {whole rest : List Char} (h : wholeDigits cs = some (whole, rest)) :
    cs = whole ++ rest := by
  rw [wholeDigits.eq_def] at h
  split at h
  · cases h
    rfl
  · split at h
    · cases h
    · cases h
      exact List.takeWhile_append_dropWhile.symm

theorem fractionDigits_suffix {ds rest : List Char} (h : fractionDigits cs = some (ds, rest)) :
    rest <:+ cs := by
  rw [fractionDigits.eq_def] at h
  split at h
  · next more =>
    split at h
    · cases h
    · cases h
      exact (List.dropWhile_suffix _).trans (List.suffix_cons '.' more)
  · cases h

theorem exponentSign_suffix (cs : List Char) : (exponentSign cs).2 <:+ cs := by
  fun_cases exponentSign cs with
  | case1 rest => exact List.suffix_cons '-' rest
  | case2 rest => exact List.suffix_cons '+' rest
  | case3 => exact List.suffix_rfl

theorem exponent_suffix {n : Int} {rest : List Char} (h : exponent cs = some (n, rest)) :
    rest <:+ cs := by
  rw [exponent.eq_def] at h
  split at h
  · next c more =>
    split at h
    · simp only at h
      split at h
      · cases h
      · cases h
        exact ((List.dropWhile_suffix _).trans (exponentSign_suffix more)).trans
          (List.suffix_cons c more)
    · cases h
  · cases h

theorem readsIn_readNumber (here : List Char) (negative : Bool) (cs : List Char) :
    ReadsIn room cs (readNumber here negative cs) := by
  fun_cases readNumber here negative cs with
  | case1 => exact trivial
  | case2 whole rest hwhole hexponent hfraction hlong =>
    -- the whole part stands at the front of the text, and its digits are those counted
    have hcs := wholeDigits_eq_some hwhole
    rw [hfraction] at hexponent
    exact ⟨hlong, [], whole, rest, hcs, hcs ▸ hwhole, hfraction, hexponent, rfl⟩
  | case3 whole rest hwhole _ _ _ =>
    exact wholeDigits_eq_some hwhole ▸ List.suffix_append whole rest
  | case4 whole rest hwhole _ =>
    have hrest : rest <:+ cs := wholeDigits_eq_some hwhole ▸ List.suffix_append whole rest
    have hfraction : (fractionDigits rest).elim rest Prod.snd <:+ cs := by
      cases h : fractionDigits rest with
      | none => exact hrest
      | some f => exact (fractionDigits_suffix h).trans hrest
    show (exponent _).elim _ Prod.snd <:+ cs
    cases h : exponent ((fractionDigits rest).elim rest Prod.snd) with
    | none => exact hfraction
    | some p => exact (exponent_suffix h).trans hfraction

theorem afterWord?_suffix {word rest : List Char} (h : afterWord? word cs = some rest) :
    rest <:+ cs := by
  rw [afterWord?] at h
  split at h
  · cases h
    exact List.drop_suffix _ _
  · cases h

theorem readsIn_readPlain (cs : List Char) : ReadsIn room cs (readPlain cs) := by
  fun_cases readPlain cs
  case case7 rest _ _ _ _ _ _ =>
    exact (readsIn_readNumber _ true rest).of_suffix (List.suffix_cons '-' rest)
  case case8 => exact readsIn_readNumber cs false cs
  -- all others are words
  all_goals exact afterWord?_suffix (by assumption)

/-! ### Values -/

section

variable {limit fuel : Nat}

theorem readsIn_readValue_succ
    (hitems : ∀ acc cs, ReadsIn (room - 1) cs (readItems halves limit (room - 1) fuel acc cs))
    (hfields : ∀ acc cs, ReadsIn (room - 1) cs (readFields halves limit (room - 1) fuel acc cs))
    (cs : List Char) : ReadsIn room cs (readValue halves limit room (fuel + 1) cs) := by
  unfold readValue
  split
  · next rest =>
    have htext : ReadsIn room ('"' :: rest) _ :=
      (readsIn_readText halves ('"' :: rest) limit [] rest).of_suffix (List.suffix_cons '"' rest)
    split
    · next e he => exact htext.stop he
    · next s after he => exact htext.rest he
  · next rest =>
    split
    · next hroom => exact hroom ▸ Nat.succ_pos rest.length
    · split
      · next after hskip => exact suffix_of_skipSpace hskip (List.suffix_cons '[' rest)
      · exact ((hitems [] _).of_suffix (skipSpace_suffix rest)).deeper '['
  · next rest =>
    split
    · next hroom => exact hroom ▸ Nat.succ_pos rest.length
    · split
      · next after hskip => exact suffix_of_skipSpace hskip (List.suffix_cons '\x7b' rest)
      · exact ((hfields [] _).of_suffix (skipSpace_suffix rest)).deeper '\x7b'
  · exact readsIn_readPlain cs

theorem readsIn_readItems_succ
    (hvalue : ∀ cs, ReadsIn room cs (readValue halves limit room fuel cs))
    (hitems : ∀ acc cs, ReadsIn room cs (readItems halves limit room fuel acc cs))
    (acc : List Value) (cs : List Char) :
    ReadsIn room cs (readItems halves limit room (fuel + 1) acc cs) := by
  unfold readItems
  split
  · next e he => exact (hvalue cs).stop he
  · next v rest he =>
    have hrest := (hvalue cs).rest he
    split
    · next after hskip => exact suffix_of_skipSpace hskip hrest
    · next more hskip =>
      have hmore := suffix_of_skipSpace hskip hrest
      exact (hitems _ _).of_suffix ((skipSpace_suffix more).trans hmore)
    · exact trivial

theorem readsIn_readFields_succ
    (hvalue : ∀ cs, ReadsIn room cs (readValue halves limit room fuel cs))
    (hfields : ∀ acc cs, ReadsIn room cs (readFields halves limit room fuel acc cs))
    (acc : List (String × Value)) (cs : List Char) :
    ReadsIn room cs (readFields halves limit room (fuel + 1) acc cs) := by
  unfold readFields
  split
  · next rest =>
    have hname : ReadsIn room ('"' :: rest) _ :=
      (readsIn_readText halves ('"' :: rest) limit [] rest).of_suffix (List.suffix_cons '"' rest)
    split
    · next e he => exact hname.stop he
    · next name afterName he =>
      split
      · next beforeValue hcolon =>
        have hbefore := suffix_of_skipSpace hcolon (hname.rest he)
        have hfirst := (hvalue (skipSpace beforeValue)).of_suffix
          ((skipSpace_suffix beforeValue).trans hbefore)
        split
        · next e he => exact hfirst.stop he
        · next v afterValue he =>
          have hafter := hfirst.rest he
          split
          · next after hskip => exact suffix_of_skipSpace hskip hafter
          · next more hskip =>
            have hmore := suffix_of_skipSpace hskip hafter
            exact (hfields _ _).of_suffix ((skipSpace_suffix more).trans hmore)
          · exact trivial
      · exact trivial
  · exact trivial

end

/-- **Reading a value keeps to the text**, and so does reading the items of a list and the fields of
an object. -/
theorem readsIn_all (halves : Bool) (limit : Nat) : ∀ fuel room : Nat,
    (∀ cs, ReadsIn room cs (readValue halves limit room fuel cs)) ∧
      (∀ acc cs, ReadsIn room cs (readItems halves limit room fuel acc cs)) ∧
        ∀ acc cs, ReadsIn room cs (readFields halves limit room fuel acc cs) := by
  intro fuel
  induction fuel with
  | zero => exact fun _ => ⟨fun _ => trivial, fun _ _ => trivial, fun _ _ => trivial⟩
  | succ fuel ih =>
    intro room
    obtain ⟨hvalue, hitems, hfields⟩ := ih room
    obtain ⟨-, hitems', hfields'⟩ := ih (room - 1)
    exact ⟨readsIn_readValue_succ hitems' hfields', readsIn_readItems_succ hvalue hitems,
      readsIn_readFields_succ hvalue hfields⟩

/-! ### Whole texts -/

theorem exists_stop_of_readWhole {levels : Nat} {trouble : Trouble}
    (h : readWhole halves levels text = .error trouble) :
    ∃ e : Stop, e.StandsIn levels text ∧ e.within text = trouble := by
  rw [readWhole.eq_def] at h
  split at h
  · next rest =>
    cases h
    exact ⟨.fault .byteOrderMark ('\uFEFF' :: rest), trivial, by simp [Stop.within]⟩
  · have hall := (readsIn_all halves text.length (fuelFor text) levels).1 (skipSpace text)
    have hvalue := hall.of_suffix (skipSpace_suffix text)
    split at h
    · next e he =>
      cases h
      exact ⟨e, hvalue.stop he, rfl⟩
    · next v rest he =>
      split at h
      · cases h
      · cases h
        exact ⟨.fault .extra _, trivial, rfl⟩

theorem exists_stop_of_readWithin {levels : Nat} {trouble : Trouble}
    (h : readWithin levels text = .error trouble) :
    ∃ e : Stop, e.StandsIn levels text ∧ e.within text = trouble := by
  unfold readWithin at h
  split at h
  · next e hfirst =>
    obtain rfl := Except.error.inj h
    exact exists_stop_of_readWhole hfirst
  · exact exists_stop_of_readWhole h

/-- **An integer that a text is refused for stands in it.** -/
theorem holdsInteger_of_read {count : Nat} (h : read text = .error (.tooManyDigits count)) :
    maxDigits < count ∧ HoldsInteger text count := by
  obtain ⟨e, hstands, he⟩ := exists_stop_of_readWithin h
  cases e with
  | tooManyDigits count' =>
    cases he
    exact hstands
  | _ => cases he

/-- **Without a bound on the levels no text is nested too deep.** -/
theorem read_ne_tooDeep (isList : Bool) : read text ≠ .error (.tooDeep isList) := by
  intro h
  obtain ⟨e, hstands, he⟩ := exists_stop_of_readWithin h
  cases e with
  | tooDeep isList' => exact Nat.lt_irrefl _ hstands
  | _ => cases he

end RunHistory.Json
