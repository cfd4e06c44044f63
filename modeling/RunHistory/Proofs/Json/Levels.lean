import RunHistory.Proofs.Json.Stops

/-!
# Levels of lists and objects

The bound on the levels in which lists and objects are nested only ever ends the reading of a text.
A text that is not nested too deep is read as if there were no bound.

## Main definitions

* `Json.Shallower`: reading with room for fewer levels.

## Main results

* `Json.shallower_all`: room for more levels changes nothing but where reading stops for want of it.
* `Json.readWithin_eq_read`: **a text is nested too deep, or it is read as without a bound.**
-/

namespace RunHistory.Json

/-- What is read with room for fewer levels is the same as with more, unless reading stops at one
for which there is no room. -/
def Shallower (r r' : Read Value) : Prop := (∃ isList, r = .error (.tooDeep isList)) ∨ r = r'

theorem Shallower.refl (r : Read Value) : Shallower r r := .inr rfl

section

variable {halves : Bool} {limit fuel room room' : Nat}

theorem shallower_readValue_succ (hroom : room ≤ room')
    (hitems : ∀ acc cs, Shallower (readItems halves limit (room - 1) fuel acc cs)
      (readItems halves limit (room' - 1) fuel acc cs))
    (hfields : ∀ acc cs, Shallower (readFields halves limit (room - 1) fuel acc cs)
      (readFields halves limit (room' - 1) fuel acc cs)) (cs : List Char) :
    Shallower (readValue halves limit room (fuel + 1) cs)
      (readValue halves limit room' (fuel + 1) cs) := by
  by_cases hnone : room = 0
  · subst hnone
    unfold readValue
    split
    · exact .refl _
    · exact .inl ⟨true, rfl⟩
    · exact .inl ⟨false, rfl⟩
    · exact .refl _
  · have hmore : room' ≠ 0 := by omega
    unfold readValue
    split
    · exact .refl _
    · rw [if_neg hnone, if_neg hmore]
      split
      · exact .refl _
      · exact hitems [] _
    · rw [if_neg hnone, if_neg hmore]
      split
      · exact .refl _
      · exact hfields [] _
    · exact .refl _

theorem shallower_readItems_succ
    (hvalue : ∀ cs, Shallower (readValue halves limit room fuel cs)
      (readValue halves limit room' fuel cs))
    (hitems : ∀ acc cs, Shallower (readItems halves limit room fuel acc cs)
      (readItems halves limit room' fuel acc cs)) (acc : List Value) (cs : List Char) :
    Shallower (readItems halves limit room (fuel + 1) acc cs)
      (readItems halves limit room' (fuel + 1) acc cs) := by
  unfold readItems
  rcases hvalue cs with ⟨isList, hdeep⟩ | hsame
  · rw [hdeep]
    exact .inl ⟨isList, rfl⟩
  · rw [hsame]
    split
    · exact .refl _
    · split
      · exact .refl _
      · exact hitems _ _
      · exact .refl _

theorem shallower_readFields_succ
    (hvalue : ∀ cs, Shallower (readValue halves limit room fuel cs)
      (readValue halves limit room' fuel cs))
    (hfields : ∀ acc cs, Shallower (readFields halves limit room fuel acc cs)
      (readFields halves limit room' fuel acc cs)) (acc : List (String × Value)) (cs : List Char) :
    Shallower (readFields halves limit room (fuel + 1) acc cs)
      (readFields halves limit room' (fuel + 1) acc cs) := by
  unfold readFields
  split
  · split
    · exact .refl _
    · split
      · next beforeValue _ =>
        rcases hvalue (skipSpace beforeValue) with ⟨isList, hdeep⟩ | hsame
        · rw [hdeep]
          exact .inl ⟨isList, rfl⟩
        · rw [hsame]
          split
          · exact .refl _
          · split
            · exact .refl _
            · exact hfields _ _
            · exact .refl _
      · exact .refl _
  · exact .refl _

end

/-- **Room for more levels changes nothing but where reading stops for want of it.** -/
theorem shallower_all (halves : Bool) (limit : Nat) : ∀ fuel room room' : Nat, room ≤ room' →
    (∀ cs, Shallower (readValue halves limit room fuel cs) (readValue halves limit room' fuel cs)) ∧
      (∀ acc cs, Shallower (readItems halves limit room fuel acc cs)
        (readItems halves limit room' fuel acc cs)) ∧
        ∀ acc cs, Shallower (readFields halves limit room fuel acc cs)
          (readFields halves limit room' fuel acc cs) := by
  intro fuel
  induction fuel with
  | zero => exact fun _ _ _ => ⟨fun _ => .refl _, fun _ _ => .refl _, fun _ _ => .refl _⟩
  | succ fuel ih =>
    intro room room' hroom
    obtain ⟨hvalue, hitems, hfields⟩ := ih room room' hroom
    obtain ⟨-, hitems', hfields'⟩ := ih (room - 1) (room' - 1) (Nat.sub_le_sub_right hroom 1)
    exact ⟨shallower_readValue_succ hroom hitems' hfields',
      shallower_readItems_succ hvalue hitems, shallower_readFields_succ hvalue hfields⟩

/-! ### Whole texts -/

theorem readWhole_eq_of_le (halves : Bool) {levels levels' : Nat} (h : levels ≤ levels')
    (text : List Char) : (∃ isList, readWhole halves levels text = .error (.tooDeep isList)) ∨
      readWhole halves levels text = readWhole halves levels' text := by
  rw [readWhole.eq_def, readWhole.eq_def halves levels']
  split
  · exact .inr rfl
  · rcases (shallower_all halves text.length (fuelFor text) levels levels' h).1 (skipSpace text)
      with ⟨isList, hdeep⟩ | hsame
    · rw [hdeep]
      exact .inl ⟨isList, rfl⟩
    · rw [hsame]
      exact .inr rfl

theorem readWithin_eq_of_le {levels levels' : Nat} (h : levels ≤ levels') (text : List Char) :
    (∃ isList, readWithin levels text = .error (.tooDeep isList)) ∨
      readWithin levels text = readWithin levels' text := by
  unfold readWithin
  rcases readWhole_eq_of_le true h text with ⟨isList, hdeep⟩ | hsame
  · rw [hdeep]
    exact .inl ⟨isList, rfl⟩
  · rw [hsame]
    split
    · exact .inr rfl
    · exact readWhole_eq_of_le false h text

/-- **A text is nested too deep, or it is read as without a bound.** -/
theorem readWithin_eq_read (levels : Nat) (text : List Char) :
    (∃ isList, readWithin levels text = .error (.tooDeep isList)) ∨
      readWithin levels text = read text := by
  rcases Nat.le_total levels text.length with hle | hge
  · exact readWithin_eq_of_le hle text
  · -- there is room for as many levels as the text has characters
    rcases readWithin_eq_of_le hge text with ⟨isList, hdeep⟩ | hsame
    · exact absurd hdeep (read_ne_tooDeep isList)
    · exact .inr hsame.symm

theorem read_eq_of_readWithin {levels : Nat} {text : List Char} {v : Value}
    (h : readWithin levels text = .ok v) : read text = .ok v := by
  rcases readWithin_eq_read levels text with ⟨isList, hdeep⟩ | hsame
  · rw [hdeep] at h
    cases h
  · exact hsame ▸ h

end RunHistory.Json
