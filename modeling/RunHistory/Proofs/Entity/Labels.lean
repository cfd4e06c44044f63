import Mathlib.Data.List.Basic
import RunHistory.Entity.Kind

/-!
# Labels of kinds

A type label names a kind in many spellings, but in no others than these: without the blanks around
it and in capitals it is the plain name of the kind, which may have `TEZ_` in front and `_ID` behind.
No label names two kinds.

## Main definitions

* `Kind.NamedBy`: the spellings of a kind.

## Main results

* `Kind.ofLabel?_eq_some_iff`: **a label names a kind just when it is one of its spellings.**
-/

namespace RunHistory.Kind

/-- A label names a kind: without the blanks around it and in capitals it is the plain name of the
kind, with or without `TEZ_` in front and `_ID` behind. -/
def NamedBy (kind : Kind) (label : String) : Prop :=
  ∃ front ∈ ["", "TEZ_"], ∃ back ∈ ["", "_ID"],
    (trim label.toList).map capital = front.toList ++ kind.name.toList ++ back.toList

theorem dropFront_cases (front cs : List Char) :
    dropFront front cs = cs ∨ front ++ dropFront front cs = cs := by
  rw [dropFront]
  split
  · next h =>
    obtain ⟨rest, rfl⟩ := List.isPrefixOf_iff_prefix.1 h
    rw [List.drop_left]
    exact .inr rfl
  · exact .inl rfl

theorem dropBack_cases (back cs : List Char) :
    dropBack back cs = cs ∨ dropBack back cs ++ back = cs := by
  rw [dropBack]
  split
  · next h =>
    obtain ⟨rest, rfl⟩ := List.isSuffixOf_iff_suffix.1 h
    rw [List.length_append, Nat.add_sub_cancel, List.take_left]
    exact .inr rfl
  · exact .inl rfl

/-- The plain name is found inside each spelling. -/
theorem dropBack_dropFront (kind : Kind) {front back : String} (hfront : front ∈ ["", "TEZ_"])
    (hback : back ∈ ["", "_ID"]) :
    dropBack "_ID".toList (dropFront "TEZ_".toList
      (front.toList ++ kind.name.toList ++ back.toList)) = kind.name.toList := by
  rcases List.mem_pair.1 hfront with rfl | rfl <;> rcases List.mem_pair.1 hback with rfl | rfl
  all_goals cases kind <;> decide

theorem find?_name (kind : Kind) :
    (all.find? fun k => k.name.toList == kind.name.toList) = some kind := by
  cases kind <;> decide

/-- **A label names a kind just when it is one of its spellings.** -/
theorem ofLabel?_eq_some_iff {label : String} {kind : Kind} :
    ofLabel? label = some kind ↔ kind.NamedBy label := by
  constructor
  · intro h
    have hname : kind.name.toList = plainName label := by simpa using List.find?_some h
    rw [plainName] at hname
    -- what was dropped at either end was there
    rcases dropBack_cases "_ID".toList
      (dropFront "TEZ_".toList ((trim label.toList).map capital)) with hback | hback <;>
    rcases dropFront_cases "TEZ_".toList ((trim label.toList).map capital) with hfront | hfront
    · exact ⟨"", by simp, "", by simp, by rw [hname, hback, hfront]; simp⟩
    · exact ⟨"TEZ_", by simp, "", by simp, by rw [hname, hback, hfront]; simp⟩
    · exact ⟨"", by simp, "_ID", by simp, by rw [hname, List.append_assoc, hback, hfront]; rfl⟩
    · exact ⟨"TEZ_", by simp, "_ID", by simp, by rw [hname, List.append_assoc, hback, hfront]⟩
  · rintro ⟨front, hfront, back, hback, hlabel⟩
    rw [ofLabel?, plainName, hlabel, dropBack_dropFront kind hfront hback, find?_name]

theorem ofLabel?_eq_none_iff {label : String} :
    ofLabel? label = none ↔ ∀ kind : Kind, ¬kind.NamedBy label := by
  constructor
  · intro h kind hkind
    rw [ofLabel?_eq_some_iff.2 hkind] at h
    cases h
  · intro h
    cases hkind : ofLabel? label with
    | none => rfl
    | some kind => exact absurd (ofLabel?_eq_some_iff.1 hkind) (h kind)

end RunHistory.Kind
