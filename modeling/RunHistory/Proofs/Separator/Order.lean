import RunHistory.Framing
import RunHistory.Proofs.Separator.Runs

/-!
# Separators come one after the other

A pattern finds the separators of a window from left to right: each begins where the one before it
ends or later, and none goes beyond the window.  A separator may be empty.

## Main definitions

* `Span.InOrder`: spans one after the other.
* `Scanner.Orderly`: a scanner that finds the separators of every window so.

## Main results

* `Separator.matchItems_bounds`: a match begins and ends inside the text.
* `Separator.orderly_scan`: **every pattern finds its separators one after the other.**
-/

namespace RunHistory

/-- Spans one after the other from a place on, none beyond the end.  They may be empty. -/
def Span.InOrder (size : Nat) : Nat → List Span → Prop
  | _, [] => True
  | place, s :: spans =>
    (place ≤ s.start ∧ s.start ≤ s.stop ∧ s.stop ≤ size) ∧ InOrder size s.stop spans

theorem Span.InOrder.of_le {size place place' : Nat} (hle : place' ≤ place) :
    ∀ {spans : List Span}, InOrder size place spans → InOrder size place' spans
  | [], _ => trivial
  | _ :: _, ⟨⟨hstart, hstop⟩, hrest⟩ => ⟨⟨Nat.le_trans hle hstart, hstop⟩, hrest⟩

/-- A scanner that finds the separators of every window one after the other. -/
def Scanner.Orderly (scan : Scanner) : Prop := ∀ text, Span.InOrder text.length 0 (scan text)

namespace Separator

/-- A run ends inside the text that it begins in. -/
theorem runEnds_bounds (accepts : Char → Bool) {least total : Nat} : ∀ (cs : List Char) (n : Nat)
    (acc : List (Nat × List Char)), least ≤ n → n + cs.length = total →
      (∀ r ∈ acc, least ≤ r.1 ∧ r.1 + r.2.length = total) →
      ∀ r ∈ runEnds accepts n cs acc, least ≤ r.1 ∧ r.1 + r.2.length = total := by
  intro cs
  induction cs with
  | nil =>
    intro n acc hleast htotal hacc r hr
    rcases List.mem_cons.1 hr with rfl | hr
    · exact ⟨hleast, htotal⟩
    · exact hacc r hr
  | cons c rest ih =>
    intro n acc hleast htotal hacc r hr
    have hcons : ∀ r ∈ (n, c :: rest) :: acc, least ≤ r.1 ∧ r.1 + r.2.length = total := by
      intro r hr
      rcases List.mem_cons.1 hr with rfl | hr
      · exact ⟨hleast, htotal⟩
      · exact hacc r hr
    rw [runEnds] at hr
    split at hr
    · rw [List.length_cons] at htotal
      exact ih (n + 1) _ (by omega) (by omega) hcons r hr
    · exact hcons r hr

/-- Whichever end of a run a match goes on from, it is inside the text. -/
theorem runEnds_findSome?_bounds {accepts : Char → Bool} {done n : Nat} {cs : List Char}
    {keep : Nat × List Char → Bool} {go : Nat × List Char → Option Nat}
    (hgo : ∀ r, go r = some n → r.1 ≤ n ∧ n ≤ r.1 + r.2.length)
    (h : ((runEnds accepts done cs []).filter keep).findSome? go = some n) :
    done ≤ n ∧ n ≤ done + cs.length := by
  obtain ⟨r, hr, hrest⟩ := List.exists_of_findSome?_eq_some h
  have hend := runEnds_bounds accepts cs done [] (Nat.le_refl done) rfl (by simp) r
    (List.mem_filter.1 hr).1
  have hnext := hgo r hrest
  omega

/-- A match of a row of items goes on from what is matched already, inside the text. -/
theorem matchItems_bounds (atStart advance : Bool) : ∀ (items : List Item) (done : Nat)
    (cs : List Char) {n : Nat}, matchItems atStart advance items done cs = some n →
      done ≤ n ∧ n ≤ done + cs.length := by
  intro items
  induction items with
  | nil =>
    intro done cs n h
    rw [matchItems] at h
    split at h
    · cases h
    · obtain rfl := Option.some.inj h
      omega
  | cons item items ih =>
    intro done cs n h
    cases item with
    | one accepts =>
      cases cs with
      | nil => simp [matchItems] at h
      | cons c rest =>
        simp only [matchItems] at h
        split at h
        · have hnext := ih (done + 1) rest h
          rw [List.length_cons]
          omega
        · cases h
    | run least accepts =>
      rw [matchItems] at h
      exact runEnds_findSome?_bounds (fun r hr => ih r.1 r.2 hr) h
    | bounded least most accepts =>
      rw [matchItems] at h
      exact runEnds_findSome?_bounds (fun r hr => ih r.1 r.2 hr) h
    | textStart =>
      rw [matchItems] at h
      split at h
      · exact ih done cs h
      · cases h
    | textEnd =>
      rw [matchItems] at h
      split at h
      · exact ih done cs h
      · cases h

theorem matchAt_le_length {p : Pattern} {atStart advance : Bool} {cs : List Char} {n : Nat}
    (h : p.matchAt atStart advance cs = some n) : n ≤ cs.length := by
  obtain ⟨items, -, hitems⟩ := List.exists_of_findSome?_eq_some h
  have hbounds := matchItems_bounds atStart advance items 0 cs hitems
  omega

theorem inOrder_scanFrom (p : Pattern) : ∀ (fuel place : Nat) (advance : Bool) (cs : List Char),
    Span.InOrder (place + cs.length) place (p.scanFrom fuel place advance [] cs) := by
  intro fuel
  induction fuel with
  | zero => intro _ _ _; trivial
  | succ fuel ih =>
    intro place advance cs
    rw [scanFrom_succ]
    cases hmatch : p.matchAt (place == 0) advance cs with
    | some n =>
      have hle := matchAt_le_length hmatch
      simp only
      rw [scanFrom_acc]
      have hnext := ih (place + n) (n == 0) (cs.drop n)
      have hsize : place + n + (cs.drop n).length = place + cs.length := by
        rw [List.length_drop]; omega
      rw [hsize] at hnext
      have hstop : place + n ≤ place + cs.length := Nat.add_le_add_left hle place
      exact ⟨⟨Nat.le_refl place, Nat.le_add_right place n, hstop⟩, hnext⟩
    | none =>
      cases cs with
      | nil => trivial
      | cons c rest =>
        have hnext := ih (place + 1) false rest
        have hsize : place + 1 + rest.length = place + (c :: rest).length := by
          rw [List.length_cons]; omega
        rw [hsize] at hnext
        exact hnext.of_le (Nat.le_succ place)

/-- **Every pattern finds its separators one after the other.** -/
theorem orderly_scan (p : Pattern) : Scanner.Orderly p.scan := by
  intro text
  have h := inOrder_scanFrom p (2 * text.length + 2) 0 false text
  rw [Nat.zero_add] at h
  exact h

end Separator

end RunHistory
