import Mathlib.Data.List.Basic
import RunHistory.Proofs.Table.Overlay

/-!
# Values of a table changed in place

Changing the value under a key leaves all keys where they are.  When items are put into the values
of a table one after the other, each into the value under the key that the item names, every value
takes in the items that name its key, in order, whatever goes to other values in between.

## Main definitions

* `Table.modify`: the value under a key changed, if it is there.

## Main results

* `Table.get?_foldl_modify`, `Table.keys_foldl_modify`: **items put into the values of a table.**
* `perm_flatMap_filter`: items in groups are all items, each once.
-/

namespace RunHistory

/-! ### Groups -/

/-- **Items that fall into groups**, one for each of some distinct keys, are all there once. -/
theorem perm_flatMap_filter {α κ : Type} [DecidableEq κ] (group : α → κ) :
    ∀ {keys : List κ} {items : List α}, keys.Nodup → (∀ a ∈ items, group a ∈ keys) →
      (keys.flatMap fun key => items.filter fun a => group a = key).Perm items := by
  intro keys
  induction keys with
  | nil =>
    intro items _ h
    have hnil : items = [] := List.eq_nil_iff_forall_not_mem.2 fun a ha => by simpa using h a ha
    rw [hnil]
    exact .refl []
  | cons key keys ih =>
    intro items hnodup h
    obtain ⟨hkey, hkeys⟩ := List.nodup_cons.1 hnodup
    -- the items outside the first group fall into the other groups
    have hother : (keys.flatMap fun key' => items.filter fun a => group a = key') =
        keys.flatMap fun key' =>
          (items.filter fun a => !decide (group a = key)).filter fun a => group a = key' := by
      refine List.flatMap_congr fun key' hkey' => ?_
      have hne : key' ≠ key := fun e => hkey (e ▸ hkey')
      rw [List.filter_filter]
      refine List.filter_congr fun a _ => ?_
      by_cases ha : group a = key'
      · simp [ha, hne]
      · simp [ha]
    have hrest : ∀ a ∈ items.filter (fun a => !decide (group a = key)), group a ∈ keys := by
      intro a ha
      obtain ⟨hmem, hout⟩ := List.mem_filter.1 ha
      have hne : group a ≠ key := by simpa using hout
      exact (List.mem_cons.1 (h a hmem)).resolve_left hne
    rw [List.flatMap_cons, hother]
    exact ((ih hkeys hrest).append_left _).trans (List.filter_append_perm _ items)

namespace Table

variable {α β : Type}

/-! ### One change -/

/-- The value under a key changed, if it is there. -/
def modify (t : Table β) (key : String) (f : β → β) : Table β :=
  match t.get? key with
  | some v => t.set key (f v)
  | none => t

theorem keys_modify (t : Table β) (key : String) (f : β → β) : (t.modify key f).keys = t.keys := by
  rw [modify]
  cases h : t.get? key with
  | none => rfl
  | some v =>
    have hmem : key ∈ t.keys := mem_keys_iff.2 ⟨v, h⟩
    rw [keys_set, if_pos hmem]

theorem get?_modify (t : Table β) (key : String) (f : β → β) (k : String) :
    (t.modify key f).get? k = if key = k then (t.get? k).map f else t.get? k := by
  rw [modify]
  cases h : t.get? key with
  | none =>
    by_cases hk : key = k
    · subst hk
      simp [h]
    · simp [hk]
  | some v =>
    rw [get?_set]
    by_cases hk : key = k
    · subst hk
      simp [h]
    · simp [hk]

/-! ### One change after the other -/

variable (place : α → String) (put : α → β → β)

theorem keys_foldl_modify (items : List α) (t : Table β) :
    (items.foldl (fun t a => t.modify (place a) (put a)) t).keys = t.keys := by
  induction items generalizing t with
  | nil => rfl
  | cons a items ih => rw [List.foldl_cons, ih, keys_modify]

/-- **A value takes in the items that name its key**, in order. -/
theorem get?_foldl_modify (items : List α) (t : Table β) (key : String) :
    (items.foldl (fun t a => t.modify (place a) (put a)) t).get? key =
      (t.get? key).map fun v =>
        (items.filter fun a => place a = key).foldl (fun v a => put a v) v := by
  induction items generalizing t with
  | nil => simp
  | cons a items ih =>
    rw [List.foldl_cons, ih, get?_modify]
    by_cases h : place a = key
    · simp [h, Function.comp_def]
    · simp [h]

end Table

end RunHistory
