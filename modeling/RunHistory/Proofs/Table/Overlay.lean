import Mathlib.Data.List.Induction
import RunHistory.Table

/-!
# Tables written over one another

Reading a key of a table finds the entry with that key, and there is one at most.  When entries are
written one after the other, the last one of each key stays, at the place where the key was first
written; so it is with whole tables written over a first one.

## Main definitions

* `Table.lastValue?`: the value of a key in the last of some tables that has it.

## Main results

* `Table.get?_eq_some_iff`: what reading a key finds.
* `Table.keys_setAll`: keys stand in the order in which they were first written.
* `Table.get?_foldl_overlay`, `Table.keys_foldl_overlay`: **tables written over a first one.**
-/

namespace RunHistory

/-! ### Keys in order of first appearance -/

theorem eraseDups_of_nodup {α : Type} [BEq α] [LawfulBEq α] {l : List α} (h : l.Nodup) :
    l.eraseDups = l := by
  induction l with
  | nil => rfl
  | cons a l ih =>
    obtain ⟨ha, hl⟩ := List.nodup_cons.1 h
    have hfilter : (l.filter fun b => !b == a) = l := by
      refine List.filter_eq_self.2 fun b hb => ?_
      have hne : b ≠ a := fun hba => ha (hba ▸ hb)
      simp [hne]
    rw [List.eraseDups_cons, hfilter, ih hl]

/-- One more element goes to the end unless it is there. -/
theorem eraseDups_concat {α : Type} [DecidableEq α] (l : List α) (a : α) :
    (l ++ [a]).eraseDups = if a ∈ l then l.eraseDups else l.eraseDups ++ [a] := by
  rw [List.eraseDups_append]
  by_cases h : a ∈ l <;> simp [List.removeAll, List.eraseDups_cons, h]

theorem eraseDups_append_of_subset {α : Type} [DecidableEq α] {l : List α} :
    ∀ {m : List α}, m ⊆ l → (l ++ m).eraseDups = l.eraseDups := by
  intro m
  induction m using List.reverseRecOn with
  | nil =>
    intro _
    rw [List.append_nil]
  | append_singleton m a ih =>
    intro h
    have ha : a ∈ l := h (List.mem_append_right m List.mem_cons_self)
    have hm : m ⊆ l := fun b hb => h (List.mem_append_left [a] hb)
    rw [← List.append_assoc, eraseDups_concat, if_pos (List.mem_append_left m ha), ih hm]

theorem nodup_eraseDups {α : Type} [DecidableEq α] (l : List α) : l.eraseDups.Nodup := by
  induction l using List.reverseRecOn with
  | nil => exact List.nodup_nil
  | append_singleton l a ih =>
    rw [eraseDups_concat]
    split
    · exact ih
    · next ha =>
      apply List.nodup_append.2
      refine ⟨ih, by simp, ?_⟩
      intro b hb c hc hbc
      rw [List.mem_singleton] at hc
      exact ha (hc ▸ hbc ▸ List.mem_eraseDups.1 hb)

theorem eraseDups_eraseDups_append {α : Type} [DecidableEq α] (l m : List α) :
    (l.eraseDups ++ m).eraseDups = (l ++ m).eraseDups := by
  induction m using List.reverseRecOn with
  | nil => rw [List.append_nil, List.append_nil, eraseDups_of_nodup (nodup_eraseDups l)]
  | append_singleton m a ih =>
    rw [← List.append_assoc, ← List.append_assoc, eraseDups_concat, eraseDups_concat, ih]
    simp only [List.mem_append, List.mem_eraseDups]

theorem eraseDups_append_eraseDups {α : Type} [DecidableEq α] (l m : List α) :
    (l ++ m.eraseDups).eraseDups = (l ++ m).eraseDups := by
  induction m using List.reverseRecOn with
  | nil => rfl
  | append_singleton m a ih =>
    rw [eraseDups_concat]
    by_cases ha : a ∈ m
    · rw [if_pos ha, ih, ← List.append_assoc, eraseDups_concat,
        if_pos (List.mem_append_right l ha)]
    · rw [if_neg ha, ← List.append_assoc, ← List.append_assoc, eraseDups_concat, eraseDups_concat,
        ih]
      simp only [List.mem_append, List.mem_eraseDups]

namespace Table

variable {β : Type}

/-! ### Reading -/

theorem lookupEntry_eq_none_iff {key : String} {entries : List (String × β)} :
    lookupEntry key entries = none ↔ key ∉ entries.map Prod.fst := by
  induction entries with
  | nil => simp [lookupEntry]
  | cons e rest ih =>
    obtain ⟨k, v⟩ := e
    by_cases hk : k = key
    · simp [lookupEntry, hk]
    · simp only [lookupEntry, hk, if_false, ih, List.map_cons, List.mem_cons, not_or]
      exact ⟨fun h => ⟨fun e => hk e.symm, h⟩, fun h => h.2⟩

theorem lookupEntry_eq_some_iff {key : String} {value : β} {entries : List (String × β)}
    (h : (entries.map Prod.fst).Nodup) :
    lookupEntry key entries = some value ↔ (key, value) ∈ entries := by
  induction entries with
  | nil => simp [lookupEntry]
  | cons e rest ih =>
    obtain ⟨k, v⟩ := e
    rw [List.map_cons, List.nodup_cons] at h
    by_cases hk : k = key
    · subst hk
      have hrest : (k, value) ∉ rest := fun hin => h.1 (List.mem_map.2 ⟨_, hin, rfl⟩)
      simp [lookupEntry, hrest, eq_comm]
    · have hk' : ¬key = k := fun e => hk e.symm
      simp [lookupEntry, hk, hk', ih h.2]

theorem get?_eq_none_iff {t : Table β} {key : String} : t.get? key = none ↔ key ∉ t.keys :=
  lookupEntry_eq_none_iff

theorem get?_eq_some_iff {t : Table β} {key : String} {value : β} :
    t.get? key = some value ↔ (key, value) ∈ t.entries :=
  lookupEntry_eq_some_iff t.nodup

theorem mem_keys_iff {t : Table β} {key : String} : key ∈ t.keys ↔ ∃ v, t.get? key = some v := by
  rw [← Option.isSome_iff_exists, Option.isSome_iff_ne_none, Ne, get?_eq_none_iff, not_not]

theorem mem_values_iff {t : Table β} {value : β} :
    value ∈ t.values ↔ ∃ key, t.get? key = some value := by
  simp [values, get?_eq_some_iff]

/-! ### Writing entries one after the other -/

theorem setAll_append (t : Table β) (a b : List (String × β)) :
    t.setAll (a ++ b) = (t.setAll a).setAll b :=
  List.foldl_append

theorem keys_setAll (t : Table β) (entries : List (String × β)) :
    (t.setAll entries).keys = (t.keys ++ entries.map Prod.fst).eraseDups := by
  induction entries using List.reverseRecOn with
  | nil => rw [setAll_nil, List.map_nil, List.append_nil, eraseDups_of_nodup t.nodup_keys]
  | append_singleton entries e ih =>
    rw [setAll_append, setAll_cons, setAll_nil, keys_set, ih, List.map_append, List.map_singleton,
      ← List.append_assoc, eraseDups_concat]
    simp only [List.mem_eraseDups]

theorem get?_setAll (t : Table β) (key : String) : ∀ entries : List (String × β),
    (entries.map Prod.fst).Nodup →
      (t.setAll entries).get? key = (lookupEntry key entries).or (t.get? key) := by
  intro entries
  induction entries generalizing t with
  | nil => intro _; rfl
  | cons e rest ih =>
    obtain ⟨k, v⟩ := e
    intro h
    rw [List.map_cons, List.nodup_cons] at h
    rw [setAll_cons, ih _ h.2, get?_set]
    by_cases hk : k = key
    · subst hk
      rw [lookupEntry_eq_none_iff.2 h.1]
      simp [lookupEntry]
    · simp [lookupEntry, hk]

theorem entries_set_of_notMem {t : Table β} {key : String} {value : β} (h : key ∉ t.keys) :
    (t.set key value).entries = t.entries ++ [(key, value)] := by
  obtain ⟨entries, nodup⟩ := t
  simp only [set, keys] at h ⊢
  clear nodup
  induction entries with
  | nil => rfl
  | cons e rest ih =>
    obtain ⟨k, v⟩ := e
    rw [List.map_cons, List.mem_cons, not_or] at h
    rw [setEntry, if_neg fun e => h.1 e.symm, ih h.2]
    rfl

/-- New keys go to the end with their values. -/
theorem entries_setAll (t : Table β) : ∀ entries : List (String × β),
    (t.keys ++ entries.map Prod.fst).Nodup → (t.setAll entries).entries = t.entries ++ entries := by
  intro entries
  induction entries generalizing t with
  | nil => intro _; simp
  | cons e rest ih =>
    intro h
    have hnew : e.1 ∉ t.keys := fun hin => by
      rw [List.map_cons] at h
      exact (List.nodup_append.1 h).2.2 _ hin _ List.mem_cons_self rfl
    have hset : (t.set e.1 e.2).entries = t.entries ++ [e] := entries_set_of_notMem hnew
    have hkeys : (t.set e.1 e.2).keys = t.keys ++ [e.1] := by rw [keys_set, if_neg hnew]
    rw [setAll_cons, ih, hset, List.append_assoc, List.singleton_append]
    rw [hkeys, List.append_assoc, List.singleton_append]
    exact h

/-! ### Writing tables over one another -/

theorem get?_overlay (t new : Table β) (key : String) :
    (t.overlay new).get? key = (new.get? key).or (t.get? key) :=
  get?_setAll t key new.entries new.nodup

/-- The value of a key in the last of some tables that has it. -/
def lastValue? (key : String) (tables : List (Table β)) : Option β :=
  tables.reverse.findSome? (·.get? key)

theorem lastValue?_concat (key : String) (tables : List (Table β)) (t : Table β) :
    lastValue? key (tables ++ [t]) = (t.get? key).or (lastValue? key tables) := by
  simp only [lastValue?, List.reverse_append, List.reverse_singleton, List.singleton_append,
    List.findSome?_cons]
  cases t.get? key <;> rfl

theorem foldl_overlay_eq_setAll (t : Table β) (tables : List (Table β)) :
    tables.foldl overlay t = t.setAll (tables.flatMap entries) := by
  induction tables generalizing t with
  | nil => rfl
  | cons new tables ih => rw [List.foldl_cons, ih, List.flatMap_cons, setAll_append]; rfl

/-- **Of tables written over a first one the last that has a key gives its value.** -/
theorem get?_foldl_overlay (t : Table β) (tables : List (Table β)) (key : String) :
    (tables.foldl overlay t).get? key = lastValue? key (t :: tables) := by
  induction tables using List.reverseRecOn with
  | nil => simp [lastValue?]
  | append_singleton tables new ih =>
    rw [List.foldl_append, List.foldl_cons, List.foldl_nil, get?_overlay, ih, ← List.cons_append,
      lastValue?_concat]

/-- **Their keys stand in the order in which they first appear.** -/
theorem keys_foldl_overlay (t : Table β) (tables : List (Table β)) :
    (tables.foldl overlay t).keys = ((t :: tables).flatMap keys).eraseDups := by
  rw [foldl_overlay_eq_setAll, keys_setAll, List.map_flatMap]
  rfl

end Table

end RunHistory
