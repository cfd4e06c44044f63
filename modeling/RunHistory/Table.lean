/-!
# Tables

A table gives a value to each of its keys and remembers the order in which the keys were first
written.  Writing to a key that is there replaces the value and leaves the key in its place; a new
key goes to the end.

## Main definitions

* `Table`: entries with distinct keys.
* `Table.get?`, `Table.set`, `Table.overlay`: reading, writing, and writing all entries of another
  table.
* `Table.mapValues`, `Table.mapFirst`, `Table.filterMapValues`: tables of other values under the
  same keys.

## Main results

* `Table.get?_set`: a written key has the written value, every other key its old one.
* `Table.keys_set`: writing adds the key at the end unless it is there.
-/

namespace RunHistory

/-! ### Lists of entries -/

/-- Write to a key of a list of entries. -/
def setEntry {β : Type} (key : String) (value : β) : List (String × β) → List (String × β)
  | [] => [(key, value)]
  | (k, v) :: rest => if k = key then (key, value) :: rest else (k, v) :: setEntry key value rest

/-- The value under a key of a list of entries. -/
def lookupEntry {β : Type} (key : String) : List (String × β) → Option β
  | [] => none
  | (k, v) :: rest => if k = key then some v else lookupEntry key rest

theorem keys_setEntry {β : Type} (key : String) (value : β) (entries : List (String × β)) :
    (setEntry key value entries).map Prod.fst =
      if key ∈ entries.map Prod.fst then entries.map Prod.fst
      else entries.map Prod.fst ++ [key] := by
  induction entries with
  | nil => simp [setEntry]
  | cons e rest ih =>
    obtain ⟨k, v⟩ := e
    by_cases hk : k = key
    · simp [setEntry, hk]
    · have hk' : key ≠ k := fun h => hk h.symm
      simp only [setEntry, hk, if_false, List.map_cons, ih, List.mem_cons, hk', false_or]
      split <;> simp

theorem nodup_keys_setEntry {β : Type} (key : String) (value : β) {entries : List (String × β)}
    (h : (entries.map Prod.fst).Nodup) : ((setEntry key value entries).map Prod.fst).Nodup := by
  rw [keys_setEntry]
  split
  · exact h
  · next hk =>
    exact List.nodup_append.2 ⟨h, by simp, by
      intro a ha b hb hab
      rw [List.mem_singleton] at hb
      exact hk (hb ▸ hab ▸ ha)⟩

theorem lookupEntry_setEntry {β : Type} (key k : String) (value : β)
    (entries : List (String × β)) :
    lookupEntry k (setEntry key value entries) =
      if key = k then some value else lookupEntry k entries := by
  induction entries with
  | nil => simp [setEntry, lookupEntry]
  | cons e rest ih =>
    obtain ⟨k', v⟩ := e
    by_cases hk : k' = key
    · by_cases h : key = k <;> simp [setEntry, lookupEntry, hk, h]
    · by_cases h : k' = k
      · subst h
        have : ¬key = k' := fun e => hk e.symm
        simp [setEntry, lookupEntry, hk, this]
      · simp [setEntry, lookupEntry, hk, h, ih]

/-! ### The table -/

/-- Entries with distinct keys, in the order in which the keys were first written. -/
structure Table (β : Type) where
  /-- The keys with their values. -/
  entries : List (String × β)
  /-- No key stands twice. -/
  nodup : (entries.map Prod.fst).Nodup

namespace Table

variable {β γ : Type}

@[ext] theorem ext {s t : Table β} (h : s.entries = t.entries) : s = t := by
  cases s; cases t; cases h; rfl

instance [DecidableEq β] : DecidableEq (Table β) := fun s t =>
  decidable_of_iff (s.entries = t.entries) ⟨Table.ext, fun h => h ▸ rfl⟩

instance [Repr β] : Repr (Table β) := ⟨fun t n => reprPrec t.entries n⟩

/-- The table without entries. -/
def empty : Table β := ⟨[], by simp⟩

instance : Inhabited (Table β) := ⟨empty⟩

/-- The keys, in the order in which they were first written. -/
def keys (t : Table β) : List String := t.entries.map Prod.fst

/-- The values, in the order of their keys. -/
def values (t : Table β) : List β := t.entries.map Prod.snd

/-- The number of keys. -/
def size (t : Table β) : Nat := t.entries.length

/-- The value under a key. -/
def get? (t : Table β) (key : String) : Option β := lookupEntry key t.entries

/-- Write a value under a key. -/
def set (t : Table β) (key : String) (value : β) : Table β :=
  ⟨setEntry key value t.entries, nodup_keys_setEntry key value t.nodup⟩

/-- Write entries one after the other. -/
def setAll (t : Table β) (entries : List (String × β)) : Table β :=
  entries.foldl (fun t e => t.set e.1 e.2) t

/-- The table that results from writing entries one after the other. -/
def ofList (entries : List (String × β)) : Table β := empty.setAll entries

/-- Write all entries of the second table over the first. -/
def overlay (t new : Table β) : Table β := t.setAll new.entries

/-- The entries whose key passes a test. -/
def filterKeys (t : Table β) (keep : String → Bool) : Table β :=
  ⟨t.entries.filter fun e => keep e.1, t.nodup.sublist (List.filter_sublist.map _)⟩

/-- Every value replaced by its image. -/
def mapValues (t : Table β) (f : β → γ) : Table γ :=
  ⟨t.entries.map fun e => (e.1, f e.2), by simpa [Function.comp_def] using t.nodup⟩

/-- Entries, the first `count` of them with the image of their value. -/
def mapEntries (f : β → β) : Nat → List (String × β) → List (String × β)
  | 0, entries => entries
  | _, [] => []
  | count + 1, (key, value) :: rest => (key, f value) :: mapEntries f count rest

theorem map_fst_mapEntries (f : β → β) (count : Nat) (entries : List (String × β)) :
    (mapEntries f count entries).map Prod.fst = entries.map Prod.fst := by
  induction entries generalizing count with
  | nil => cases count <;> rfl
  | cons e rest ih => cases count <;> simp [mapEntries, ih]

/-- The first `count` values replaced by their images. -/
def mapFirst (t : Table β) (count : Nat) (f : β → β) : Table β :=
  ⟨mapEntries f count t.entries, by rw [map_fst_mapEntries]; exact t.nodup⟩

/-- Every value replaced by its image, and the entries without an image left out. -/
def filterMapValues (t : Table β) (f : β → Option γ) : Table γ :=
  ofList (t.entries.filterMap fun e => (f e.2).map fun v => (e.1, v))

/-! ### Laws of reading and writing -/

@[simp] theorem entries_empty : (empty : Table β).entries = [] := rfl

@[simp] theorem get?_empty (key : String) : (empty : Table β).get? key = none := rfl

@[simp] theorem keys_empty : (empty : Table β).keys = [] := rfl

theorem get?_set (t : Table β) (key : String) (value : β) (k : String) :
    (t.set key value).get? k = if key = k then some value else t.get? k :=
  lookupEntry_setEntry key k value t.entries

theorem keys_set (t : Table β) (key : String) (value : β) :
    (t.set key value).keys = if key ∈ t.keys then t.keys else t.keys ++ [key] :=
  keys_setEntry key value t.entries

theorem nodup_keys (t : Table β) : t.keys.Nodup := t.nodup

@[simp] theorem setAll_nil (t : Table β) : t.setAll [] = t := rfl

@[simp] theorem setAll_cons (t : Table β) (e : String × β) (es : List (String × β)) :
    t.setAll (e :: es) = (t.set e.1 e.2).setAll es := rfl

@[simp] theorem keys_mapValues (t : Table β) (f : β → γ) : (t.mapValues f).keys = t.keys := by
  simp [keys, mapValues, Function.comp_def]

end Table

end RunHistory
