import Mathlib.Data.List.Basic
import RunHistory.Proofs.Table.Overlay

/-!
# Parts and images of tables

Writing to a table and then looking at some of its keys only, or at images of its values, is the
same as writing to what is looked at.  Writing what is there already changes nothing.

## Main results

* `Table.filterKeys_setAll`, `Table.filterKeys_overlay`: entries written, seen at some keys only.
* `Table.mapValues_set`, `Table.mapValues_mapFirst`: values written or replaced, seen as images.
* `Table.filterMapValues_set`: a value written, seen as an image that all values have.
* `Table.setAll_setAll`: **writing entries again changes nothing.**
* `Table.ext_get?`: a table is told by its keys and by what is read under them.
* `Table.overlay_assoc`, `Table.overlay_self`: **tables written over one another in any grouping**,
  and over themselves.
-/

namespace RunHistory

variable {β γ : Type}

/-! ### Entries -/

theorem filter_setEntry (keep : String → Bool) (key : String) (value : β)
    (entries : List (String × β)) :
    (setEntry key value entries).filter (fun e => keep e.1) =
      if keep key then setEntry key value (entries.filter fun e => keep e.1)
      else entries.filter fun e => keep e.1 := by
  induction entries with
  | nil => cases h : keep key <;> simp [setEntry, h]
  | cons e rest ih =>
    obtain ⟨k, v⟩ := e
    by_cases hk : k = key
    · subst hk
      cases h : keep k <;> simp [setEntry, h]
    · rw [setEntry, if_neg hk, List.filter_cons, List.filter_cons, ih]
      cases h : keep key <;> cases h' : keep k <;> simp [setEntry, hk]

theorem map_setEntry (f : β → γ) (key : String) (value : β) (entries : List (String × β)) :
    (setEntry key value entries).map (fun e => (e.1, f e.2)) =
      setEntry key (f value) (entries.map fun e => (e.1, f e.2)) := by
  induction entries with
  | nil => rfl
  | cons e rest ih =>
    obtain ⟨k, v⟩ := e
    by_cases hk : k = key
    · simp [setEntry, hk]
    · simp [setEntry, hk, ih]

theorem map_fst_filterMap_sublist (f : β → Option γ) (entries : List (String × β)) :
    ((entries.filterMap fun e => (f e.2).map fun v => (e.1, v)).map Prod.fst).Sublist
      (entries.map Prod.fst) := by
  induction entries with
  | nil => exact .slnil
  | cons e rest ih =>
    cases h : f e.2 with
    | none => simpa [h] using ih.cons e.1
    | some v => simpa [h] using ih.cons_cons e.1

/-- Writing a value with an image, when the values under other keys have images that stay. -/
theorem filterMap_setEntry {f g : β → Option γ} {key : String} {value : β} {image : γ}
    {entries : List (String × β)} (hnodup : (entries.map Prod.fst).Nodup)
    (hother : ∀ e ∈ entries, e.1 ≠ key → g e.2 = f e.2) (hseen : ∀ e ∈ entries, f e.2 ≠ none)
    (himage : g value = some image) :
    ((setEntry key value entries).filterMap fun e => (g e.2).map fun v => (e.1, v)) =
      setEntry key image (entries.filterMap fun e => (f e.2).map fun v => (e.1, v)) := by
  induction entries with
  | nil => simp [setEntry, himage]
  | cons e rest ih =>
    obtain ⟨k, v⟩ := e
    obtain ⟨hk, hrest⟩ := List.nodup_cons.1 hnodup
    obtain ⟨image', hv⟩ := Option.ne_none_iff_exists'.1 (hseen (k, v) List.mem_cons_self)
    have hothers : ∀ e ∈ rest, e.1 ≠ key → g e.2 = f e.2 :=
      fun e he => hother e (List.mem_cons_of_mem _ he)
    by_cases hkey : k = key
    · subst hkey
      have htail : (rest.filterMap fun e => (g e.2).map fun v => (e.1, v)) =
          rest.filterMap fun e => (f e.2).map fun v => (e.1, v) := by
        refine List.filterMap_congr fun e he => ?_
        rw [hothers e he fun hsame => hk (List.mem_map.2 ⟨e, he, hsame⟩)]
      simp [setEntry, himage, hv, htail]
    · have hstays : g v = some image' := (hother (k, v) List.mem_cons_self hkey).trans hv
      have htail := ih hrest hothers fun e he => hseen e (List.mem_cons_of_mem _ he)
      simp [setEntry, hkey, hstays, hv, htail]

theorem setEntry_of_lookupEntry {key : String} {value : β} {entries : List (String × β)}
    (h : lookupEntry key entries = some value) : setEntry key value entries = entries := by
  induction entries with
  | nil => cases h
  | cons e rest ih =>
    obtain ⟨k, v⟩ := e
    by_cases hk : k = key
    · rw [lookupEntry, if_pos hk] at h
      rw [setEntry, if_pos hk, ← hk, Option.some.inj h]
    · rw [lookupEntry, if_neg hk] at h
      rw [setEntry, if_neg hk, ih h]

theorem lookupEntry_filter (keep : String → Bool) (key : String) (entries : List (String × β)) :
    lookupEntry key (entries.filter fun e => keep e.1) =
      if keep key then lookupEntry key entries else none := by
  induction entries with
  | nil => simp [lookupEntry]
  | cons e rest ih =>
    obtain ⟨k, v⟩ := e
    by_cases hk : k = key
    · subst hk
      cases h : keep k <;> simp [lookupEntry, h, ih]
    · cases h : keep k <;> simp [lookupEntry, h, hk, ih]

theorem lookupEntry_map (f : β → γ) (key : String) (entries : List (String × β)) :
    lookupEntry key (entries.map fun e => (e.1, f e.2)) = (lookupEntry key entries).map f := by
  induction entries with
  | nil => rfl
  | cons e rest ih =>
    obtain ⟨k, v⟩ := e
    by_cases hk : k = key <;> simp [lookupEntry, hk, ih]

namespace Table

/-! ### Some keys only -/

theorem get?_filterKeys (t : Table β) (keep : String → Bool) (key : String) :
    (t.filterKeys keep).get? key = if keep key then t.get? key else none :=
  lookupEntry_filter keep key t.entries

/-- Keys that pass a narrower test pass the wider one first. -/
theorem filterKeys_filterKeys (t : Table β) {keep keep' : String → Bool}
    (h : ∀ key, keep' key = true → keep key = true) :
    t.filterKeys keep' = (t.filterKeys keep).filterKeys keep' := by
  apply Table.ext
  show t.entries.filter (fun e => keep' e.1) =
    (t.entries.filter fun e => keep e.1).filter fun e => keep' e.1
  rw [List.filter_filter]
  refine List.filter_congr fun e _ => ?_
  cases hkey : keep' e.1 with
  | false => rfl
  | true => simp [h e.1 hkey]

theorem filterKeys_set (t : Table β) (keep : String → Bool) (key : String) (value : β) :
    (t.set key value).filterKeys keep =
      if keep key then (t.filterKeys keep).set key value else t.filterKeys keep := by
  have hfilter := filter_setEntry keep key value t.entries
  cases h : keep key with
  | false =>
    rw [h] at hfilter
    exact Table.ext hfilter
  | true =>
    rw [h] at hfilter
    exact Table.ext hfilter

theorem filterKeys_setAll (t : Table β) (keep : String → Bool) (entries : List (String × β)) :
    (t.setAll entries).filterKeys keep =
      (t.filterKeys keep).setAll (entries.filter fun e => keep e.1) := by
  induction entries generalizing t with
  | nil => rfl
  | cons e rest ih =>
    rw [setAll_cons, ih, filterKeys_set]
    cases h : keep e.1 <;> simp [h]

theorem filterKeys_overlay (t new : Table β) (keep : String → Bool) :
    (t.overlay new).filterKeys keep = (t.filterKeys keep).overlay (new.filterKeys keep) :=
  filterKeys_setAll t keep new.entries

/-- Entries written under other keys are not seen. -/
theorem filterKeys_setAll_of_forall (t : Table β) {keep : String → Bool}
    {entries : List (String × β)} (h : ∀ e ∈ entries, keep e.1 = false) :
    (t.setAll entries).filterKeys keep = t.filterKeys keep := by
  have hnone : entries.filter (fun e => keep e.1) = [] := by
    rw [List.filter_eq_nil_iff]
    intro e he
    simp [h e he]
  rw [filterKeys_setAll, hnone, setAll_nil]

/-! ### Images of values -/

theorem get?_mapValues (t : Table β) (f : β → γ) (key : String) :
    (t.mapValues f).get? key = (t.get? key).map f :=
  lookupEntry_map f key t.entries

theorem values_mapValues (t : Table β) (f : β → γ) :
    (t.mapValues f).values = t.values.map f := by
  simp [values, mapValues, Function.comp_def]

theorem mapValues_set (t : Table β) (f : β → γ) (key : String) (value : β) :
    (t.set key value).mapValues f = (t.mapValues f).set key (f value) :=
  Table.ext (map_setEntry f key value t.entries)

theorem entries_filterMapValues (t : Table β) (f : β → Option γ) :
    (t.filterMapValues f).entries = t.entries.filterMap fun e => (f e.2).map fun v => (e.1, v) := by
  have hnodup : ((t.entries.filterMap fun e => (f e.2).map fun v => (e.1, v)).map Prod.fst).Nodup :=
    t.nodup.sublist (map_fst_filterMap_sublist f t.entries)
  rw [filterMapValues, ofList, entries_setAll .empty _ (by simpa using hnodup)]
  rfl

theorem filterMapValues_congr {t : Table β} {f g : β → Option γ}
    (h : ∀ v ∈ t.values, f v = g v) : t.filterMapValues f = t.filterMapValues g := by
  apply Table.ext
  rw [entries_filterMapValues, entries_filterMapValues]
  refine List.filterMap_congr fun e he => ?_
  rw [h e.2 (List.mem_map_of_mem he)]

/-- **A value written is seen as its image**, when all values have images, and those under other
keys stay as they are. -/
theorem filterMapValues_set {t : Table β} {f g : β → Option γ} {key : String} {value : β}
    {image : γ} (hother : ∀ k v, t.get? k = some v → k ≠ key → g v = f v)
    (hseen : ∀ v ∈ t.values, f v ≠ none) (himage : g value = some image) :
    (t.set key value).filterMapValues g = (t.filterMapValues f).set key image := by
  apply Table.ext
  rw [entries_filterMapValues]
  show (setEntry key value t.entries).filterMap _ = setEntry key image (t.filterMapValues f).entries
  rw [entries_filterMapValues]
  refine filterMap_setEntry t.nodup (fun e he => ?_) (fun e he => ?_) himage
  · exact hother e.1 e.2 (get?_eq_some_iff.2 he)
  · exact hseen e.2 (List.mem_map_of_mem he)

theorem map_mapEntries {f : β → γ} {g : β → β} (h : ∀ v, f (g v) = f v) (count : Nat)
    (entries : List (String × β)) :
    (mapEntries g count entries).map (fun e => (e.1, f e.2)) =
      entries.map fun e => (e.1, f e.2) := by
  induction entries generalizing count with
  | nil => cases count <;> rfl
  | cons e rest ih => cases count <;> simp [mapEntries, h, ih]

/-- Replacing values by others with the same image is not seen in the images. -/
theorem mapValues_mapFirst {f : β → γ} {g : β → β} (h : ∀ v, f (g v) = f v) (t : Table β)
    (count : Nat) : (t.mapFirst count g).mapValues f = t.mapValues f :=
  Table.ext (map_mapEntries h count t.entries)

/-- Replacing values by their images is seen in the images of the first ones. -/
theorem mapEntries_map {change : γ → γ} {f g : β → γ} (count : Nat)
    (entries : List (String × β))
    (htake : ∀ a ∈ (entries.map Prod.snd).take count, g a = change (f a))
    (hdrop : ∀ a ∈ (entries.map Prod.snd).drop count, g a = f a) :
    mapEntries change count (entries.map fun e => (e.1, f e.2)) =
      entries.map fun e => (e.1, g e.2) := by
  induction entries generalizing count with
  | nil => cases count <;> rfl
  | cons e entries ih =>
    cases count with
    | zero =>
      refine List.map_congr_left fun e' he' => ?_
      rw [hdrop e'.2 (List.mem_map_of_mem he')]
    | succ count =>
      simp only [List.map_cons, List.take_succ_cons, List.drop_succ_cons,
        List.forall_mem_cons] at htake hdrop ⊢
      rw [mapEntries, htake.1, ih count htake.2 hdrop]

/-! ### Writing again -/

/-- Writing what is there already changes nothing. -/
theorem setAll_of_forall_get? (t : Table β) {entries : List (String × β)}
    (h : ∀ e ∈ entries, t.get? e.1 = some e.2) : t.setAll entries = t := by
  induction entries with
  | nil => rfl
  | cons e rest ih =>
    have hset : t.set e.1 e.2 = t :=
      Table.ext (setEntry_of_lookupEntry (h e List.mem_cons_self))
    rw [setAll_cons, hset]
    exact ih fun e' he' => h e' (List.mem_cons_of_mem e he')

/-- **Writing entries again changes nothing.** -/
theorem setAll_setAll (t : Table β) {entries : List (String × β)}
    (h : (entries.map Prod.fst).Nodup) : (t.setAll entries).setAll entries = t.setAll entries := by
  refine setAll_of_forall_get? _ fun e he => ?_
  rw [get?_setAll t e.1 entries h, (lookupEntry_eq_some_iff h).2 he, Option.some_or]

/-! ### Tables over one another -/

/-- The entries of a table are its keys with what is read under them. -/
theorem entries_eq_filterMap (t : Table β) :
    t.entries = t.keys.filterMap fun key => (t.get? key).map fun value => (key, value) := by
  have hread : ∀ e ∈ t.entries, ((t.get? e.1).map fun value => (e.1, value)) = some e := by
    intro e he
    rw [get?_eq_some_iff.2 he]
    rfl
  rw [keys, List.filterMap_map]
  calc t.entries = t.entries.filterMap some := List.filterMap_some.symm
    _ = _ := (List.filterMap_congr hread).symm

theorem ext_get? {t u : Table β} (hkeys : t.keys = u.keys)
    (hget : ∀ key, t.get? key = u.get? key) : t = u := by
  apply Table.ext
  rw [entries_eq_filterMap t, entries_eq_filterMap u, hkeys]
  simp only [hget]

theorem mapValues_congr {t : Table β} {f g : β → γ}
    (h : ∀ key a, t.get? key = some a → f a = g a) : t.mapValues f = t.mapValues g := by
  apply ext_get?
  · rw [keys_mapValues, keys_mapValues]
  · intro key
    rw [get?_mapValues, get?_mapValues]
    exact Option.map_congr fun a ha => h key a ha

theorem keys_overlay (t new : Table β) :
    (t.overlay new).keys = (t.keys ++ new.keys).eraseDups :=
  keys_setAll t new.entries

/-- **Tables may be written over one another in any grouping.** -/
theorem overlay_assoc (t a b : Table β) : (t.overlay a).overlay b = t.overlay (a.overlay b) := by
  apply ext_get?
  · simp only [keys_overlay]
    rw [eraseDups_eraseDups_append, eraseDups_append_eraseDups, List.append_assoc]
  · intro key
    simp only [get?_overlay, Option.or_assoc]

theorem overlay_self (t : Table β) : t.overlay t = t := by
  apply setAll_of_forall_get?
  intro e he
  exact get?_eq_some_iff.2 he

end Table

end RunHistory
