import RunHistory.Proofs.State.Reached

/-!
# States that grow

What is known of a run only grows while its records are taken in.  An entity that is held stays
held, in its place among those of its kind, and it stays the same record: a later record of the
entity adds fields to its information or writes new values into old ones, and nothing else.

## Main definitions

* `Table.Grows`: a table with more keys at the end, and with related values under the old ones.
* `Record.Grows`: a record with more information.
* `State.Grows`: a state that holds more, and of each entity the same record with more information.

## Main results

* `Record.grows_absorb`, `State.grows_accept`, `State.grows_apply`: **one step.**
* `State.grows_foldl_apply`: **any number of steps.**
-/

namespace RunHistory

/-! ### Tables -/

namespace Table

variable {α β γ : Type}

/-- A table that has grown into another one: its keys come first there, in the same order, and
under each of them there is a related value. -/
structure Grows (related : α → β → Prop) (t : Table α) (u : Table β) : Prop where
  /-- The keys come first. -/
  keys : t.keys <+: u.keys
  /-- The values are related. -/
  get? : ∀ key a, t.get? key = some a → ∃ b, u.get? key = some b ∧ related a b

theorem Grows.refl {related : α → α → Prop} (h : ∀ a, related a a) (t : Table α) :
    t.Grows related t :=
  ⟨List.prefix_rfl, fun _ a ha => ⟨a, ha, h a⟩⟩

theorem Grows.trans {first : α → β → Prop} {second : β → γ → Prop} {both : α → γ → Prop}
    (h : ∀ a b c, first a b → second b c → both a c) {t : Table α} {u : Table β} {v : Table γ}
    (htu : t.Grows first u) (huv : u.Grows second v) : t.Grows both v := by
  refine ⟨htu.keys.trans huv.keys, ?_⟩
  intro key a ha
  obtain ⟨b, hb, hab⟩ := htu.get? key a ha
  obtain ⟨c, hc, hbc⟩ := huv.get? key b hb
  exact ⟨c, hc, h a b c hab hbc⟩

theorem keys_prefix_set (t : Table α) (key : String) (value : α) :
    t.keys <+: (t.set key value).keys := by
  rw [keys_set]
  split
  · exact List.prefix_rfl
  · exact List.prefix_append t.keys [key]

theorem keys_prefix_overlay (t new : Table α) : t.keys <+: (t.overlay new).keys := by
  unfold overlay
  generalize new.entries = entries
  induction entries generalizing t with
  | nil => exact List.prefix_rfl
  | cons e rest ih =>
    rw [setAll_cons]
    exact (t.keys_prefix_set e.1 e.2).trans (ih (t.set e.1 e.2))

/-- A table grows when a value is written that came of the one before it. -/
theorem grows_set {related : α → α → Prop} (hrefl : ∀ a, related a a) (t : Table α) {key : String}
    {value : α} (h : ∀ a, t.get? key = some a → related a value) :
    t.Grows related (t.set key value) := by
  refine ⟨t.keys_prefix_set key value, ?_⟩
  intro key' a ha
  rw [get?_set]
  by_cases hkey : key = key'
  · rw [if_pos hkey]
    exact ⟨value, rfl, h a (hkey ▸ ha)⟩
  · rw [if_neg hkey]
    exact ⟨a, ha, hrefl a⟩

end Table

/-! ### Records -/

/-- A record to which information was added: it is the same in all else, and the fields that its
information had are still there, in their places. -/
structure Record.Grows (r r' : Record) : Prop where
  /-- All but the information is the same. -/
  own : r' = r.withInfo r'.info
  /-- No field is lost. -/
  info : ∀ info, r.info = some info → ∃ info', r'.info = some info' ∧ info.keys <+: info'.keys

namespace Record

theorem Grows.refl (r : Record) : r.Grows r := ⟨rfl, fun info h => ⟨info, h, List.prefix_rfl⟩⟩

theorem Grows.trans {a b c : Record} (hab : a.Grows b) (hbc : b.Grows c) : a.Grows c := by
  refine ⟨?_, ?_⟩
  · rw [hbc.own, hab.own]
    rfl
  · intro info h
    obtain ⟨info', h', hkeys⟩ := hab.info info h
    obtain ⟨info'', h'', hkeys'⟩ := hbc.info info' h'
    exact ⟨info'', h'', hkeys.trans hkeys'⟩

/-- **A later record only adds information.** -/
theorem grows_absorb (r later : Record) : r.Grows (r.absorb later) := by
  refine ⟨rfl, ?_⟩
  intro info h
  unfold absorb
  rw [h]
  cases later.info with
  | none => exact ⟨info, rfl, List.prefix_rfl⟩
  | some new => exact ⟨info.overlay new, rfl, info.keys_prefix_overlay new⟩

end Record

theorem grows_mergeRecord (bucket : Table Record) (r : Record) :
    bucket.Grows Record.Grows (mergeRecord bucket r) := by
  unfold mergeRecord
  cases hheld : bucket.get? r.key with
  | none =>
    apply Table.grows_set Record.Grows.refl
    intro first hfirst
    rw [hheld] at hfirst
    cases hfirst
  | some held =>
    apply Table.grows_set Record.Grows.refl
    intro first hfirst
    rw [hheld] at hfirst
    obtain rfl := Option.some.inj hfirst
    exact held.grows_absorb r

/-! ### States -/

/-- A state that has grown into another one of the same run: of each kind the entities that were
held come first, and each of them is held with the same record, to which information was added. -/
structure State.Grows (s s' : State) : Prop where
  /-- It is the same run. -/
  run_eq : s'.run = s.run
  /-- The records of each kind have grown. -/
  bucket : ∀ kind, (s.bucket kind).Grows Record.Grows (s'.bucket kind)

namespace State

variable {s s' s'' : State}

theorem Grows.refl (s : State) : s.Grows s :=
  ⟨rfl, fun kind => Table.Grows.refl Record.Grows.refl (s.bucket kind)⟩

theorem Grows.trans (h : s.Grows s') (h' : s'.Grows s'') : s.Grows s'' := by
  refine ⟨h'.run_eq.trans h.run_eq, ?_⟩
  intro kind
  exact Table.Grows.trans (fun _ _ _ hab hbc => hab.trans hbc) (h.bucket kind) (h'.bucket kind)

/-- **What is known of a run grows when a record is taken in.** -/
theorem grows_accept (s : State) (r : Record) : s.Grows (s.accept r) := by
  refine ⟨s.run_accept r, ?_⟩
  intro kind
  by_cases hkind : r.kind = kind
  · subst hkind
    rw [accept_bucket]
    exact grows_mergeRecord (s.bucket r.kind) r
  · rw [accept_bucket_of_ne s r hkind]
    exact Table.Grows.refl Record.Grows.refl (s.bucket kind)

/-- A verdict that accepts no record leaves what is held as it is. -/
theorem grows_apply (s : State) (v : Verdict) : s.Grows (s.apply v) := by
  cases v with
  | ignored label => exact .refl s
  | foreign r owner =>
    refine ⟨rfl, ?_⟩
    intro kind
    show (s.bucket kind).Grows Record.Grows (s.skip.bucket kind)
    rw [bucket_skip]
    exact Table.Grows.refl Record.Grows.refl (s.bucket kind)
  | accepted r => exact s.grows_accept r

/-- **What is known of a run grows while it is read.** -/
theorem grows_foldl_apply (verdicts : List Verdict) (s : State) :
    s.Grows (verdicts.foldl apply s) := by
  induction verdicts generalizing s with
  | nil => exact .refl s
  | cons v verdicts ih =>
    rw [List.foldl_cons]
    exact (s.grows_apply v).trans (ih (s.apply v))

end State

/-- What is known of a run after a part of a file has grown when the rest is read. -/
theorem exists_ingest_grows {run path : String} {before after : List (List Char)} {s' : State}
    (h : (ingest run path ⟨before ++ after, none⟩).result = .ok s') (path' : String) :
    ∃ verdicts s, before.mapM (judgeText run) = .ok verdicts ∧
      s = State.ofVerdicts run verdicts ∧ (ingest run path' ⟨before, none⟩).result = .ok s ∧
      s.Grows s' := by
  obtain ⟨-, all, hall, rfl⟩ := ingest_eq_ok_iff.1 h
  rw [List.mapM_append] at hall
  obtain ⟨verdicts, hverdicts, hall⟩ := bind_eq_ok_iff.1 hall
  obtain ⟨later, -, hall⟩ := bind_eq_ok_iff.1 hall
  obtain rfl := Except.ok.inj hall
  refine ⟨verdicts, _, hverdicts, rfl, ingest_eq_ok_iff.2 ⟨rfl, verdicts, hverdicts, rfl⟩, ?_⟩
  unfold State.ofVerdicts
  rw [List.foldl_append]
  exact State.grows_foldl_apply later _

end RunHistory
