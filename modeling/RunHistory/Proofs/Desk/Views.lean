import Mathlib.Data.List.Nodup
import RunHistory.Proofs.Desk.Tidy
import RunHistory.Proofs.Link.Undisturbed

/-!
# What a desk knows of a run

The cards that are held show what is known of a run, and on a tidy desk nothing else counts: laying
down a card changes nothing of it, taking in a card takes in the record that it shows, and linking
the cards is linking what they show, with the same outcome and the same records afterwards.

## Main definitions

* `Desk.related`: the cards of the attempts that linking comes to.

## Main results

* `Desk.Tidy.state_lay`, `Desk.Tidy.state_accept`: **taking in a card is taking in its record.**
* `Desk.Tidy.link_eq`: linking writes on the cards of the attempts that it comes to.
* `Desk.Tidy.outcome_link`, `Desk.Tidy.state_link`: **linking the cards is linking the records.**
-/

namespace RunHistory

namespace Desk

variable {d : Desk}

/-! ### Views -/

theorem bucket_state (d : Desk) (kind : Kind) : d.state.bucket kind = d.records kind := by
  cases kind <;> rfl

theorem held?_state (d : Desk) (kind : Kind) (key : String) :
    d.state.held? kind key = (d.held? kind key).map d.record := by
  rw [State.held?, bucket_state, records, Table.get?_mapValues]
  rfl

/-- The records that are held are the same if the same cards are held and show the same. -/
theorem records_congr {d' : Desk} {kind : Kind} (hfiles : d'.files kind = d.files kind)
    (h : ∀ key n, d.held? kind key = some n → d'.record? n = d.record? n) :
    d'.records kind = d.records kind := by
  rw [records, records, hfiles]
  refine Table.mapValues_congr fun key n hn => ?_
  rw [record, record, h key n hn]

@[simp] theorem state_skip (d : Desk) : d.skip.state = d.state.skip := rfl

/-- **A new card is not known of** until it is taken in. -/
theorem Tidy.state_lay (hd : d.Tidy) (r : Record) : (d.lay r).state = d.state := by
  refine State.ext_bucket rfl rfl fun kind => ?_
  rw [bucket_state, bucket_state]
  refine records_congr rfl fun key n hn => ?_
  obtain ⟨r', hr', -⟩ := hd.filed kind key n hn
  have hlt := lt_of_record? hr'
  rw [hd.record?_lay, if_neg (by omega)]

/-- A card that is held is held for one entity. -/
theorem Tidy.key_eq (hd : d.Tidy) {kind : Kind} {key key' : String} {n : Nat}
    (h : d.held? kind key = some n) (h' : d.held? kind key' = some n) : key = key' := by
  obtain ⟨r, hr, -, hkey⟩ := hd.filed kind key n h
  obtain ⟨r', hr', -, hkey'⟩ := hd.filed kind key' n h'
  obtain rfl := Option.some.inj (hr.symm.trans hr')
  exact hkey.symm.trans hkey'

theorem accept_rest (d : Desk) (n : Nat) : (d.accept n).run = d.run ∧
    (d.accept n).skipped = d.skipped ∧ (d.accept n).cards.length = d.cards.length := by
  unfold accept
  split
  · exact ⟨rfl, rfl, rfl⟩
  · split
    · exact ⟨rfl, rfl, rfl⟩
    · next first _ =>
      have hsame := d.sameFiles_mergeInto first n
      exact ⟨hsame.run_eq, hsame.skipped_eq, hsame.length_eq⟩

theorem files_accept_of_ne {n : Nat} {r : Record} (hr : d.record? n = some r) {kind : Kind}
    (hkind : r.kind ≠ kind) : (d.accept n).files kind = d.files kind := by
  cases hheld : d.held? r.kind r.key with
  | none =>
    rw [accept_of_unheld hr hheld]
    exact if_neg (Ne.symm hkind)
  | some first => rw [accept_of_held hr hheld, (d.sameFiles_mergeInto first n).files_eq]

/-- The records of the kind of a card that is taken in. -/
theorem Tidy.records_accept (hd : d.Tidy) {n : Nat} {r : Record} (hr : d.record? n = some r) :
    (d.accept n).records r.kind = mergeRecord (d.records r.kind) r := by
  have hget : (d.records r.kind).get? r.key = (d.held? r.kind r.key).map d.record :=
    Table.get?_mapValues _ _ _
  rw [mergeRecord, hget]
  cases hheld : d.held? r.kind r.key with
  | none =>
    have hfiles : (d.file r.kind r.key n).files r.kind = (d.files r.kind).set r.key n :=
      if_pos rfl
    rw [accept_of_unheld hr hheld, records, hfiles, Table.mapValues_set]
    exact congrArg (Table.set _ r.key) (record_eq hr)
  | some first =>
    obtain ⟨r₀, hr₀, -⟩ := hd.filed _ _ _ hheld
    have hfiles := (d.sameFiles_mergeInto first n).files_eq
    rw [accept_of_held hr hheld, Option.map_some, record_eq hr₀, records, hfiles]
    apply Table.ext_get?
    · have hmem : r.key ∈ (d.files r.kind).keys := Table.mem_keys_iff.2 ⟨first, hheld⟩
      rw [Table.keys_mapValues, Table.keys_set, records, Table.keys_mapValues, if_pos hmem]
    · intro key
      rw [Table.get?_mapValues, Table.get?_set, records, Table.get?_mapValues]
      by_cases hkey : r.key = key
      · subst hkey
        have hfirst : (d.files r.kind).get? r.key = some first := hheld
        rw [if_pos rfl, hfirst, Option.map_some, record, hd.record?_mergeInto hr₀ hr, if_pos rfl,
          Option.getD_some]
      · rw [if_neg hkey]
        refine Option.map_congr fun m hm => ?_
        have hne : m ≠ first := by
          rintro rfl
          exact hkey (hd.key_eq hheld hm)
        rw [record, hd.record?_mergeInto hr₀ hr, if_neg hne, record]

/-- **Taking in a card is taking in its record.** -/
theorem Tidy.state_accept (hd : d.Tidy) {n : Nat} {r : Record} (hr : d.record? n = some r) :
    (d.accept n).state = d.state.accept r := by
  refine State.ext_bucket ?_ ?_ fun kind => ?_
  · exact (d.accept_rest n).1.trans (State.run_setBucket d.state _ _).symm
  · exact (d.accept_rest n).2.1.trans (State.skipped_setBucket d.state _ _).symm
  · by_cases hkind : r.kind = kind
    · subst hkind
      rw [bucket_state, State.accept_bucket, bucket_state, hd.records_accept hr]
    · rw [bucket_state, State.accept_bucket_of_ne _ _ hkind, bucket_state]
      refine records_congr (files_accept_of_ne hr hkind) fun key m hm => ?_
      have hother : d.held? r.kind r.key ≠ some m := by
        intro hheld
        obtain ⟨r₀, hr₀, hkind₀, -⟩ := hd.filed _ _ _ hheld
        obtain ⟨r₁, hr₁, hkind₁, -⟩ := hd.filed _ _ _ hm
        obtain rfl := Option.some.inj (hr₀.symm.trans hr₁)
        exact hkind (hkind₀.symm.trans hkind₁)
      rw [hd.record?_accept hr, if_neg hother]

/-! ### Linking -/

/-- The cards that are held of one kind are different ones. -/
theorem Tidy.nodup_values (hd : d.Tidy) (kind : Kind) : (d.files kind).values.Nodup := by
  have hentries : (d.files kind).entries.Nodup := List.Nodup.of_map _ (d.files kind).nodup
  refine List.Nodup.map_on (fun e he e' he' hsame => ?_) hentries
  have hheld : d.held? kind e.1 = some e.2 := Table.get?_eq_some_iff.2 he
  have hheld' : d.held? kind e'.1 = some e'.2 := Table.get?_eq_some_iff.2 he'
  exact Prod.ext (hd.key_eq hheld (hsame ▸ hheld')) hsame

/-- The records of the attempts that are held. -/
theorem values_attempts (d : Desk) :
    d.state.attempts.values = (d.files .attempt).values.map d.record :=
  Table.values_mapValues _ _

/-- The cards that are held show something. -/
theorem Tidy.shown_of_mem (hd : d.Tidy) {kind : Kind} {n : Nat} (h : n ∈ (d.files kind).values) :
    ∃ r, d.record? n = some r := by
  obtain ⟨key, hkey⟩ := Table.mem_values_iff.1 h
  obtain ⟨r, hr, -⟩ := hd.filed kind key n hkey
  exact ⟨r, hr⟩

theorem sameFiles_foldl_relate (d : Desk) (ns : List Nat) :
    d.SameFiles (ns.foldl Desk.relate d) := by
  induction ns generalizing d with
  | nil => exact .refl d
  | cons n ns ih => exact (d.sameFiles_relate n).trans (ih (d.relate n))

/-- **Writing down the relations on some cards** changes what these show and nothing else. -/
theorem Tidy.foldl_relate (hd : d.Tidy) {ns : List Nat} (h : ∀ n ∈ ns, ∃ r, d.record? n = some r) :
    (ns.foldl Desk.relate d).Tidy ∧ ∀ m, (ns.foldl Desk.relate d).record? m =
      if m ∈ ns then (d.record? m).map Record.withRelations else d.record? m := by
  induction ns generalizing d with
  | nil => exact ⟨hd, fun m => by rw [List.foldl_nil, if_neg List.not_mem_nil]⟩
  | cons n ns ih =>
    obtain ⟨r, hr⟩ := h n List.mem_cons_self
    have hshown : ∀ m ∈ ns, ∃ r, (d.relate n).record? m = some r := by
      intro m hm
      obtain ⟨r', hr'⟩ := h m (List.mem_cons_of_mem n hm)
      rw [hd.record?_relate hr, hr']
      split
      · exact ⟨_, rfl⟩
      · exact ⟨r', rfl⟩
    obtain ⟨htidy, hrecord⟩ := ih (hd.relate hr) hshown
    refine ⟨htidy, fun m => ?_⟩
    rw [List.foldl_cons, hrecord m, hd.record?_relate hr]
    by_cases hmn : m = n
    · subst hmn
      by_cases hm : m ∈ ns
      · simp [hm, hr, r.withRelations_withRelations]
      · simp [hm, hr]
    · simp [hmn]

/-- **Placing the attempts on cards** is placing those that the cards show, and writes on the cards
that it comes to. -/
theorem Tidy.placeAll_eq (hd : d.Tidy) (filled : Dag) {ns : List Nat} (hnodup : ns.Nodup)
    (h : ∀ n ∈ ns, ∃ r, d.record? n = some r) :
    placeAll filled d ns = (upToFailure (Link.attempt filled) (ns.map d.record),
      (ns.take (upToFailure (Link.attempt filled) (ns.map d.record)).count).foldl Desk.relate d) := by
  induction ns generalizing d with
  | nil => rfl
  | cons n ns ih =>
    obtain ⟨hn, hnodup⟩ := List.nodup_cons.1 hnodup
    obtain ⟨r, hr⟩ := h n List.mem_cons_self
    -- the other cards show what they did
    have hothers : ∀ m ∈ ns, (d.relate n).record? m = d.record? m := by
      intro m hm
      rw [hd.record?_relate hr, if_neg (by rintro rfl; exact hn hm)]
    have hrecords : ns.map (d.relate n).record = ns.map d.record := by
      refine List.map_congr_left fun m hm => ?_
      rw [record, record, hothers m hm]
    have hshown : ∀ m ∈ ns, ∃ r, (d.relate n).record? m = some r := by
      intro m hm
      rw [hothers m hm]
      exact h m (List.mem_cons_of_mem n hm)
    rw [placeAll, List.map_cons, upToFailure]
    cases Link.attempt filled (d.record n) with
    | error e => rfl
    | ok placed =>
      dsimp only
      rw [ih (hd.relate hr) hnodup hshown, hrecords, Progress.count_cons, List.take_succ_cons,
        List.foldl_cons]

/-- The cards of the attempts that linking comes to. -/
def related (d : Desk) : List Nat :=
  match (Link.withoutAttempts d.state).link.outcome.result with
  | .error _ => []
  | .ok filled => (d.files .attempt).values.take
    (upToFailure (Link.attempt filled) d.state.attempts.values).count

theorem related_subset (d : Desk) : ∀ n ∈ d.related, n ∈ (d.files .attempt).values := by
  intro n h
  rw [related] at h
  split at h
  · cases h
  · exact List.mem_of_mem_take h

/-- **Linking the cards is linking the records**, and it writes on the cards of attempts only. -/
theorem Tidy.link_eq (hd : d.Tidy) :
    d.link = (d.state.link.outcome, d.related.foldl Desk.relate d) := by
  have hplace := fun filled => hd.placeAll_eq filled (hd.nodup_values .attempt)
    fun n hn => hd.shown_of_mem hn
  rw [link, State.outcome_link d.state, related]
  cases hbefore : (Link.withoutAttempts d.state).link.outcome.result with
  | error e =>
    simp only [Outcome.andThen, hbefore, List.foldl_nil]
    rw [← hbefore]
  | ok filled =>
    simp only [Outcome.andThen, hbefore, hplace, values_attempts]

/-- Relations written on the first cards of attempts are written into the first attempts. -/
theorem Tidy.state_foldl_relate (hd : d.Tidy) (count : Nat) :
    (((d.files .attempt).values.take count).foldl Desk.relate d).state =
      Link.related d.state count := by
  have hnodup := hd.nodup_values .attempt
  have hmem : ∀ n ∈ (d.files .attempt).values.take count, n ∈ (d.files .attempt).values :=
    fun n hn => List.mem_of_mem_take hn
  obtain ⟨-, hrecord⟩ := hd.foldl_relate fun n hn => hd.shown_of_mem (hmem n hn)
  obtain ⟨hrun, hfiles, hskipped, -⟩ :=
    d.sameFiles_foldl_relate ((d.files .attempt).values.take count)
  generalize ((d.files .attempt).values.take count).foldl Desk.relate d = d' at *
  -- a card that is held for an attempt is held for nothing else
  have hother : ∀ kind, kind ≠ .attempt → d'.records kind = d.records kind := by
    intro kind hkind
    refine records_congr (congrFun hfiles kind) fun key n hn => ?_
    have hnot : n ∉ (d.files .attempt).values.take count := by
      intro hin
      obtain ⟨key', hkey'⟩ := Table.mem_values_iff.1 (hmem n hin)
      obtain ⟨r, hr, hr_kind, -⟩ := hd.filed _ _ _ hn
      obtain ⟨r', hr', hr_kind', -⟩ := hd.filed .attempt key' n hkey'
      obtain rfl := Option.some.inj (hr.symm.trans hr')
      exact hkind (hr_kind.symm.trans hr_kind')
    rw [hrecord, if_neg hnot]
  have hattempts : d'.records .attempt =
      (d.records .attempt).mapFirst count Record.withRelations := by
    rw [records, congrFun hfiles .attempt]
    refine Table.ext (Table.mapEntries_map count _ (fun n hn => ?_) fun n hn => ?_).symm
    · have hin : n ∈ (d.files .attempt).values.take count := hn
      obtain ⟨r, hr⟩ := hd.shown_of_mem (hmem n hin)
      rw [record, record, hrecord, if_pos hin, hr]
      rfl
    · have hout : n ∉ (d.files .attempt).values.take count :=
        fun hin => List.disjoint_take_drop hnodup le_rfl hin hn
      rw [record, record, hrecord, if_neg hout]
  refine State.ext_bucket hrun hskipped fun kind => ?_
  rw [bucket_state]
  cases kind with
  | attempt => exact hattempts
  | dag => exact hother .dag (by decide)
  | vertex => exact hother .vertex (by decide)
  | task => exact hother .task (by decide)

/-- **What is known of the run after linking the cards** is what is known after linking the records.
-/
theorem Tidy.state_link (hd : d.Tidy) : d.link.2.state = d.state.link.state := by
  rw [hd.link_eq, State.state_link, related]
  cases (Link.withoutAttempts d.state).link.outcome.result with
  | error e => rfl
  | ok filled => exact hd.state_foldl_relate _

theorem Tidy.outcome_link (hd : d.Tidy) : d.link.1 = d.state.link.outcome := by
  rw [hd.link_eq]

theorem Tidy.link (hd : d.Tidy) : d.link.2.Tidy := by
  rw [hd.link_eq]
  exact (hd.foldl_relate fun n hn => hd.shown_of_mem (d.related_subset n hn)).1

end Desk

end RunHistory
