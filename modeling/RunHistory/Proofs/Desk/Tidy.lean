import RunHistory.Desk
import RunHistory.Proofs.Table.Parts

/-!
# Tidy desks

On a tidy desk no two cards share a sheet, every sheet that a card names is there, and what is held
for an entity is a card of that entity.  So whatever is written on the sheet of a card is seen on
this card and on no other one.  A desk is tidy at its start and stays so whatever is done on it.

## Main definitions

* `Desk.sheetOf?`: the sheet of a card.
* `Desk.Tidy`: tidy desks.
* `Desk.SameFiles`: desks that differ in what their cards show only.

## Main results

* `Desk.Tidy.record?_lay`, `Desk.Tidy.record?_mergeInto`, `Desk.Tidy.record?_accept`,
  `Desk.Tidy.record?_relate`: **what the cards show afterwards**, for each thing that may be done.
* `Desk.Tidy.lay`, `Desk.Tidy.accept`, `Desk.Tidy.relate`: the desk stays tidy.
-/

namespace RunHistory

theorem Card.read_congr {c : Card} {f g : Nat → Table Value}
    (h : ∀ i, c.sheet = some i → f i = g i) : c.read f = c.read g := by
  have hinfo : c.sheet.map f = c.sheet.map g := Option.map_congr h
  rw [read, read, hinfo]

namespace Desk

variable {d : Desk}

/-- The number of the sheet with the information on a card. -/
def sheetOf? (d : Desk) (number : Nat) : Option Nat := (d.cards[number]?).bind Card.sheet

/-- A tidy desk. -/
structure Tidy (d : Desk) : Prop where
  /-- The sheets of the cards are there. -/
  sheet_lt : ∀ n i, d.sheetOf? n = some i → i < d.sheets.length
  /-- No two cards share a sheet. -/
  apart : ∀ n m i, d.sheetOf? n = some i → d.sheetOf? m = some i → n = m
  /-- The card that is held for an entity shows a record of it. -/
  filed : ∀ kind key n, d.held? kind key = some n →
    ∃ r, d.record? n = some r ∧ r.kind = kind ∧ r.key = key

/-- Desks that differ in nothing but what their cards show. -/
structure SameFiles (d d' : Desk) : Prop where
  /-- They are about the same run. -/
  run_eq : d'.run = d.run
  /-- The same cards are held. -/
  files_eq : d'.files = d.files
  /-- As many records belonged to other runs. -/
  skipped_eq : d'.skipped = d.skipped
  /-- They have as many cards. -/
  length_eq : d'.cards.length = d.cards.length

namespace SameFiles

theorem refl (d : Desk) : d.SameFiles d := ⟨rfl, rfl, rfl, rfl⟩

theorem trans {d d' d'' : Desk} (h : d.SameFiles d') (h' : d'.SameFiles d'') : d.SameFiles d'' :=
  ⟨h'.run_eq.trans h.run_eq, h'.files_eq.trans h.files_eq, h'.skipped_eq.trans h.skipped_eq,
    h'.length_eq.trans h.length_eq⟩

theorem held?_eq {d d' : Desk} (h : d.SameFiles d') (kind : Kind) (key : String) :
    d'.held? kind key = d.held? kind key := by
  rw [held?, held?, h.files_eq]

end SameFiles

/-! ### Cards and what they show -/

theorem exists_card {n : Nat} {r : Record} (h : d.record? n = some r) :
    ∃ c, d.cards[n]? = some c ∧ c.read d.sheet = r :=
  Option.map_eq_some_iff.1 h

theorem lt_of_record? {n : Nat} {r : Record} (h : d.record? n = some r) : n < d.cards.length := by
  obtain ⟨c, hc, -⟩ := exists_card h
  exact (List.getElem?_eq_some_iff.1 hc).1

/-- What a card shows as information stands on its sheet. -/
theorem info_eq {n : Nat} {r : Record} (h : d.record? n = some r) :
    r.info = (d.sheetOf? n).map d.sheet := by
  obtain ⟨c, hc, rfl⟩ := exists_card h
  rw [sheetOf?, hc]
  rfl

theorem record_eq {n : Nat} {r : Record} (h : d.record? n = some r) : d.record n = r := by
  rw [record, h, Option.getD_some]

theorem record?_congr {d' : Desk} {n : Nat} (hcard : d'.cards[n]? = d.cards[n]?)
    (hsheet : ∀ i, d.sheetOf? n = some i → d'.sheet i = d.sheet i) :
    d'.record? n = d.record? n := by
  rw [record?, record?, hcard]
  refine Option.map_congr fun c hc => Card.read_congr fun i hi => hsheet i ?_
  rw [sheetOf?, hc]
  exact hi

/-! ### New cards -/

theorem sheet_append (sheets more : List (Table Value)) {d' : Desk} (h : d'.sheets = sheets ++ more)
    {i : Nat} (hi : i < sheets.length) : d'.sheet i = (sheets[i]?).getD .empty := by
  rw [sheet, h, List.getElem?_append_left hi]

theorem sheetOf?_lay (d : Desk) (r : Record) (n : Nat) : (d.lay r).sheetOf? n =
    if n = d.cards.length then r.info.map fun _ => d.sheets.length else d.sheetOf? n := by
  rw [sheetOf?, lay]
  by_cases hn : n = d.cards.length
  · rw [if_pos hn, hn, List.getElem?_concat_length, Option.bind_some]
  · rw [if_neg hn, sheetOf?]
    rcases Nat.lt_or_ge n d.cards.length with hlt | hge
    · rw [List.getElem?_append_left hlt]
    · have hlater : d.cards.length < n := by omega
      rw [List.getElem?_eq_none_iff.2 hge, List.getElem?_eq_none_iff.2 (by simp; omega)]

/-- **A new card shows its record**, and the others show what they did. -/
theorem Tidy.record?_lay (hd : d.Tidy) (r : Record) (n : Nat) :
    (d.lay r).record? n = if n = d.cards.length then some r else d.record? n := by
  by_cases hn : n = d.cards.length
  · rw [if_pos hn, hn, record?, lay, List.getElem?_concat_length, Option.map_some]
    obtain ⟨subject, entity, label, info, extra⟩ := r
    cases info with
    | none => rfl
    | some info => simp [Card.read, sheet]
  · rw [if_neg hn]
    apply record?_congr
    · rcases Nat.lt_or_ge n d.cards.length with hlt | hge
      · exact List.getElem?_append_left hlt
      · rw [List.getElem?_eq_none_iff.2 hge, List.getElem?_eq_none_iff.2 (by simp [lay]; omega)]
    · intro i hi
      exact sheet_append d.sheets r.info.toList rfl (hd.sheet_lt n i hi)

@[simp] theorem held?_lay (d : Desk) (r : Record) (kind : Kind) (key : String) :
    (d.lay r).held? kind key = d.held? kind key := rfl

@[simp] theorem length_cards_lay (d : Desk) (r : Record) :
    (d.lay r).cards.length = d.cards.length + 1 := by simp [lay]

theorem Tidy.lay (hd : d.Tidy) (r : Record) : (d.lay r).Tidy := by
  have hnew : ∀ n i, (d.lay r).sheetOf? n = some i →
      (n = d.cards.length ∧ i = d.sheets.length ∧ r.info.isSome) ∨
        n ≠ d.cards.length ∧ d.sheetOf? n = some i := by
    intro n i h
    rw [sheetOf?_lay] at h
    split at h
    · next hn =>
      obtain ⟨info, hinfo, rfl⟩ := Option.map_eq_some_iff.1 h
      exact .inl ⟨hn, rfl, by rw [hinfo]; rfl⟩
    · next hn => exact .inr ⟨hn, h⟩
  constructor
  · intro n i h
    have hlength : (d.lay r).sheets.length = d.sheets.length + r.info.toList.length := by
      simp [Desk.lay]
    rw [hlength]
    rcases hnew n i h with ⟨-, rfl, hinfo⟩ | ⟨-, hi⟩
    · obtain ⟨info, hinfo⟩ := Option.isSome_iff_exists.1 hinfo
      simp [hinfo]
    · have hlt := hd.sheet_lt n i hi
      omega
  · intro n m i hn hm
    rcases hnew n i hn with ⟨hn, hi, -⟩ | ⟨-, hn⟩ <;>
      rcases hnew m i hm with ⟨hm, hi', -⟩ | ⟨-, hm⟩
    · exact hn.trans hm.symm
    · exact absurd (hd.sheet_lt m i hm) (by omega)
    · exact absurd (hd.sheet_lt n i hn) (by omega)
    · exact hd.apart n m i hn hm
  · intro kind key n h
    obtain ⟨r', hr', hentity⟩ := hd.filed kind key n h
    refine ⟨r', ?_, hentity⟩
    have hlt := lt_of_record? hr'
    rw [hd.record?_lay, if_neg (by omega), hr']

/-! ### Sheets written over -/

@[simp] theorem sheetOf?_rewrite (d : Desk) (i : Nat) (f : Table Value → Table Value) (n : Nat) :
    (d.rewrite i f).sheetOf? n = d.sheetOf? n := rfl

theorem sheet_rewrite_of_ne (d : Desk) {i j : Nat} (f : Table Value → Table Value) (h : i ≠ j) :
    (d.rewrite i f).sheet j = d.sheet j := by
  rw [sheet, rewrite, List.getElem?_modify_ne _ _ h]
  rfl

theorem sheet_rewrite_self (d : Desk) {i : Nat} (f : Table Value → Table Value)
    (h : i < d.sheets.length) : (d.rewrite i f).sheet i = f (d.sheet i) := by
  rw [sheet, rewrite, sheet, List.getElem?_modify_eq, List.getElem?_eq_getElem h]
  rfl

/-- **What is written on the sheet of a card is seen there only.** -/
theorem Tidy.record?_rewrite (hd : d.Tidy) {n i : Nat} (h : d.sheetOf? n = some i)
    (f : Table Value → Table Value) (m : Nat) : (d.rewrite i f).record? m =
      if m = n then (d.record? m).map fun r => r.withInfo (r.info.map f) else d.record? m := by
  by_cases hm : m = n
  · subst hm
    rw [if_pos rfl, record?, record?, Option.map_map]
    refine Option.map_congr fun c hc => ?_
    have hcard : d.cards[m]? = some c := hc
    have hsheet : c.sheet = some i := by
      rw [sheetOf?, hcard] at h
      exact h
    have hlt := hd.sheet_lt m i h
    simp [Card.read, Record.withInfo, hsheet, sheet_rewrite_self d f hlt]
  · rw [if_neg hm]
    refine record?_congr (d := d) rfl fun j hj => ?_
    apply sheet_rewrite_of_ne
    rintro rfl
    exact hm (hd.apart m n i hj h)

/-- The entities of what is held are the same if the cards show the same but for information. -/
theorem Tidy.filed_of_shown (hd : d.Tidy) {d' : Desk} {kind : Kind} {key : String} {n : Nat}
    (h : d.held? kind key = some n)
    (hshown : ∀ r, d.record? n = some r → ∃ info, d'.record? n = some (r.withInfo info)) :
    ∃ r, d'.record? n = some r ∧ r.kind = kind ∧ r.key = key := by
  obtain ⟨r, hr, hkind, hkey⟩ := hd.filed kind key n h
  obtain ⟨info, hr'⟩ := hshown r hr
  exact ⟨_, hr', hkind, hkey⟩

theorem Tidy.rewrite (hd : d.Tidy) {n i : Nat} (h : d.sheetOf? n = some i)
    (f : Table Value → Table Value) : (d.rewrite i f).Tidy := by
  refine ⟨?_, hd.apart, fun kind key m hm => hd.filed_of_shown hm fun r hr => ?_⟩
  · intro m j hj
    rw [Desk.rewrite, List.length_modify]
    exact hd.sheet_lt m j hj
  · rw [hd.record?_rewrite h, hr]
    split
    · exact ⟨_, rfl⟩
    · exact ⟨r.info, rfl⟩

/-! ### Sheets handed out -/

theorem sheetOf?_hand (d : Desk) (n : Nat) (info : Table Value) (m : Nat) :
    (d.hand n info).sheetOf? m =
      if m = n then (d.cards[m]?).map fun _ => d.sheets.length else d.sheetOf? m := by
  rw [sheetOf?, hand]
  by_cases hm : m = n
  · subst hm
    rw [if_pos rfl, List.getElem?_modify_eq]
    cases d.cards[m]? <;> rfl
  · rw [if_neg hm, List.getElem?_modify_ne _ _ (Ne.symm hm)]
    rfl

/-- **A new sheet is seen on its card only.** -/
theorem Tidy.record?_hand (hd : d.Tidy) (n : Nat) (info : Table Value) (m : Nat) :
    (d.hand n info).record? m =
      if m = n then (d.record? m).map fun r => r.withInfo (some info) else d.record? m := by
  by_cases hm : m = n
  · subst hm
    rw [if_pos rfl, record?, record?, hand, List.getElem?_modify_eq, Option.map_map]
    cases d.cards[m]? with
    | none => rfl
    | some c => simp [Card.read, Record.withInfo, sheet]
  · rw [if_neg hm]
    apply record?_congr
    · exact List.getElem?_modify_ne _ _ (Ne.symm hm)
    · intro i hi
      exact sheet_append d.sheets [info] rfl (hd.sheet_lt m i hi)

theorem Tidy.hand (hd : d.Tidy) (n : Nat) (info : Table Value) : (d.hand n info).Tidy := by
  have hnew : ∀ m i, (d.hand n info).sheetOf? m = some i →
      (m = n ∧ i = d.sheets.length) ∨ d.sheetOf? m = some i := by
    intro m i h
    rw [sheetOf?_hand] at h
    split at h
    · next hm =>
      obtain ⟨c, -, rfl⟩ := Option.map_eq_some_iff.1 h
      exact .inl ⟨hm, rfl⟩
    · exact .inr h
  refine ⟨?_, ?_, fun kind key m hm => hd.filed_of_shown hm fun r hr => ?_⟩
  · intro m i h
    have hlength : (d.hand n info).sheets.length = d.sheets.length + 1 := by simp [Desk.hand]
    rw [hlength]
    rcases hnew m i h with ⟨-, rfl⟩ | hi
    · omega
    · have hlt := hd.sheet_lt m i hi
      omega
  · intro m m' i hm hm'
    rcases hnew m i hm with ⟨hm, hi⟩ | hm <;> rcases hnew m' i hm' with ⟨hm', hi'⟩ | hm'
    · exact hm.trans hm'.symm
    · exact absurd (hd.sheet_lt m' i hm') (by omega)
    · exact absurd (hd.sheet_lt m i hm) (by omega)
    · exact hd.apart m m' i hm hm'
  · rw [hd.record?_hand, hr]
    split
    · exact ⟨_, rfl⟩
    · exact ⟨r.info, rfl⟩

/-! ### Cards held -/

@[simp] theorem record?_file (d : Desk) (kind : Kind) (key : String) (n m : Nat) :
    (d.file kind key n).record? m = d.record? m := rfl

theorem held?_file (d : Desk) (kind : Kind) (key : String) (n : Nat) (kind' : Kind)
    (key' : String) : (d.file kind key n).held? kind' key' =
      if kind' = kind ∧ key' = key then some n else d.held? kind' key' := by
  rw [held?, held?, file]
  by_cases hkind : kind' = kind
  · subst hkind
    by_cases hkey : key' = key
    · simp [Table.get?_set, hkey]
    · have hkey' : key ≠ key' := Ne.symm hkey
      simp [Table.get?_set, hkey, hkey']
  · simp [hkind]

theorem Tidy.file (hd : d.Tidy) {n : Nat} {r : Record} (hr : d.record? n = some r) :
    (d.file r.kind r.key n).Tidy := by
  refine ⟨hd.sheet_lt, hd.apart, ?_⟩
  intro kind key m h
  rw [held?_file] at h
  split at h
  · next hentity =>
    obtain rfl := Option.some.inj h
    exact ⟨r, hr, hentity.1.symm, hentity.2.symm⟩
  · exact hd.filed kind key m h

/-! ### Taking in -/

/-- Adding information is one of four things: there is none, it stands on the same sheet, it is
copied onto a new sheet, or it is written over the old one. -/
theorem mergeInto_cases {first later : Nat} {r r' : Record} (hr : d.record? first = some r)
    (hr' : d.record? later = some r') :
    (r'.info = none ∧ d.mergeInto first later = d) ∨
    (∃ i, d.sheetOf? first = some i ∧ d.sheetOf? later = some i ∧ d.mergeInto first later = d) ∨
    (∃ new, d.sheetOf? first = none ∧ r'.info = some new ∧
      d.mergeInto first later = d.hand first new) ∨
    (∃ i new, d.sheetOf? first = some i ∧ r'.info = some new ∧
      d.mergeInto first later = d.rewrite i (·.overlay new)) := by
  obtain ⟨c, hc, rfl⟩ := exists_card hr
  obtain ⟨c', hc', rfl⟩ := exists_card hr'
  rw [sheetOf?, sheetOf?, hc, hc', Option.bind_some, Option.bind_some]
  cases hnew : c'.sheet with
  | none => exact .inl ⟨by rw [Card.read, hnew]; rfl, by simp only [mergeInto, hc, hc', hnew]⟩
  | some new =>
    have hinfo : (c'.read d.sheet).info = some (d.sheet new) := by rw [Card.read, hnew]; rfl
    cases hold : c.sheet with
    | none =>
      exact .inr (.inr (.inl ⟨_, rfl, hinfo, by simp only [mergeInto, hc, hc', hnew, hold]⟩))
    | some old =>
      by_cases hsame : old = new
      · subst hsame
        exact .inr (.inl ⟨old, rfl, rfl, by simp only [mergeInto, hc, hc', hnew, hold, if_true]⟩)
      · exact .inr (.inr (.inr ⟨old, _, rfl, hinfo, by
          simp only [mergeInto, hc, hc', hnew, hold, hsame, if_false]⟩))

theorem sameFiles_rewrite (d : Desk) (i : Nat) (f : Table Value → Table Value) :
    d.SameFiles (d.rewrite i f) := ⟨rfl, rfl, rfl, rfl⟩

theorem sameFiles_hand (d : Desk) (n : Nat) (info : Table Value) :
    d.SameFiles (d.hand n info) := ⟨rfl, rfl, rfl, List.length_modify _ _ _⟩

theorem sameFiles_mergeInto (d : Desk) (first later : Nat) :
    d.SameFiles (d.mergeInto first later) := by
  unfold mergeInto
  split
  · split
    · exact .refl d
    · split
      · exact d.sameFiles_hand _ _
      · split
        · exact .refl d
        · exact d.sameFiles_rewrite _ _
  · exact .refl d

/-- A card is not changed by its own information. -/
theorem mergeInto_self (d : Desk) (n : Nat) : d.mergeInto n n = d := by
  unfold mergeInto
  cases d.cards[n]? with
  | none => rfl
  | some c => cases hsheet : c.sheet <;> simp [hsheet]

/-- **Adding the information on one card to that on another one** changes what this one shows and
nothing else. -/
theorem Tidy.record?_mergeInto (hd : d.Tidy) {first later : Nat} {r r' : Record}
    (hr : d.record? first = some r) (hr' : d.record? later = some r') (m : Nat) :
    (d.mergeInto first later).record? m =
      if m = first then some (r.absorb r') else d.record? m := by
  have hinfo := info_eq hr
  -- where nothing is done the record has all of the information already
  have hkept : ∀ m, Record.mergedInfo r.info r'.info = r.info →
      d.record? m = if m = first then some (r.absorb r') else d.record? m := by
    intro m hmerged
    have habsorb : r.absorb r' = r := by rw [Record.absorb, hmerged]; rfl
    split
    · next hm => rw [hm, hr, habsorb]
    · rfl
  rcases mergeInto_cases hr hr' with
    ⟨hnone, h⟩ | ⟨i, hi, hi', h⟩ | ⟨new, hnone, hnew, h⟩ | ⟨i, new, hi, hnew, h⟩
  · rw [h]
    refine hkept m ?_
    rw [hnone]
    cases r.info <;> rfl
  · rw [h]
    obtain rfl := hd.apart first later i hi hi'
    obtain rfl := Option.some.inj (hr.symm.trans hr')
    refine hkept m ?_
    cases r.info with
    | none => rfl
    | some info => exact congrArg some (Table.overlay_self info)
  · rw [h, hd.record?_hand]
    split
    · next hm =>
      rw [hm, hr, Option.map_some, Record.absorb, hinfo, hnone, hnew]
      rfl
    · rfl
  · rw [h, hd.record?_rewrite hi]
    split
    · next hm =>
      rw [hm, hr, Option.map_some, Record.absorb, hinfo, hi, hnew]
      rfl
    · rfl

theorem Tidy.mergeInto (hd : d.Tidy) {first later : Nat} {r r' : Record}
    (hr : d.record? first = some r) (hr' : d.record? later = some r') :
    (d.mergeInto first later).Tidy := by
  rcases mergeInto_cases hr hr' with
    ⟨-, h⟩ | ⟨i, -, -, h⟩ | ⟨new, -, -, h⟩ | ⟨i, new, hi, -, h⟩
  · rwa [h]
  · rwa [h]
  · rw [h]
    exact hd.hand first new
  · rw [h]
    exact hd.rewrite hi _

/-- Taking in a card holds it if it is the first of its entity. -/
theorem accept_of_unheld {n : Nat} {r : Record} (hr : d.record? n = some r)
    (h : d.held? r.kind r.key = none) : d.accept n = d.file r.kind r.key n := by
  obtain ⟨c, hc, rfl⟩ := exists_card hr
  have hheld : d.held? c.kind c.key = none := h
  simp only [accept, hc, hheld]
  rfl

/-- And else its information is added to that on the card that is held. -/
theorem accept_of_held {n first : Nat} {r : Record} (hr : d.record? n = some r)
    (h : d.held? r.kind r.key = some first) : d.accept n = d.mergeInto first n := by
  obtain ⟨c, hc, rfl⟩ := exists_card hr
  have hheld : d.held? c.kind c.key = some first := h
  simp only [accept, hc, hheld]

/-- **Taking in the card that is held changes nothing.** -/
theorem accept_self {n : Nat} {r : Record} (hr : d.record? n = some r)
    (h : d.held? r.kind r.key = some n) : d.accept n = d := by
  rw [accept_of_held hr h, mergeInto_self]

/-- **Taking in a card** adds to what the card shows that is held for its entity, and to nothing
else. -/
theorem Tidy.record?_accept (hd : d.Tidy) {n : Nat} {r : Record} (hr : d.record? n = some r)
    (m : Nat) : (d.accept n).record? m =
      if d.held? r.kind r.key = some m then (d.record? m).map fun first => first.absorb r
      else d.record? m := by
  cases hheld : d.held? r.kind r.key with
  | none =>
    rw [accept_of_unheld hr hheld, record?_file, if_neg (by simp)]
  | some first =>
    obtain ⟨r₀, hr₀, -⟩ := hd.filed _ _ _ hheld
    rw [accept_of_held hr hheld, hd.record?_mergeInto hr₀ hr]
    by_cases hm : m = first
    · rw [if_pos hm, if_pos (by rw [hm]), hm, hr₀, Option.map_some]
    · rw [if_neg hm, if_neg (by simpa using Ne.symm hm)]

theorem held?_accept {n : Nat} {r : Record} (hr : d.record? n = some r) (kind : Kind)
    (key : String) : (d.accept n).held? kind key =
      if kind = r.kind ∧ key = r.key then some ((d.held? kind key).getD n)
      else d.held? kind key := by
  cases hheld : d.held? r.kind r.key with
  | none =>
    rw [accept_of_unheld hr hheld, held?_file]
    split
    · next hentity => rw [hentity.1, hentity.2, hheld, Option.getD_none]
    · rfl
  | some first =>
    rw [accept_of_held hr hheld, (d.sameFiles_mergeInto first n).held?_eq]
    split
    · next hentity => rw [hentity.1, hentity.2, hheld, Option.getD_some]
    · rfl

theorem Tidy.accept (hd : d.Tidy) {n : Nat} {r : Record} (hr : d.record? n = some r) :
    (d.accept n).Tidy := by
  cases hheld : d.held? r.kind r.key with
  | none =>
    rw [accept_of_unheld hr hheld]
    exact hd.file hr
  | some first =>
    obtain ⟨r₀, hr₀, -⟩ := hd.filed _ _ _ hheld
    rw [accept_of_held hr hheld]
    exact hd.mergeInto hr₀ hr

/-! ### Relations -/

/-- Writing down relations is writing on the sheet of the card, if it has one. -/
theorem relate_cases {n : Nat} {r : Record} (hr : d.record? n = some r) :
    (d.sheetOf? n = none ∧ d.relate n = d) ∨
      ∃ i, d.sheetOf? n = some i ∧ d.relate n = d.rewrite i (Relation.intoInfo r.related) := by
  obtain ⟨c, hc, rfl⟩ := exists_card hr
  rw [sheetOf?, hc, Option.bind_some]
  cases hsheet : c.sheet with
  | none => exact .inl ⟨rfl, by simp only [relate, hc, hsheet]⟩
  | some i =>
    refine .inr ⟨i, rfl, ?_⟩
    simp only [relate, hc, hsheet]
    rfl

theorem sameFiles_relate (d : Desk) (n : Nat) : d.SameFiles (d.relate n) := by
  unfold relate
  split
  · exact .refl d
  · split
    · exact .refl d
    · exact d.sameFiles_rewrite _ _

/-- **Writing down the relations on a card** changes what it shows and nothing else. -/
theorem Tidy.record?_relate (hd : d.Tidy) {n : Nat} {r : Record} (hr : d.record? n = some r)
    (m : Nat) :
    (d.relate n).record? m = if m = n then some r.withRelations else d.record? m := by
  have hinfo := info_eq hr
  rcases relate_cases hr with ⟨hnone, h⟩ | ⟨i, hi, h⟩
  · have hsame : r.withRelations = r := by
      obtain ⟨subject, entity, label, info, extra⟩ := r
      obtain rfl : info = none := by simpa [hnone] using hinfo
      rfl
    rw [h, hsame]
    split
    · next hm => rw [hm, hr]
    · rfl
  · rw [h, hd.record?_rewrite hi]
    split
    · next hm =>
      rw [hm, hr]
      rfl
    · rfl

theorem Tidy.relate (hd : d.Tidy) {n : Nat} {r : Record} (hr : d.record? n = some r) :
    (d.relate n).Tidy := by
  rcases relate_cases hr with ⟨-, h⟩ | ⟨i, hi, h⟩
  · rwa [h]
  · rw [h]
    exact hd.rewrite hi _

/-! ### The desk at its start -/

theorem tidy_start (run : String) : (start run).Tidy := by
  refine ⟨?_, ?_, ?_⟩
  · intro n i h
    cases h
  · intro n m i h
    cases h
  · intro kind key n h
    cases h

theorem Tidy.skip (hd : d.Tidy) : d.skip.Tidy := ⟨hd.sheet_lt, hd.apart, hd.filed⟩

end Desk

end RunHistory
