import RunHistory.Proofs.Desk.Views
import RunHistory.Proofs.Relations
import RunHistory.Session

/-!
# Records that are not held are never written into

In a session any number of records come in, are set aside, taken in, and taken in again; attempts
have their relations written down, and the run is linked in between.  All of this writes into
records.  It only ever writes into the one that is held for an entity: any other record stays as it
was when it came in, even if its information was taken over by a held one that had none, and that
one was written into later.

## Main definitions

* `Desk.Keeps`: from one desk to another one what is not held is kept.
* `Session.Tidy`: sessions on a tidy desk, whose names stand for cards.
* `Session.Reached`: the sessions that some steps lead to.
* `Session.routed?`, `Session.taken?`: the record that a step lays down, and the card that it takes
  in.
* `Session.TakesIn`: what taking in a card changes.

## Main results

* `Desk.Tidy.keeps_lay`, `Desk.Tidy.keeps_accept`, `Desk.Tidy.keeps_link`: **whatever is done on a
  desk keeps what is not held.**
* `Session.Tidy.step`, `Session.Tidy.perform`: so does a step, and so do any number of them.
* `Session.untouched`: **records that are not held are never written into**, and taking in a card
  writes into one record at most.
-/

namespace RunHistory

/-! ### What is kept on a desk -/

namespace Desk

/-- From one desk to another one no card gets lost, what is held stays held, and what is not held
shows the same. -/
structure Keeps (d d' : Desk) : Prop where
  /-- What is held stays held. -/
  held : ∀ kind key n, d.held? kind key = some n → d'.held? kind key = some n
  /-- A card shows the same but for its information. -/
  shown : ∀ n r, d.record? n = some r → ∃ info, d'.record? n = some (r.withInfo info)
  /-- Unless it is held it shows the same altogether. -/
  loose : ∀ n r, d.record? n = some r → d'.held? r.kind r.key = some n ∨ d'.record? n = some r

namespace Keeps

theorem of_shown {d d' : Desk}
    (held : ∀ kind key n, d.held? kind key = some n → d'.held? kind key = some n)
    (h : ∀ n r, d.record? n = some r → d'.record? n = some r) : d.Keeps d' :=
  ⟨held, fun n r hr => ⟨r.info, h n r hr⟩, fun n r hr => .inr (h n r hr)⟩

theorem refl (d : Desk) : d.Keeps d := of_shown (fun _ _ _ h => h) fun _ _ h => h

theorem trans {d d' d'' : Desk} (h : d.Keeps d') (h' : d'.Keeps d'') : d.Keeps d'' := by
  refine ⟨fun kind key n hn => h'.held kind key n (h.held kind key n hn), ?_, ?_⟩
  · intro n r hr
    obtain ⟨info, hinfo⟩ := h.shown n r hr
    obtain ⟨info', hinfo'⟩ := h'.shown n _ hinfo
    exact ⟨info', hinfo'⟩
  · intro n r hr
    rcases h.loose n r hr with hheld | hsame
    · exact .inl (h'.held _ _ _ hheld)
    · exact h'.loose n r hsame

end Keeps

namespace Tidy

variable {d : Desk} (hd : d.Tidy)

include hd

/-- Nothing else is lost if only cards that are held are written on. -/
theorem keeps_of_written {d' : Desk}
    (hheld : ∀ kind key n, d.held? kind key = some n → d'.held? kind key = some n)
    (h : ∀ n r, d.record? n = some r → d'.record? n = some r ∨
      (∃ kind key, d.held? kind key = some n) ∧ ∃ info, d'.record? n = some (r.withInfo info)) :
    d.Keeps d' := by
  refine ⟨hheld, ?_, ?_⟩
  · intro n r hr
    rcases h n r hr with hsame | ⟨-, hinfo⟩
    · exact ⟨r.info, hsame⟩
    · exact hinfo
  · intro n r hr
    rcases h n r hr with hsame | ⟨⟨kind, key, hn⟩, -⟩
    · exact .inr hsame
    · -- a card that is held is held for its own entity
      obtain ⟨r', hr', rfl, rfl⟩ := hd.filed kind key n hn
      obtain rfl := Option.some.inj (hr.symm.trans hr')
      exact .inl (hheld _ _ _ hn)

theorem keeps_lay (r : Record) : d.Keeps (d.lay r) := by
  refine .of_shown (fun _ _ _ h => h) fun n r' hr' => ?_
  have hlt := lt_of_record? hr'
  rw [hd.record?_lay, if_neg (by omega), hr']

theorem keeps_accept {n : Nat} {r : Record} (hr : d.record? n = some r) :
    d.Keeps (d.accept n) := by
  refine hd.keeps_of_written ?_ fun m r' hr' => ?_
  · intro kind key m hm
    rw [held?_accept hr]
    split
    · rw [hm, Option.getD_some]
    · exact hm
  · rw [hd.record?_accept hr, hr']
    split
    · next hm => exact .inr ⟨⟨_, _, hm⟩, _, rfl⟩
    · exact .inl rfl

theorem keeps_foldl_relate {ns : List Nat}
    (h : ∀ n ∈ ns, ∃ key, d.held? .attempt key = some n) :
    d.Keeps (ns.foldl Desk.relate d) := by
  have hshown : ∀ n ∈ ns, ∃ r, d.record? n = some r := by
    intro n hn
    obtain ⟨key, hkey⟩ := h n hn
    obtain ⟨r, hr, -⟩ := hd.filed .attempt key n hkey
    exact ⟨r, hr⟩
  obtain ⟨-, hrecord⟩ := hd.foldl_relate hshown
  refine hd.keeps_of_written ?_ fun m r hr => ?_
  · intro kind key m hm
    rw [(d.sameFiles_foldl_relate ns).held?_eq, hm]
  · rw [hrecord, hr]
    split
    · next hm =>
      obtain ⟨key, hkey⟩ := h m hm
      exact .inr ⟨⟨_, _, hkey⟩, _, rfl⟩
    · exact .inl rfl

theorem keeps_link : d.Keeps d.link.2 := by
  rw [hd.link_eq]
  refine hd.keeps_foldl_relate fun n hn => ?_
  exact Table.mem_values_iff.1 (d.related_subset n hn)

end Tidy

theorem keeps_skip (d : Desk) : d.Keeps d.skip := .of_shown (fun _ _ _ h => h) fun _ _ h => h

end Desk

/-! ### Verdicts and records -/

/-- A text that can be judged is about no entity, or it is a record, and that is what is judged. -/
theorem verdict_cases {run : String} {text : List Char} {v : Verdict}
    (h : judgeText run text = .ok v) :
    (recordOf? text = none ∧ ∃ label, v = .ignored label) ∨
      ∃ r, recordOf? text = some r ∧ (v = .accepted r ∨ ∃ owner, v = .foreign r owner) := by
  obtain ⟨raw, hraw, hjudge⟩ := bind_eq_ok_iff.1 h
  obtain ⟨⟨label, found⟩, hroute, hfound⟩ := bind_eq_ok_iff.1 hjudge
  have hrecord : recordOf? text = found := by
    rw [recordOf?, hraw, Except.toOption, Option.bind_some, routed?, hroute]
    rfl
  cases found with
  | none => exact .inl ⟨hrecord, label, (Except.ok.inj hfound).symm⟩
  | some r =>
    obtain ⟨owner, -, rfl⟩ := map_eq_ok_iff.1 hfound
    refine .inr ⟨r, hrecord, ?_⟩
    by_cases howner : owner = run
    · exact .inl (if_pos howner)
    · exact .inr ⟨owner, if_neg howner⟩

namespace Session

/-! ### Tidy sessions -/

/-- A session on a tidy desk in which the names of what was set aside stand for cards. -/
structure Tidy (s : Session) : Prop where
  /-- The desk is tidy. -/
  desk : s.desk.Tidy
  /-- The names stand for cards. -/
  asides : ∀ name n, s.asides.get? name = some n → ∃ r, s.desk.record? n = some r

/-- The sessions that some steps lead to. -/
def Reached (run : String) (s : Session) : Prop := ∃ steps, s = (start run).perform steps

/-- The record that a step lays down as a new card: a text that comes in is a record, and belongs to
some run. -/
def routed? (s : Session) : Step → Option Record
  | .setAside _ text => recordOf? text
  | .accept text => recordOf? text
  | .ingest text => (judgeText s.desk.run text).toOption.bind fun _ => recordOf? text
  | _ => none

/-- The card that a step takes in. -/
def taken? (s : Session) : Step → Option Nat
  | .takeAside name => s.asides.get? name
  | .retake kind key => s.desk.held? kind key
  | .accept text => (recordOf? text).map fun _ => s.desk.cards.length
  | .ingest text =>
    ((judgeText s.desk.run text).toOption.bind Verdict.record?).map fun _ => s.desk.cards.length
  | _ => none

/-- What a step does. -/
inductive Does (s : Session) : Step → Session → Prop where
  /-- Nothing. -/
  | nothing {step : Step} (routed : s.routed? step = none) (taken : s.taken? step = none) :
    Does s step s
  /-- It sets a new card aside. -/
  | aside {name : String} {text : List Char} {r : Record} (record : recordOf? text = some r) :
    Does s (.setAside name text)
      ⟨s.desk.lay r, s.asides.set name s.desk.cards.length, s.latest⟩
  /-- It lays down a new card of another run. -/
  | foreign {step : Step} {r : Record} (routed : s.routed? step = some r)
    (taken : s.taken? step = none) : Does s step { s with desk := (s.desk.lay r).skip }
  /-- It lays down a new card and takes it in. -/
  | new {step : Step} {r : Record} (routed : s.routed? step = some r)
    (taken : s.taken? step = some s.desk.cards.length) :
    Does s step { s with desk := (s.desk.lay r).accept s.desk.cards.length }
  /-- It takes in a card that is there. -/
  | again {step : Step} {n : Nat} (routed : s.routed? step = none)
    (taken : s.taken? step = some n) : Does s step { s with desk := s.desk.accept n }
  /-- It writes down relations on a card that is held. -/
  | relate {key : String} {n : Nat} (held : s.desk.held? .attempt key = some n) :
    Does s (.relate key) { s with desk := s.desk.relate n }
  /-- It links the cards that are held. -/
  | link (latest : Option Dag) : Does s .link { s with desk := s.desk.link.2, latest := latest }

theorem withRecord_eq {α : Type} (s : Session) (text : List Char)
    (next : Nat → Session → α × Session) : (s.withRecord text next).2 =
      match recordOf? text with
      | none => s
      | some r => (next s.desk.cards.length { s with desk := s.desk.lay r }).2 := by
  unfold withRecord recordOf? RunHistory.routed?
  cases Record.decode text with
  | error e => rfl
  | ok raw =>
    rw [ok_bind]
    show _ = match (Record.route raw).toOption.bind Prod.snd with
      | none => s
      | some r => (next s.desk.cards.length { s with desk := s.desk.lay r }).2
    cases Record.route raw with
    | error e => rfl
    | ok found =>
      obtain ⟨label, r⟩ := found
      cases r <;> rfl

/-- **What a step does**, whatever it is. -/
theorem does_step (s : Session) (step : Step) : s.Does step (s.step step) := by
  cases step with
  | setAside name text =>
    rw [Session.step, setAside, withRecord_eq]
    cases hrecord : recordOf? text with
    | none => exact .nothing hrecord rfl
    | some r => exact .aside hrecord
  | takeAside name =>
    rw [Session.step, takeAside]
    cases hname : s.asides.get? name with
    | none => exact .nothing rfl hname
    | some n => exact .again rfl hname
  | accept text =>
    rw [Session.step, accept, withRecord_eq]
    cases hrecord : recordOf? text with
    | none => exact .nothing hrecord (by rw [taken?, hrecord]; rfl)
    | some r => exact .new hrecord (by rw [taken?, hrecord]; rfl)
  | ingest text =>
    rw [Session.step, ingest]
    cases hjudge : judgeText s.desk.run text with
    | error e =>
      refine .nothing ?_ ?_
      · rw [routed?, hjudge]
        rfl
      · rw [taken?, hjudge]
        rfl
    | ok v =>
      have hrouted : s.routed? (.ingest text) = recordOf? text := by
        rw [routed?, hjudge]
        rfl
      have htaken : s.taken? (.ingest text) = v.record?.map fun _ => s.desk.cards.length := by
        rw [taken?, hjudge]
        rfl
      rcases verdict_cases hjudge with ⟨hrecord, label, rfl⟩ | ⟨r, hrecord, rfl | ⟨owner, rfl⟩⟩
      · exact .nothing (hrouted.trans hrecord) htaken
      · exact .new (hrouted.trans hrecord) htaken
      · exact .foreign (hrouted.trans hrecord) htaken
  | relate key =>
    rw [Session.step, Session.relate]
    cases hheld : s.desk.held? .attempt key with
    | none => exact .nothing rfl rfl
    | some n => exact .relate hheld
  | retake kind key =>
    rw [Session.step, retake]
    cases hheld : s.desk.held? kind key with
    | none => exact .nothing rfl hheld
    | some n => exact .again rfl hheld
  | link => exact .link _

/-! ### Steps keep what is not held -/

theorem tidy_start (run : String) : (start run).Tidy := by
  refine ⟨Desk.tidy_start run, ?_⟩
  intro name n h
  cases h

namespace Tidy

variable {s : Session} (hs : s.Tidy)

include hs

/-- A card that is taken in shows something. -/
theorem shown_of_taken {step : Step} {n : Nat} (hrouted : s.routed? step = none)
    (htaken : s.taken? step = some n) : ∃ r, s.desk.record? n = some r := by
  cases step with
  | takeAside name => exact hs.asides name n htaken
  | retake kind key =>
    obtain ⟨r, hr, -⟩ := hs.desk.filed kind key n htaken
    exact ⟨r, hr⟩
  | accept text =>
    have hrecord : recordOf? text = none := hrouted
    rw [taken?, hrecord] at htaken
    cases htaken
  | ingest text =>
    rw [taken?] at htaken
    rw [routed?] at hrouted
    cases hjudge : judgeText s.desk.run text with
    | error e =>
      rw [hjudge] at htaken
      cases htaken
    | ok v =>
      rw [hjudge, Except.toOption, Option.bind_some] at htaken hrouted
      rw [record?_of_judgeText hjudge, hrouted] at htaken
      cases htaken
  | _ => cases htaken

/-- The new card shows its record. -/
theorem record?_laid (r : Record) :
    (s.desk.lay r).record? s.desk.cards.length = some r := by
  rw [hs.desk.record?_lay, if_pos rfl]

/-- **A step keeps what is not held**, and the session stays tidy. -/
theorem step (step : Step) : (s.step step).Tidy ∧ s.desk.Keeps (s.step step).desk := by
  have hdesk : (s.step step).desk.Tidy ∧ s.desk.Keeps (s.step step).desk ∧
      ∀ name n, (s.step step).asides.get? name = some n → s.asides.get? name = some n ∨
        ∃ r, (s.step step).desk.record? n = some r := by
    have hdoes := s.does_step step
    generalize s.step step = s' at hdoes ⊢
    cases hdoes with
    | nothing => exact ⟨hs.desk, .refl s.desk, fun name n hn => .inl hn⟩
    | @aside name text r hrecord =>
      refine ⟨hs.desk.lay r, hs.desk.keeps_lay r, fun name' n hn => ?_⟩
      rw [Table.get?_set] at hn
      split at hn
      · obtain rfl := Option.some.inj hn
        exact .inr ⟨r, hs.record?_laid r⟩
      · exact .inl hn
    | @foreign _ r =>
      exact ⟨(hs.desk.lay r).skip, (hs.desk.keeps_lay r).trans (Desk.keeps_skip _),
        fun name n hn => .inl hn⟩
    | @new _ r =>
      have hlaid := hs.desk.lay r
      have hnew := hs.record?_laid r
      exact ⟨hlaid.accept hnew, (hs.desk.keeps_lay r).trans (hlaid.keeps_accept hnew),
        fun name n hn => .inl hn⟩
    | again hrouted htaken =>
      obtain ⟨r, hr⟩ := hs.shown_of_taken hrouted htaken
      exact ⟨hs.desk.accept hr, hs.desk.keeps_accept hr, fun name n hn => .inl hn⟩
    | @relate key n hheld =>
      obtain ⟨r, hr, -⟩ := hs.desk.filed _ _ _ hheld
      have hkeeps : s.desk.Keeps ([n].foldl Desk.relate s.desk) :=
        hs.desk.keeps_foldl_relate fun m hm => ⟨key, List.mem_singleton.1 hm ▸ hheld⟩
      exact ⟨hs.desk.relate hr, hkeeps, fun name n hn => .inl hn⟩
    | link => exact ⟨hs.desk.link, hs.desk.keeps_link, fun name n hn => .inl hn⟩
  obtain ⟨htidy, hkeeps, hasides⟩ := hdesk
  refine ⟨⟨htidy, fun name n hn => ?_⟩, hkeeps⟩
  rcases hasides name n hn with hold | hnew
  · obtain ⟨r, hr⟩ := hs.asides name n hold
    obtain ⟨info, hinfo⟩ := hkeeps.shown n r hr
    exact ⟨_, hinfo⟩
  · exact hnew

/-- **Any number of steps keep what is not held.** -/
theorem perform (steps : List Step) :
    (s.perform steps).Tidy ∧ s.desk.Keeps (s.perform steps).desk := by
  induction steps generalizing s with
  | nil => exact ⟨hs, .refl s.desk⟩
  | cons step steps ih =>
    obtain ⟨htidy, hkeeps⟩ := hs.step step
    obtain ⟨htidy', hkeeps'⟩ := ih htidy
    exact ⟨htidy', hkeeps.trans hkeeps'⟩

end Tidy

theorem Reached.tidy {run : String} {s : Session} (h : s.Reached run) : s.Tidy := by
  obtain ⟨steps, rfl⟩ := h
  exact ((tidy_start run).perform steps).1

/-! ### What taking in a card changes -/

/-- One session comes from another one by taking in a card with a record. -/
structure TakesIn (s s' : Session) (n : Nat) (r : Record) : Prop where
  /-- The card that is held for the entity shows the information too. -/
  first : ∀ m r₀, s.desk.held? r.kind r.key = some m → s.desk.record? m = some r₀ →
    s'.desk.record? m = some (r₀.absorb r)
  /-- All other cards show what they did. -/
  others : ∀ m r₀, s.desk.held? r.kind r.key ≠ some m → s.desk.record? m = some r₀ →
    s'.desk.record? m = some r₀
  /-- The card is held for its entity, unless one is already; nothing else is held. -/
  held : ∀ kind key, s'.desk.held? kind key =
    if kind = r.kind ∧ key = r.key then some ((s.desk.held? kind key).getD n)
    else s.desk.held? kind key
  /-- All else is the same. -/
  rest : s'.asides = s.asides ∧ s'.latest = s.latest ∧ s'.desk.run = s.desk.run ∧
    s'.desk.skipped = s.desk.skipped
  /-- If it is the card that is held, nothing is changed. -/
  itself : s.desk.held? r.kind r.key = some n → s' = s

namespace Tidy

variable {s : Session} (hs : s.Tidy)

include hs

theorem takesIn_accept {n : Nat} {r : Record} (hr : s.desk.record? n = some r) :
    s.TakesIn { s with desk := s.desk.accept n } n r := by
  refine ⟨?_, ?_, Desk.held?_accept hr, ?_, ?_⟩
  · intro m r₀ hheld hr₀
    show (s.desk.accept n).record? m = _
    rw [hs.desk.record?_accept hr, if_pos hheld, hr₀, Option.map_some]
  · intro m r₀ hheld hr₀
    show (s.desk.accept n).record? m = _
    rw [hs.desk.record?_accept hr, if_neg hheld, hr₀]
  · obtain ⟨hrun, hskipped, -⟩ := s.desk.accept_rest n
    exact ⟨rfl, rfl, hrun, hskipped⟩
  · intro hheld
    rw [Desk.accept_self hr hheld]

/-- Nor does laying it down before that. -/
theorem takesIn_new (r : Record) : s.TakesIn
    { s with desk := (s.desk.lay r).accept s.desk.cards.length } s.desk.cards.length r := by
  have hlaid : Session.Tidy { s with desk := s.desk.lay r } := by
    refine ⟨hs.desk.lay r, fun name n hn => ?_⟩
    obtain ⟨r', hr'⟩ := hs.asides name n hn
    obtain ⟨info, hinfo⟩ := (hs.desk.keeps_lay r).shown n r' hr'
    exact ⟨_, hinfo⟩
  have hold : ∀ m r₀, s.desk.record? m = some r₀ → (s.desk.lay r).record? m = some r₀ := by
    intro m r₀ hr₀
    have hlt := Desk.lt_of_record? hr₀
    rw [hs.desk.record?_lay, if_neg (by omega), hr₀]
  have htakes := hlaid.takesIn_accept (hs.record?_laid r)
  refine ⟨?_, ?_, htakes.held, htakes.rest, ?_⟩
  · intro m r₀ hheld hr₀
    exact htakes.first m r₀ hheld (hold m r₀ hr₀)
  · intro m r₀ hheld hr₀
    exact htakes.others m r₀ hheld (hold m r₀ hr₀)
  · -- a new card is not held
    intro hheld
    obtain ⟨r', hr', -⟩ := hs.desk.filed _ _ _ hheld
    exact absurd (Desk.lt_of_record? hr') (lt_irrefl _)

theorem length_step (step : Step) : (s.step step).desk.cards.length =
    s.desk.cards.length + if (s.routed? step).isSome then 1 else 0 := by
  have hdoes := s.does_step step
  generalize s.step step = s' at hdoes ⊢
  cases hdoes with
  | nothing hrouted => rw [hrouted]; rfl
  | @aside name text r hrecord =>
    have hrouted : s.routed? (.setAside name text) = some r := hrecord
    rw [hrouted]
    exact s.desk.length_cards_lay r
  | @foreign _ r hrouted =>
    rw [hrouted]
    exact s.desk.length_cards_lay r
  | @new _ r hrouted =>
    rw [hrouted]
    exact ((s.desk.lay r).accept_rest _).2.2.trans (s.desk.length_cards_lay r)
  | @again _ n hrouted =>
    rw [hrouted]
    exact (s.desk.accept_rest n).2.2
  | @relate key n => exact (s.desk.sameFiles_relate n).length_eq
  | link =>
    rw [show s.routed? .link = none from rfl, hs.desk.link_eq]
    exact (s.desk.sameFiles_foldl_relate _).length_eq

/-- The card that a step lays down shows its record, or it is held. -/
theorem loose_routed {step : Step} {r : Record} (h : s.routed? step = some r) :
    (s.step step).desk.held? r.kind r.key = some s.desk.cards.length ∨
      (s.step step).desk.record? s.desk.cards.length = some r := by
  have hnew := hs.record?_laid r
  have hdoes := s.does_step step
  generalize s.step step = s' at hdoes ⊢
  cases hdoes with
  | nothing hrouted => cases h.symm.trans hrouted
  | aside hrecord =>
    obtain rfl := Option.some.inj (h.symm.trans hrecord)
    exact .inr hnew
  | foreign hrouted =>
    obtain rfl := Option.some.inj (h.symm.trans hrouted)
    exact .inr hnew
  | new hrouted =>
    obtain rfl := Option.some.inj (h.symm.trans hrouted)
    exact ((hs.desk.lay r).keeps_accept hnew).loose _ r hnew
  | again hrouted => cases h.symm.trans hrouted
  | relate => cases h
  | link => cases h

/-- Whatever a step takes in is one card. -/
theorem exists_takesIn {step : Step} {n : Nat} (h : s.taken? step = some n) : ∃ r,
    (s.desk.record? n = some r ∨ n = s.desk.cards.length ∧ s.routed? step = some r) ∧
      s.TakesIn (s.step step) n r := by
  have hdoes := s.does_step step
  generalize s.step step = s' at hdoes ⊢
  cases hdoes with
  | nothing _ htaken => cases h.symm.trans htaken
  | aside => cases h
  | foreign _ htaken => cases h.symm.trans htaken
  | @new _ r hrouted htaken =>
    obtain rfl := Option.some.inj (h.symm.trans htaken)
    exact ⟨r, .inr ⟨rfl, hrouted⟩, hs.takesIn_new r⟩
  | again hrouted htaken =>
    obtain rfl := Option.some.inj (h.symm.trans htaken)
    obtain ⟨r, hr⟩ := hs.shown_of_taken hrouted htaken
    exact ⟨r, .inl hr, hs.takesIn_accept hr⟩
  | relate => cases h
  | link => cases h

end Tidy

/-- **Records that are not held are never written into.**  Whatever steps a session has taken, a
step that reads a record lays down one new card, and after any further steps this card is held for
its entity, or it still shows what was read.  A step that takes in a card adds its information to
what the card shows that is held for the entity, and changes nothing else; it changes nothing at all
if the card is the one that is held. -/
theorem untouched {run : String} {s : Session} (h : s.Reached run) (step : Step) :
    (∀ r, s.routed? step = some r →
      (s.step step).desk.cards.length = s.desk.cards.length + 1 ∧
      (∀ name text, step = .setAside name text →
        (s.step step).asides.get? name = some s.desk.cards.length) ∧
      ∀ after : List Step,
        ((s.step step).perform after).desk.held? r.kind r.key = some s.desk.cards.length ∨
          ((s.step step).perform after).desk.record? s.desk.cards.length = some r) ∧
    (s.routed? step = none → (s.step step).desk.cards.length = s.desk.cards.length) ∧
    ∀ n, s.taken? step = some n → ∃ r,
      (s.desk.record? n = some r ∨ n = s.desk.cards.length ∧ s.routed? step = some r) ∧
        s.TakesIn (s.step step) n r := by
  have hs := h.tidy
  refine ⟨fun r hr => ⟨?_, ?_, fun after => ?_⟩, fun hnone => ?_, fun n hn => ?_⟩
  · rw [hs.length_step, hr]
    rfl
  · rintro name text rfl
    have hrecord : recordOf? text = some r := hr
    rw [Session.step, setAside, withRecord_eq, hrecord]
    exact (Table.get?_set _ _ _ _).trans (if_pos rfl)
  · obtain ⟨-, hkeeps⟩ := (hs.step step).1.perform after
    rcases hs.loose_routed hr with hheld | hsame
    · exact .inl (hkeeps.held _ _ _ hheld)
    · exact hkeeps.loose _ r hsame
  · rw [hs.length_step, hnone]
    rfl
  · exact hs.exists_takesIn hn

/-- A record of an attempt with some more fields. -/
def attemptText (fields : String) : List Char :=
  ("\x7b\"entity\":\"dag_1_vertex_2_task_3_attempt_4\",\"entitytype\":\"TASK_ATTEMPT\"," ++ fields
    ++ "\x7d").toList

/-- One without information that names the node of the attempt. -/
def onNode : List Char :=
  attemptText "\"relatedEntities\":[\x7b\"entitytype\":\"nodeId\",\"entity\":\"n\"\x7d]"

/-- One with information on how the attempt ended. -/
def ended (status : String) : List Char :=
  attemptText ("\"otherInfo\":\x7b\"status\":\"" ++ status ++ "\"\x7d")

/-- What is set aside, then taken over by a record without information, then written over there
together with the name of a node. -/
def adoption : List Step :=
  [.takeAside "a", .accept (ended "KILLED"), .relate "dag_1_vertex_2_task_3_attempt_4"]

/-- A session in which a record without information came in and another one was set aside. -/
def beforeAdoption : Session :=
  ((start "dag_1").perform [.accept onNode]).step (.setAside "a" (ended "RUNNING"))

/-- How an attempt ended and where it ran, as the card with a number shows. -/
def shownAt (s : Session) (n : Nat) : Option (Option String × Option String) :=
  (s.desk.record? n).map fun r => ((field (Facts.infoOf r) "status").text?,
    (field (Facts.infoOf r) Relation.node).text?)

theorem adoption_shown : (beforeAdoption.perform adoption).asides.get? "a" = some 1 ∧
    (beforeAdoption.perform adoption).desk.held? .attempt "dag_1_vertex_2_task_3_attempt_4" =
      some 0 ∧
    (beforeAdoption.perform adoption).shownAt 1 = some (some "RUNNING", none) ∧
    (beforeAdoption.perform adoption).shownAt 0 = some (some "KILLED", some "n") := by
  decide +kernel

/-- A record whose information was taken over shows it unchanged, while the record that took it over
shows what was written into it later. -/
theorem untouched_adoption : ∃ r, recordOf? (ended "RUNNING") = some r ∧
    (beforeAdoption.perform adoption).aside? "a" = some r ∧
    (beforeAdoption.perform adoption).shownAt 1 = some (some "RUNNING", none) ∧
    (beforeAdoption.perform adoption).shownAt 0 = some (some "KILLED", some "n") := by
  have hentity : (recordOf? (ended "RUNNING")).map (fun r => (r.kind, r.key)) =
      some (.attempt, "dag_1_vertex_2_task_3_attempt_4") := by decide +kernel
  obtain ⟨r, hr, hentity⟩ := Option.map_eq_some_iff.1 hentity
  obtain ⟨hkind, hkey⟩ := Prod.mk.inj hentity
  have hreached : ((start "dag_1").perform [.accept onNode]).Reached "dag_1" := ⟨_, rfl⟩
  have hlength : ((start "dag_1").perform [.accept onNode]).desk.cards.length = 1 := by
    decide +kernel
  obtain ⟨hname, hheld, hloose, hfirst⟩ := adoption_shown
  refine ⟨r, hr, ?_, hloose, hfirst⟩
  obtain ⟨hrouted, -⟩ := untouched hreached (.setAside "a" (ended "RUNNING"))
  obtain ⟨-, -, hafter⟩ := hrouted r hr
  rw [hlength, hkind, hkey] at hafter
  rw [aside?, hname, Option.bind_some]
  rcases hafter adoption with hother | hsame
  · cases hother.symm.trans hheld
  · exact hsame

end Session

end RunHistory
