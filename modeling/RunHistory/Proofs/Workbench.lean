import RunHistory.Proofs.Table.Parts
import RunHistory.Workbench

/-!
# Entities put into each other by hand

What is seen of an entity on a workbench is a tree.  Putting an entity into another one is seen as
putting its tree into that of the other, and the entity is seen from then on as it is held there.
Entities that do not hold any of the two, at any depth, are seen as before.

All this is seen in the slots of the workbench, which say what holds what by numbers.  An entity may
be edited after it was put into another, so that it is held under an id that it had before; put into
the same holder once more, it is held under both.

## Main definitions

* `Workbench.Sound`: what is held is there, and fits.
* `Workbench.Built`: what comes of making, putting and editing.
* `Workbench.Puts`: what putting an entity into another does to the slots.
* `Item.join?`: an entity in another, and each of them from then on.
* `Workbench.Joins`: what is seen of two entities is joined.
* `Workbench.Reaches`: an entity holds another one, at some depth.

## Main results

* `Workbench.Built.sound`: workbenches that are built are sound.
* `Workbench.view?_put`: **putting one entity into another is seen as putting its tree into that of
  the other.**
* `Workbench.view?_put_of_apart`: all others are seen as before.
-/

namespace RunHistory

/-! ### Kinds -/

/-- The kind of an entity. -/
def Item.kind : Item → Kind
  | .dag _ => .dag
  | .vertex _ => .vertex
  | .task _ => .task
  | .attempt _ => .attempt

theorem Item.kind_edit (item : Item) (change : Edit) : (item.edit change).kind = item.kind := by
  cases change <;> cases item <;> rfl

/-- An entity put into another one, if it fits: the other one, and the entity as it is there. -/
def Item.join? : Item → Item → Option (Item × Item)
  | .dag d, .vertex v => some (.dag (d.addVertex v), .vertex (d.adopt v))
  | .vertex v, .task t => some (.vertex (v.addTask t), .task { t with holder := some v.id })
  | .task t, .attempt a => some (.task (t.addAttempt a), .attempt { a with holder := some t.id })
  | _, _ => none

namespace Workbench

theorem kind_taken (holder item : Item) : (taken holder item).kind = item.kind := by
  cases holder <;> cases item <;> rfl

theorem id_taken (holder item : Item) : (taken holder item).id = item.id := by
  cases holder <;> cases item <;> rfl

theorem fits_iff {holder item : Item} : fits holder item = true ↔
    holder.kind = .dag ∧ item.kind = .vertex ∨ holder.kind = .vertex ∧ item.kind = .task ∨
      holder.kind = .task ∧ item.kind = .attempt := by
  cases holder <;> cases item <;> simp [fits, Item.kind]

/-- Whether an entity fits into another one depends on their kinds. -/
theorem fits_congr {holder holder' item item' : Item} (hholder : holder.kind = holder'.kind)
    (hitem : item.kind = item'.kind) : fits holder item = fits holder' item' := by
  rw [Bool.eq_iff_iff, fits_iff, fits_iff, hholder, hitem]

/-! ### Slots -/

variable {w w' : Workbench}

theorem slot?_setSlot (w : Workbench) (number : Nat) (s : Slot) (n : Nat) :
    (w.setSlot number s).slot? n =
      if number = n then (w.slot? n).map fun _ => s else w.slot? n := by
  unfold slot? setSlot
  rw [List.getElem?_set]
  by_cases hn : number = n
  · subst hn
    by_cases hlt : number < w.slots.length
    · simp [hlt]
    · simp [hlt]
  · rw [if_neg hn, if_neg hn]

theorem slot?_make_of_some {name : String} {item : Item} {n : Nat} {s : Slot}
    (h : w.slot? n = some s) : (w.make name item).slot? n = some s := by
  obtain ⟨hlt, -⟩ := List.getElem?_eq_some_iff.1 h
  exact (List.getElem?_append_left hlt).trans h

/-- What putting an entity into another one does to the slots. -/
structure Puts (w : Workbench) (holder child : Nat) (h c : Slot) (w' : Workbench) : Prop where
  /-- The slot of the holder before. -/
  holder_slot : w.slot? holder = some h
  /-- The slot of the other entity before. -/
  child_slot : w.slot? child = some c
  /-- It fits. -/
  fits : fits h.item c.item = true
  /-- The holder has it under its id. -/
  holder_after : w'.slot? holder = some { h with children := h.children.set c.item.id child }
  /-- It is taken by the holder. -/
  child_after : w'.slot? child = some { c with item := taken h.item c.item, holder := some holder }
  /-- The other slots are as before. -/
  other : ∀ n, n ≠ holder → n ≠ child → w'.slot? n = w.slot? n

/-- An entity of one kind does not hold one of the same kind. -/
theorem ne_of_fits {holder child : Nat} {h c : Slot} (hholder : w.slot? holder = some h)
    (hchild : w.slot? child = some c) (hfits : fits h.item c.item = true) : holder ≠ child := by
  rintro rfl
  obtain rfl : h = c := Option.some.inj (hholder.symm.trans hchild)
  rcases fits_iff.1 hfits with ⟨hkind, hkind'⟩ | ⟨hkind, hkind'⟩ | ⟨hkind, hkind'⟩ <;>
    cases hkind.symm.trans hkind'

theorem exists_puts {holder child : Nat} (hput : w.put holder child = some w') :
    ∃ h c, w.Puts holder child h c w' := by
  unfold put at hput
  split at hput
  · next h c hholder hchild =>
    split at hput
    · next hfits =>
      obtain rfl := Option.some.inj hput
      have hne := ne_of_fits hholder hchild hfits
      refine ⟨h, c, hholder, hchild, hfits, ?_, ?_, ?_⟩
      · rw [slot?_setSlot, if_pos rfl, slot?_setSlot, if_neg hne.symm, hholder]
        rfl
      · rw [slot?_setSlot, if_neg hne, slot?_setSlot, if_pos rfl, hchild]
        rfl
      · intro n hn hn'
        rw [slot?_setSlot, if_neg hn.symm, slot?_setSlot, if_neg hn'.symm]
    · cases hput
  · cases hput

/-! ### Sound workbenches -/

/-- Whatever is held is there, and fits into what holds it. -/
def Sound (w : Workbench) : Prop :=
  ∀ m h, w.slot? m = some h → ∀ n ∈ h.children.values,
    ∃ c, w.slot? n = some c ∧ fits h.item c.item = true

/-- Workbenches on which everything stays of its kind. -/
def SameKinds (w w' : Workbench) : Prop :=
  ∀ n, (w'.slot? n).map (fun s => s.item.kind) = (w.slot? n).map fun s => s.item.kind

theorem SameKinds.exists_fits (h : SameKinds w w') {item item' : Item}
    (hitem : item'.kind = item.kind) {n : Nat}
    (hfits : ∃ c, w.slot? n = some c ∧ fits item c.item = true) :
    ∃ c, w'.slot? n = some c ∧ fits item' c.item = true := by
  obtain ⟨c, hc, hfits⟩ := hfits
  have hn := h n
  rw [hc] at hn
  obtain ⟨c', hc', hkind⟩ := Option.map_eq_some_iff.1 hn
  exact ⟨c', hc', (fits_congr hitem hkind).trans hfits⟩

theorem mem_values_set {t : Table Nat} {key : String} {value n : Nat}
    (h : n ∈ (t.set key value).values) : n = value ∨ n ∈ t.values := by
  obtain ⟨k, hk⟩ := Table.mem_values_iff.1 h
  rw [Table.get?_set] at hk
  split at hk
  · exact .inl (Option.some.inj hk).symm
  · exact .inr (Table.mem_values_iff.2 ⟨k, hk⟩)

theorem sound_empty : empty.Sound := by
  intro m h hm
  cases hm

theorem Sound.make (hs : w.Sound) (name : String) (item : Item) : (w.make name item).Sound := by
  intro m h hm n hn
  rcases Nat.lt_or_ge m w.slots.length with hlt | hge
  · have hm' : w.slot? m = some h := (List.getElem?_append_left hlt).symm.trans hm
    obtain ⟨c, hc, hfits⟩ := hs m h hm' n hn
    exact ⟨c, slot?_make_of_some hc, hfits⟩
  · -- what was just made holds nothing
    have hnew : [(⟨item, .empty, none⟩ : Slot)][m - w.slots.length]? = some h :=
      (List.getElem?_append_right hge).symm.trans hm
    obtain rfl := List.mem_singleton.1 (List.mem_of_getElem? hnew)
    cases hn

namespace Puts

variable {holder child : Nat} {h c : Slot} (hp : w.Puts holder child h c w')

include hp

/-- Whatever an entity keeps when it is taken stays as it is. -/
theorem map_slot? {α : Type} (f : Item → α)
    (hf : ∀ holder item, f (taken holder item) = f item) (n : Nat) :
    (w'.slot? n).map (fun s => f s.item) = (w.slot? n).map fun s => f s.item := by
  by_cases hn : n = holder
  · rw [hn, hp.holder_after, hp.holder_slot]
    rfl
  by_cases hn' : n = child
  · rw [hn', hp.child_after, hp.child_slot]
    exact congrArg some (hf h.item c.item)
  · rw [hp.other n hn hn']

theorem sameKinds : SameKinds w w' := hp.map_slot? Item.kind kind_taken

theorem sound (hs : w.Sound) : w'.Sound := by
  intro m s hm n hn
  by_cases hholder : m = holder
  · subst hholder
    obtain rfl := Option.some.inj (hp.holder_after.symm.trans hm)
    rcases mem_values_set hn with rfl | hn
    · exact ⟨_, hp.child_after, (fits_congr rfl (kind_taken h.item c.item)).trans hp.fits⟩
    · exact hp.sameKinds.exists_fits rfl (hs m h hp.holder_slot n hn)
  by_cases hchild : m = child
  · subst hchild
    obtain rfl := Option.some.inj (hp.child_after.symm.trans hm)
    exact hp.sameKinds.exists_fits (kind_taken h.item c.item) (hs m c hp.child_slot n hn)
  · rw [hp.other m hholder hchild] at hm
    exact hp.sameKinds.exists_fits rfl (hs m s hm n hn)

end Puts

theorem Sound.edit (hs : w.Sound) (number : Nat) (change : Edit) :
    (w.edit number change).Sound := by
  rw [Workbench.edit]
  split
  · next s hslot =>
    have hkinds : SameKinds w (w.setSlot number { s with item := s.item.edit change }) := by
      intro n
      rw [slot?_setSlot]
      split
      · next hn =>
        rw [← hn, hslot]
        exact congrArg some (s.item.kind_edit change)
      · rfl
    intro m h hm n hn
    rw [slot?_setSlot] at hm
    split at hm
    · next hm' =>
      subst hm'
      rw [hslot] at hm
      obtain rfl := Option.some.inj hm
      exact hkinds.exists_fits (s.item.kind_edit change) (hs number s hslot n hn)
    · exact hkinds.exists_fits rfl (hs m h hm n hn)
  · exact hs

/-- What comes of making, putting and editing. -/
inductive Built : Workbench → Prop where
  /-- Nothing. -/
  | empty : Built .empty
  /-- One more entity. -/
  | make {w : Workbench} (h : Built w) (name : String) (item : Item) : Built (w.make name item)
  /-- One entity put into another. -/
  | put {w w' : Workbench} {holder child : Nat} (h : Built w)
    (hput : w.put holder child = some w') : Built w'
  /-- An edit of one entity. -/
  | edit {w : Workbench} (h : Built w) (number : Nat) (change : Edit) :
    Built (w.edit number change)

/-- **Workbenches that are built are sound.** -/
theorem Built.sound (h : w.Built) : w.Sound := by
  induction h with
  | empty => exact sound_empty
  | make _ name item ih => exact ih.make name item
  | put _ hput ih =>
    obtain ⟨h, c, hp⟩ := exists_puts hput
    exact hp.sound ih
  | edit _ number change ih => exact ih.edit number change

/-! ### What is seen of an entity -/

/-- The attempt with a number. -/
def attemptAt? (w : Workbench) (n : Nat) : Option Attempt := (w.slot? n).bind w.attempt?

/-- The task with a number. -/
def taskAt? (w : Workbench) (n : Nat) : Option Task := (w.slot? n).bind w.task?

/-- The vertex with a number. -/
def vertexAt? (w : Workbench) (n : Nat) : Option Vertex := (w.slot? n).bind w.vertex?

/-- Workbenches on which everything keeps its id. -/
def SameIds (w w' : Workbench) : Prop :=
  ∀ n, (w'.slot? n).map (fun s => s.item.id) = (w.slot? n).map fun s => s.item.id

theorem seen_congr {α : Type} {see see' : Slot → Option α} {s : Slot}
    (h : ∀ n ∈ s.children.values, (w'.slot? n).bind see' = (w.slot? n).bind see) :
    w'.seen see' s = w.seen see s := Table.filterMapValues_congr h

namespace SameIds

variable (hids : SameIds w w') {s : Slot}

include hids

theorem holderId?_eq (s : Slot) : w'.holderId? s = w.holderId? s := by
  unfold holderId?
  cases s.holder with
  | none => rfl
  | some n => exact hids n

theorem attempt?_eq (s : Slot) : w'.attempt? s = w.attempt? s := by
  unfold attempt?
  rw [hids.holderId?_eq]

theorem task?_eq (h : ∀ n ∈ s.children.values, w'.attemptAt? n = w.attemptAt? n) :
    w'.task? s = w.task? s := by
  unfold task?
  rw [hids.holderId?_eq, seen_congr h]

theorem vertex?_eq (h : ∀ n ∈ s.children.values, w'.taskAt? n = w.taskAt? n) :
    w'.vertex? s = w.vertex? s := by
  unfold vertex?
  rw [hids.holderId?_eq, seen_congr h]

end SameIds

theorem dag?_congr {s : Slot} (h : ∀ n ∈ s.children.values, w'.vertexAt? n = w.vertexAt? n) :
    w'.dag? s = w.dag? s := by
  unfold dag?
  rw [seen_congr h]

/-! ### Entities apart -/

/-- An entity is another one, or holds it at some depth. -/
inductive Reaches (w : Workbench) : Nat → Nat → Prop where
  /-- It is the other one. -/
  | refl (n : Nat) : Reaches w n n
  /-- It holds one that reaches the other. -/
  | step {n m k : Nat} {s : Slot} (hslot : w.slot? n = some s) (hm : m ∈ s.children.values)
    (h : Reaches w m k) : Reaches w n k

namespace SameIds

variable (hids : SameIds w w') {n : Nat}

include hids

theorem attemptAt?_eq (h : w'.slot? n = w.slot? n) : w'.attemptAt? n = w.attemptAt? n := by
  rw [attemptAt?, attemptAt?, h]
  exact Option.bind_congr fun s _ => hids.attempt?_eq s

theorem taskAt?_eq (h : ∀ m, w.Reaches n m → w'.slot? m = w.slot? m) :
    w'.taskAt? n = w.taskAt? n := by
  rw [taskAt?, taskAt?, h n (.refl n)]
  refine Option.bind_congr fun s hslot => hids.task?_eq fun m hm => ?_
  exact hids.attemptAt?_eq (h m (.step hslot hm (.refl m)))

theorem vertexAt?_eq (h : ∀ m, w.Reaches n m → w'.slot? m = w.slot? m) :
    w'.vertexAt? n = w.vertexAt? n := by
  rw [vertexAt?, vertexAt?, h n (.refl n)]
  refine Option.bind_congr fun s hslot => hids.vertex?_eq fun m hm => ?_
  exact hids.taskAt?_eq fun k hk => h k (.step hslot hm hk)

/-- **What is seen of an entity is in the slots that it reaches**, and in the ids. -/
theorem view?_eq (h : ∀ m, w.Reaches n m → w'.slot? m = w.slot? m) : w'.view? n = w.view? n := by
  rw [view?, view?, h n (.refl n)]
  refine Option.bind_congr fun s hslot => ?_
  have hbelow : ∀ m ∈ s.children.values, ∀ k, w.Reaches m k → w'.slot? k = w.slot? k :=
    fun m hm k hk => h k (.step hslot hm hk)
  have hattempt := hids.attempt?_eq s
  have htask : w'.task? s = w.task? s :=
    hids.task?_eq fun m hm => hids.attemptAt?_eq (hbelow m hm m (.refl m))
  have hvertex : w'.vertex? s = w.vertex? s :=
    hids.vertex?_eq fun m hm => hids.taskAt?_eq (hbelow m hm)
  have hdag : w'.dag? s = w.dag? s := dag?_congr fun m hm => hids.vertexAt?_eq (hbelow m hm)
  rw [hattempt, htask, hvertex, hdag]

end SameIds

/-! ### Putting -/

theorem attempt?_eq_none_iff {s : Slot} : w.attempt? s = none ↔ s.item.kind ≠ .attempt := by
  unfold attempt?
  cases s.item <;> simp [Item.kind]

theorem task?_eq_none_iff {s : Slot} : w.task? s = none ↔ s.item.kind ≠ .task := by
  unfold task?
  cases s.item <;> simp [Item.kind]

theorem vertex?_eq_none_iff {s : Slot} : w.vertex? s = none ↔ s.item.kind ≠ .vertex := by
  unfold vertex?
  cases s.item <;> simp [Item.kind]

namespace Puts

variable {holder child n : Nat} {h c : Slot} (hp : w.Puts holder child h c w')

include hp

theorem sameIds : SameIds w w' := hp.map_slot? Item.id id_taken

/-- What sees entities of one kind only sees as before when neither the holder nor, at its own
number, what was put into it is of this kind, and all others are seen as before. -/
theorem bind_eq {α : Type} {see see' : Slot → Option α} {kind : Kind}
    (hsee : ∀ s, s.item.kind ≠ kind → see s = none)
    (hsee' : ∀ s, s.item.kind ≠ kind → see' s = none) (hholder : h.item.kind ≠ kind)
    (hchild : n = child → c.item.kind ≠ kind)
    (hother : n ≠ holder → n ≠ child → (w'.slot? n).bind see' = (w.slot? n).bind see) :
    (w'.slot? n).bind see' = (w.slot? n).bind see := by
  by_cases hn : n = holder
  · rw [hn, hp.holder_after, hp.holder_slot, Option.bind_some, Option.bind_some, hsee _ hholder]
    exact hsee' _ hholder
  by_cases hn' : n = child
  · have htaken : (taken h.item c.item).kind ≠ kind :=
      kind_taken h.item c.item ▸ hchild hn'
    rw [hn', hp.child_after, hp.child_slot, Option.bind_some, Option.bind_some,
      hsee _ (hchild hn')]
    exact hsee' _ htaken
  · exact hother hn hn'

/-- Attempts are seen as before, all but one that is put into a task. -/
theorem attemptAt?_eq (hn : n = child → c.item.kind ≠ .attempt) :
    w'.attemptAt? n = w.attemptAt? n := by
  have hholder : h.item.kind ≠ .attempt := by
    rcases fits_iff.1 hp.fits with ⟨hkind, -⟩ | ⟨hkind, -⟩ | ⟨hkind, -⟩ <;> simp [hkind]
  exact hp.bind_eq (fun _ => attempt?_eq_none_iff.2) (fun _ => attempt?_eq_none_iff.2) hholder hn
    fun hn hn' => hp.sameIds.attemptAt?_eq (hp.other n hn hn')

/-- Tasks are seen as before when no attempt is put into one, all but one that is put into a
vertex. -/
theorem taskAt?_eq (hattempt : c.item.kind ≠ .attempt) (hn : n = child → c.item.kind ≠ .task) :
    w'.taskAt? n = w.taskAt? n := by
  have hholder : h.item.kind ≠ .task := by
    rcases fits_iff.1 hp.fits with ⟨hkind, -⟩ | ⟨hkind, -⟩ | ⟨-, hkind⟩
    · simp [hkind]
    · simp [hkind]
    · exact absurd hkind hattempt
  refine hp.bind_eq (fun _ => task?_eq_none_iff.2) (fun _ => task?_eq_none_iff.2) hholder hn ?_
  intro hn hn'
  rw [hp.other n hn hn']
  exact Option.bind_congr fun s _ =>
    hp.sameIds.task?_eq fun m _ => hp.attemptAt?_eq fun _ => hattempt

/-- Vertices are seen as before when one is put into a run, all but this one. -/
theorem vertexAt?_eq (hvertex : c.item.kind = .vertex) (hn : n ≠ child) :
    w'.vertexAt? n = w.vertexAt? n := by
  have hholder : h.item.kind ≠ .vertex := by
    rcases fits_iff.1 hp.fits with ⟨hkind, -⟩ | ⟨-, hkind⟩ | ⟨-, hkind⟩
    · simp [hkind]
    · cases hvertex.symm.trans hkind
    · cases hvertex.symm.trans hkind
  have hattempt : c.item.kind ≠ .attempt := by simp [hvertex]
  have htask : c.item.kind ≠ .task := by simp [hvertex]
  refine hp.bind_eq (fun _ => vertex?_eq_none_iff.2) (fun _ => vertex?_eq_none_iff.2) hholder
    (fun hn' => absurd hn' hn) ?_
  intro hn hn'
  rw [hp.other n hn hn']
  exact Option.bind_congr fun s _ =>
    hp.sameIds.vertex?_eq fun m _ => hp.taskAt?_eq hattempt fun _ => htask

/-- An entity shows the one that it was put into. -/
theorem holderId?_after :
    w'.holderId? { c with item := taken h.item c.item, holder := some holder } =
      some h.item.id := by
  rw [holderId?, Option.bind_some, hp.holder_after]
  rfl

/-- What the holder holds is seen as before, with the new one in its place. -/
theorem seen_holder {α : Type} {see see' : Slot → Option α} {a : α}
    (honce : ∀ key, h.children.get? key = some child → key = c.item.id)
    (hother : ∀ n, n ≠ child → (w'.slot? n).bind see' = (w.slot? n).bind see)
    (hseen : ∀ n ∈ h.children.values, (w.slot? n).bind see ≠ none)
    (hchild : (w'.slot? child).bind see' = some a) :
    w'.seen see' { h with children := h.children.set c.item.id child } =
      (w.seen see h).set c.item.id a := by
  refine Table.filterMapValues_set (fun k n hn hk => hother n ?_) hseen hchild
  rintro rfl
  exact hk (honce k hn)

end Puts

section

variable {m n : Nat} {children : Table Nat} {up : Option Nat}

/-- What an entity holds is seen by whatever sees all that fits into it. -/
theorem Sound.bind_ne_none (hs : w.Sound) {s : Slot} (hslot : w.slot? m = some s)
    (hn : n ∈ s.children.values) {α : Type} {see : Slot → Option α}
    (hsee : ∀ c : Slot, fits s.item c.item = true → see c ≠ none) :
    (w.slot? n).bind see ≠ none := by
  obtain ⟨c, hc, hfits⟩ := hs m s hslot n hn
  rw [hc]
  exact hsee c hfits

/-! ### Entities put into each other -/

theorem view?_of_attempt {a : Attempt} (hslot : w.slot? n = some ⟨.attempt a, children, up⟩) :
    w.view? n = some (.attempt { a with holder := w.holderId? ⟨.attempt a, children, up⟩ }) := by
  rw [view?, hslot]
  rfl

theorem view?_of_task {t : Task} (hslot : w.slot? n = some ⟨.task t, children, up⟩) :
    w.view? n = some (.task { t with
      attempts := w.seen w.attempt? ⟨.task t, children, up⟩
      holder := w.holderId? ⟨.task t, children, up⟩ }) := by
  rw [view?, hslot]
  rfl

theorem view?_of_vertex {v : Vertex} (hslot : w.slot? n = some ⟨.vertex v, children, up⟩) :
    w.view? n = some (.vertex { v with
      tasks := w.seen w.task? ⟨.vertex v, children, up⟩
      holder := w.holderId? ⟨.vertex v, children, up⟩ }) := by
  rw [view?, hslot]
  rfl

theorem view?_of_dag {d : Dag} (hslot : w.slot? n = some ⟨.dag d, children, up⟩) :
    w.view? n = some (.dag { d with
      vertices := w.seen w.vertex? ⟨.dag d, children, up⟩ }) := by
  rw [view?, hslot]
  rfl

end

/-- What is seen of one entity goes into what is seen of another one. -/
def Joins (w : Workbench) (holder child : Nat) (w' : Workbench) : Prop :=
  ∃ x y x' y', w.view? holder = some x ∧ w.view? child = some y ∧ x.join? y = some (x', y') ∧
    w'.view? holder = some x' ∧ w'.view? child = some y'

namespace Puts

variable {holder child : Nat} {hs cs : Table Nat} {hup cup : Option Nat}

theorem view?_task {t : Task} {a : Attempt}
    (hp : w.Puts holder child ⟨.task t, hs, hup⟩ ⟨.attempt a, cs, cup⟩ w') (hsound : w.Sound)
    (honce : ∀ key, hs.get? key = some child → key = a.id) :
    w.Joins holder child w' := by
  have hid : w'.holderId? ⟨.attempt a, cs, some holder⟩ = some t.id := hp.holderId?_after
  have hafter : w'.slot? child = some ⟨.attempt a, cs, some holder⟩ := hp.child_after
  have hchild : w'.attemptAt? child = some { a with holder := some t.id } := by
    rw [attemptAt?, hafter, Option.bind_some, attempt?, hid]
  have hseen := hp.seen_holder honce (fun n hn => hp.attemptAt?_eq fun hn' => absurd hn' hn)
    (fun n hn => hsound.bind_ne_none hp.holder_slot hn fun c hfits => by
      simpa [attempt?_eq_none_iff, fits_iff, Item.kind] using hfits) hchild
  refine ⟨_, _, _, _, view?_of_task hp.holder_slot, view?_of_attempt hp.child_slot, rfl, ?_, ?_⟩
  · rw [view?_of_task hp.holder_after, hseen, hp.sameIds.holderId?_eq]
    rfl
  · rw [view?_of_attempt hafter, hid]

theorem view?_vertex {v : Vertex} {t : Task}
    (hp : w.Puts holder child ⟨.vertex v, hs, hup⟩ ⟨.task t, cs, cup⟩ w') (hsound : w.Sound)
    (honce : ∀ key, hs.get? key = some child → key = t.id) :
    w.Joins holder child w' := by
  have hid : w'.holderId? ⟨.task t, cs, some holder⟩ = some v.id := hp.holderId?_after
  have hafter : w'.slot? child = some ⟨.task t, cs, some holder⟩ := hp.child_after
  have hattempts : w'.seen w'.attempt? ⟨.task t, cs, some holder⟩ =
      w.seen w.attempt? ⟨.task t, cs, cup⟩ :=
    seen_congr fun n _ => hp.attemptAt?_eq fun _ => by simp [Item.kind]
  have hchild : w'.taskAt? child = some { t with
      attempts := w.seen w.attempt? ⟨.task t, cs, cup⟩, holder := some v.id } := by
    rw [taskAt?, hafter, Option.bind_some, task?, hattempts, hid]
  have hother : ∀ n, n ≠ child → w'.taskAt? n = w.taskAt? n :=
    fun n hn => hp.taskAt?_eq (by simp [Item.kind]) fun hn' => absurd hn' hn
  have hseen := hp.seen_holder honce hother
    (fun n hn => hsound.bind_ne_none hp.holder_slot hn fun c hfits => by
      simpa [task?_eq_none_iff, fits_iff, Item.kind] using hfits) hchild
  refine ⟨_, _, _, _, view?_of_vertex hp.holder_slot, view?_of_task hp.child_slot, rfl, ?_, ?_⟩
  · rw [view?_of_vertex hp.holder_after, hseen, hp.sameIds.holderId?_eq]
    rfl
  · rw [view?_of_task hafter, hattempts, hid]

theorem view?_dag {d : Dag} {v : Vertex}
    (hp : w.Puts holder child ⟨.dag d, hs, hup⟩ ⟨.vertex v, cs, cup⟩ w') (hsound : w.Sound)
    (honce : ∀ key, hs.get? key = some child → key = v.id) :
    w.Joins holder child w' := by
  have hid : w'.holderId? ⟨.vertex (d.adopt v), cs, some holder⟩ = some d.id := hp.holderId?_after
  have hafter : w'.slot? child = some ⟨.vertex (d.adopt v), cs, some holder⟩ := hp.child_after
  have htasks : w'.seen w'.task? ⟨.vertex (d.adopt v), cs, some holder⟩ =
      w.seen w.task? ⟨.vertex v, cs, cup⟩ :=
    seen_congr fun n _ => hp.taskAt?_eq (by simp [Item.kind]) fun _ => by simp [Item.kind]
  have hchild : w'.vertexAt? child = some { d.adopt v with
      tasks := w.seen w.task? ⟨.vertex v, cs, cup⟩, holder := some d.id } := by
    rw [vertexAt?, hafter, Option.bind_some, vertex?, htasks, hid]
  have hother : ∀ n, n ≠ child → w'.vertexAt? n = w.vertexAt? n :=
    fun n hn => hp.vertexAt?_eq rfl hn
  have hseen := hp.seen_holder honce hother
    (fun n hn => hsound.bind_ne_none hp.holder_slot hn fun c hfits => by
      simpa [vertex?_eq_none_iff, fits_iff, Item.kind] using hfits) hchild
  refine ⟨_, _, _, _, view?_of_dag hp.holder_slot, view?_of_vertex hp.child_slot, rfl, ?_, ?_⟩
  · rw [view?_of_dag hp.holder_after, hseen]
    rfl
  · rw [view?_of_vertex hafter, htasks, hid]
    rfl

end Puts

/-- An entity is held by another one under a key. -/
def Holds (w : Workbench) (holder : Nat) (key : String) (child : Nat) : Prop :=
  ∃ h, w.slot? holder = some h ∧ h.children.get? key = some child

/-- **Putting one entity into another is seen as putting its tree into that of the other**, unless
the other one holds it already under an id that it had before. -/
theorem view?_put (hsound : w.Sound) {holder child : Nat} (hput : w.put holder child = some w')
    (honce : ∀ key, w.Holds holder key child → (w.view? child).map Item.id = some key) :
    w.Joins holder child w' := by
  obtain ⟨⟨item, hs, hup⟩, ⟨item', cs, cup⟩, hp⟩ := exists_puts hput
  have hkey : ∀ key, hs.get? key = some child → (w.view? child).map Item.id = some key :=
    fun key hget => honce key ⟨_, hp.holder_slot, hget⟩
  have hfits := hp.fits
  cases item with
  | dag d =>
    cases item' with
    | vertex v =>
      rw [view?_of_vertex hp.child_slot] at hkey
      exact hp.view?_dag hsound fun key hget => (Option.some.inj (hkey key hget)).symm
    | _ => cases hfits
  | vertex v =>
    cases item' with
    | task t =>
      rw [view?_of_task hp.child_slot] at hkey
      exact hp.view?_vertex hsound fun key hget => (Option.some.inj (hkey key hget)).symm
    | _ => cases hfits
  | task t =>
    cases item' with
    | attempt a =>
      rw [view?_of_attempt hp.child_slot] at hkey
      exact hp.view?_task hsound fun key hget => (Option.some.inj (hkey key hget)).symm
    | _ => cases hfits
  | attempt a => cases hfits

/-- **Entities that hold neither of two are seen as before** when one of the two is put into the
other. -/
theorem view?_put_of_apart {holder child n : Nat} (hput : w.put holder child = some w')
    (hholder : ¬w.Reaches n holder) (hchild : ¬w.Reaches n child) : w'.view? n = w.view? n := by
  obtain ⟨h, c, hp⟩ := exists_puts hput
  refine hp.sameIds.view?_eq fun m hm => hp.other m ?_ ?_
  · rintro rfl
    exact hholder hm
  · rintro rfl
    exact hchild hm

end Workbench

end RunHistory
