import RunHistory.Proofs.Info.Measurable
import RunHistory.Proofs.State.Related

/-!
# The names of nodes and containers

An attempt has the name of its node from the first of its related entities, if that one has the tag
of a node, and else from its information; and so it is with its container and the second of its
related entities.  The related entities are those of the first record of the attempt, and the
information is that of all its records.  Without any information the attempt has no names, whatever
its related entities are.

## Main definitions

* `Relation.Tagged`: an entry of the related entities has a tag and names something.
* `Relation.SameNames`: related entities that name the same node and the same container.
* `Relation.Told`: what the records of an attempt tell of its node or its container.
* `Attempt.Unites`: an attempt that holds what its records tell.

## Main results

* `Relation.at?_eq_some_iff`: the name at a place.
* `Attempt.unites_of_ofRecord`: **what is made of the records of an attempt.**
-/

namespace RunHistory

namespace Relation

/-! ### Entries with a tag -/

/-- What an entry names: the text of its entity, and nothing when that is null or not there. -/
inductive Names (fields : Table Value) : String → Prop where
  /-- The entity has a text. -/
  | text {v : Value} (h : fields.get? "entity" = some v) (hne : v ≠ .null) : Names fields v.text
  /-- The entity is null. -/
  | null (h : fields.get? "entity" = some .null) : Names fields ""
  /-- There is no entity. -/
  | absent (h : fields.get? "entity" = none) : Names fields ""

theorem names_iff {fields : Table Value} {name : String} :
    Names fields name ↔ ((fields.get? "entity").bind Value.text?).getD "" = name := by
  constructor
  · intro h
    cases h with
    | @text v h hne =>
      rw [h]
      cases v <;> first | rfl | exact absurd rfl hne
    | null h => rw [h]; rfl
    | absent h => rw [h]; rfl
  · rintro rfl
    cases h : fields.get? "entity" with
    | none => exact .absent h
    | some v =>
      cases v with
      | null => exact .null h
      | _ => exact .text h (by simp)

/-- An entry is an object with a tag, in whatever case, and names something. -/
inductive TaggedEntry (tag name : String) : Value → Prop where
  /-- The tag is text, and the same but for case. -/
  | object {fields : List (String × Value)} {t : String}
    (htag : (Table.ofList fields).get? "entitytype" = some (.str t)) (hsame : sameTag t tag = true)
    (hname : Names (Table.ofList fields) name) : TaggedEntry tag name (.object fields)

/-- Related entities are a list, whose entry at a place has a tag and names something. -/
inductive Tagged (place : Nat) (tag name : String) : Value → Prop where
  /-- There is such an entry. -/
  | list {entries : List Value} {entry : Value} (hentry : entries[place]? = some entry)
    (h : TaggedEntry tag name entry) : Tagged place tag name (.list entries)

theorem nameIn?_eq_some_iff {entry : Value} {tag name : String} :
    nameIn? entry tag = some name ↔ TaggedEntry tag name entry := by
  constructor
  · intro h
    unfold nameIn? at h
    cases entry with
    | object fields =>
      simp only [Value.object?] at h
      split at h
      · next t ht =>
        by_cases hsame : sameTag t tag = true
        · rw [if_pos hsame] at h
          exact .object ht hsame (names_iff.2 (Option.some.inj h))
        · rw [if_neg hsame] at h
          cases h
      · cases h
    | _ => cases h
  · intro h
    cases h with
    | object htag hsame hname =>
      simp only [nameIn?, Value.object?, htag, hsame, if_true, names_iff.1 hname]

/-- **The name at a place** is that of an entry with the tag. -/
theorem at?_eq_some_iff {related : Value} {place : Nat} {tag name : String} :
    at? related place tag = some name ↔ Tagged place tag name related := by
  constructor
  · intro h
    unfold at? at h
    cases related with
    | list entries =>
      obtain ⟨entry, hentry, h⟩ := Option.bind_eq_some_iff.1 h
      exact .list hentry (nameIn?_eq_some_iff.1 h)
    | _ => cases h
  · intro h
    cases h with
    | list hentry h => exact Option.bind_eq_some_iff.2 ⟨_, hentry, nameIn?_eq_some_iff.2 h⟩

/-- Related entities that name the same node and the same container, or none. -/
structure SameNames (related related' : Value) : Prop where
  /-- The first entries have the tag of a node and name the same, or neither has it. -/
  node : ∀ name, Tagged 0 node name related ↔ Tagged 0 node name related'
  /-- The second entries have the tag of a container and name the same, or neither has it. -/
  container : ∀ name, Tagged 1 container name related ↔ Tagged 1 container name related'

/-- What is written for related entities depends on these names only. -/
theorem SameNames.found_eq {related related' : Value} (h : SameNames related related') :
    found related = found related' := by
  have hat : ∀ place tag, (∀ name, Tagged place tag name related ↔ Tagged place tag name related') →
      at? related place tag = at? related' place tag := by
    intro place tag h
    ext name
    rw [at?_eq_some_iff, at?_eq_some_iff, h]
  simp only [found, slots, List.filterMap_cons, hat 0 _ h.node, hat 1 _ h.container]
  rfl

/-- What the records of an attempt tell of its node or its container: the name in the entry of the
related entities at a place, and else the last value of the field of the information. -/
inductive Told (related : Value) (place : Nat) (tag : String) (infos : List (Table Value)) :
    Option String → Prop where
  /-- The entry has the tag. -/
  | entry {name : String} (h : Tagged place tag name related) : Told related place tag infos name
  /-- There is no entry with the tag. -/
  | field (h : ∀ name, ¬Tagged place tag name related) :
    Told related place tag infos ((Table.lastValue? tag infos).getD .null).text?

/-! ### The written fields -/

theorem lookupEntry_found (related : Value) (name : String) :
    lookupEntry name (found related) =
      if name = node then (at? related 0 node).map Value.str
      else if name = container then (at? related 1 container).map Value.str else none := by
  have hnames : node ≠ container := by decide
  rw [found]
  simp only [slots, List.filterMap_cons, List.filterMap_nil]
  cases at? related 0 node <;> cases at? related 1 container <;>
    simp only [Option.map_none, Option.map_some, lookupEntry]
  all_goals
    by_cases hnode : name = node
    · simp [hnode, hnames.symm]
    · by_cases hcontainer : name = container
      · simp [hcontainer, hnames, hnames.symm]
      · simp [hnode, hcontainer, Ne.symm hnode, Ne.symm hcontainer]

/-- What is read of written information: the names, and else the last values. -/
theorem get?_intoInfo_of_overlaid {infos : List (Table Value)} {info : Table Value}
    (h : Record.overlaid infos = some info) (related : Value) (name : String) :
    (intoInfo related info).get? name = (if name = node then (at? related 0 node).map Value.str
      else if name = container then (at? related 1 container).map Value.str else none).or
        (Table.lastValue? name infos) := by
  rw [get?_intoInfo_eq, lookupEntry_found, (Record.overlaid_eq_some h).2]

theorem told_of_get? {related : Value} {place : Nat} {tag : String} {infos : List (Table Value)}
    {v : Option Value}
    (h : v = ((at? related place tag).map Value.str).or (Table.lastValue? tag infos)) :
    Told related place tag infos (v.getD .null).text? := by
  cases hat : at? related place tag with
  | some name =>
    rw [h, hat]
    exact .entry (at?_eq_some_iff.1 hat)
  | none =>
    rw [h, hat]
    refine .field fun name hname => ?_
    rw [at?_eq_some_iff.2 hname] at hat
    cases hat

end Relation

/-! ### Attempts -/

/-- An attempt that holds what is told of it: by the related entities in its first record, and by
the information of all its records, in order. -/
structure Attempt.Unites (a : Attempt) (related : Value) (infos : List (Table Value)) : Prop where
  /-- Without information there are no names. -/
  empty : infos = [] → a.node = none ∧ a.container = none ∧ a.info = .empty
  /-- Else the node is in the first of the related entities, or in the information. -/
  node : infos ≠ [] → Relation.Told related 0 Relation.node infos a.node
  /-- And the container is in the second of the related entities, or in the information. -/
  container : infos ≠ [] → Relation.Told related 1 Relation.container infos a.container
  /-- All other fields of the information have their last value. -/
  others : ∀ name, name ≠ Relation.node → name ≠ Relation.container →
    a.info.get? name = Table.lastValue? name infos

/-- What an attempt takes from the information of its record. -/
theorem Attempt.names_of_ofRecord {r : Record} {a : Attempt} (h : Attempt.ofRecord r = .ok a) :
    a.info = Facts.infoOf r ∧ a.node = (field a.info Relation.node).text? ∧
      a.container = (field a.info Relation.container).text? := by
  obtain ⟨facts, hfacts, h⟩ := bind_eq_ok_iff.1 h
  cases h
  exact ⟨(Facts.of_ofRecord hfacts).2, rfl, rfl⟩

/-- **What is made of the records of an attempt.** -/
theorem Attempt.unites_of_ofRecord {first : Record} {later : List Record} {a : Attempt}
    (h : Attempt.ofRecord (later.foldl Record.absorb first).withRelations = .ok a) :
    a.Unites first.related ((first :: later).filterMap Record.info) := by
  rw [Record.foldl_absorb_eq] at h
  generalize (first :: later).filterMap Record.info = infos at h ⊢
  obtain ⟨hinfo, hnode, hcontainer⟩ := Attempt.names_of_ofRecord h
  cases hm : Record.overlaid infos with
  | none =>
    obtain rfl := Record.overlaid_eq_none_iff.1 hm
    have hempty : a.info = .empty := by
      rw [hinfo]
      rfl
    rw [hempty] at hnode hcontainer
    refine ⟨fun _ => ⟨hnode, hcontainer, hempty⟩, ?_, ?_, ?_⟩
    · intro hne
      exact absurd rfl hne
    · intro hne
      exact absurd rfl hne
    · intro name _ _
      rw [hempty]
      rfl
  | some info =>
    have hwritten : a.info = Relation.intoInfo first.related info := by
      rw [hinfo, hm]
      rfl
    have hget : ∀ name, a.info.get? name = _ := fun name =>
      hwritten ▸ Relation.get?_intoInfo_of_overlaid hm first.related name
    refine ⟨?_, ?_, ?_, ?_⟩
    · rintro rfl
      cases hm
    · intro _
      rw [hnode]
      exact Relation.told_of_get? ((hget Relation.node).trans (by rw [if_pos rfl]))
    · intro _
      rw [hcontainer]
      refine Relation.told_of_get? ((hget Relation.container).trans ?_)
      rw [if_neg (by decide), if_pos rfl]
    · intro name hname hname'
      rw [hget, if_neg hname, if_neg hname', Option.none_or]

end RunHistory
