import RunHistory.Proofs.Entity.Labels
import RunHistory.Proofs.Steps
import RunHistory.Proofs.Table.Parts
import RunHistory.Record.Routing

/-!
# What becomes of an object

An object is refused, or it is about no entity, or it is a record, and it can be told from a few of
its fields which of the three it is.  Each part of a record may stand under several names, of which
the first one counts that the object has.  A record has all that its object has: every field of the
object is what one part of the record was read from, or it is kept as it is.

The label of a record is looked for under one more name than the label by which the kind is found.
The two are the same nevertheless, since an object that has the label under that name only is
refused.

## Main definitions

* `Record.Part`, `Record.Part.names`: the parts of a record and the names that they stand under.
* `Record.FirstOf`: the first of some names that an object has.
* `Record.About`, `Record.InfoFits`: what an object must have to be a record.
* `Record.ReadFrom`: a record that has all that an object has.

## Main results

* `Record.classify_of_about`: the label of an object.
* `Record.readFrom_of_about`: **a record loses nothing of its object.**
* `Record.route_exact`: **what becomes of an object**, for each object.
-/

namespace RunHistory.Record

variable {raw : Table Value}

/-! ### Parts and their names -/

/-- The parts of a record. -/
inductive Part where
  /-- The entity. -/
  | entity
  /-- The label of the entity's type. -/
  | label
  /-- The information. -/
  | info
  /-- The related entities. -/
  | related
  deriving DecidableEq, Repr

namespace Part

/-- The names under which a part may stand, the one that counts first in front. -/
def names : Part → List String
  | .entity => ["entity"]
  | .label => ["entitytype", "entityType", "entity_type"]
  | .info => ["otherInfo", "other_info"]
  | .related => ["relatedEntities", "related_entities"]

/-- The parts that the record of a kind has. -/
def ofKind : Kind → List Part
  | .attempt => [.entity, .label, .info, .related]
  | _ => [.entity, .label, .info]

end Part

/-- Of some names the first that an object has, with the value under it. -/
inductive FirstOf (raw : Table Value) : List String → String → Value → Prop where
  /-- The object has the first of the names. -/
  | here {name : String} {rest : List String} {v : Value} (h : raw.get? name = some v) :
    FirstOf raw (name :: rest) name v
  /-- It has not, and has another one. -/
  | later {other name : String} {rest : List String} {v : Value} (h : raw.get? other = none)
    (first : FirstOf raw rest name v) : FirstOf raw (other :: rest) name v

theorem firstOf_iff {names : List String} {name : String} {v : Value} :
    FirstOf raw names name v ↔ fieldInUse raw names = some name ∧ raw.get? name = some v := by
  constructor
  · intro h
    induction h with
    | here h => simp [fieldInUse, h]
    | later h _ ih => simpa [fieldInUse, h] using ih
  · rintro ⟨hname, hv⟩
    induction names with
    | nil => cases hname
    | cons other rest ih =>
      cases hother : raw.get? other with
      | none => exact .later hother (ih (by simpa [fieldInUse, hother] using hname))
      | some w =>
        obtain rfl : other = name := by simpa [fieldInUse, hother] using hname
        exact .here hv

namespace FirstOf

variable {names : List String} {name name' : String} {v v' : Value}

theorem get? (h : FirstOf raw names name v) : raw.get? name = some v := (firstOf_iff.1 h).2

theorem mem (h : FirstOf raw names name v) : name ∈ names :=
  List.mem_of_find?_eq_some (firstOf_iff.1 h).1

theorem unique (h : FirstOf raw names name v) (h' : FirstOf raw names name' v') :
    name = name' ∧ v = v' := by
  obtain rfl : name = name' := Option.some.inj ((firstOf_iff.1 h).1.symm.trans (firstOf_iff.1 h').1)
  exact ⟨rfl, Option.some.inj (h.get?.symm.trans h'.get?)⟩

/-- Names that come later do not count. -/
theorem append (h : FirstOf raw names name v) (more : List String) :
    FirstOf raw (names ++ more) name v := by
  induction h with
  | here h => exact .here h
  | later h _ ih => exact .later h ih

end FirstOf

theorem valueInUse_of_firstOf {names : List String} {name : String} {v : Value}
    (h : FirstOf raw names name v) : valueInUse raw names = v := by
  rw [valueInUse, (firstOf_iff.1 h).1, Option.bind_some, h.get?, Option.getD_some]

/-- The value in use stands under the first name that the object has; it is null if there is none.
-/
theorem valueInUse_cases (raw : Table Value) (names : List String) :
    (∃ name, FirstOf raw names name (valueInUse raw names)) ∨
      valueInUse raw names = .null ∧ ∀ name v, ¬FirstOf raw names name v := by
  cases hname : fieldInUse raw names with
  | none =>
    refine .inr ⟨by rw [valueInUse, hname]; rfl, ?_⟩
    intro name v h
    rw [(firstOf_iff.1 h).1] at hname
    cases hname
  | some name =>
    obtain ⟨v, hv⟩ := Option.isSome_iff_exists.1 (by simpa using List.find?_some hname)
    have hfirst := firstOf_iff.2 ⟨hname, hv⟩
    exact .inl ⟨name, by rwa [valueInUse_of_firstOf hfirst]⟩

theorem valueInUse_singleton (raw : Table Value) (name : String) :
    valueInUse raw [name] = (raw.get? name).getD .null := by
  cases h : raw.get? name <;> simp [valueInUse, fieldInUse, h]

theorem valueInUse_pair (raw : Table Value) (name other : String) :
    valueInUse raw [name, other] = ((raw.get? name).or (raw.get? other)).getD .null := by
  cases h : raw.get? name <;> cases h' : raw.get? other <;> simp [valueInUse, fieldInUse, h, h']

/-! ### The label -/

/-- An object says of which entity and of which type it is: both are text, and the type stands under
`entitytype` or, without that name, under `entityType`. -/
structure About (raw : Table Value) (entity label : String) : Prop where
  /-- The entity. -/
  entity : raw.get? "entity" = some (.str entity)
  /-- The label of its type. -/
  label : (raw.get? "entitytype").or (raw.get? "entityType") = some (.str label)

theorem getD_null_eq_str_iff {v : Option Value} {s : String} :
    v.getD .null = .str s ↔ v = some (.str s) := by
  cases v <;> simp

theorem about_iff {entity label : String} : About raw entity label ↔
    valueInUse raw ["entity"] = .str entity ∧ valueInUse raw labelFields = .str label := by
  rw [labelFields, valueInUse_singleton, valueInUse_pair, getD_null_eq_str_iff,
    getD_null_eq_str_iff]
  exact ⟨fun h => ⟨h.entity, h.label⟩, fun h => ⟨h.1, h.2⟩⟩

/-- **The label of an object** is what it says. -/
theorem classify_of_about {entity label : String} (h : About raw entity label) :
    classify raw = .ok ⟨entity, label, Kind.ofLabel? label⟩ := by
  obtain ⟨hentity, hlabel⟩ := about_iff.1 h
  rw [classify, hentity, hlabel]

/-- An object that says nothing has no label. -/
theorem classify_of_not_about (h : ∀ entity label, ¬About raw entity label) :
    ∃ e, classify raw = .error e ∧ e.category = .malformedInput := by
  rw [classify]
  split
  · next entity label hentity hlabel => exact absurd (about_iff.2 ⟨hentity, hlabel⟩) (h entity label)
  · exact ⟨_, rfl, rfl⟩

/-! ### The record -/

/-- The information of an object, if it has any, is null or an object. -/
def InfoFits (raw : Table Value) : Prop :=
  ∀ v, (raw.get? "otherInfo").or (raw.get? "other_info") = some v →
    v = .null ∨ ∃ fields, v = .object fields

/-- A field of an object is what a part of a record of some kind is read from. -/
def IsSource (raw : Table Value) (kind : Kind) (name : String) (part : Part) : Prop :=
  part ∈ Part.ofKind kind ∧ ∃ v, FirstOf raw part.names name v

/-- A record that has all that an object has.  Each part of the record has the value of its field in
the object, and what is no field of a part is kept as it is. -/
structure ReadFrom (raw : Table Value) (r : Record) : Prop where
  /-- The entity is in the object. -/
  entity : ∃ name, FirstOf raw Part.entity.names name (.str r.entity)
  /-- The label is in the object. -/
  label : ∃ name, FirstOf raw Part.label.names name (.str r.label)
  /-- There is information if the object has some. -/
  info : ∀ info, r.info = some info ↔
    ∃ name fields, FirstOf raw Part.info.names name (.object fields) ∧ info = Table.ofList fields
  /-- There is none if it is null or not there. -/
  no_info : r.info = none ↔ (∃ name, FirstOf raw Part.info.names name .null) ∨
    ∀ name v, ¬FirstOf raw Part.info.names name v
  /-- An attempt has the related entities of the object, and null without any. -/
  related : r.kind = .attempt → (∃ name, FirstOf raw Part.related.names name r.related) ∨
    r.related = .null ∧ ∀ name v, ¬FirstOf raw Part.related.names name v
  /-- Every field is what one part was read from, or it is kept as it is. -/
  field : ∀ name v, raw.get? name = some v →
    (∃! part, IsSource raw r.kind name part) ∧ r.extra.get? name = none ∨
      (∀ part, ¬IsSource raw r.kind name part) ∧ r.extra.get? name = some v
  /-- Nothing else is kept, and what is kept stands in the same order. -/
  extra : r.extra.entries.Sublist raw.entries

/-- Different parts stand under different names. -/
theorem Part.eq_of_mem_names {name : String} {p q : Part} (hp : name ∈ p.names)
    (hq : name ∈ q.names) : p = q := by
  have hdisjoint : ∀ p q : Part, (∃ name ∈ p.names, name ∈ q.names) → p = q := by
    intro p q
    cases p <;> cases q <;> decide
  exact hdisjoint p q ⟨name, hp, hq⟩

theorem mem_toList_fieldInUse {names : List String} {name : String} :
    name ∈ (fieldInUse raw names).toList ↔ ∃ v, FirstOf raw names name v := by
  rw [Option.mem_toList]
  constructor
  · intro h
    obtain ⟨v, hv⟩ := Option.isSome_iff_exists.1 (by simpa using List.find?_some h)
    exact ⟨v, firstOf_iff.2 ⟨h, hv⟩⟩
  · rintro ⟨v, h⟩
    exact (firstOf_iff.1 h).1

/-- The label is the same under all its names, if it is found under the first two. -/
theorem About.firstOf_label {entity label : String} (h : About raw entity label) :
    ∃ name, FirstOf raw labelFields name (.str label) := by
  have hlabel := h.label
  cases hfirst : raw.get? "entitytype" with
  | some v =>
    rw [hfirst, Option.some_or] at hlabel
    exact ⟨_, .here (hfirst.trans hlabel)⟩
  | none =>
    rw [hfirst, Option.none_or] at hlabel
    exact ⟨_, .later hfirst (.here hlabel)⟩

/-- The fields that a record is made from are those that its parts are read from. -/
theorem mem_usedFields_iff {entity label : String} (h : About raw entity label) (kind : Kind)
    (name : String) :
    name ∈ usedFields raw kind ↔ ∃ part, IsSource raw kind name part := by
  obtain ⟨name', hfirst⟩ := h.firstOf_label
  -- without the name that only the record knows the label is found all the same
  have hlabel : (∃ v, FirstOf raw labelFields name v) ↔ ∃ v, FirstOf raw Part.label.names name v := by
    constructor
    · rintro ⟨v, hv⟩
      exact ⟨v, hv.append ["entity_type"]⟩
    · rintro ⟨v, hv⟩
      obtain ⟨rfl, rfl⟩ := hv.unique (hfirst.append ["entity_type"])
      exact ⟨_, hfirst⟩
  have hentity : name = "entity" ↔ ∃ v, FirstOf raw Part.entity.names name v := by
    constructor
    · rintro rfl
      exact ⟨_, .here h.entity⟩
    · rintro ⟨v, hv⟩
      exact List.mem_singleton.1 hv.mem
  have hrelated : name ∈ (if kind = .attempt then (fieldInUse raw relatedFields).toList else []) ↔
      kind = .attempt ∧ ∃ v, FirstOf raw Part.related.names name v := by
    by_cases hkind : kind = .attempt
    · rw [if_pos hkind, mem_toList_fieldInUse, and_iff_right hkind]
      rfl
    · simp [hkind]
  rw [usedFields, List.mem_append, List.mem_append, List.mem_cons, mem_toList_fieldInUse,
    mem_toList_fieldInUse, hlabel, hentity, hrelated]
  constructor
  · rintro (((h | h) | h) | ⟨rfl, h⟩)
    · exact ⟨.entity, by cases kind <;> simp [Part.ofKind], h⟩
    · exact ⟨.label, by cases kind <;> simp [Part.ofKind], h⟩
    · exact ⟨.info, by cases kind <;> simp [Part.ofKind], h⟩
    · exact ⟨.related, by simp [Part.ofKind], h⟩
  · rintro ⟨part, hpart, hv⟩
    cases part with
    | entity => exact .inl (.inl (.inl hv))
    | label => exact .inl (.inl (.inr hv))
    | info => exact .inl (.inr hv)
    | related => exact .inr ⟨by cases kind <;> simp [Part.ofKind] at hpart ⊢, hv⟩

theorem kind_subjectOf (raw : Table Value) (kind : Kind) : (subjectOf raw kind).kind = kind := by
  cases kind <;> rfl

theorem infoFits_iff : InfoFits raw ↔
    valueInUse raw infoFields = .null ∨ ∃ fields, valueInUse raw infoFields = .object fields := by
  rw [InfoFits, infoFields, valueInUse_pair]
  cases (raw.get? "otherInfo").or (raw.get? "other_info") <;> simp

/-- An object whose information does not fit is refused, with the name under which it stands. -/
theorem ofObject_of_not_infoFits (h : ¬InfoFits raw) (entity label : String) (kind : Kind) :
    ∃ field info, FirstOf raw Part.info.names field info ∧
      ofObject raw entity label kind = .error (.invalidInfo kind entity field info) := by
  rw [infoFits_iff, not_or] at h
  rcases valueInUse_cases raw infoFields with ⟨field, hfirst⟩ | ⟨hnull, -⟩
  · refine ⟨field, _, hfirst, ?_⟩
    rw [ofObject]
    split
    · next hnull => exact absurd hnull h.1
    · next fields hobject => exact absurd ⟨fields, hobject⟩ h.2
    · rw [(firstOf_iff.1 hfirst).1, Option.getD_some]
  · exact absurd hnull h.1

/-- The information that a record of an object has. -/
def infoInUse (raw : Table Value) : Option (Table Value) := (valueInUse raw infoFields).object?

theorem ofObject_of_infoFits (h : InfoFits raw) (entity label : String) (kind : Kind) :
    ofObject raw entity label kind =
      .ok ⟨subjectOf raw kind, entity, label, infoInUse raw, extraOf raw kind⟩ := by
  rw [ofObject, infoInUse]
  rcases infoFits_iff.1 h with hnull | ⟨fields, hobject⟩
  · rw [hnull]
    rfl
  · rw [hobject]
    rfl

theorem infoInUse_eq_some_iff {info : Table Value} : infoInUse raw = some info ↔
    ∃ name fields, FirstOf raw Part.info.names name (.object fields) ∧
      info = Table.ofList fields := by
  constructor
  · intro h
    rw [infoInUse] at h
    rcases valueInUse_cases raw infoFields with ⟨name, hfirst⟩ | ⟨hnull, -⟩
    · generalize valueInUse raw infoFields = v at h hfirst
      cases v with
      | object fields => exact ⟨name, fields, hfirst, (Option.some.inj h).symm⟩
      | _ => cases h
    · rw [hnull] at h
      cases h
  · rintro ⟨name, fields, hfirst, rfl⟩
    have hvalue : valueInUse raw infoFields = .object fields := valueInUse_of_firstOf hfirst
    rw [infoInUse, hvalue]
    rfl

theorem infoInUse_eq_none_iff (h : InfoFits raw) : infoInUse raw = none ↔
    (∃ name, FirstOf raw Part.info.names name .null) ∨
      ∀ name v, ¬FirstOf raw Part.info.names name v := by
  constructor
  · intro hnone
    rcases infoFits_iff.1 h with hnull | ⟨fields, hobject⟩
    · rcases valueInUse_cases raw infoFields with ⟨name, hfirst⟩ | ⟨-, hlacks⟩
      · exact .inl ⟨name, hnull ▸ hfirst⟩
      · exact .inr hlacks
    · rw [infoInUse, hobject] at hnone
      cases hnone
  · intro hnone
    cases hinfo : infoInUse raw with
    | none => rfl
    | some info =>
      obtain ⟨name, fields, hfirst, -⟩ := infoInUse_eq_some_iff.1 hinfo
      rcases hnone with ⟨name', hnull⟩ | hlacks
      · cases (hfirst.unique hnull).2
      · exact absurd hfirst (hlacks name _)

/-- **A record loses nothing of its object.** -/
theorem readFrom_of_about {entity label : String} (habout : About raw entity label)
    (hfits : InfoFits raw) (kind : Kind) :
    ReadFrom raw ⟨subjectOf raw kind, entity, label, infoInUse raw, extraOf raw kind⟩ := by
  have hkind : (⟨subjectOf raw kind, entity, label, infoInUse raw, extraOf raw kind⟩ : Record).kind
      = kind := by cases kind <;> rfl
  refine ⟨⟨_, .here habout.entity⟩, ?_, fun info => infoInUse_eq_some_iff,
    infoInUse_eq_none_iff hfits, ?_, ?_, List.filter_sublist⟩
  · obtain ⟨name, hfirst⟩ := habout.firstOf_label
    exact ⟨name, hfirst.append ["entity_type"]⟩
  · rw [hkind]
    rintro rfl
    exact valueInUse_cases raw relatedFields
  · intro name v hv
    rw [hkind]
    show _ ∧ (extraOf raw kind).get? name = none ∨ _ ∧ (extraOf raw kind).get? name = some v
    rw [extraOf, Table.get?_filterKeys, List.contains_eq_mem]
    by_cases hused : name ∈ usedFields raw kind
    · obtain ⟨part, hpart⟩ := (mem_usedFields_iff habout kind name).1 hused
      refine .inl ⟨⟨part, hpart, ?_⟩, by simp [hused]⟩
      rintro part' ⟨-, v', hv'⟩
      obtain ⟨-, w, hw⟩ := hpart
      exact Part.eq_of_mem_names hv'.mem hw.mem
    · refine .inr ⟨fun part hpart => ?_, by simp [hused, hv]⟩
      exact hused ((mem_usedFields_iff habout kind name).2 ⟨part, hpart⟩)

/-! ### What becomes of an object -/

/-- The ways in which an object can end. -/
inductive Becomes (raw : Table Value) : Except Failure (Label × Option Record) → Prop where
  /-- It does not say what it is about. -/
  | unlabelled {e : Failure} (silent : ∀ entity label, ¬About raw entity label)
    (category : e.category = .malformedInput) : Becomes raw (.error e)
  /-- Its information does not fit. -/
  | misfit {entity label field : String} {kind : Kind} {info : Value}
    (about : About raw entity label) (named : kind.NamedBy label) (misfits : ¬InfoFits raw)
    (first : FirstOf raw Part.info.names field info) :
    Becomes raw (.error (.invalidInfo kind entity field info))
  /-- It is about no entity. -/
  | ignored {entity label : String} (about : About raw entity label)
    (nameless : ∀ kind : Kind, ¬kind.NamedBy label) : Becomes raw (.ok (⟨entity, label, none⟩, none))
  /-- It is a record. -/
  | record {entity label : String} {kind : Kind} (about : About raw entity label)
    (named : kind.NamedBy label) (fits : InfoFits raw) : Becomes raw (.ok
      (⟨entity, label, some kind⟩,
        some ⟨subjectOf raw kind, entity, label, infoInUse raw, extraOf raw kind⟩))

theorem becomes_route (raw : Table Value) : Becomes raw (route raw) := by
  by_cases habout : ∃ entity label, About raw entity label
  · obtain ⟨entity, label, habout⟩ := habout
    rw [route, classify_of_about habout, ok_bind]
    cases hkind : Kind.ofLabel? label with
    | none => exact .ignored habout (Kind.ofLabel?_eq_none_iff.1 hkind)
    | some kind =>
      have hnamed := Kind.ofLabel?_eq_some_iff.1 hkind
      by_cases hfits : InfoFits raw
      · simp only [ofObject_of_infoFits hfits, Except.map]
        exact .record habout hnamed hfits
      · obtain ⟨field, info, hfirst, herror⟩ := ofObject_of_not_infoFits hfits entity label kind
        simp only [herror, Except.map]
        exact .misfit habout hnamed hfits hfirst
  · have hsilent : ∀ entity label, ¬About raw entity label := fun entity label h =>
      habout ⟨entity, label, h⟩
    obtain ⟨e, he, hcategory⟩ := classify_of_not_about hsilent
    rw [route, he]
    exact .unlabelled hsilent hcategory

theorem About.unique {entity label entity' label' : String} (h : About raw entity label)
    (h' : About raw entity' label') : entity = entity' ∧ label = label' :=
  ⟨by simpa using h.entity.symm.trans h'.entity, by simpa using h.label.symm.trans h'.label⟩

/-- Objects are refused that do not say what they are about, and those whose information does not
fit. -/
theorem exists_route_eq_error_iff :
    (∃ e, route raw = .error e) ↔ (∀ entity label, ¬About raw entity label) ∨
      ∃ entity label, ∃ kind : Kind, About raw entity label ∧ kind.NamedBy label ∧
        ¬InfoFits raw := by
  have h := becomes_route raw
  generalize route raw = result at h
  cases h with
  | unlabelled silent _ => exact ⟨fun _ => .inl silent, fun _ => ⟨_, rfl⟩⟩
  | misfit about named misfits _ =>
    exact ⟨fun _ => .inr ⟨_, _, _, about, named, misfits⟩, fun _ => ⟨_, rfl⟩⟩
  | ignored about nameless =>
    refine iff_of_false (by rintro ⟨e, ⟨⟩⟩) ?_
    rintro (silent | ⟨entity, label, kind, about', named, -⟩)
    · exact silent _ _ about
    · obtain ⟨-, rfl⟩ := about.unique about'
      exact nameless kind named
  | record about _ fits =>
    refine iff_of_false (by rintro ⟨e, ⟨⟩⟩) ?_
    rintro (silent | ⟨-, -, -, -, -, misfits⟩)
    · exact silent _ _ about
    · exact misfits fits

/-- Objects whose label names no kind are about no entity. -/
theorem exists_route_eq_none_iff : (∃ l, route raw = .ok (l, none)) ↔
    ∃ entity label, About raw entity label ∧ ∀ kind : Kind, ¬kind.NamedBy label := by
  have h := becomes_route raw
  generalize route raw = result at h
  cases h with
  | unlabelled silent _ =>
    refine iff_of_false (by rintro ⟨l, ⟨⟩⟩) ?_
    rintro ⟨entity, label, about, -⟩
    exact silent entity label about
  | ignored about nameless => exact ⟨fun _ => ⟨_, _, about, nameless⟩, fun _ => ⟨_, rfl⟩⟩
  | misfit about named _ _ | record about named _ =>
    refine iff_of_false (by rintro ⟨l, ⟨⟩⟩) ?_
    rintro ⟨entity, label, about', nameless⟩
    obtain ⟨-, rfl⟩ := about.unique about'
    exact nameless _ named

/-- Every other object is a record, which has the kind that its label names. -/
theorem readFrom_of_route {l : Label} {r : Record} (h : route raw = .ok (l, some r)) :
    About raw r.entity r.label ∧ r.kind.NamedBy r.label ∧ l = ⟨r.entity, r.label, some r.kind⟩ ∧
      ReadFrom raw r := by
  have hbecomes := becomes_route raw
  rw [h] at hbecomes
  cases hbecomes with
  | @record entity label kind about named fits =>
    have hkind : (subjectOf raw kind).kind = kind := kind_subjectOf raw kind
    refine ⟨about, ?_, ?_, readFrom_of_about about fits kind⟩
    · show (subjectOf raw kind).kind.NamedBy label
      rwa [hkind]
    · show _ = Label.mk entity label (some (subjectOf raw kind).kind)
      rw [hkind]

/-- **What becomes of an object.**  It is refused, as not well formed, just when its entity or its
label is no text, or when the label names a kind and the information is neither null nor an object.
It is about no entity just when entity and label are text and the label names no kind.  In all other
cases it is a record with this entity, this label and the kind that the label names, and the record
loses nothing of the object. -/
theorem route_exact (raw : Table Value) :
    ((∃ e, route raw = .error e) ↔ (∀ entity label, ¬About raw entity label) ∨
      ∃ entity label, ∃ kind : Kind, About raw entity label ∧ kind.NamedBy label ∧ ¬InfoFits raw) ∧
    (∀ e, route raw = .error e → e.category = .malformedInput) ∧
    ((∃ l, route raw = .ok (l, none)) ↔
      ∃ entity label, About raw entity label ∧ ∀ kind : Kind, ¬kind.NamedBy label) ∧
    ∀ l r, route raw = .ok (l, some r) → About raw r.entity r.label ∧ r.kind.NamedBy r.label ∧
      l = ⟨r.entity, r.label, some r.kind⟩ ∧ ReadFrom raw r := by
  refine ⟨exists_route_eq_error_iff, ?_, exists_route_eq_none_iff, fun _ _ => readFrom_of_route⟩
  intro e he
  have h := becomes_route raw
  rw [he] at h
  cases h with
  | unlabelled _ category => exact category
  | misfit => rfl

/-- An object that has its label under every name and its information under two. -/
def manyNames : Table Value where
  entries := [("entityType", .int 7), ("entity", .str " dag_1_vertex_1"),
    ("entity_type", .str "DAG"), ("entitytype", .str "tez_vertex_id"), ("other_info", .object []),
    ("otherInfo", .null), ("relatedEntities", .list [])]
  nodup := by
    show ["entityType", "entity", "entity_type", "entitytype", "other_info", "otherInfo",
      "relatedEntities"].Nodup
    decide

/-- The first name of each part counts, and what stands under the others is kept. -/
theorem route_exact_many_names : ∃ l r, route manyNames = .ok (l, some r) ∧ r.kind = .vertex ∧
    r.label = "tez_vertex_id" ∧ r.info.isNone ∧
    r.extra.keys = ["entityType", "entity_type", "other_info", "relatedEntities"] ∧
    ReadFrom manyNames r := by
  have hall : (route manyNames).toOption.map (fun p => p.2.map fun r =>
      (r.kind, r.label, r.info.isNone, r.extra.keys)) = some (some (.vertex, "tez_vertex_id", true,
        ["entityType", "entity_type", "other_info", "relatedEntities"])) := by decide +kernel
  obtain ⟨⟨l, found⟩, hroute, hfound⟩ := exists_of_toOption_map hall
  obtain ⟨r, rfl, hr⟩ := Option.map_eq_some_iff.1 hfound
  simp only [Prod.mk.injEq] at hr
  obtain ⟨hkind, hlabel, hinfo, hkeys⟩ := hr
  obtain ⟨-, -, -, hread⟩ := (route_exact manyNames).2.2.2 l r hroute
  exact ⟨l, r, hroute, hkind, hlabel, hinfo, hkeys, hread⟩

end RunHistory.Record
