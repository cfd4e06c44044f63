import RunHistory.Ingest
import RunHistory.Proofs.Entity.Trimming

/-!
# Ids that are refused

A text is refused as an id because it is none, or because some of its digits are too many for a
sequence number.  The digits that count are the last ones at each level, from the entity itself up
to the vertex.

## Main definitions

* `Id.SeqPart`: the digits of an id that are read as sequence numbers.
* `Record.IdRefused`: the id of a record is refused.

## Main results

* `Record.owner_eq_error`: a record has no owner only if its id is refused.
* `Record.IdRefused.exists_seqPart`: **an id refused for its digits has a sequence number of that
  many.**
-/

namespace RunHistory

namespace Id

/-- The digits of an id that are read as sequence numbers: the last ones, and those of the ids that
hold it up to the vertex. -/
inductive SeqPart : Kind → List Char → List Char → Prop where
  /-- The last digits. -/
  | last {kind : Kind} {cs parent digits : List Char}
    (h : parts? kind (trim cs) = some (parent, digits)) : SeqPart kind cs digits
  /-- The digits of what holds the entity. -/
  | above {kind : Kind} {cs parent digits part : List Char} (hkind : parentKind kind ≠ .dag)
    (h : parts? kind (trim cs) = some (parent, digits))
    (hpart : SeqPart (parentKind kind) parent part) : SeqPart kind cs part

theorem split_eq_error {kind : Kind} {text : String} {fault : IdFault}
    (h : split kind text = .error fault) : (∃ shown, fault = .unreadable kind shown) ∨
      ∃ parent digits, parts? kind (trim text.toList) = some (parent, digits) ∧
        fault = .tooManyDigits digits.length ∧ maxDigits < digits.length := by
  rw [split] at h
  split at h
  · cases h
    exact .inl ⟨_, rfl⟩
  · next parent digits hparts =>
    split at h
    · next hlong =>
      cases h
      exact .inr ⟨parent, digits, hparts, rfl, hlong⟩
    · cases h

theorem parts?_of_split {kind : Kind} {text parent : String} {seq : Nat}
    (h : split kind text = .ok (parent, seq)) :
    ∃ digits, parts? kind (trim text.toList) = some (parent.toList, digits) ∧
      digits.length ≤ maxDigits := by
  rw [split] at h
  split at h
  · cases h
  · next parent digits hparts =>
    split at h
    · cases h
    · next hshort =>
      cases h
      exact ⟨digits, by rw [String.toList_ofList, hparts], Nat.le_of_not_lt hshort⟩

end Id

/-- The digits that an id is refused for are its own last ones, or those of what holds it. -/
theorem Id.exists_seqPart_of_split {kind : Kind} {text : String} {count : Nat}
    (h : split kind text = .error (.tooManyDigits count)) :
    ∃ part, Id.SeqPart kind text.toList part ∧ part.length = count ∧ Id.maxDigits < count := by
  rcases Id.split_eq_error h with ⟨shown, hfault⟩ | ⟨parent, digits, hparts, hfault, hlong⟩
  · cases hfault
  · cases hfault
    exact ⟨digits, .last hparts, rfl, hlong⟩

theorem VertexId.exists_seqPart {text : String} {count : Nat}
    (h : VertexId.parse text = .error (.tooManyDigits count)) :
    ∃ part, Id.SeqPart .vertex text.toList part ∧ part.length = count ∧ Id.maxDigits < count := by
  rcases bind_eq_error_iff.1 h with hsplit | ⟨⟨parent, seq⟩, -, h⟩
  · exact Id.exists_seqPart_of_split hsplit
  · rcases bind_eq_error_iff.1 h with hdag | ⟨dag, -, h⟩
    · rw [DagId.parse] at hdag
      split at hdag <;> cases hdag
    · cases h

theorem TaskId.exists_seqPart {text : String} {count : Nat}
    (h : TaskId.parse text = .error (.tooManyDigits count)) :
    ∃ part, Id.SeqPart .task text.toList part ∧ part.length = count ∧ Id.maxDigits < count := by
  rcases bind_eq_error_iff.1 h with hsplit | ⟨⟨parent, seq⟩, hsplit, h⟩
  · exact Id.exists_seqPart_of_split hsplit
  · rcases bind_eq_error_iff.1 h with hvertex | ⟨vertex, -, h⟩
    · obtain ⟨digits, hparts, -⟩ := Id.parts?_of_split hsplit
      obtain ⟨part, hpart, hcount⟩ := VertexId.exists_seqPart hvertex
      exact ⟨part, .above (by decide) hparts hpart, hcount⟩
    · cases h

theorem AttemptId.exists_seqPart {text : String} {count : Nat}
    (h : AttemptId.parse text = .error (.tooManyDigits count)) :
    ∃ part, Id.SeqPart .attempt text.toList part ∧ part.length = count ∧ Id.maxDigits < count := by
  rcases bind_eq_error_iff.1 h with hsplit | ⟨⟨parent, seq⟩, hsplit, h⟩
  · exact Id.exists_seqPart_of_split hsplit
  · rcases bind_eq_error_iff.1 h with htask | ⟨task, -, h⟩
    · obtain ⟨digits, hparts, -⟩ := Id.parts?_of_split hsplit
      obtain ⟨part, hpart, hcount⟩ := TaskId.exists_seqPart htask
      exact ⟨part, .above (by decide) hparts hpart, hcount⟩
    · cases h

/-! ### Records -/

/-- The id of a record is refused; that of a run never is. -/
inductive Record.IdRefused (r : Record) (fault : IdFault) : Prop where
  /-- The record is about a vertex. -/
  | vertex (hkind : r.kind = .vertex) (h : VertexId.parse r.entity = .error fault)
  /-- The record is about a task. -/
  | task (hkind : r.kind = .task) (h : TaskId.parse r.entity = .error fault)
  /-- The record is about an attempt. -/
  | attempt (hkind : r.kind = .attempt) (h : AttemptId.parse r.entity = .error fault)

/-- A record has no owner only if its id is refused. -/
theorem Record.owner_eq_error {r : Record} {e : Failure} (h : r.owner = .error e) :
    ∃ fault, r.IdRefused fault ∧ e = Failure.ofId fault := by
  rw [Record.owner] at h
  cases hkind : r.kind with
  | dag =>
    rw [hkind] at h
    cases h
  | vertex =>
    rw [hkind] at h
    obtain ⟨fault, hfault, rfl⟩ := mapError_eq_error_iff.1 h
    exact ⟨fault, .vertex hkind (map_eq_error_iff.1 hfault), rfl⟩
  | task =>
    rw [hkind] at h
    obtain ⟨fault, hfault, rfl⟩ := mapError_eq_error_iff.1 h
    exact ⟨fault, .task hkind (map_eq_error_iff.1 hfault), rfl⟩
  | attempt =>
    rw [hkind] at h
    obtain ⟨fault, hfault, rfl⟩ := mapError_eq_error_iff.1 h
    exact ⟨fault, .attempt hkind (map_eq_error_iff.1 hfault), rfl⟩

/-- **An id refused for its digits has a sequence number of that many.** -/
theorem Record.IdRefused.exists_seqPart {r : Record} {count : Nat}
    (h : r.IdRefused (.tooManyDigits count)) : ∃ part,
      Id.SeqPart r.kind r.entity.toList part ∧ part.length = count ∧ Id.maxDigits < count := by
  cases h with
  | vertex hkind h => exact hkind ▸ VertexId.exists_seqPart h
  | task hkind h => exact hkind ▸ TaskId.exists_seqPart h
  | attempt hkind h => exact hkind ▸ AttemptId.exists_seqPart h

end RunHistory
