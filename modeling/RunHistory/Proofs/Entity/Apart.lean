import RunHistory.Proofs.Entity.Accepted

/-!
# Ids apart

No text is an id of two kinds, since in either way of writing the last group that is no number is
the word of the kind.  And an id contains more underscores than the id of anything that holds it.

## Main definitions

* `Id.lastWord?`: the last group of a text that is no number.

## Main results

* `Id.kind_eq_of_split`: **no text is an id of two kinds.**
* `VertexId.count_lt`, `TaskId.count_lt`, `AttemptId.count_lt`: the id of the run is another text
  than that of anything in it.
-/

namespace RunHistory

namespace Id

variable {kind : Kind} {cs parent digits : List Char}

/-! ### The word of the kind -/

/-- The last group of a text that is no number. -/
def lastWord? (cs : List Char) : Option (List Char) :=
  (groups cs).reverse.find? fun g => !isNumber g

theorem exists_groups_of_parts? (h : parts? kind cs = some (parent, digits)) :
    ∃ front numbers, groups cs = front ++ kind.idWord.toList :: numbers ∧
      ∀ g ∈ numbers, isNumber g = true := by
  obtain ⟨last, rfl, ⟨gs, -, rfl, -⟩ | ⟨-, rfl⟩⟩ := exists_of_parts? h
  · have hnumbers : ∀ g ∈ (gs ++ [last]).map Digits.chars, isNumber g = true := by
      intro g hg
      obtain ⟨x, -, rfl⟩ := List.mem_map.1 hg
      exact x.isNumber
    refine ⟨[], _, groups_joined (List.cons_ne_nil _ _) ?_, hnumbers⟩
    exact List.forall_mem_cons.2
      ⟨notMem_idWord kind, fun g hg => notMem_of_isNumber (hnumbers g hg)⟩
  · refine ⟨groups parent, [last.chars], ?_, by simp [last.isNumber]⟩
    rw [joined_cons_cons, groups_append, groups_joined (by simp)]
    exact List.forall_mem_cons.2
      ⟨notMem_idWord kind, List.forall_mem_singleton.2 (notMem_of_isNumber last.isNumber)⟩

theorem lastWord?_of_parts? (h : parts? kind cs = some (parent, digits)) :
    lastWord? cs = some kind.idWord.toList := by
  obtain ⟨front, numbers, hgroups, hnumbers⟩ := exists_groups_of_parts? h
  have hword : isNumber kind.idWord.toList = false := by cases kind <;> decide
  have hskipped : numbers.reverse.find? (fun g => !isNumber g) = none := by
    rw [List.find?_eq_none]
    intro g hg
    simp [hnumbers g (List.mem_reverse.1 hg)]
  rw [lastWord?, hgroups, List.reverse_append, List.reverse_cons, List.append_assoc,
    List.find?_append, hskipped, Option.none_or, List.singleton_append, List.find?_cons_of_pos]
  simp [hword]

/-- **No text is an id of two kinds.** -/
theorem kind_eq_of_split {kind' : Kind} {text parent parent' : String} {seq seq' : Nat}
    (h : split kind text = .ok (parent, seq)) (h' : split kind' text = .ok (parent', seq')) :
    kind = kind' := by
  obtain ⟨digits, hparts, -⟩ := parts?_of_split h
  obtain ⟨digits', hparts', -⟩ := parts?_of_split h'
  have hword := (lastWord?_of_parts? hparts).symm.trans (lastWord?_of_parts? hparts')
  cases kind <;> cases kind' <;> first | rfl | exact absurd hword (by decide)

/-! ### Underscores -/

theorem count_lt_of_parts? (h : parts? kind cs = some (parent, digits)) :
    parent.count '_' < cs.count '_' := by
  obtain ⟨last, rfl, ⟨gs, hcount, rfl, rfl⟩ | ⟨-, rfl⟩⟩ := exists_of_parts? h
  · have hne : gs.map Digits.chars ≠ [] := by
      intro hnil
      rw [List.map_eq_nil_iff.1 hnil] at hcount
      cases kind <;> cases hcount
    rw [List.map_append, List.map_singleton, ← List.cons_append, joined_concat (by simp),
      joined_cons hne, joined_cons hne]
    simp only [List.count_append, List.count_cons_self,
      List.count_eq_zero_of_not_mem (notMem_idWord kind),
      List.count_eq_zero_of_not_mem (notMem_idWord (parentKind kind))]
    omega
  · rw [joined_cons_cons]
    simp only [List.count_append, List.count_cons_self]
    omega

/-- What holds an entity has an id with fewer underscores. -/
theorem count_lt_of_split {text parent : String} {seq : Nat}
    (h : split kind text = .ok (parent, seq)) :
    (trimText parent).toList.count '_' < (trimText text).toList.count '_' := by
  obtain ⟨digits, hparts, -⟩ := parts?_of_split h
  rw [trimText, trimText, String.toList_ofList, String.toList_ofList]
  exact ((trim_sublist _).count_le _).trans_lt (count_lt_of_parts? hparts)

end Id

theorem VertexId.count_lt {text : String} {id : VertexId} (h : VertexId.parse text = .ok id) :
    id.dag.text.toList.count '_' < id.text.toList.count '_' := by
  obtain ⟨⟨parent, seq⟩, hsplit, h⟩ := bind_eq_ok_iff.1 h
  obtain ⟨dag, hdag, h⟩ := bind_eq_ok_iff.1 h
  cases h
  have hcount := Id.count_lt_of_split hsplit
  rw [DagId.parse] at hdag
  split at hdag
  · cases hdag
  · cases hdag
    exact hcount

theorem TaskId.count_lt {text : String} {id : TaskId} (h : TaskId.parse text = .ok id) :
    id.dag.text.toList.count '_' < id.text.toList.count '_' := by
  obtain ⟨⟨parent, seq⟩, hsplit, h⟩ := bind_eq_ok_iff.1 h
  obtain ⟨vertex, hvertex, h⟩ := bind_eq_ok_iff.1 h
  cases h
  have hcount := Id.count_lt_of_split hsplit
  rw [← VertexId.of_parse hvertex] at hcount
  exact (VertexId.count_lt hvertex).trans hcount

theorem AttemptId.count_lt {text : String} {id : AttemptId} (h : AttemptId.parse text = .ok id) :
    id.dag.text.toList.count '_' < id.text.toList.count '_' := by
  obtain ⟨⟨parent, seq⟩, hsplit, h⟩ := bind_eq_ok_iff.1 h
  obtain ⟨task, htask, h⟩ := bind_eq_ok_iff.1 h
  cases h
  have hcount := Id.count_lt_of_split hsplit
  rw [← (TaskId.of_parse htask).1] at hcount
  exact (TaskId.count_lt htask).trans hcount

end RunHistory
