import RunHistory.Failure
import RunHistory.Proofs.Entity.Refused
import RunHistory.Proofs.Entity.Terms

/-!
# Texts that are read as ids

Which texts are read as ids follows from the two ways of writing at each level.  At each level the
text is trimmed anew, so behind the id of a vertex or a task that holds an entity blanks are let
pass: `dag_1_vertex_1 _task_1` is read as an id of the same task as `dag_1_vertex_1_task_1`, and
its text is not the text of its vertex with a suffix.  Blanks stand nowhere else inside an id, and
without them the texts that are read are those of the terms.

## Main definitions

* `Id.Gap`: blanks behind the id of a parent.
* `Id.SpacedTask`, `Id.SpacedAttempt`: terms with gaps, with their texts and their ids.
* `Id.ReadAs`: a text is read as the term that it is the text of, or else is not well formed.
* `Id.ShortParts`: a text none of whose parts has too many digits to be read.

## Main results

* `Id.parse_vertex_eq_ok_iff`, `Id.parse_task_eq_ok_iff`, `Id.parse_attempt_eq_ok_iff`: **the texts
  that are read are those of terms, with gaps at most.**
* `Id.parse_readAs`: **every text is read as a term or refused as not well formed**, and a text
  without blanks inside is read as a term without gaps.
-/

namespace RunHistory

namespace Id

/-! ### Texts fall into parts in two ways only -/

variable {kind : Kind}

theorem exists_digits {gs : List (List Char)} (h : ∀ g ∈ gs, isNumber g = true) :
    ∃ digits : List Digits, gs = digits.map Digits.chars :=
  ⟨gs.pmap (fun g hg => ⟨g, hg⟩) h, by simp [List.map_pmap]⟩

/-- A text that has parts is written in one of the two ways. -/
theorem exists_of_parts? {cs parent digits : List Char}
    (h : parts? kind cs = some (parent, digits)) : ∃ last : Digits, last.chars = digits ∧
      ((∃ groups : List Digits, groups.length + 1 = groupCount kind ∧
          cs = joined (kind.idWord.toList :: (groups ++ [last]).map Digits.chars) ∧
          parent = joined ((parentKind kind).idWord.toList :: groups.map Digits.chars)) ∨
        fitsParent kind parent = true ∧ cs = joined [parent, kind.idWord.toList, digits]) := by
  rw [parts?] at h
  split at h
  · next gs hnative =>
    obtain ⟨hgroups, hcount, hnumbers⟩ := nativeGroups?_eq_some_iff.1 hnative
    obtain ⟨all, rfl⟩ := exists_digits hnumbers
    rw [List.length_map] at hcount
    rcases List.eq_nil_or_concat all with rfl | ⟨groups, last, rfl⟩
    · cases kind <;> cases hcount
    · rw [List.concat_eq_append] at *
      cases h
      refine ⟨last, by simp, .inl ⟨groups, by simpa using hcount, ?_, by simp⟩⟩
      rw [← hgroups, joined_groups]
  · split at h
    · next parent' digits' hembedded =>
      split at h
      · next hfits =>
        cases h
        obtain ⟨hnumber, htext⟩ := embeddedParts?_eq_some_iff.1 hembedded
        exact ⟨⟨digits, hnumber⟩, rfl, .inr ⟨hfits, htext⟩⟩
      · cases h
    · cases h

theorem exists_runName {parent : List Char} (h : fitsParent .vertex parent = true) :
    ∃ run : RunName, parent = run.text := by
  simp only [fitsParent, Bool.and_eq_true, Bool.not_eq_true', List.isEmpty_eq_false_iff,
    List.all_eq_true] at h
  obtain ⟨⟨hfront, hne⟩, hword⟩ := h
  refine ⟨⟨parent.drop 4, hne, hword⟩, ?_⟩
  rw [RunName.text, joined_cons_cons, joined_singleton]
  exact (List.prefix_iff_eq_append.1 (List.isPrefixOf_iff_prefix.1 hfront)).symm

/-- What is read of a native id. -/
theorem of_split_native {groups : List Digits} (hcount : groups.length + 1 = groupCount kind)
    {last : Digits} {parent : String} {seq : Nat}
    (h : split kind (String.ofList
        (joined (kind.idWord.toList :: (groups ++ [last]).map Digits.chars))) = .ok (parent, seq)) :
    last.chars.length ≤ maxDigits ∧
      parent = String.ofList (joined ((parentKind kind).idWord.toList ::
        groups.map Digits.chars)) := by
  obtain ⟨digits, hparts, hshort⟩ := parts?_of_split h
  rw [String.toList_ofList, (solid_native kind _).trim_self, parts?_native hcount] at hparts
  simp only [Option.some.injEq, Prod.mk.injEq] at hparts
  obtain ⟨hparent, rfl⟩ := hparts
  exact ⟨hshort, by rw [hparent, String.ofList_toList]⟩

/-! ### Gaps -/

/-- Blanks within a line, behind the id of a parent. -/
structure Gap where
  /-- The characters. -/
  chars : List Char
  /-- All are blank. -/
  blank : allBlank chars = true
  /-- None ends the line. -/
  inLine : ∀ c ∈ chars, c ≠ '\n'

/-- The text of a task's or an attempt's parent is trimmed, up to a gap behind it. -/
theorem exists_gap {cs parent rest : List Char} (hkind : kind ≠ .vertex)
    (hfits : fitsParent kind parent = true) (h : trim cs = parent ++ rest) :
    ∃ gap : Gap, parent = trim parent ++ gap.chars := by
  obtain ⟨hne, hline⟩ : parent ≠ [] ∧ ∀ c ∈ parent, c ≠ '\n' := by
    cases kind with
    | vertex => exact absurd rfl hkind
    | _ => simpa [fitsParent] using hfits
  have hfront : parent.dropWhile isBlank = parent := by
    obtain ⟨c, tail, rfl⟩ := List.exists_cons_of_ne_nil hne
    by_cases hc : isBlank c = true
    · have hkept := dropWhile_isBlank_trim cs
      rw [h, List.cons_append, List.dropWhile_cons_of_pos hc] at hkept
      have hlength := (List.dropWhile_suffix isBlank (l := tail ++ rest)).length_le
      rw [hkept, List.length_cons] at hlength
      omega
    · exact List.dropWhile_cons_of_neg hc
  refine ⟨⟨(parent.reverse.takeWhile isBlank).reverse, ?_, fun c hc => ?_⟩, ?_⟩
  · rw [allBlank, List.all_reverse, List.all_takeWhile]
  · refine hline c (List.mem_reverse.1 ((List.takeWhile_prefix isBlank).subset ?_))
    exact List.mem_reverse.1 hc
  · rw [trim, hfront, ← List.reverse_append, List.takeWhile_append_dropWhile, List.reverse_reverse]

theorem head?_groups_append_of_mem {cs : List Char} (h : '_' ∈ cs) (rest : List Char) :
    (groups (cs ++ rest)).head? = (groups cs).head? := by
  obtain ⟨front, back, rfl⟩ := List.append_of_mem h
  rw [List.append_assoc, List.cons_append, head?_groups_append, head?_groups_append]

/-- A text behind a trimmed one, with a gap between them, leaves nothing to be trimmed. -/
theorem trim_embedded {parent : List Char} (htrim : trim parent = parent) (hne : parent ≠ [])
    (gap : Gap) (kind : Kind) (last : Digits) :
    trim (joined [parent ++ gap.chars, kind.idWord.toList, last.chars]) =
      joined [parent ++ gap.chars, kind.idWord.toList, last.chars] := by
  have htext : joined [parent ++ gap.chars, kind.idWord.toList, last.chars] =
      parent ++ (gap.chars ++ '_' :: kind.idWord.toList ++ ['_']) ++ last.chars := by
    rw [joined_cons_cons, joined_cons_cons, joined_singleton]
    simp
  rw [htext]
  exact trim_between htrim hne last.solid.trim_self last.solid.1 _

/-- An embedded id of a task or an attempt, with a gap behind the id of its parent. -/
theorem split_spaced {parent : List Char} (hkind : kind ≠ .vertex) (htrim : trim parent = parent)
    (hline : ∀ c ∈ parent, c ≠ '\n') (hmem : '_' ∈ parent)
    (hword : (groups parent).head? ≠ some kind.idWord.toList) (gap : Gap) (last : SeqDigits) :
    split kind (String.ofList (joined [parent ++ gap.chars, kind.idWord.toList, last.chars])) =
      .ok (String.ofList (parent ++ gap.chars), digitsValue last.chars) := by
  have hne : parent ≠ [] := List.ne_nil_of_mem hmem
  have hfits : fitsParent kind (parent ++ gap.chars) = true := by
    refine fitsParent_of_inLine (by simp [hne]) (fun c hc => ?_) hkind
    exact (List.mem_append.1 hc).elim (hline c) (gap.inLine c)
  have hparts := parts?_embedded (by rwa [head?_groups_append_of_mem hmem]) hfits last.toDigits
  have h := @split_eq_ok kind [] [] _ _ last (trim_embedded htrim hne gap kind last.toDigits) rfl
    rfl hparts
  rwa [List.nil_append, List.append_nil] at h

/-- An id of a task, with a gap behind its vertex or not. -/
inductive SpacedTask where
  /-- Without gaps. -/
  | plain (t : TaskTerm)
  /-- The vertex, a gap, and the number of the task. -/
  | spaced (vertex : VertexTerm) (gap : Gap) (t : SeqDigits)

/-- An id of an attempt, with gaps behind its vertex and its task or not. -/
inductive SpacedAttempt where
  /-- Without gaps. -/
  | plain (t : AttemptTerm)
  /-- The task, a gap, and the number of the attempt. -/
  | spaced (task : SpacedTask) (gap : Gap) (n : SeqDigits)

namespace SpacedTask

/-- The text of an id. -/
def text : SpacedTask → List Char
  | .plain t => t.text
  | .spaced vertex gap t => joined [vertex.text ++ gap.chars, "task".toList, t.chars]

/-- The id that a term stands for. -/
def id : SpacedTask → TaskId
  | .plain t => t.id
  | .spaced vertex gap t =>
    ⟨String.ofList (text (.spaced vertex gap t)), vertex.id, digitsValue t.chars⟩

end SpacedTask

namespace SpacedAttempt

/-- The text of an id. -/
def text : SpacedAttempt → List Char
  | .plain t => t.text
  | .spaced task gap n => joined [task.text ++ gap.chars, "attempt".toList, n.chars]

/-- The id that a term stands for. -/
def id : SpacedAttempt → AttemptId
  | .plain t => t.id
  | .spaced task gap n =>
    ⟨String.ofList (text (.spaced task gap n)), task.id, digitsValue n.chars⟩

end SpacedAttempt

/-! ### Terms with gaps are read -/

theorem VertexTerm.mem_text (t : VertexTerm) : '_' ∈ t.text := by
  cases t <;> simp [VertexTerm.text, joined_cons_cons]

theorem SpacedTask.mem_text (t : SpacedTask) : '_' ∈ t.text := by
  cases t with
  | plain t => cases t <;> simp [SpacedTask.text, TaskTerm.text, joined_cons_cons]
  | spaced vertex gap t => simp [SpacedTask.text, joined_cons_cons]

theorem SpacedTask.trim_text (t : SpacedTask) : trim t.text = t.text := by
  cases t with
  | plain t => exact t.solid_text.trim_self
  | spaced vertex gap t =>
    exact trim_embedded vertex.solid_text.trim_self vertex.solid_text.1 gap .task t.toDigits

theorem SpacedAttempt.trim_text (t : SpacedAttempt) : trim t.text = t.text := by
  cases t with
  | plain t => exact t.solid_text.trim_self
  | spaced task gap n =>
    exact trim_embedded task.trim_text (List.ne_nil_of_mem task.mem_text) gap .attempt n.toDigits

theorem SpacedTask.inLine (t : SpacedTask) : ∀ c ∈ t.text, c ≠ '\n' := by
  cases t with
  | plain t => exact t.solid_text.inLine
  | spaced vertex gap t =>
    have hsuffix : ∀ c ∈ '_' :: joined ["task".toList, t.chars], c ≠ '\n' :=
      List.forall_mem_cons.2 ⟨by decide, (solid_native .task [t.toDigits]).inLine⟩
    intro c hc
    rw [SpacedTask.text, joined_cons_cons, List.append_assoc] at hc
    rcases List.mem_append.1 hc with hc | hc
    · exact vertex.solid_text.inLine c hc
    · exact (List.mem_append.1 hc).elim (gap.inLine c) (hsuffix c)

theorem SpacedTask.head?_text (t : SpacedTask) :
    (groups t.text).head? = some "task".toList ∨ (groups t.text).head? = some "vertex".toList ∨
      (groups t.text).head? = some "dag".toList := by
  cases t with
  | plain t => exact t.head?_text
  | spaced vertex gap t =>
    rw [SpacedTask.text, head?_groups_joined, head?_groups_append_of_mem vertex.mem_text]
    exact .inr vertex.head?_text

theorem SpacedTask.parse_text (t : SpacedTask) :
    TaskId.parse (String.ofList t.text) = .ok t.id := by
  cases t with
  | plain t => exact t.parse_text
  | spaced vertex gap t =>
    have hword : (groups vertex.text).head? ≠ some Kind.task.idWord.toList := by
      rcases vertex.head?_text with h | h <;> rw [h] <;> decide
    have hsplit : split .task (String.ofList (SpacedTask.spaced vertex gap t).text) = _ :=
      split_spaced (by decide) vertex.solid_text.trim_self vertex.solid_text.inLine
        vertex.mem_text hword gap t
    have hvertex : VertexId.parse (String.ofList (vertex.text ++ gap.chars)) = .ok vertex.id :=
      @VertexTerm.parse_padded [] gap.chars vertex rfl gap.blank
    rw [TaskId.parse, hsplit, ok_bind]
    simp only
    rw [hvertex, ok_bind, trimText, String.toList_ofList, SpacedTask.trim_text]
    rfl

theorem SpacedTask.parse_gap (t : SpacedTask) (gap : Gap) :
    TaskId.parse (String.ofList (t.text ++ gap.chars)) = .ok t.id := by
  have htrim : trim (t.text ++ gap.chars) = t.text := by
    have h := @trim_padded [] gap.chars rfl gap.blank t.text
    rwa [List.nil_append, t.trim_text] at h
  rw [← TaskId.parse_trimText, trimText, String.toList_ofList, htrim, t.parse_text]

theorem AttemptTerm.parse_text (t : AttemptTerm) :
    AttemptId.parse (String.ofList t.text) = .ok t.id := by
  have h := @AttemptTerm.parse_padded [] [] t rfl rfl
  rwa [List.nil_append, List.append_nil] at h

theorem SpacedAttempt.parse_text (t : SpacedAttempt) :
    AttemptId.parse (String.ofList t.text) = .ok t.id := by
  cases t with
  | plain t => exact t.parse_text
  | spaced task gap n =>
    have hword : (groups task.text).head? ≠ some Kind.attempt.idWord.toList := by
      rcases task.head?_text with h | h | h <;> rw [h] <;> decide
    have hsplit : split .attempt (String.ofList (SpacedAttempt.spaced task gap n).text) = _ :=
      split_spaced (by decide) task.trim_text task.inLine task.mem_text hword gap n
    rw [AttemptId.parse, hsplit, ok_bind]
    simp only
    rw [task.parse_gap gap, ok_bind, trimText, String.toList_ofList, SpacedAttempt.trim_text]
    rfl

/-! ### Nothing else is read -/

theorem exists_vertexTerm {text : String} {id : VertexId} (h : VertexId.parse text = .ok id) :
    ∃ t : VertexTerm, trim text.toList = t.text := by
  obtain ⟨⟨parent, seq⟩, hsplit, -⟩ := bind_eq_ok_iff.1 h
  obtain ⟨digits, hparts, hshort⟩ := parts?_of_split hsplit
  obtain ⟨last, rfl, ⟨groups, hcount, htext, -⟩ | ⟨hfits, htext⟩⟩ := exists_of_parts? hparts
  · obtain ⟨a, b, c, rfl⟩ := List.length_eq_three.1 (Nat.succ.inj hcount)
    exact ⟨.native a b c ⟨last, hshort⟩, htext⟩
  · obtain ⟨run, hrun⟩ := exists_runName hfits
    exact ⟨.embedded run ⟨last, hshort⟩, by rw [htext, hrun]; rfl⟩

theorem exists_spacedTask {text : String} {id : TaskId} (h : TaskId.parse text = .ok id) :
    ∃ t : SpacedTask, trim text.toList = t.text := by
  obtain ⟨⟨parent, seq⟩, hsplit, h⟩ := bind_eq_ok_iff.1 h
  obtain ⟨vertex, hvertex, -⟩ := bind_eq_ok_iff.1 h
  obtain ⟨digits, hparts, hshort⟩ := parts?_of_split hsplit
  obtain ⟨last, rfl, ⟨groups, hcount, htext, hparent⟩ | ⟨hfits, htext⟩⟩ := exists_of_parts? hparts
  · obtain ⟨a, groups, rfl⟩ := List.exists_cons_of_length_eq_add_one (Nat.succ.inj hcount)
    obtain ⟨b, c, v, rfl⟩ := List.length_eq_three.1 (Nat.succ.inj (Nat.succ.inj hcount))
    -- the number of the vertex is short, since the vertex is read in its turn
    obtain ⟨⟨run, seq⟩, hsplit, -⟩ := bind_eq_ok_iff.1 hvertex
    rw [← String.ofList_toList (s := parent), hparent] at hsplit
    obtain ⟨hv, -⟩ := @of_split_native .vertex [a, b, c] rfl v _ _ hsplit
    exact ⟨.plain (.native a b c ⟨v, hv⟩ ⟨last, hshort⟩), htext⟩
  · obtain ⟨vertex, hvertex⟩ := exists_vertexTerm hvertex
    obtain ⟨gap, hgap⟩ := exists_gap (by decide) hfits (htext.trans (joined_cons_cons ..))
    exact ⟨.spaced vertex gap ⟨last, hshort⟩, by rw [htext, hgap, hvertex]; rfl⟩

theorem exists_spacedAttempt {text : String} {id : AttemptId}
    (h : AttemptId.parse text = .ok id) : ∃ t : SpacedAttempt, trim text.toList = t.text := by
  obtain ⟨⟨parent, seq⟩, hsplit, h⟩ := bind_eq_ok_iff.1 h
  obtain ⟨task, htask, -⟩ := bind_eq_ok_iff.1 h
  obtain ⟨digits, hparts, hshort⟩ := parts?_of_split hsplit
  obtain ⟨last, rfl, ⟨groups, hcount, htext, hparent⟩ | ⟨hfits, htext⟩⟩ := exists_of_parts? hparts
  · obtain ⟨a, groups, rfl⟩ := List.exists_cons_of_length_eq_add_one (Nat.succ.inj hcount)
    obtain ⟨b, groups, rfl⟩ :=
      List.exists_cons_of_length_eq_add_one (Nat.succ.inj (Nat.succ.inj hcount))
    obtain ⟨c, v, t, rfl⟩ :=
      List.length_eq_three.1 (Nat.succ.inj (Nat.succ.inj (Nat.succ.inj hcount)))
    -- the numbers of the task and the vertex are short, since these are read in their turn
    obtain ⟨⟨above, seq⟩, hsplit, htask⟩ := bind_eq_ok_iff.1 htask
    obtain ⟨vertex, hvertex, -⟩ := bind_eq_ok_iff.1 htask
    rw [← String.ofList_toList (s := parent), hparent] at hsplit
    obtain ⟨ht, habove⟩ := @of_split_native .task [a, b, c, v] rfl t _ _ hsplit
    obtain ⟨⟨run, seq⟩, hsplit, -⟩ := bind_eq_ok_iff.1 hvertex
    rw [habove] at hsplit
    obtain ⟨hv, -⟩ := @of_split_native .vertex [a, b, c] rfl v _ _ hsplit
    exact ⟨.plain (.native a b c ⟨v, hv⟩ ⟨t, ht⟩ ⟨last, hshort⟩), htext⟩
  · obtain ⟨task, htask⟩ := exists_spacedTask htask
    obtain ⟨gap, hgap⟩ := exists_gap (by decide) hfits (htext.trans (joined_cons_cons ..))
    exact ⟨.spaced task gap ⟨last, hshort⟩, by rw [htext, hgap, htask]; rfl⟩

section Reading

variable {Term α : Type} {parse : String → Except IdFault α} {written : Term → List Char}
  {read : Term → α}

theorem parse_eq_ok_iff_of_terms (htrim : ∀ text, parse (trimText text) = parse text)
    (hread : ∀ t, parse (String.ofList (written t)) = .ok (read t))
    (hterm : ∀ {text id}, parse text = .ok id → ∃ t, trim text.toList = written t)
    {text : String} {id : α} :
    parse text = .ok id ↔ ∃ t, trim text.toList = written t ∧ read t = id := by
  have hok : ∀ t, trim text.toList = written t → parse text = .ok (read t) := by
    intro t ht
    rw [← htrim, trimText, ht, hread]
  constructor
  · intro h
    obtain ⟨t, ht⟩ := hterm h
    exact ⟨t, ht, Except.ok.inj ((hok t ht).symm.trans h)⟩
  · rintro ⟨t, ht, rfl⟩
    exact hok t ht

/-- A text, without the blanks around it, is that of a term and is read as the id that the term
stands for; or it is that of none and is refused as not well formed. -/
def ReadAs (parse : String → Except IdFault α) (written : Term → List Char) (read : Term → α)
    (text : String) : Prop :=
  (∃ t, trim text.toList = written t ∧ parse text = .ok (read t)) ∨
    (∀ t, trim text.toList ≠ written t) ∧
      ∃ fault, parse text = .error fault ∧ (Failure.ofId fault).category = .malformedInput

/-- No sequence number in the text of an id has too many digits. -/
def ShortParts (kind : Kind) (text : String) : Prop :=
  ∀ part, SeqPart kind text.toList part → part.length ≤ maxDigits

theorem readAs_of_iff {text : String}
    (hiff : ∀ id, parse text = .ok id ↔ ∃ t, trim text.toList = written t ∧ read t = id)
    (hdigits : ∀ {count}, parse text = .error (.tooManyDigits count) →
      ∃ part, SeqPart kind text.toList part ∧ part.length = count ∧ maxDigits < count)
    (hshort : ShortParts kind text) : ReadAs parse written read text := by
  cases h : parse text with
  | ok id =>
    obtain ⟨t, ht, rfl⟩ := (hiff id).1 h
    exact .inl ⟨t, ht, h⟩
  | error fault =>
    refine .inr ⟨fun t ht => ?_, fault, h, ?_⟩
    · have hok := (hiff (read t)).2 ⟨t, ht, rfl⟩
      rw [h] at hok
      cases hok
    · cases fault with
      | unreadable kind shown => rfl
      | tooManyDigits count =>
        obtain ⟨part, hpart, hlength, hlong⟩ := hdigits h
        have := hshort part hpart
        omega

end Reading

theorem parse_vertex_eq_ok_iff {text : String} {id : VertexId} :
    VertexId.parse text = .ok id ↔ ∃ t : VertexTerm, trim text.toList = t.text ∧ t.id = id :=
  parse_eq_ok_iff_of_terms VertexId.parse_trimText VertexTerm.parse_text exists_vertexTerm

theorem parse_task_eq_ok_iff {text : String} {id : TaskId} :
    TaskId.parse text = .ok id ↔ ∃ t : SpacedTask, trim text.toList = t.text ∧ t.id = id :=
  parse_eq_ok_iff_of_terms TaskId.parse_trimText SpacedTask.parse_text exists_spacedTask

theorem parse_attempt_eq_ok_iff {text : String} {id : AttemptId} :
    AttemptId.parse text = .ok id ↔ ∃ t : SpacedAttempt, trim text.toList = t.text ∧ t.id = id :=
  parse_eq_ok_iff_of_terms AttemptId.parse_trimText SpacedAttempt.parse_text exists_spacedAttempt

/-! ### Texts without blanks inside -/

theorem Gap.eq_nil {gap : Gap} (h : ∀ c ∈ gap.chars, isBlank c = false) : gap.chars = [] := by
  cases hchars : gap.chars with
  | nil => rfl
  | cons c rest =>
    have hc : c ∈ gap.chars := by rw [hchars]; exact List.mem_cons_self
    have := List.all_eq_true.1 gap.blank c hc
    rw [h c hc] at this
    cases this

/-- Without blanks there are no gaps. -/
theorem SpacedTask.exists_plain {t : SpacedTask} (h : ∀ c ∈ t.text, isBlank c = false) :
    ∃ s : TaskTerm, t.text = s.text ∧ t.id = s.id := by
  cases t with
  | plain t => exact ⟨t, rfl, rfl⟩
  | spaced vertex gap t =>
    have hgap : gap.chars = [] := Gap.eq_nil fun c hc => h c (by
      rw [SpacedTask.text, joined_cons_cons]
      simp [hc])
    refine ⟨.embedded vertex t, ?_, ?_⟩
    · rw [SpacedTask.text, hgap, List.append_nil, TaskTerm.text]
    · rw [SpacedTask.id, SpacedTask.text, hgap, List.append_nil]
      rfl

theorem SpacedAttempt.exists_plain {t : SpacedAttempt} (h : ∀ c ∈ t.text, isBlank c = false) :
    ∃ s : AttemptTerm, t.text = s.text ∧ t.id = s.id := by
  cases t with
  | plain t => exact ⟨t, rfl, rfl⟩
  | spaced task gap n =>
    have hfront : ∀ c ∈ task.text ++ gap.chars, isBlank c = false := fun c hc => h c (by
      rw [SpacedAttempt.text, joined_cons_cons]
      exact List.mem_append_left _ hc)
    have hgap : gap.chars = [] := Gap.eq_nil fun c hc => hfront c (List.mem_append_right _ hc)
    obtain ⟨s, htext, hid⟩ :=
      SpacedTask.exists_plain fun c hc => hfront c (List.mem_append_left _ hc)
    refine ⟨.embedded s n, ?_, ?_⟩
    · rw [SpacedAttempt.text, hgap, List.append_nil, htext, AttemptTerm.text]
    · rw [SpacedAttempt.id, SpacedAttempt.text, hgap, List.append_nil, htext, hid]
      rfl

/-! ### Texts too short for long numbers -/

theorem length_le_of_parts? {cs parent digits : List Char}
    (h : parts? kind cs = some (parent, digits)) :
    parent.length ≤ cs.length ∧ digits.length ≤ cs.length := by
  obtain ⟨last, rfl, ⟨groups, hcount, rfl, rfl⟩ | ⟨-, rfl⟩⟩ := exists_of_parts? h
  · have hne : groups.map Digits.chars ≠ [] := by
      rintro hnil
      rw [List.map_eq_nil_iff.1 hnil] at hcount
      cases kind <;> cases hcount
    -- the word of the parent is longer by two characters at most, and a digit stands behind
    have hword : (parentKind kind).idWord.toList.length ≤ kind.idWord.toList.length + 2 := by
      cases kind <;> decide
    have hlast := List.length_pos_of_ne_nil (isNumber_iff.1 last.isNumber).1
    rw [List.map_append, List.map_singleton, ← List.cons_append, joined_concat (by simp),
      joined_cons hne, joined_cons hne]
    simp only [List.length_append, List.length_cons]
    omega
  · rw [joined_cons_cons, joined_cons_cons, joined_singleton]
    simp only [List.length_append, List.length_cons]
    omega

theorem SeqPart.length_le {cs part : List Char} (h : SeqPart kind cs part) :
    part.length ≤ cs.length := by
  induction h with
  | @last kind cs parent digits h =>
    exact (length_le_of_parts? h).2.trans (trim_sublist cs).length_le
  | @above kind cs parent digits part _ h _ ih =>
    exact ih.trans ((length_le_of_parts? h).1.trans (trim_sublist cs).length_le)

theorem shortParts_of_length_le {text : String} (h : text.toList.length ≤ maxDigits) :
    ShortParts kind text := fun _ hpart => hpart.length_le.trans h

/-! ### Every text -/

theorem readAs_task {text : String} (hshort : ShortParts .task text) :
    ReadAs TaskId.parse SpacedTask.text SpacedTask.id text :=
  readAs_of_iff (fun _ => parse_task_eq_ok_iff) TaskId.exists_seqPart hshort

theorem readAs_attempt {text : String} (hshort : ShortParts .attempt text) :
    ReadAs AttemptId.parse SpacedAttempt.text SpacedAttempt.id text :=
  readAs_of_iff (fun _ => parse_attempt_eq_ok_iff) AttemptId.exists_seqPart hshort

/-- **Every text is read as the id of a term, with gaps at most, or refused as not well formed**,
unless it has too many digits for a number.  A text without blanks inside is read as the id of a
term without gaps, so that the text of an embedded id is the text of its parent with a suffix. -/
theorem parse_readAs (text : String) :
    (ShortParts .vertex text → ReadAs VertexId.parse VertexTerm.text VertexTerm.id text) ∧
    (ShortParts .task text → ReadAs TaskId.parse SpacedTask.text SpacedTask.id text) ∧
    (ShortParts .attempt text → ReadAs AttemptId.parse SpacedAttempt.text SpacedAttempt.id text) ∧
    ((∀ c ∈ trim text.toList, isBlank c = false) →
      (ShortParts .task text → ReadAs TaskId.parse TaskTerm.text TaskTerm.id text) ∧
      (ShortParts .attempt text →
        ReadAs AttemptId.parse AttemptTerm.text AttemptTerm.id text)) := by
  refine ⟨?_, readAs_task, readAs_attempt, fun hsolid => ⟨?_, ?_⟩⟩
  · exact readAs_of_iff (fun _ => parse_vertex_eq_ok_iff) VertexId.exists_seqPart
  · refine readAs_of_iff (fun id => parse_task_eq_ok_iff.trans ⟨?_, ?_⟩) TaskId.exists_seqPart
    · rintro ⟨t, ht, rfl⟩
      obtain ⟨s, htext, hid⟩ := SpacedTask.exists_plain (ht ▸ hsolid)
      exact ⟨s, ht.trans htext, hid.symm⟩
    · rintro ⟨s, hs, rfl⟩
      exact ⟨.plain s, hs, rfl⟩
  · refine readAs_of_iff (fun id => parse_attempt_eq_ok_iff.trans ⟨?_, ?_⟩) AttemptId.exists_seqPart
    · rintro ⟨t, ht, rfl⟩
      obtain ⟨s, htext, hid⟩ := SpacedAttempt.exists_plain (ht ▸ hsolid)
      exact ⟨s, ht.trans htext, hid.symm⟩
    · rintro ⟨s, hs, rfl⟩
      exact ⟨.plain s, hs, rfl⟩

/-- A native id stands inside an embedded one. -/
theorem parse_readAs_mixed :
    (∃ t : AttemptTerm, AttemptId.parse "\tvertex_1_2_3_04_task_5_attempt_6 " = .ok t.id) ∧
      ∃ fault, TaskId.parse "\tvertex_1_2_3_04_task_5_attempt_6 " = .error fault ∧
        (Failure.ofId fault).category = .malformedInput := by
  have hshort : ∀ kind, ShortParts kind "\tvertex_1_2_3_04_task_5_attempt_6 " := fun kind =>
    shortParts_of_length_le (by decide)
  obtain ⟨-, -, -, h⟩ := parse_readAs "\tvertex_1_2_3_04_task_5_attempt_6 "
  have hall : (trim "\tvertex_1_2_3_04_task_5_attempt_6 ".toList).all
      (fun c => !isBlank c) = true := by decide +kernel
  obtain ⟨htask, hattempt⟩ := h fun c hc => by simpa using List.all_eq_true.1 hall c hc
  constructor
  · rcases hattempt (hshort .attempt) with ⟨t, -, ht⟩ | ⟨hnone, -⟩
    · exact ⟨t, ht⟩
    · refine (hnone (.embedded (.embedded
        (.native ⟨"1".toList, by decide⟩ ⟨"2".toList, by decide⟩ ⟨"3".toList, by decide⟩
          ⟨⟨"04".toList, by decide⟩, by decide⟩) ⟨⟨"5".toList, by decide⟩, by decide⟩)
        ⟨⟨"6".toList, by decide⟩, by decide⟩) ?_).elim
      decide +kernel
  · rcases htask (hshort .task) with ⟨t, -, ht⟩ | ⟨-, hfault⟩
    · have hrefused : (TaskId.parse "\tvertex_1_2_3_04_task_5_attempt_6 ").toOption = none := by
        decide +kernel
      rw [ht] at hrefused
      cases hrefused
    · exact hfault

/-- Two ids are read for one task, and the text of one of them is not that of a term. -/
theorem two_ids_of_task :
    TaskId.parse "dag_1_vertex_1 _task_1" =
      .ok ⟨"dag_1_vertex_1 _task_1", ⟨"dag_1_vertex_1", ⟨"dag_1"⟩, 1⟩, 1⟩ ∧
    TaskId.parse "dag_1_vertex_1_task_1" =
      .ok ⟨"dag_1_vertex_1_task_1", ⟨"dag_1_vertex_1", ⟨"dag_1"⟩, 1⟩, 1⟩ ∧
    ShortParts .task "dag_1_vertex_1 _task_1" ∧
    ∀ t : TaskTerm, trim "dag_1_vertex_1 _task_1".toList ≠ t.text := by
  refine ⟨by decide +kernel, by decide +kernel, shortParts_of_length_le (by decide), fun t ht => ?_⟩
  have hmem : ' ' ∈ trim "dag_1_vertex_1 _task_1".toList := by decide +kernel
  have hsolid := t.solid_text.2 ' ' (ht ▸ hmem)
  exact absurd hsolid (by decide)

end Id

end RunHistory
