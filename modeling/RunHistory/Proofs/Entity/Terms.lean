import RunHistory.Proofs.Entity.Groups
import RunHistory.Proofs.Entity.Trimming

/-!
# The language of ids

An id of a vertex, a task or an attempt is a term: native, or the term of what holds it with a
number behind it.  The text of a term is read back as the id that the term stands for, at every
level and with any blanks around the text.  Neither way of writing can be taken for the other, since
they begin with different words, and the end of an embedded id is found from the right, whatever the
name of the run contains.

## Main definitions

* `Id.Digits`, `Id.SeqDigits`, `Id.RunName`: what ids are made of.
* `Id.VertexTerm`, `Id.TaskTerm`, `Id.AttemptTerm`: the terms, with their texts and their ids.

## Main results

* `Id.split_native`, `Id.split_embedded`: the two ways of writing, for all kinds.
* `Id.parse_term`: **ids are read back from the texts of their terms.**
-/

namespace RunHistory

namespace Id

/-! ### Texts without blanks -/

/-- A text that is not empty and has no blanks. -/
def Solid (cs : List Char) : Prop := cs ≠ [] ∧ ∀ c ∈ cs, isBlank c = false

instance : DecidablePred Solid := fun cs =>
  have := List.decidableBAll (fun c => isBlank c = false) cs
  inferInstanceAs (Decidable (_ ∧ _))

theorem Solid.not_allBlank {cs : List Char} (h : Solid cs) : allBlank cs = false := by
  obtain ⟨c, rest, rfl⟩ := List.exists_cons_of_ne_nil h.1
  simp [allBlank, h.2 c List.mem_cons_self]

theorem Solid.trim_self {cs : List Char} (h : Solid cs) : trim cs = cs := by
  have hkept : ∀ l : List Char, l ≠ [] → (∀ c ∈ l, isBlank c = false) → l.dropWhile isBlank = l := by
    intro l hne hl
    obtain ⟨c, rest, rfl⟩ := List.exists_cons_of_ne_nil hne
    rw [List.dropWhile_cons, if_neg (by simp [hl c List.mem_cons_self])]
  rw [trim, hkept cs h.1 h.2, hkept _ (List.reverse_ne_nil_iff.2 h.1)
    fun c hc => h.2 c (List.mem_reverse.1 hc), List.reverse_reverse]

/-- Only the blanks around such a text are trimmed. -/
theorem Solid.trim_eq {cs : List Char} (h : Solid cs) {front back : List Char}
    (hfront : allBlank front = true) (hback : allBlank back = true) :
    trim (front ++ cs ++ back) = cs := by
  rw [trim_padded hfront hback, h.trim_self]

theorem solid_joined {parts : List (List Char)} (hne : parts ≠ []) (h : ∀ p ∈ parts, Solid p) :
    Solid (joined parts) := by
  induction parts with
  | nil => exact absurd rfl hne
  | cons part parts ih =>
    have hpart := h part List.mem_cons_self
    by_cases hlast : parts = []
    · rw [hlast, joined_singleton]
      exact hpart
    · obtain ⟨-, hrest⟩ := ih hlast fun p hp => h p (List.mem_cons_of_mem part hp)
      rw [joined_cons hlast]
      refine ⟨by simp, fun c hc => ?_⟩
      rcases List.mem_append.1 hc with hc | hc
      · exact hpart.2 c hc
      · rcases List.mem_cons.1 hc with rfl | hc
        · decide
        · exact hrest c hc

theorem solid_idWord (kind : Kind) : Solid kind.idWord.toList := by
  cases kind <;> decide

theorem notMem_idWord (kind : Kind) : '_' ∉ kind.idWord.toList := by
  cases kind <;> decide

/-! ### What ids are made of -/

/-- A group of digits. -/
structure Digits where
  /-- The digits. -/
  chars : List Char
  /-- There is one at least, and all are digits. -/
  isNumber : Id.isNumber chars = true

/-- A group of digits that is no longer than a sequence number may be. -/
structure SeqDigits extends Digits where
  /-- There are not too many. -/
  short : chars.length ≤ maxDigits

/-- The name of a run in an embedded id, after the word `dag` and the underscore. -/
structure RunName where
  /-- The characters. -/
  chars : List Char
  /-- There is one at least. -/
  ne_nil : chars ≠ []
  /-- All may stand in words; so may the underscores that ids are divided at. -/
  isWord : ∀ c ∈ chars, isWord c = true

theorem Digits.solid (g : Digits) : Solid g.chars := by
  obtain ⟨hne, hdigits⟩ := isNumber_iff.1 g.isNumber
  exact ⟨hne, fun c hc => not_isBlank_of_isDigit (hdigits c hc)⟩

theorem solid_native (kind : Kind) (groups : List Digits) :
    Solid (joined (kind.idWord.toList :: groups.map Digits.chars)) := by
  refine solid_joined (by simp) fun g hg => ?_
  rcases List.mem_cons.1 hg with rfl | hg
  · exact solid_idWord kind
  · obtain ⟨x, -, rfl⟩ := List.mem_map.1 hg
    exact x.solid

theorem Solid.embedded {parent : List Char} (h : Solid parent) (kind : Kind) (last : Digits) :
    Solid (joined [parent, kind.idWord.toList, last.chars]) :=
  solid_joined (by simp) (by simp [h, solid_idWord, last.solid])

/-- The id of a run with a name, as text. -/
def RunName.text (run : RunName) : List Char := joined ["dag".toList, run.chars]

theorem RunName.solid_text (run : RunName) : Solid run.text := by
  have hchars : Solid run.chars :=
    ⟨run.ne_nil, fun c hc => not_isBlank_of_isWord (run.isWord c hc)⟩
  exact solid_joined (by simp)
    (List.forall_mem_cons.2 ⟨solid_idWord .dag, List.forall_mem_singleton.2 hchars⟩)

/-! ### The two ways of writing -/

variable {kind : Kind} {front back : List Char}

theorem split_eq_ok {text parent : List Char} {last : SeqDigits} (htext : trim text = text)
    (hfront : allBlank front = true) (hback : allBlank back = true)
    (hparts : parts? kind text = some (parent, last.chars)) :
    split kind (String.ofList (front ++ text ++ back)) =
      .ok (String.ofList parent, digitsValue last.chars) := by
  rw [split, String.toList_ofList, trim_padded hfront hback, htext, hparts]
  simp only
  rw [if_neg (by have := last.short; omega)]

theorem parts?_native {groups : List Digits} (hcount : groups.length + 1 = groupCount kind)
    (last : Digits) :
    parts? kind (joined (kind.idWord.toList :: (groups ++ [last]).map Digits.chars)) =
      some (joined ((parentKind kind).idWord.toList :: groups.map Digits.chars), last.chars) := by
  have hnumbers : ∀ g ∈ (groups ++ [last]).map Digits.chars, Id.isNumber g = true := by
    intro g hg
    obtain ⟨x, -, rfl⟩ := List.mem_map.1 hg
    exact x.isNumber
  have hgroups := groups_joined
    (List.cons_ne_nil kind.idWord.toList ((groups ++ [last]).map Digits.chars)) (by
      intro g hg
      rcases List.mem_cons.1 hg with rfl | hg
      · exact notMem_idWord kind
      · exact notMem_of_isNumber (hnumbers g hg))
  have hnative := nativeGroups?_eq_some_iff.2 ⟨hgroups, by simpa using hcount, hnumbers⟩
  rw [parts?, hnative]
  simp

/-- A native id with blanks around it. -/
theorem split_native {groups : List Digits} (hcount : groups.length + 1 = groupCount kind)
    (last : SeqDigits) (hfront : allBlank front = true) (hback : allBlank back = true) :
    split kind (String.ofList (front ++
        joined (kind.idWord.toList :: (groups ++ [last.toDigits]).map Digits.chars) ++ back)) =
      .ok (String.ofList (joined ((parentKind kind).idWord.toList :: groups.map Digits.chars)),
        digitsValue last.chars) :=
  split_eq_ok (solid_native kind _).trim_self hfront hback (parts?_native hcount last.toDigits)

/-- The parent's text does not begin like a native id. -/
theorem parts?_embedded {parent : List Char}
    (hword : (groups parent).head? ≠ some kind.idWord.toList)
    (hfits : fitsParent kind parent = true) (last : Digits) :
    parts? kind (joined [parent, kind.idWord.toList, last.chars]) = some (parent, last.chars) := by
  -- a native id begins with the word of its kind, and the parent's text begins with another
  have hnative : nativeGroups? kind.idWord (groupCount kind)
      (joined [parent, kind.idWord.toList, last.chars]) = none := by
    rw [Option.eq_none_iff_forall_ne_some]
    intro gs hgs
    obtain ⟨hgroups, -⟩ := nativeGroups?_eq_some_iff.1 hgs
    have hhead := head?_groups_append parent (joined [kind.idWord.toList, last.chars])
    rw [← joined_cons_cons, hgroups] at hhead
    exact hword hhead.symm
  have hparts : embeddedParts? kind.idWord (joined [parent, kind.idWord.toList, last.chars]) =
      some (parent, last.chars) := embeddedParts?_eq_some_iff.2 ⟨last.isNumber, rfl⟩
  rw [parts?, hnative, hparts]
  simp [hfits]

/-- An embedded id with blanks around it. -/
theorem split_embedded {parent : List Char} (hsolid : Solid parent)
    (hword : (groups parent).head? ≠ some kind.idWord.toList)
    (hfits : fitsParent kind parent = true) (last : SeqDigits)
    (hfront : allBlank front = true) (hback : allBlank back = true) :
    split kind (String.ofList (front ++ joined [parent, kind.idWord.toList, last.chars] ++ back)) =
      .ok (String.ofList parent, digitsValue last.chars) :=
  split_eq_ok (hsolid.embedded kind last.toDigits).trim_self hfront hback
    (parts?_embedded hword hfits last.toDigits)

/-- Any text within one line may stand for the parent of a task or an attempt. -/
theorem fitsParent_of_inLine {cs : List Char} (hne : cs ≠ []) (hline : ∀ c ∈ cs, c ≠ '\n')
    (hkind : kind ≠ .vertex) : fitsParent kind cs = true := by
  cases kind with
  | vertex => exact absurd rfl hkind
  | _ => simpa [fitsParent, hne] using hline

theorem Solid.inLine {cs : List Char} (h : Solid cs) : ∀ c ∈ cs, c ≠ '\n' := by
  rintro c hc rfl
  exact absurd (h.2 _ hc) (by decide)

theorem fitsParent_of_solid {cs : List Char} (h : Solid cs) (hkind : kind ≠ .vertex) :
    fitsParent kind cs = true :=
  fitsParent_of_inLine h.1 h.inLine hkind

theorem RunName.fitsParent (run : RunName) : fitsParent .vertex run.text = true := by
  have htext : run.text = "dag_".toList ++ run.chars := by
    rw [RunName.text, joined_cons_cons, joined_singleton]
    rfl
  have hdrop : ("dag_".toList ++ run.chars).drop 4 = run.chars := rfl
  rw [htext, Id.fitsParent, hdrop]
  simpa [run.ne_nil] using run.isWord

/-! ### Terms -/

/-- An id of a vertex. -/
inductive VertexTerm where
  /-- Native: the groups of the run, and the number of the vertex. -/
  | native (a b c : Digits) (v : SeqDigits)
  /-- Embedded: the name of the run, and the number of the vertex. -/
  | embedded (run : RunName) (v : SeqDigits)

/-- An id of a task. -/
inductive TaskTerm where
  /-- Native: the groups of the run, and the numbers of the vertex and the task. -/
  | native (a b c : Digits) (v t : SeqDigits)
  /-- Embedded: the vertex, and the number of the task. -/
  | embedded (vertex : VertexTerm) (t : SeqDigits)

/-- An id of an attempt. -/
inductive AttemptTerm where
  /-- Native: the groups of the run, and the numbers of the vertex, the task and the attempt. -/
  | native (a b c : Digits) (v t n : SeqDigits)
  /-- Embedded: the task, and the number of the attempt. -/
  | embedded (task : TaskTerm) (n : SeqDigits)

namespace VertexTerm

/-- The text of an id. -/
def text : VertexTerm → List Char
  | .native a b c v => joined ["vertex".toList, a.chars, b.chars, c.chars, v.chars]
  | .embedded run v => joined [run.text, "vertex".toList, v.chars]

/-- The text of the id of the run. -/
def run : VertexTerm → List Char
  | .native a b c _ => joined ["dag".toList, a.chars, b.chars, c.chars]
  | .embedded run _ => run.text

/-- The last group of digits. -/
def seq : VertexTerm → List Char
  | .native _ _ _ v => v.chars
  | .embedded _ v => v.chars

/-- The id that a term stands for. -/
def id (t : VertexTerm) : VertexId :=
  ⟨String.ofList t.text, ⟨String.ofList t.run⟩, digitsValue t.seq⟩

end VertexTerm

namespace TaskTerm

/-- The text of an id. -/
def text : TaskTerm → List Char
  | .native a b c v t => joined ["task".toList, a.chars, b.chars, c.chars, v.chars, t.chars]
  | .embedded vertex t => joined [vertex.text, "task".toList, t.chars]

/-- The vertex of the task. -/
def vertex : TaskTerm → VertexTerm
  | .native a b c v _ => .native a b c v
  | .embedded vertex _ => vertex

/-- The last group of digits. -/
def seq : TaskTerm → List Char
  | .native _ _ _ _ t => t.chars
  | .embedded _ t => t.chars

/-- The id that a term stands for. -/
def id (t : TaskTerm) : TaskId := ⟨String.ofList t.text, t.vertex.id, digitsValue t.seq⟩

end TaskTerm

namespace AttemptTerm

/-- The text of an id. -/
def text : AttemptTerm → List Char
  | .native a b c v t n =>
    joined ["attempt".toList, a.chars, b.chars, c.chars, v.chars, t.chars, n.chars]
  | .embedded task n => joined [task.text, "attempt".toList, n.chars]

/-- The task of the attempt. -/
def task : AttemptTerm → TaskTerm
  | .native a b c v t _ => .native a b c v t
  | .embedded task _ => task

/-- The last group of digits. -/
def seq : AttemptTerm → List Char
  | .native _ _ _ _ _ n => n.chars
  | .embedded _ n => n.chars

/-- The id that a term stands for. -/
def id (t : AttemptTerm) : AttemptId := ⟨String.ofList t.text, t.task.id, digitsValue t.seq⟩

end AttemptTerm

/-! ### Reading terms -/

theorem head?_groups_joined (part next : List Char) (parts : List (List Char)) :
    (groups (joined (part :: next :: parts))).head? = (groups part).head? := by
  rw [joined_cons_cons, head?_groups_append]

theorem VertexTerm.solid_run (t : VertexTerm) : Solid t.run := by
  cases t with
  | native a b c v => exact solid_native .dag [a, b, c]
  | embedded run v => exact run.solid_text

theorem VertexTerm.solid_text (t : VertexTerm) : Solid t.text := by
  cases t with
  | native a b c v => exact solid_native .vertex [a, b, c, v.toDigits]
  | embedded run v => exact run.solid_text.embedded .vertex v.toDigits

theorem TaskTerm.solid_text (t : TaskTerm) : Solid t.text := by
  cases t with
  | native a b c v t => exact solid_native .task [a, b, c, v.toDigits, t.toDigits]
  | embedded vertex t => exact vertex.solid_text.embedded .task t.toDigits

theorem AttemptTerm.solid_text (t : AttemptTerm) : Solid t.text := by
  cases t with
  | native a b c v t n => exact solid_native .attempt [a, b, c, v.toDigits, t.toDigits, n.toDigits]
  | embedded task n => exact task.solid_text.embedded .attempt n.toDigits

/-- The text of a vertex does not begin like that of a task or an attempt. -/
theorem VertexTerm.head?_text (t : VertexTerm) :
    (groups t.text).head? = some "vertex".toList ∨ (groups t.text).head? = some "dag".toList := by
  cases t with
  | native a b c v => exact .inl (head?_groups_joined ..)
  | embedded run v =>
    refine .inr ((head?_groups_joined ..).trans ?_)
    exact head?_groups_joined ..

theorem TaskTerm.head?_text (t : TaskTerm) :
    (groups t.text).head? = some "task".toList ∨ (groups t.text).head? = some "vertex".toList ∨
      (groups t.text).head? = some "dag".toList := by
  cases t with
  | native a b c v t => exact .inl (head?_groups_joined ..)
  | embedded vertex t =>
    rw [TaskTerm.text, head?_groups_joined]
    exact .inr vertex.head?_text

theorem Solid.trimText_eq {cs : List Char} (h : Solid cs) (hfront : allBlank front = true)
    (hback : allBlank back = true) :
    trimText (String.ofList (front ++ cs ++ back)) = String.ofList cs := by
  rw [trimText, String.toList_ofList, h.trim_eq hfront hback]

theorem Solid.parse_dag {cs : List Char} (h : Solid cs) :
    DagId.parse (String.ofList cs) = .ok ⟨String.ofList cs⟩ := by
  have htrim := @Solid.trimText_eq [] [] cs h rfl rfl
  rw [List.nil_append, List.append_nil] at htrim
  rw [DagId.parse, String.toList_ofList, if_neg (by simp [h.not_allBlank]), htrim]

theorem VertexTerm.parse_padded (t : VertexTerm) (hfront : allBlank front = true)
    (hback : allBlank back = true) :
    VertexId.parse (String.ofList (front ++ t.text ++ back)) = .ok t.id := by
  have hsplit : split .vertex (String.ofList (front ++ t.text ++ back)) =
      .ok (String.ofList t.run, digitsValue t.seq) := by
    cases t with
    | native a b c v => exact @split_native .vertex _ _ [a, b, c] rfl v hfront hback
    | embedded run v =>
      refine split_embedded run.solid_text ?_ run.fitsParent v hfront hback
      rw [RunName.text, head?_groups_joined]
      decide
  rw [VertexId.parse, hsplit, ok_bind]
  simp only
  rw [t.solid_run.parse_dag, ok_bind, t.solid_text.trimText_eq hfront hback]
  rfl

theorem VertexTerm.parse_text (t : VertexTerm) :
    VertexId.parse (String.ofList t.text) = .ok t.id := by
  have h := @VertexTerm.parse_padded [] [] t rfl rfl
  rwa [List.nil_append, List.append_nil] at h

theorem TaskTerm.parse_padded (t : TaskTerm) (hfront : allBlank front = true)
    (hback : allBlank back = true) :
    TaskId.parse (String.ofList (front ++ t.text ++ back)) = .ok t.id := by
  have hsplit : split .task (String.ofList (front ++ t.text ++ back)) =
      .ok (String.ofList t.vertex.text, digitsValue t.seq) := by
    cases t with
    | native a b c v t => exact @split_native .task _ _ [a, b, c, v.toDigits] rfl t hfront hback
    | embedded vertex t =>
      refine split_embedded vertex.solid_text ?_
        (fitsParent_of_solid vertex.solid_text (by decide)) t hfront hback
      rcases vertex.head?_text with h | h <;> rw [h] <;> decide
  rw [TaskId.parse, hsplit, ok_bind]
  simp only
  rw [t.vertex.parse_text, ok_bind, t.solid_text.trimText_eq hfront hback]
  rfl

theorem TaskTerm.parse_text (t : TaskTerm) : TaskId.parse (String.ofList t.text) = .ok t.id := by
  have h := @TaskTerm.parse_padded [] [] t rfl rfl
  rwa [List.nil_append, List.append_nil] at h

theorem AttemptTerm.parse_padded (t : AttemptTerm) (hfront : allBlank front = true)
    (hback : allBlank back = true) :
    AttemptId.parse (String.ofList (front ++ t.text ++ back)) = .ok t.id := by
  have hsplit : split .attempt (String.ofList (front ++ t.text ++ back)) =
      .ok (String.ofList t.task.text, digitsValue t.seq) := by
    cases t with
    | native a b c v t n =>
      exact @split_native .attempt _ _ [a, b, c, v.toDigits, t.toDigits] rfl n hfront hback
    | embedded task n =>
      refine split_embedded task.solid_text ?_
        (fitsParent_of_solid task.solid_text (by decide)) n hfront hback
      rcases task.head?_text with h | h | h <;> rw [h] <;> decide
  rw [AttemptId.parse, hsplit, ok_bind]
  simp only
  rw [t.task.parse_text, ok_bind, t.solid_text.trimText_eq hfront hback]
  rfl

/-- **Ids are read back from the texts of their terms**, with any blanks around them: the text
without the blanks, the value of the last digits, and the ids of all that hold the entity, which are
those read from the texts of their own terms. -/
theorem parse_term (hfront : allBlank front = true) (hback : allBlank back = true) :
    (∀ t : VertexTerm, ∃ id, VertexId.parse (String.ofList (front ++ t.text ++ back)) = .ok id ∧
      id.text = String.ofList t.text ∧ id.seq = digitsValue t.seq ∧
      DagId.parse (String.ofList t.run) = .ok id.dag ∧ id.dag.text = String.ofList t.run) ∧
    (∀ t : TaskTerm, ∃ id, TaskId.parse (String.ofList (front ++ t.text ++ back)) = .ok id ∧
      id.text = String.ofList t.text ∧ id.seq = digitsValue t.seq ∧
      VertexId.parse (String.ofList t.vertex.text) = .ok id.vertex ∧
      DagId.parse (String.ofList t.vertex.run) = .ok id.dag ∧
      id.dag.text = String.ofList t.vertex.run) ∧
    (∀ t : AttemptTerm, ∃ id, AttemptId.parse (String.ofList (front ++ t.text ++ back)) = .ok id ∧
      id.text = String.ofList t.text ∧ id.seq = digitsValue t.seq ∧
      TaskId.parse (String.ofList t.task.text) = .ok id.task ∧
      VertexId.parse (String.ofList t.task.vertex.text) = .ok id.task.vertex ∧
      DagId.parse (String.ofList t.task.vertex.run) = .ok id.dag ∧
      id.dag.text = String.ofList t.task.vertex.run) := by
  refine ⟨fun t => ?_, fun t => ?_, fun t => ?_⟩
  · exact ⟨t.id, t.parse_padded hfront hback, rfl, rfl, t.solid_run.parse_dag, rfl⟩
  · exact ⟨t.id, t.parse_padded hfront hback, rfl, rfl, t.vertex.parse_text,
      t.vertex.solid_run.parse_dag, rfl⟩
  · exact ⟨t.id, t.parse_padded hfront hback, rfl, rfl, t.task.parse_text,
      t.task.vertex.parse_text,
      t.task.vertex.solid_run.parse_dag, rfl⟩

/-- The name of the run contains what ids are divided at, and the last digit is Arabic. -/
theorem parse_term_among_markers :
    ∃ id, AttemptId.parse " dag_x_vertex_3_task__vertex_1_task_02_attempt_\u0664\n" = .ok id ∧
      id.text = "dag_x_vertex_3_task__vertex_1_task_02_attempt_\u0664" ∧ id.seq = 4 ∧
      id.dag.text = "dag_x_vertex_3_task_" := by
  obtain ⟨-, -, hattempt⟩ := @parse_term " ".toList "\n".toList (by decide) (by decide)
  obtain ⟨id, hid, htext, hseq, -, -, -, hdag⟩ := hattempt (.embedded
    (.embedded
      (.embedded ⟨"x_vertex_3_task_".toList, by decide, List.all_eq_true.1 (by decide)⟩
        ⟨⟨"1".toList, by decide⟩, by decide⟩)
      ⟨⟨"02".toList, by decide⟩, by decide⟩)
    ⟨⟨"\u0664".toList, by decide⟩, by decide⟩)
  exact ⟨id, hid, htext, hseq, hdag⟩

end Id

end RunHistory
