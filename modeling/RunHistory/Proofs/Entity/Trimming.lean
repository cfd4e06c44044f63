import Mathlib.Data.List.TakeWhile
import RunHistory.Entity.Id
import RunHistory.Proofs.Steps

/-!
# Ids and the blanks around them

Trimming a text twice trims it once, so an id is read alike from a text and from what is left of it
without the blanks around it.  In particular an id is read from its own text.

## Main results

* `trimText_trimText`: trimming is idempotent.
* `trim_padded`: blanks around a text do not count.
* `DagId.parse_text`, `VertexId.parse_text`, `TaskId.parse_text`, `AttemptId.parse_text`: **ids are
  read from their own text.**
-/

namespace RunHistory

/-! ### Trimming -/

theorem dropWhile_isBlank_trim (cs : List Char) : (trim cs).dropWhile isBlank = trim cs := by
  -- what is trimmed begins like the text without the blanks in front
  have hfront : trim cs <+: cs.dropWhile isBlank := by
    have h := List.dropWhile_suffix isBlank (l := (cs.dropWhile isBlank).reverse)
    rw [← List.reverse_prefix, List.reverse_reverse] at h
    exact h
  cases h : trim cs with
  | nil => rfl
  | cons c rest =>
    obtain ⟨after, hafter⟩ := h ▸ hfront
    have hne : cs.dropWhile isBlank ≠ [] := by rw [← hafter]; simp
    have hhead := List.head_dropWhile_not isBlank hne
    simp only [← hafter, List.cons_append, List.head_cons] at hhead
    rw [List.dropWhile_cons, if_neg (by simp [hhead])]

theorem reverse_trim (cs : List Char) :
    (trim cs).reverse = (cs.dropWhile isBlank).reverse.dropWhile isBlank := by
  rw [trim, List.reverse_reverse]

theorem dropWhile_isBlank_reverse_trim (cs : List Char) :
    (trim cs).reverse.dropWhile isBlank = (trim cs).reverse := by
  rw [reverse_trim]
  cases h : (cs.dropWhile isBlank).reverse.dropWhile isBlank with
  | nil => rfl
  | cons c rest =>
    have hne : (cs.dropWhile isBlank).reverse.dropWhile isBlank ≠ [] := by rw [h]; simp
    have hhead := List.head_dropWhile_not isBlank hne
    simp only [h, List.head_cons] at hhead
    rw [List.dropWhile_cons, if_neg (by simp [hhead])]

@[simp] theorem trim_trim (cs : List Char) : trim (trim cs) = trim cs := by
  show (((trim cs).dropWhile isBlank).reverse.dropWhile isBlank).reverse = trim cs
  rw [dropWhile_isBlank_trim, dropWhile_isBlank_reverse_trim, List.reverse_reverse]

/-- A text that is not blank does not become so. -/
@[simp] theorem allBlank_trim (cs : List Char) : allBlank (trim cs) = allBlank cs := by
  have hfront : ∀ l : List Char, (l.dropWhile isBlank).all isBlank = l.all isBlank := by
    intro l
    calc (l.dropWhile isBlank).all isBlank
        = ((l.takeWhile isBlank).all isBlank && (l.dropWhile isBlank).all isBlank) := by
          rw [List.all_takeWhile, Bool.true_and]
      _ = l.all isBlank := by rw [← List.all_append, List.takeWhile_append_dropWhile]
  rw [allBlank, allBlank, trim, List.all_reverse, hfront, List.all_reverse, hfront]

theorem trim_sublist (cs : List Char) : (trim cs).Sublist cs := by
  have hback := (List.dropWhile_suffix isBlank (l := (cs.dropWhile isBlank).reverse)).sublist
  have hfront := (List.dropWhile_suffix isBlank (l := cs)).sublist
  rw [← List.reverse_sublist, List.reverse_reverse] at hback
  exact hback.trans hfront

theorem trim_of_allBlank {cs : List Char} (h : allBlank cs = true) : trim cs = [] := by
  rw [trim, List.dropWhile_eq_nil_iff.2 (List.all_eq_true.1 h)]
  rfl

/-- Blanks around a text do not count. -/
theorem trim_padded {front back : List Char} (hfront : allBlank front = true)
    (hback : allBlank back = true) (cs : List Char) : trim (front ++ cs ++ back) = trim cs := by
  by_cases hcs : allBlank cs = true
  · rw [trim_of_allBlank hcs, trim_of_allBlank]
    simp only [allBlank, List.all_append, Bool.and_eq_true] at *
    exact ⟨⟨hfront, hcs⟩, hback⟩
  · have hkept : (cs.dropWhile isBlank).isEmpty = false := by
      simpa [List.dropWhile_eq_nil_iff, allBlank] using hcs
    have hback' : ∀ c ∈ back.reverse, isBlank c = true := fun c hc =>
      List.all_eq_true.1 hback c (List.mem_reverse.1 hc)
    rw [trim, List.append_assoc, List.dropWhile_append_of_pos (List.all_eq_true.1 hfront),
      List.dropWhile_append, hkept, if_neg (by decide), List.reverse_append,
      List.dropWhile_append_of_pos hback', trim]

/-- A text that begins and ends like trimmed texts is trimmed. -/
theorem trim_between {a b : List Char} (ha : trim a = a) (ha_ne : a ≠ []) (hb : trim b = b)
    (hb_ne : b ≠ []) (between : List Char) : trim (a ++ between ++ b) = a ++ between ++ b := by
  have hfront : (a ++ (between ++ b)).dropWhile isBlank = a ++ (between ++ b) := by
    have h := dropWhile_isBlank_trim a
    rw [ha] at h
    rw [List.dropWhile_append, h, if_neg (by simpa using ha_ne)]
  have hback : (b.reverse ++ (a ++ between).reverse).dropWhile isBlank =
      b.reverse ++ (a ++ between).reverse := by
    have h := dropWhile_isBlank_reverse_trim b
    rw [hb] at h
    rw [List.dropWhile_append, h, if_neg (by simpa using hb_ne)]
  rw [trim, List.append_assoc, hfront, ← List.append_assoc, List.reverse_append, hback,
    ← List.reverse_append, List.reverse_reverse]

@[simp] theorem trimText_trimText (s : String) : trimText (trimText s) = trimText s := by
  simp [trimText]

/-! ### Ids -/

theorem Id.split_trimText (kind : Kind) (text : String) :
    Id.split kind (trimText text) = Id.split kind text := by
  rw [Id.split, Id.split, trimText_trimText, trimText, String.toList_ofList, trim_trim]

theorem DagId.parse_trimText {text : String} (h : ¬allBlank text.toList) :
    DagId.parse (trimText text) = .ok ⟨trimText text⟩ := by
  rw [DagId.parse, trimText_trimText, trimText, String.toList_ofList, allBlank_trim, if_neg h]

theorem VertexId.parse_trimText (text : String) :
    VertexId.parse (trimText text) = VertexId.parse text := by
  rw [VertexId.parse, VertexId.parse, Id.split_trimText, trimText_trimText]

theorem TaskId.parse_trimText (text : String) :
    TaskId.parse (trimText text) = TaskId.parse text := by
  rw [TaskId.parse, TaskId.parse, Id.split_trimText, trimText_trimText]

theorem AttemptId.parse_trimText (text : String) :
    AttemptId.parse (trimText text) = AttemptId.parse text := by
  rw [AttemptId.parse, AttemptId.parse, Id.split_trimText, trimText_trimText]

theorem VertexId.of_parse {text : String} {id : VertexId} (h : VertexId.parse text = .ok id) :
    id.text = trimText text := by
  obtain ⟨_, -, h⟩ := bind_eq_ok_iff.1 h
  obtain ⟨_, -, h⟩ := bind_eq_ok_iff.1 h
  cases h
  rfl

/-- An id that was read, and the id of what holds it. -/
theorem TaskId.of_parse {text : String} {id : TaskId} (h : TaskId.parse text = .ok id) :
    id.text = trimText text ∧ ∃ parent, VertexId.parse parent = .ok id.vertex := by
  obtain ⟨⟨parent, seq⟩, -, h⟩ := bind_eq_ok_iff.1 h
  obtain ⟨vertex, hvertex, h⟩ := bind_eq_ok_iff.1 h
  cases h
  exact ⟨rfl, parent, hvertex⟩

theorem AttemptId.of_parse {text : String} {id : AttemptId} (h : AttemptId.parse text = .ok id) :
    id.text = trimText text ∧ ∃ parent, TaskId.parse parent = .ok id.task := by
  obtain ⟨⟨parent, seq⟩, -, h⟩ := bind_eq_ok_iff.1 h
  obtain ⟨task, htask, h⟩ := bind_eq_ok_iff.1 h
  cases h
  exact ⟨rfl, parent, htask⟩

theorem DagId.parse_text {text : String} {id : DagId} (h : DagId.parse text = .ok id) :
    DagId.parse id.text = .ok id := by
  rw [DagId.parse] at h
  split at h
  · cases h
  · next hblank =>
    cases h
    exact DagId.parse_trimText hblank

/-- **Ids are read from their own text.** -/
theorem VertexId.parse_text {text : String} {id : VertexId} (h : VertexId.parse text = .ok id) :
    VertexId.parse id.text = .ok id := by
  rw [VertexId.of_parse h, VertexId.parse_trimText, h]

theorem TaskId.parse_text {text : String} {id : TaskId} (h : TaskId.parse text = .ok id) :
    TaskId.parse id.text = .ok id := by
  rw [(TaskId.of_parse h).1, TaskId.parse_trimText, h]

theorem AttemptId.parse_text {text : String} {id : AttemptId}
    (h : AttemptId.parse text = .ok id) : AttemptId.parse id.text = .ok id := by
  rw [(AttemptId.of_parse h).1, AttemptId.parse_trimText, h]

end RunHistory
