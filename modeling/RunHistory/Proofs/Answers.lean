import RunHistory.Proofs.Refusals
import RunHistory.Service

/-!
# What a request is answered

A request is answered with the summary of the run, or refused for a cause, and each cause has its
status.  A request gets no answer when its path holds the character zero, when the system does not
look for the file, when there is no memory for a block, and when the history holds a record that is
nested too deep, a number with too many digits, or an infinite number where a whole one belongs.
Most infinite numbers are noticed when the tree is made.  The time that a run took is looked up
later, when the tree is summed up, so that a tree may be made and no answer be given.  What becomes
of a request for a history that holds half of a pair of 16-bit units is not described here.

## Main definitions

* `Dag.Endless`: the time that a run took is infinite.
* `Service.parsed`, `Service.Succeeds`: the tree that a request asks for, and whether it is made.
* `Cause`: what a request is refused for, and with which status.
* `Service.Answers`: what a reply to a request has to do with what was asked.
* `Unforeseen`, `Service.Unanswered`: why a request gets no answer.

## Main results

* `Justified.cause_or_unforeseen`: a history is refused with a status, or nobody foresaw the
  failure.
* `Service.reply_cases`: **every request is answered, refused for its cause, or gets no answer for
  a cause that nobody foresaw.**
-/

namespace RunHistory

/-! ### Summing up a tree -/

/-- The time that a run took, as its information says, is infinite. -/
def Dag.Endless (d : Dag) : Prop :=
  ∃ negative, field d.info "timeTaken" = .real (.infinite negative)

/-- A tree is summed up unless its run took infinitely long. -/
theorem Dag.summary_cases (d : Dag) :
    ¬d.Endless ∧ (∃ summary, d.summary = .ok summary) ∨
      d.Endless ∧ d.summary = .error .infiniteNumber := by
  unfold Dag.summary Facts.timeTaken Dag.Endless
  rw [← Value.not_finite_iff]
  rcases (field d.info "timeTaken").whole?_cases with ⟨hfinite, taken, htaken⟩ | ⟨hinfinite, htaken⟩
  · refine .inl ⟨not_not_intro hfinite, ?_⟩
    rw [htaken]
    cases taken with
    | none => exact ⟨_, rfl⟩
    | some n => exact ⟨_, rfl⟩
  · refine .inr ⟨hinfinite, ?_⟩
    rw [htaken]
    rfl

/-! ### What a request asks for -/

/-- The file at a location, as a request asks for it. -/
def Source.placed (files : Files) (target : Location) : Source :=
  ⟨some target.text, target.text, files target⟩

/-- What a request is refused for when reading the history fails with a failure of a category, and
the status of the refusal. -/
inductive Cause (cfg : Configuration) (source : Source) (wanted : String) :
    Failure.Category → Nat → Prop where
  /-- No run is named. -/
  | blank (h : allBlank wanted.toList = true) : Cause cfg source wanted .invalidArgument 400
  /-- There is no file. -/
  | missing (h : source.content = .nothing) : Cause cfg source wanted .invalidArgument 400
  /-- A record of the history is not well formed. -/
  | malformed {text : List Char} (hholds : source.Holds cfg text) (h : Malformed text) :
    Cause cfg source wanted .malformedInput 422
  /-- The history lacks a record. -/
  | incomplete {state : State} (hreaches : source.Reaches cfg (.str wanted) state)
    (h : state.Incomplete) : Cause cfg source wanted .incompleteLog 404
  /-- The bytes of the file are no text. -/
  | unreadable {bytes : List UInt8} (hcontent : source.content = .file bytes)
    (h : ¬Encoding.IsUtf8 bytes) : Cause cfg source wanted .historyIO 500
  /-- The system does not open the file. -/
  | unopened {reason : String} (h : source.content = .closed reason) :
    Cause cfg source wanted .historyIO 500

/-- Why reading the history fails with a failure of a category that no request is refused for. -/
inductive Unforeseen (cfg : Configuration) (source : Source) (wanted : String) :
    Failure.Category → Prop where
  /-- An infinite number stands where a whole one belongs. -/
  | infinite {state : State} (hreaches : source.Reaches cfg (.str wanted) state)
    (h : state.Infinite) : Unforeseen cfg source wanted .overflow
  /-- A record of the history has too many digits in a row. -/
  | tooLong {text : List Char} (hholds : source.Holds cfg text) (h : TooLong text) :
    Unforeseen cfg source wanted .value
  /-- The system does not look for the file. -/
  | unsought {reason : String} (h : source.content = .refused reason) :
    Unforeseen cfg source wanted .system
  /-- There is no memory for a block. -/
  | noMemory (h : cfg.limits.holdsBlock cfg.blockSize = false) :
    Unforeseen cfg source wanted .memory
  /-- A record of the history is nested too deep. -/
  | tooDeep {text : List Char} (hcuts : source.Cuts cfg text)
    (h : Json.tooDeep? cfg.limits.levels text ≠ none) : Unforeseen cfg source wanted .recursion
  /-- A record of the history holds half of a pair of units, and what it means is not described. -/
  | halfPair {text : List Char} (hholds : source.Holds cfg text)
    (h : Json.read text = .error .halfPair) : Unforeseen cfg source wanted .beyond

section

variable {cfg : Configuration} {source : Source} {wanted : String} {category : Failure.Category}

/-- A history is refused with a status, or nobody foresaw the failure. -/
theorem Justified.cause_or_unforeseen (h : Justified cfg source (.str wanted) category) :
    (∃ status, Cause cfg source wanted category status) ∨
      Unforeseen cfg source wanted category := by
  cases category with
  | invalidArgument =>
    rcases h with hblank | hmissing
    · exact .inl ⟨400, .blank (hblank wanted rfl)⟩
    · exact .inl ⟨400, .missing hmissing⟩
  | historyIO =>
    rcases h with ⟨bytes, hcontent, hbytes⟩ | ⟨reason, hclosed⟩
    · exact .inl ⟨500, .unreadable hcontent hbytes⟩
    · exact .inl ⟨500, .unopened hclosed⟩
  | malformedInput =>
    obtain ⟨text, hholds, hmalformed⟩ := h
    exact .inl ⟨422, .malformed hholds hmalformed⟩
  | incompleteLog =>
    obtain ⟨state, hreaches, hincomplete⟩ := h
    exact .inl ⟨404, .incomplete hreaches hincomplete⟩
  | overflow =>
    obtain ⟨state, hreaches, hinfinite⟩ := h
    exact .inr (.infinite hreaches hinfinite)
  | value =>
    obtain ⟨text, hholds, hlong⟩ := h
    exact .inr (.tooLong hholds hlong)
  | system =>
    obtain ⟨reason, hrefused⟩ := h
    exact .inr (.unsought hrefused)
  | memory => exact .inr (.noMemory h)
  | recursion =>
    obtain ⟨text, hcuts, hdeep⟩ := h
    exact .inr (.tooDeep hcuts hdeep)
  | beyond =>
    obtain ⟨text, hholds, hhalf⟩ := h
    exact .inr (.halfPair hholds hhalf)
  | index | lookup | key | type | pattern => exact absurd h id

/-- The status of a cause is the one that its category is answered with. -/
theorem Cause.status?_eq {status : Nat} (h : Cause cfg source wanted category status) :
    category.status? = some status := by
  cases h <;> rfl

theorem Cause.status_ne {status : Nat} (h : Cause cfg source wanted category status) :
    status ≠ 200 := by
  cases h <;> decide

theorem Unforeseen.status?_eq (h : Unforeseen cfg source wanted category) :
    category.status? = none := by
  cases h <;> rfl

end

namespace Service

variable {s : Service} {files : Files} {wanted path : String} {target : Location}

/-- The tree of the run in the file at a location, if it is made. -/
def parsed (s : Service) (files : Files) (wanted : String) (target : Location) :
    Except Failure Dag :=
  (parse s.configuration (.placed files target) (.str wanted)).result

/-- A path leads into the history directory, and the tree of the run is made from the file there. -/
def Succeeds (s : Service) (files : Files) (wanted path : String) : Prop :=
  ∃ target d, s.locate path = some target ∧ s.parsed files wanted target = .ok d

/-- What a reply to a request has to do with what was asked. -/
inductive Answers (s : Service) (files : Files) (wanted path : String) : Reply → Prop where
  /-- The tree of the run is made, and the reply sums it up. -/
  | summary {target : Location} {d : Dag} {summary : DagSummary}
    (hin : s.locate path = some target) (hd : s.parsed files wanted target = .ok d)
    (hsummary : d.summary = .ok summary) : Answers s files wanted path (.summary summary)
  /-- The path leads out of the history directory. -/
  | outside (hout : s.locate path = none) :
    Answers s files wanted path (.refused 400 "Path is outside the history directory")
  /-- The tree of the run cannot be made, for a cause with the status of the reply. -/
  | refused {target : Location} {e : Failure} {status : Nat} (hin : s.locate path = some target)
    (he : s.parsed files wanted target = .error e)
    (hcause : Cause s.configuration (.placed files target) wanted e.category status) :
    Answers s files wanted path (.refused status e.message)

/-- Why a request gets no answer. -/
inductive Unanswered (s : Service) (files : Files) (wanted path : String) : Failure → Prop where
  /-- The path holds the character zero. -/
  | zero (h : holdsZero path = true) : Unanswered s files wanted path .zeroInPath
  /-- The tree of the run cannot be made, and nobody foresaw why. -/
  | unforeseen {target : Location} {e : Failure} (hin : s.locate path = some target)
    (he : s.parsed files wanted target = .error e)
    (h : Unforeseen s.configuration (.placed files target) wanted e.category) :
    Unanswered s files wanted path e
  /-- The tree of the run is made, and the run took infinitely long. -/
  | endless {target : Location} {d : Dag} (hin : s.locate path = some target)
    (hd : s.parsed files wanted target = .ok d) (h : d.Endless) :
    Unanswered s files wanted path .infiniteNumber

/-- A reply says with its status whether the tree was made. -/
theorem Answers.status_eq_iff {reply : Reply} (h : s.Answers files wanted path reply) :
    reply.status = 200 ↔ s.Succeeds files wanted path := by
  cases h with
  | summary hin hd hsummary => exact iff_of_true rfl ⟨_, _, hin, hd⟩
  | outside hout =>
    refine iff_of_false (by decide) ?_
    rintro ⟨target, d, hin, -⟩
    cases hout.symm.trans hin
  | refused hin he hcause =>
    refine iff_of_false hcause.status_ne ?_
    rintro ⟨target, d, hin', hd⟩
    cases hin.symm.trans hin'
    cases he.symm.trans hd

/-! ### Replies -/

theorem reply_eq_replyAt (hdirectory : holdsZero s.directory = false)
    (hpath : holdsZero path = false) (hin : s.locate path = some target) :
    s.reply files wanted path = s.replyAt files target wanted := by
  simp only [reply, hdirectory, hpath, hin, Bool.or_self, Bool.false_eq_true, if_false]

theorem replyAt_of_ok {d : Dag} (hd : s.parsed files wanted target = .ok d) :
    s.replyAt files target wanted = d.summary.map .summary := by
  unfold parsed Source.placed at hd
  simp only [replyAt, hd]

theorem replyAt_of_status {e : Failure} {status : Nat}
    (he : s.parsed files wanted target = .error e) (hstatus : e.category.status? = some status) :
    s.replyAt files target wanted = .ok (.refused status e.message) := by
  unfold parsed Source.placed at he
  simp only [replyAt, he, hstatus]

theorem replyAt_of_no_status {e : Failure} (he : s.parsed files wanted target = .error e)
    (hstatus : e.category.status? = none) : s.replyAt files target wanted = .error e := by
  unfold parsed Source.placed at he
  simp only [replyAt, he, hstatus]

/-- Requests for files in the directory `history`, which are read in the standard way. -/
def ofHistory : Service := ⟨[], "history", .standard⟩

/-- A directory `history` with one file, of a run that took the time that a text tells. -/
def tookTime (time : String) : Files := fun l =>
  if l = ["history", "h"] then
    .file (("\x7b\"entity\":\"dag_1\",\"entitytype\":\"DAG\"," ++
      "\"otherInfo\":\x7b\"timeTaken\":" ++ time ++ "\x7d\x7d").toList.flatMap
        String.utf8EncodeChar)
  else .nothing

end Service

end RunHistory
