import RunHistory.Proofs.Path.Walks
import RunHistory.Service

/-!
# Requests stay in the history directory

A request is served from the history directory only.  Where its path leads to is found by walking
along the path, from the directory or from the root; whether it may have left the directory on the
way does not matter, only where it ends.  A path that ends elsewhere is refused before anything is
opened, so no file elsewhere can make a difference to an answer.

## Main results

* `Service.locate_eq_some_iff`: a path is located if it leads into the directory.
* `Service.reply_congr`: files outside of the directory make no difference.
* `Service.locate_contained`: **requests stay in the history directory.**
-/

namespace RunHistory

namespace Service

variable {s : Service}

/-- The history directory is where its own path leads to. -/
theorem leads_base (s : Service) : Path.Leads s.here s.directory s.base := Path.leads_iff.2 rfl

/-- **A path is located if it leads into the history directory**, or to the directory itself. -/
theorem locate_eq_some_iff {path : String} {target : Location} :
    s.locate path = some target ↔ Path.Leads s.base path target ∧ s.base <+: target := by
  rw [Path.leads_iff, ← List.isPrefixOf_iff_prefix]
  unfold locate Location.within
  generalize (Path.ofText path).resolve s.base = found
  dsimp only
  constructor
  · intro h
    by_cases hin : s.base.isPrefixOf found
    · rw [if_pos hin] at h
      obtain rfl := Option.some.inj h
      exact ⟨rfl, hin⟩
    · rw [if_neg hin] at h
      cases h
  · intro h
    obtain ⟨rfl, hin⟩ := h
    rw [if_pos hin]

/-- No dots are left in the location of a path, and its own text is a path to it. -/
theorem locate_text (hhere : s.here.Clean) {path : String} {target : Location}
    (h : s.locate path = some target) : target.Clean ∧ s.locate target.text = some target := by
  obtain ⟨hleads, hin⟩ := locate_eq_some_iff.1 h
  have hclean : target.Clean := (hhere.leads s.leads_base).leads hleads
  refine ⟨hclean, locate_eq_some_iff.2 ⟨?_, hin⟩⟩
  rw [Path.leads_iff, hclean.resolve_text]

/-- A path that is not located is refused, whichever run is wanted and whatever the files are. -/
theorem reply_of_locate_eq_none (hdirectory : holdsZero s.directory = false) {path : String}
    (hpath : holdsZero path = false) (h : s.locate path = none) (files : Files) (wanted : String) :
    s.reply files wanted path = .ok (.refused 400 "Path is outside the history directory") := by
  unfold reply
  rw [hdirectory, hpath, h]
  rfl

/-- Files outside of the history directory make no difference to an answer. -/
theorem reply_congr {files files' : Files} (h : ∀ l, s.base <+: l → files l = files' l)
    (wanted path : String) : s.reply files wanted path = s.reply files' wanted path := by
  unfold reply
  cases hin : s.locate path with
  | none => rfl
  | some target =>
    have hsame : files target = files' target := h target (locate_eq_some_iff.1 hin).2
    unfold replyAt
    simp only [hsame]

/-- **Requests stay in the history directory.**  The directory is where its path leads to from a
clean location.  A path is located if it leads into the directory, and exactly then; what is found
is a clean location at or below the directory, and it is found again by its own text.  Any other
path is refused, whichever run is wanted and whatever the files are.  So two disks that agree on
what is at or below the directory cannot be told apart by requests. -/
theorem locate_contained (hhere : s.here.Clean) :
    Path.Leads s.here s.directory s.base ∧
      (∀ path, (∃ l, Path.Leads s.base path l) ∧
        (∀ target, s.locate path = some target ↔
          Path.Leads s.base path target ∧ s.base <+: target) ∧
        (∀ target, s.locate path = some target →
          s.base <+: target ∧ target.Clean ∧ s.locate target.text = some target) ∧
        (holdsZero s.directory = false → holdsZero path = false → s.locate path = none →
          ∀ files wanted, s.reply files wanted path =
            .ok (.refused 400 "Path is outside the history directory"))) ∧
      ∀ files files' : Files, (∀ l, s.base <+: l → files l = files' l) →
        ∀ wanted path, s.reply files wanted path = s.reply files' wanted path := by
  refine ⟨s.leads_base, fun path => ⟨⟨_, Path.leads_iff.2 rfl⟩, ?_, ?_, ?_⟩, ?_⟩
  · intro target
    exact locate_eq_some_iff
  · intro target h
    exact ⟨(locate_eq_some_iff.1 h).2, locate_text hhere h⟩
  · intro hdirectory hpath h files wanted
    exact reply_of_locate_eq_none hdirectory hpath h files wanted
  · intro files files' h wanted path
    exact reply_congr h wanted path

/-- Requests for files in the directory `/srv/history`, as it is written from `/srv`. -/
def ofServer : Service := ⟨["srv"], "./history/", .standard⟩

/-- A path may leave the directory and come back, and one beside it whose name only begins alike is
elsewhere. -/
theorem locate_contained_beside_alike :
    ofServer.here.Clean ∧
      ofServer.locate "a//../../../srv/./history/b" = some ["srv", "history", "b"] ∧
      ofServer.locate (Location.text ["srv", "history", "b"]) = some ["srv", "history", "b"] ∧
      ofServer.locate "../history_old/b" = none ∧
      (∀ files wanted, ofServer.reply files wanted "../history_old/b" =
        .ok (.refused 400 "Path is outside the history directory")) ∧
      ∀ found wanted path, ofServer.reply (fun _ => .nothing) wanted path =
        ofServer.reply (fun l => if l = ["srv", "history_old", "b"] then found else .nothing)
          wanted path := by
  have hhere : ofServer.here.Clean := by
    intro name hname
    rw [List.mem_singleton.1 hname]
    exact ⟨by decide, by decide, by decide, by decide⟩
  obtain ⟨-, hpaths, hfiles⟩ := locate_contained hhere
  have hback : ofServer.locate "a//../../../srv/./history/b" = some ["srv", "history", "b"] := by
    decide +kernel
  have hbeside : ofServer.locate "../history_old/b" = none := by decide +kernel
  refine ⟨hhere, hback, ((hpaths _).2.2.1 _ hback).2.2, hbeside, ?_, ?_⟩
  · exact (hpaths _).2.2.2 (by decide) (by decide) hbeside
  · intro found
    refine hfiles _ _ fun l hl => ?_
    have hbase : ofServer.base = ["srv", "history"] := by decide +kernel
    have hne : l ≠ ["srv", "history_old", "b"] := by
      rintro rfl
      rw [hbase] at hl
      revert hl
      decide
    rw [if_neg hne]

end Service

end RunHistory
