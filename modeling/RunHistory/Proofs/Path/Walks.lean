import Mathlib.Data.List.Basic
import RunHistory.Path

/-!
# Walking along a path

A path in writing is a row of components with slashes between them.  Whoever walks along it takes
one component after the other: an empty one and a single dot stay where they are, two dots go up, or
stay at the root, and any other component goes down.  A path that begins with a slash is walked from
the root.  Every walk has one end, and that is the location to which the path is resolved.

## Main definitions

* `Path.components`: the components of a path in writing.
* `Path.Step`, `Path.Walk`, `Path.Leads`: a walk along a path, component by component.
* `Path.IsName`, `Location.Clean`: names that something on the way can have.

## Main results

* `Path.leads_iff`: **a path leads to where it is resolved to**, and to nothing else.
* `Location.Clean.leads`: no dots are left in the location.
* `Location.Clean.resolve_text`: **a location is found again by its own text.**
-/

namespace RunHistory

namespace Path

/-! ### Components -/

/-- The components of a path in writing: the texts between the slashes. -/
def components (text : String) : List String := (text.toList.splitOn '/').map String.ofList

theorem parts_eq_splitOn (cs : List Char) : parts cs = cs.splitOn '/' := by
  induction cs with
  | nil => rfl
  | cons c rest ih =>
    unfold List.splitOn at ih ⊢
    rw [parts, ih, List.splitOnP_cons_eq_if_modifyHead]
    by_cases hc : c = '/'
    · simp [hc]
    · have hsplit := List.splitOnP_ne_nil (fun x => x == '/') rest
      generalize List.splitOnP (fun x => x == '/') rest = found at hsplit ⊢
      cases found with
      | nil => exact absurd rfl hsplit
      | cons p ps => simp [hc]

theorem slash_notMem_parts {cs part : List Char} (h : part ∈ parts cs) : '/' ∉ part := by
  induction cs generalizing part with
  | nil =>
    rw [List.mem_singleton.1 h]
    exact List.not_mem_nil
  | cons c rest ih =>
    unfold parts at h
    generalize parts rest = found at h ih
    by_cases hc : c = '/'
    · rw [if_pos hc] at h
      rcases List.mem_cons.1 h with rfl | h
      · exact List.not_mem_nil
      · exact ih h
    · rw [if_neg hc] at h
      have hslash : '/' ≠ c := fun e => hc e.symm
      cases found with
      | nil =>
        rw [List.mem_singleton.1 h]
        simp [hslash]
      | cons p ps =>
        rcases List.mem_cons.1 h with rfl | h
        · simp [hslash, ih List.mem_cons_self]
        · exact ih (List.mem_cons_of_mem p h)

theorem slash_notMem_components {text component : String} (h : component ∈ components text) :
    '/' ∉ component.toList := by
  unfold components at h
  obtain ⟨part, hpart, rfl⟩ := List.mem_map.1 h
  rw [← parts_eq_splitOn] at hpart
  rw [String.toList_ofList]
  exact slash_notMem_parts hpart

/-- A component that means something is neither empty nor a single dot. -/
def means (component : String) : Bool := component != "" && component != "."

theorem names_ofText (text : String) : (ofText text).names = (components text).filter means := by
  have hmeans : ∀ part : List Char, means (String.ofList part) = isName part := by
    intro part
    unfold means isName
    rw [Bool.eq_iff_iff]
    simp [← String.toList_inj]
  have hsame : means ∘ String.ofList = isName := funext hmeans
  unfold ofText components
  rw [List.filter_map, hsame, parts_eq_splitOn]

/-! ### Walks -/

/-- A name that something on the way can have. -/
structure IsName (name : String) : Prop where
  /-- It is not empty. -/
  ne_empty : name ≠ ""
  /-- It is not a single dot. -/
  ne_dot : name ≠ "."
  /-- It is not two dots. -/
  ne_up : name ≠ ".."
  /-- It stands between two slashes. -/
  slash : '/' ∉ name.toList

/-- One component of a path, walked from one location to another. -/
inductive Step : Location → String → Location → Prop where
  /-- Between two slashes with nothing between them there is nowhere to go. -/
  | empty (l : Location) : Step l "" l
  /-- A single dot stays. -/
  | dot (l : Location) : Step l "." l
  /-- Two dots go up. -/
  | up (l : Location) (name : String) : Step (l ++ [name]) ".." l
  /-- Above the root there is only the root. -/
  | root : Step [] ".." []
  /-- A name goes down. -/
  | down (l : Location) {name : String} (h : IsName name) : Step l name (l ++ [name])

/-- Components of a path, walked one after the other. -/
inductive Walk : Location → List String → Location → Prop where
  /-- There is nothing left to walk. -/
  | done (l : Location) : Walk l [] l
  /-- One component, and then the others. -/
  | step {l l' l'' : Location} {component : String} {rest : List String}
    (first : Step l component l') (others : Walk l' rest l'') : Walk l (component :: rest) l''

/-- A path in writing leads from a location to another: it is walked from there, or from the root if
it begins with a slash. -/
def Leads (here : Location) (text : String) (there : Location) : Prop :=
  Walk (if text.toList.head? = some '/' then [] else here) (components text) there

/-- Where a component leads to, by the rule for names that mean something. -/
def advance (l : Location) (component : String) : Location :=
  if means component then Path.step l component else l

theorem step_iff {l l' : Location} {component : String} (hslash : '/' ∉ component.toList) :
    Step l component l' ↔ l' = advance l component := by
  constructor
  · intro h
    cases h with
    | empty => rfl
    | dot => rfl
    | up l name => simp [advance, means, Path.step, Path.up]
    | root => rfl
    | down l hname =>
      have hmeans : means component = true := by
        simp [means, hname.ne_empty, hname.ne_dot]
      unfold advance Path.step Path.up
      rw [if_pos hmeans, if_neg hname.ne_up]
  · intro h
    subst h
    unfold advance
    cases hmeans : means component with
    | false =>
      -- it is the empty component or the dot
      have hcases : component = "" ∨ component = "." := by
        by_contra hno
        rw [not_or] at hno
        simp [means, hno] at hmeans
      rcases hcases with rfl | rfl
      · exact .empty l
      · exact .dot l
    | true =>
      obtain ⟨hempty, hdot⟩ : component ≠ "" ∧ component ≠ "." := by
        simpa [means] using hmeans
      rw [if_pos rfl, Path.step]
      by_cases hup : component = up
      · rw [if_pos hup, hup]
        rcases List.eq_nil_or_concat l with rfl | ⟨front, name, rfl⟩
        · exact .root
        · rw [List.concat_eq_append, List.dropLast_concat]
          exact .up front name
      · rw [if_neg hup]
        exact .down l ⟨hempty, hdot, hup, hslash⟩

theorem walk_iff {l l' : Location} {row : List String}
    (hslash : ∀ component ∈ row, '/' ∉ component.toList) :
    Walk l row l' ↔ l' = row.foldl advance l := by
  induction row generalizing l with
  | nil =>
    constructor
    · intro h
      cases h
      rfl
    · intro h
      rw [h]
      exact .done l
  | cons component rest ih =>
    obtain ⟨hfirst, hrest⟩ := List.forall_mem_cons.1 hslash
    rw [List.foldl_cons]
    constructor
    · intro h
      cases h with
      | step first others =>
        rw [step_iff hfirst] at first
        subst first
        exact (ih hrest).1 others
    · intro h
      exact .step ((step_iff hfirst).2 rfl) ((ih hrest).2 h)

/-- **A path leads to where it is resolved to**, and to nothing else. -/
theorem leads_iff {here there : Location} {text : String} :
    Leads here text there ↔ there = (ofText text).resolve here := by
  unfold Leads resolve
  rw [walk_iff fun _ => slash_notMem_components, names_ofText, List.foldl_filter]
  simp only [ofText, beq_iff_eq]
  rfl

end Path

/-! ### Clean locations -/

namespace Location

/-- A location without dots: each name on the way is one that something can have. -/
def Clean (l : Location) : Prop := ∀ name ∈ l, Path.IsName name

variable {l l' : Location} {component : String}

theorem Clean.step (h : l.Clean) (hstep : Path.Step l component l') : l'.Clean := by
  intro name hname
  cases hstep with
  | empty => exact h name hname
  | dot => exact h name hname
  | up l last => exact h name (List.mem_append_left [last] hname)
  | root => exact h name hname
  | down l hcomponent =>
    rcases List.mem_append.1 hname with hfront | hlast
    · exact h name hfront
    · rw [List.mem_singleton.1 hlast]
      exact hcomponent

theorem Clean.walk {row : List String} (h : l.Clean) (hwalk : Path.Walk l row l') : l'.Clean := by
  induction hwalk with
  | done => exact h
  | step first _ ih => exact ih (h.step first)

/-- No dots are left in the location to which a path leads. -/
theorem Clean.leads {text : String} (h : l.Clean) (hleads : Path.Leads l text l') : l'.Clean := by
  unfold Path.Leads at hleads
  split at hleads
  · refine Clean.walk ?_ hleads
    intro name hname
    cases hname
  · exact h.walk hleads

/-! ### The text of a location -/

theorem toList_text (l : Location) :
    l.text.toList = '/' :: ['/'].intercalate (l.map String.toList) := by
  unfold text Path.joined
  rw [String.toList_append, String.toList_intercalate]
  rfl

/-- The components of the text of a location are the names on the way, after an empty one before the
first slash. -/
theorem Clean.components_text (h : l.Clean) (hne : l ≠ []) :
    Path.components l.text = "" :: l := by
  have hslash : ∀ part ∈ l.map String.toList, '/' ∉ part := by
    intro part hpart
    obtain ⟨name, hname, rfl⟩ := List.mem_map.1 hpart
    exact (h name hname).slash
  have hrest := List.splitOn_intercalate '/' hslash (by simpa using hne)
  unfold Path.components
  rw [toList_text, List.splitOn, List.splitOnP_cons_eq_if_modifyHead, ← List.splitOn, hrest]
  simp [Function.comp_def]

theorem Clean.names_ofText_text (h : l.Clean) : (Path.ofText l.text).names = l := by
  rw [Path.names_ofText]
  by_cases hne : l = []
  · subst hne
    decide
  · have hmeans : l.filter Path.means = l := by
      rw [List.filter_eq_self]
      intro name hname
      simp [Path.means, (h name hname).ne_empty, (h name hname).ne_dot]
    rw [h.components_text hne, List.filter_cons_of_neg (by decide), hmeans]

/-- **A location is found again by its own text**, from wherever one stands. -/
theorem Clean.resolve_text (h : l.Clean) (here : Location) :
    (Path.ofText l.text).resolve here = l := by
  have habsolute : (Path.ofText l.text).absolute = true := by
    unfold Path.ofText
    rw [toList_text]
    rfl
  -- no name goes up, so each is one step further down
  have hdown : ∀ front : Location, l.foldl Path.step front = front ++ l := by
    clear habsolute
    induction l with
    | nil => simp
    | cons name rest ih =>
      intro front
      obtain ⟨hname, hrest⟩ := List.forall_mem_cons.1 h
      have hup : name ≠ Path.up := hname.ne_up
      rw [List.foldl_cons, Path.step, if_neg hup, ih hrest]
      simp
  unfold Path.resolve
  rw [habsolute, if_pos rfl, h.names_ofText_text, hdown, List.nil_append]

end Location

end RunHistory
