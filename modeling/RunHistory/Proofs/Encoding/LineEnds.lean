import RunHistory.Encoding.Feed

/-!
# Line ends in a text that comes in pieces

A carriage return becomes a line feed, and a line feed after it goes away.  A piece of a text that
ends in a carriage return keeps it back, since what comes next may be its line feed; so the pieces
together have the line ends of the whole text.

## Main definitions

* `Encoding.LineFed`: a text and the same text with line feeds for its line ends.
* `Encoding.withHeld`: a text with the carriage return that was held back before it.

## Main results

* `Encoding.lineFed_lineFeeds`: what `lineFeeds` does, by the characters of the text.
* `Encoding.lineFeeds_append`: a text may be cut wherever no carriage return is parted from its line
  feed.
* `Encoding.lineFeedsOfPiece_spec`: **one piece of a text.**
-/

namespace RunHistory.Encoding

/-! ### A text with line feeds -/

/-- A text, and the same text with line feeds for its line ends. -/
inductive LineFed : List Char → List Char → Prop where
  /-- Nothing is left. -/
  | nil : LineFed [] []
  /-- A carriage return with its line feed. -/
  | pair {cs fed : List Char} (rest : LineFed cs fed) : LineFed ('\r' :: '\n' :: cs) ('\n' :: fed)
  /-- A carriage return without a line feed. -/
  | single {cs fed : List Char} (head : cs.head? ≠ some '\n') (rest : LineFed cs fed) :
    LineFed ('\r' :: cs) ('\n' :: fed)
  /-- Any other character. -/
  | other {c : Char} {cs fed : List Char} (ne : c ≠ '\r') (rest : LineFed cs fed) :
    LineFed (c :: cs) (c :: fed)

theorem LineFed.foldl {cs fed : List Char} (h : LineFed cs fed) :
    ∀ (after : Bool) (acc : List Char), (after = true → cs.head? ≠ some '\n') →
      (cs.foldl lineFeedStep (after, acc)).2 = fed.reverse ++ acc := by
  induction h with
  | nil =>
    intro after acc _
    rfl
  | @pair cs fed _ ih =>
    intro after acc _
    have hrest := ih false ('\n' :: acc) (by simp)
    rw [List.reverse_cons, List.append_assoc]
    exact hrest
  | @single cs fed head _ ih =>
    intro after acc _
    have hrest := ih true ('\n' :: acc) fun _ => head
    rw [List.reverse_cons, List.append_assoc]
    exact hrest
  | @other c cs fed ne _ ih =>
    intro after acc hafter
    have hstep : lineFeedStep (after, acc) c = (false, c :: acc) := by
      unfold lineFeedStep
      rw [if_neg ne, if_neg]
      rintro ⟨rfl, htrue⟩
      exact hafter htrue rfl
    rw [List.foldl_cons, hstep, ih false (c :: acc) (by simp), List.reverse_cons, List.append_assoc]
    rfl

theorem LineFed.eq {cs fed : List Char} (h : LineFed cs fed) : lineFeeds cs = fed := by
  unfold lineFeeds
  rw [h.foldl false [] (by simp), List.append_nil, List.reverse_reverse]

theorem exists_lineFed : ∀ cs : List Char, ∃ fed, LineFed cs fed
  | [] => ⟨[], .nil⟩
  | c :: cs => by
    obtain ⟨fed, hfed⟩ := exists_lineFed cs
    by_cases hc : c = '\r'
    · subst hc
      -- the line feed that goes away is the first character of the rest
      match cs, hfed with
      | [], hfed => exact ⟨_, .single (by simp) hfed⟩
      | d :: cs, hfed =>
        by_cases hd : d = '\n'
        · subst hd
          obtain ⟨fed', hfed'⟩ := exists_lineFed cs
          exact ⟨_, .pair hfed'⟩
        · exact ⟨_, .single (by simpa using hd) hfed⟩
    · exact ⟨_, .other hc hfed⟩

/-- What `lineFeeds` does, by the characters of the text. -/
theorem lineFed_lineFeeds (cs : List Char) : LineFed cs (lineFeeds cs) := by
  obtain ⟨fed, h⟩ := exists_lineFed cs
  rw [h.eq]
  exact h

/-! ### Cutting a text -/

theorem head?_append_ne {cs rest : List Char} {c : Char} (h : cs.head? ≠ some c)
    (hnil : cs = [] → rest.head? ≠ some c) : (cs ++ rest).head? ≠ some c := by
  cases cs with
  | nil => exact hnil rfl
  | cons d cs => exact h

theorem LineFed.append {a b s t : List Char} (ha : LineFed a s) (hb : LineFed b t)
    (h : a.getLast? = some '\r' → b.head? ≠ some '\n') : LineFed (a ++ b) (s ++ t) := by
  induction ha with
  | nil => exact hb
  | @pair cs fed _ ih =>
    refine .pair (ih ?_)
    intro hlast
    cases cs with
    | nil => cases hlast
    | cons d cs => exact h (by simpa using hlast)
  | @single cs fed head _ ih =>
    refine .single (head?_append_ne head ?_) (ih ?_)
    · rintro rfl
      exact h rfl
    · intro hlast
      cases cs with
      | nil => cases hlast
      | cons d cs => exact h (by simpa using hlast)
  | @other c cs fed ne _ ih =>
    refine .other ne (ih ?_)
    intro hlast
    cases cs with
    | nil => cases hlast
    | cons d cs => exact h (by simpa using hlast)

/-- A text may be cut wherever no carriage return is parted from its line feed. -/
theorem lineFeeds_append {a b : List Char} (h : a.getLast? = some '\r' → b.head? ≠ some '\n') :
    lineFeeds (a ++ b) = lineFeeds a ++ lineFeeds b :=
  ((lineFed_lineFeeds a).append (lineFed_lineFeeds b) h).eq

/-! ### Pieces -/

/-- A text with the carriage return that was held back before it. -/
def withHeld (held : Bool) (cs : List Char) : List Char := if held then '\r' :: cs else cs

/-- **One piece of a text** gives the line feeds of the text so far, and may hold a carriage return
back, but not at the end of the text. -/
theorem lineFeedsOfPiece_spec (held : Bool) {final : Bool} (cs : List Char) {more : List Char}
    (hfinal : final = true → more = []) :
    lineFeeds (withHeld held (cs ++ more)) = (lineFeedsOfPiece held final cs).1 ++
        lineFeeds (withHeld (lineFeedsOfPiece held final cs).2 more) ∧
      (final = true → (lineFeedsOfPiece held final cs).2 = false) := by
  cases final with
  | true =>
    obtain rfl := hfinal rfl
    have hpiece : lineFeedsOfPiece held true cs = (lineFeeds (withHeld held cs), false) := by
      cases held <;> rfl
    rw [hpiece, List.append_nil]
    exact ⟨(List.append_nil _).symm, fun _ => rfl⟩
  | false =>
    refine ⟨?_, fun h => by cases h⟩
    by_cases hnone : held = true ∧ cs = []
    · -- the piece adds nothing, and the carriage return stays held back
      obtain ⟨rfl, rfl⟩ := hnone
      rfl
    · obtain ⟨hall, hstill⟩ : (if held && (false || !cs.isEmpty) then '\r' :: cs else cs) =
          withHeld held cs ∧ (held && !false && cs.isEmpty) = false := by
        cases held with
        | false => exact ⟨rfl, rfl⟩
        | true =>
          cases cs with
          | nil => exact absurd ⟨rfl, rfl⟩ hnone
          | cons c cs => exact ⟨rfl, rfl⟩
      have hwhole : withHeld held (cs ++ more) = withHeld held cs ++ more := by
        cases held <;> rfl
      unfold lineFeedsOfPiece
      simp only [hall, hstill, hwhole]
      generalize withHeld held cs = all
      by_cases hlast : all.getLast? = some '\r'
      · obtain ⟨front, rfl⟩ := List.getLast?_eq_some_iff.1 hlast
        have hcut :
            lineFeeds (front ++ '\r' :: more) = lineFeeds front ++ lineFeeds ('\r' :: more) :=
          lineFeeds_append (by simp)
        simpa [withHeld] using hcut
      · have hcut : lineFeeds (all ++ more) = lineFeeds all ++ lineFeeds more :=
          lineFeeds_append fun h => absurd h hlast
        simpa [withHeld, hlast] using hcut

end RunHistory.Encoding
