import RunHistory.Proofs.Json.Levels
import RunHistory.Proofs.Json.Strings
import RunHistory.Proofs.Table.Overlay

/-!
# Values as JSON writes them

A value without fractional numbers is written by its tokens, with blanks between them.  Integers
have no leading zeros and at most `maxDigits` digits, and the fields of an object have distinct
names.  Whichever way a value is written, reading it gives it back, with the fields in their order,
and leaves what comes after it, if there is room for the levels in which it is nested.

## Main definitions

* `Json.Writes`: the ways to write a value.
* `Json.Ends`: what may come after a value.
* `Json.depth`: in how many levels a value is nested.

## Main results

* `Json.readPlain_natural`, `Json.readPlain_negative`: integers are read back.
* `Json.reads`: **values are read back.**
* `Json.readWithin_of_writes`, `Json.read_of_writes`: and so is a whole text.
-/

namespace RunHistory.Json

/-! ### The ways to write a value -/

/-- Blanks and tabs, which may stand between tokens. -/
def IsGap (gap : List Char) : Prop := ∀ c ∈ gap, c = ' ' ∨ c = '\t'

/-- A string in quotes. -/
def WritesString (s : String) (t : List Char) : Prop :=
  ∃ u, WritesText s.toList u ∧ t = '"' :: (u ++ ['"'])

mutual

/-- The ways to write a value. -/
inductive Writes : Value → List Char → Prop where
  /-- The word for null. -/
  | null : Writes .null ['n', 'u', 'l', 'l']
  /-- The word for true. -/
  | yes : Writes (.bool true) ['t', 'r', 'u', 'e']
  /-- The word for false. -/
  | no : Writes (.bool false) ['f', 'a', 'l', 's', 'e']
  /-- The digits of a natural number. -/
  | natural {n : Nat} (digits : (Nat.toDigits 10 n).length ≤ maxDigits) :
    Writes (.int n) (Nat.toDigits 10 n)
  /-- A minus sign and digits. -/
  | negative {n : Nat} (digits : (Nat.toDigits 10 n).length ≤ maxDigits) :
    Writes (.int (-n)) ('-' :: Nat.toDigits 10 n)
  /-- A string in quotes. -/
  | str {s : String} {t : List Char} (text : WritesString s t) : Writes (.str s) t
  /-- Brackets with nothing between them. -/
  | emptyList {gap : List Char} (gaps : IsGap gap) : Writes (.list []) ('[' :: (gap ++ [']']))
  /-- Items between brackets. -/
  | list {items : List Value} {gap t : List Char} (gaps : IsGap gap) (parts : WritesItems items t) :
    Writes (.list items) ('[' :: (gap ++ (t ++ [']'])))
  /-- Braces with nothing between them. -/
  | emptyObject {gap : List Char} (gaps : IsGap gap) :
    Writes (.object []) ('\x7b' :: (gap ++ ['\x7d']))
  /-- Fields of distinct names between braces. -/
  | object {fields : List (String × Value)} {gap t : List Char} (gaps : IsGap gap)
    (distinct : (fields.map Prod.fst).Nodup) (parts : WritesFields fields t) :
    Writes (.object fields) ('\x7b' :: (gap ++ (t ++ ['\x7d'])))

/-- The ways to write the items of a list, with commas between them. -/
inductive WritesItems : List Value → List Char → Prop where
  /-- The last item. -/
  | last {v : Value} {t gap : List Char} (item : Writes v t) (gaps : IsGap gap) :
    WritesItems [v] (t ++ gap)
  /-- An item with others after it. -/
  | cons {v : Value} {items : List Value} {t gap gap' u : List Char} (item : Writes v t)
    (gaps : IsGap gap) (gaps' : IsGap gap') (others : WritesItems items u) :
    WritesItems (v :: items) (t ++ (gap ++ ',' :: (gap' ++ u)))

/-- The ways to write a field of an object: its name and its value, with a colon between them. -/
inductive WritesField : String × Value → List Char → Prop where
  /-- The name and the value. -/
  | field {name : String} {v : Value} {s gap gap' t : List Char} (label : WritesString name s)
    (gaps : IsGap gap) (gaps' : IsGap gap') (value : Writes v t) :
    WritesField (name, v) (s ++ (gap ++ ':' :: (gap' ++ t)))

/-- The ways to write the fields of an object, with commas between them. -/
inductive WritesFields : List (String × Value) → List Char → Prop where
  /-- The last field. -/
  | last {f : String × Value} {t gap : List Char} (field : WritesField f t) (gaps : IsGap gap) :
    WritesFields [f] (t ++ gap)
  /-- A field with others after it. -/
  | cons {f : String × Value} {fields : List (String × Value)} {t gap gap' u : List Char}
    (field : WritesField f t) (gaps : IsGap gap) (gaps' : IsGap gap')
    (others : WritesFields fields u) : WritesFields (f :: fields) (t ++ (gap ++ ',' :: (gap' ++ u)))

end

/-! ### Gaps, and what comes after a value -/

/-- What may come after a value: nothing that would go on with a number. -/
def Ends (rest : List Char) : Prop :=
  ∀ c ∈ rest.head?, isFigure c = false ∧ c ≠ '.' ∧ c ≠ 'e' ∧ c ≠ 'E'

theorem ends_nil : Ends [] := by
  intro c hc
  simp at hc

theorem ends_cons {c : Char} (h : isFigure c = false ∧ c ≠ '.' ∧ c ≠ 'e' ∧ c ≠ 'E')
    (rest : List Char) : Ends (c :: rest) := by
  intro c' hc'
  rw [List.head?_cons, Option.mem_some_iff] at hc'
  subst hc'
  exact h

theorem ends_gap {gap : List Char} (hgap : IsGap gap) {rest : List Char} (h : Ends rest) :
    Ends (gap ++ rest) := by
  cases gap with
  | nil => exact h
  | cons c gap =>
    apply ends_cons
    rcases hgap c List.mem_cons_self with rfl | rfl <;> decide

theorem skipSpace_gap {gap : List Char} (hgap : IsGap gap) (rest : List Char) :
    skipSpace (gap ++ rest) = skipSpace rest := by
  induction gap with
  | nil => rfl
  | cons c gap ih =>
    have hspace : isSpace c = true := by
      rcases hgap c List.mem_cons_self with rfl | rfl <;> rfl
    have hrest := ih fun c' hc' => hgap c' (List.mem_cons_of_mem c hc')
    unfold skipSpace at hrest ⊢
    rw [List.cons_append, List.dropWhile_cons_of_pos hspace, hrest]

/-! ### Integers -/

theorem isFigure_of_mem_toDigits {n : Nat} {c : Char} (h : c ∈ Nat.toDigits 10 n) :
    isFigure c = true :=
  Nat.isDigit_of_mem_toDigits (by decide) (by decide) h

/-- The digits of a number begin with a figure. -/
theorem exists_toDigits_eq_cons (n : Nat) :
    ∃ d ds, Nat.toDigits 10 n = d :: ds ∧ isFigure d = true := by
  have hne : Nat.toDigits 10 n ≠ [] := Nat.toDigits_ne_nil
  obtain ⟨d, ds, hds⟩ := List.exists_cons_of_ne_nil hne
  refine ⟨d, ds, hds, isFigure_of_mem_toDigits (n := n) ?_⟩
  rw [hds]
  exact List.mem_cons_self

theorem ne_of_isFigure {c d : Char} (hc : isFigure c = false) (hd : isFigure d = true) :
    c ≠ d := by
  rintro rfl
  rw [hd] at hc
  cases hc

theorem figures_toDigits (n : Nat) : figures (Nat.toDigits 10 n) = n :=
  Nat.ofDigitChars_ten_toDigits

/-- Digits of a number other than zero do not begin with zero. -/
theorem head_toDigits_ne_zero {n : Nat} (h : n ≠ 0) : (Nat.toDigits 10 n).head? ≠ some '0' := by
  induction n using Nat.strongRecOn with
  | _ n ih =>
    rw [Nat.toDigits_eq_if (by decide)]
    split
    · next hlt =>
      have hall : ∀ n < 10, n ≠ 0 → Nat.digitChar n ≠ '0' := by decide
      simpa using hall n hlt h
    · next hge =>
      have hless : n / 10 < n := by omega
      have hpos : n / 10 ≠ 0 := by omega
      have hhead := ih (n / 10) hless hpos
      obtain ⟨d, ds, hds, -⟩ := exists_toDigits_eq_cons (n / 10)
      rw [hds] at hhead ⊢
      exact hhead

theorem takeWhile_isFigure_append {ds : List Char} (hds : ∀ c ∈ ds, isFigure c = true)
    {rest : List Char} (h : Ends rest) :
    (ds ++ rest).takeWhile isFigure = ds ∧ (ds ++ rest).dropWhile isFigure = rest := by
  have hrest : rest.takeWhile isFigure = [] ∧ rest.dropWhile isFigure = rest := by
    cases rest with
    | nil => exact ⟨rfl, rfl⟩
    | cons c rest =>
      have hc : isFigure c = false := (h c rfl).1
      simp [hc]
  rw [List.takeWhile_append_of_pos hds, List.dropWhile_append_of_pos hds, hrest.1, hrest.2,
    List.append_nil]
  exact ⟨rfl, rfl⟩

theorem wholeDigits_toDigits (n : Nat) {rest : List Char} (h : Ends rest) :
    wholeDigits (Nat.toDigits 10 n ++ rest) = some (Nat.toDigits 10 n, rest) := by
  by_cases hzero : n = 0
  · subst hzero
    rfl
  · obtain ⟨htake, hdrop⟩ :=
      takeWhile_isFigure_append (fun c hc => isFigure_of_mem_toDigits (n := n) hc) h
    have hhead := head_toDigits_ne_zero hzero
    obtain ⟨d, ds, hds, -⟩ := exists_toDigits_eq_cons n
    rw [hds] at htake hdrop hhead ⊢
    rw [wholeDigits.eq_def]
    split
    · next rest' heq =>
      rw [List.cons_append, List.cons.injEq] at heq
      exact absurd heq.1 (by simpa using hhead)
    · rw [htake, hdrop]

/-- **Digits are read back** as the number that they write. -/
theorem readNumber_toDigits (here : List Char) (negative : Bool) {n : Nat}
    (hdigits : (Nat.toDigits 10 n).length ≤ maxDigits) {rest : List Char} (h : Ends rest) :
    readNumber here negative (Nat.toDigits 10 n ++ rest) =
      .ok (.int (if negative then -(n : Int) else n), rest) := by
  have hfraction : fractionDigits rest = none := by
    cases rest with
    | nil => rfl
    | cons c rest =>
      have hc : c ≠ '.' := (h c rfl).2.1
      rw [fractionDigits.eq_def]
      split
      · next heq => exact absurd (List.cons.inj heq).1 hc
      · rfl
  have hexponent : exponent rest = none := by
    cases rest with
    | nil => rfl
    | cons c rest =>
      have hc : ¬(c = 'e' ∨ c = 'E') := by
        rintro (hc | hc)
        · exact (h c rfl).2.2.1 hc
        · exact (h c rfl).2.2.2 hc
      rw [exponent, if_neg hc]
  rw [readNumber, wholeDigits_toDigits n h]
  dsimp only
  rw [hfraction]
  dsimp only [Option.elim]
  rw [hexponent]
  dsimp only
  rw [if_neg (by omega), figures_toDigits]

theorem afterWord?_of_ne {w c : Char} (h : w ≠ c) (word cs : List Char) :
    afterWord? (w :: word) (c :: cs) = none := by
  have hprefix : (w :: word).isPrefixOf (c :: cs) = false := by simp [List.isPrefixOf, h]
  rw [afterWord?, hprefix]
  rfl

/-- A text that begins with a figure begins with none of the words. -/
theorem readPlain_figure {d : Char} (hd : isFigure d = true) (cs : List Char) :
    readPlain (d :: cs) = readNumber (d :: cs) false (d :: cs) ∧
      readPlain ('-' :: d :: cs) = readNumber ('-' :: d :: cs) true (d :: cs) := by
  have hne : ∀ c, isFigure c = false → c ≠ d := fun c hc => ne_of_isFigure hc hd
  have hinfinity : "Infinity".toList = 'I' :: "nfinity".toList := by decide
  have hminus : "-Infinity".toList = '-' :: 'I' :: "nfinity".toList := by decide
  have hsecond : ('-' :: 'I' :: "nfinity".toList).isPrefixOf ('-' :: d :: cs) = false := by
    simp [List.isPrefixOf, hne 'I' (by decide)]
  constructor
  · rw [readPlain, afterWord?_of_ne (hne 'n' (by decide)), afterWord?_of_ne (hne 't' (by decide)),
      afterWord?_of_ne (hne 'f' (by decide)), afterWord?_of_ne (hne 'N' (by decide)), hinfinity,
      afterWord?_of_ne (hne 'I' (by decide)), hminus, afterWord?_of_ne (hne '-' (by decide))]
    intro rest heq
    exact absurd (List.cons.inj heq).1.symm (hne '-' (by decide))
  · rw [readPlain, afterWord?_of_ne (by decide), afterWord?_of_ne (by decide),
      afterWord?_of_ne (by decide), afterWord?_of_ne (by decide), hinfinity,
      afterWord?_of_ne (by decide), hminus, afterWord?, hsecond]
    rfl

theorem readPlain_natural {n : Nat} (hdigits : (Nat.toDigits 10 n).length ≤ maxDigits)
    {rest : List Char} (h : Ends rest) :
    readPlain (Nat.toDigits 10 n ++ rest) = .ok (.int n, rest) := by
  have hnumber := readNumber_toDigits (Nat.toDigits 10 n ++ rest) false hdigits h
  obtain ⟨d, ds, hds, hd⟩ := exists_toDigits_eq_cons n
  rw [hds] at hnumber ⊢
  exact (readPlain_figure hd (ds ++ rest)).1.trans hnumber

theorem readPlain_negative {n : Nat} (hdigits : (Nat.toDigits 10 n).length ≤ maxDigits)
    {rest : List Char} (h : Ends rest) :
    readPlain ('-' :: (Nat.toDigits 10 n ++ rest)) = .ok (.int (-n), rest) := by
  have hnumber := readNumber_toDigits ('-' :: (Nat.toDigits 10 n ++ rest)) true hdigits h
  obtain ⟨d, ds, hds, hd⟩ := exists_toDigits_eq_cons n
  rw [hds] at hnumber ⊢
  exact (readPlain_figure hd (ds ++ rest)).2.trans hnumber

/-! ### Where a part begins -/

/-- Whether a value or a field can begin with a character, which closes nothing then. -/
def canBegin (c : Char) : Bool := !isSpace c && c != ']' && c != '\x7d' && c != '\uFEFF'

/-- A text begins as a value or a field can begin. -/
def Begins (t : List Char) : Prop := ∃ c cs, t = c :: cs ∧ canBegin c = true

theorem Begins.append {t : List Char} (h : Begins t) (u : List Char) : Begins (t ++ u) := by
  obtain ⟨c, cs, rfl, hc⟩ := h
  exact ⟨c, cs ++ u, rfl, hc⟩

theorem Begins.length_pos {t : List Char} (h : Begins t) : 0 < t.length := by
  obtain ⟨c, cs, rfl, -⟩ := h
  exact Nat.succ_pos _

theorem Begins.skipSpace_eq {t : List Char} (h : Begins t) : skipSpace t = t := by
  obtain ⟨c, cs, rfl, hc⟩ := h
  unfold canBegin at hc
  cases hspace : isSpace c with
  | true => simp [hspace] at hc
  | false => exact List.dropWhile_cons_of_neg (by simp [hspace])

theorem WritesString.begins {s : String} {t : List Char} (h : WritesString s t) : Begins t := by
  obtain ⟨u, -, rfl⟩ := h
  exact ⟨_, _, rfl, rfl⟩

theorem begins_toDigits (n : Nat) : Begins (Nat.toDigits 10 n) := by
  obtain ⟨d, ds, hds, hd⟩ := exists_toDigits_eq_cons n
  have hne : ∀ c, isFigure c = false → d ≠ c := fun c hc => (ne_of_isFigure hc hd).symm
  refine ⟨d, ds, hds, ?_⟩
  simp [canBegin, isSpace, hne ' ' (by decide), hne '\t' (by decide), hne '\n' (by decide),
    hne '\r' (by decide), hne ']' (by decide), hne '\x7d' (by decide), hne '\uFEFF' (by decide)]

theorem Writes.begins {v : Value} {t : List Char} (h : Writes v t) : Begins t := by
  cases h with
  | natural digits => exact begins_toDigits _
  | str text => exact text.begins
  | _ => exact ⟨_, _, rfl, rfl⟩

theorem WritesItems.begins {items : List Value} {t : List Char} (h : WritesItems items t) :
    Begins t := by
  cases h with
  | last item gaps => exact item.begins.append _
  | cons item gaps gaps' others => exact item.begins.append _

theorem WritesField.begins {f : String × Value} {t : List Char} (h : WritesField f t) :
    Begins t := by
  cases h with
  | field label gaps gaps' value => exact label.begins.append _

theorem WritesFields.begins {fields : List (String × Value)} {t : List Char}
    (h : WritesFields fields t) : Begins t := by
  cases h with
  | last field gaps => exact field.begins.append _
  | cons field gaps gaps' others => exact field.begins.append _

/-! ### Levels -/

mutual

/-- In how many levels of lists and objects a value is nested. -/
def depth : Value → Nat
  | .list items => depthOfItems items + 1
  | .object fields => depthOfFields fields + 1
  | _ => 0

/-- In how many levels the items of a list are nested at most. -/
def depthOfItems : List Value → Nat
  | [] => 0
  | v :: rest => max (depth v) (depthOfItems rest)

/-- In how many levels the values of fields are nested at most. -/
def depthOfFields : List (String × Value) → Nat
  | [] => 0
  | (_, v) :: rest => max (depth v) (depthOfFields rest)

end

/-! ### Reading values -/

/-- Whatever is written is read back with so much fuel, with texts up to a limit, and with room for
its levels. -/
structure Reads (halves : Bool) (limit fuel : Nat) : Prop where
  /-- A value is read back, with what comes after it. -/
  value : ∀ {room : Nat} {v : Value} {t : List Char} (rest : List Char), Writes v t →
    depth v ≤ room → t.length ≤ limit → t.length ≤ fuel → Ends rest →
      readValue halves limit room fuel (t ++ rest) = .ok (v, rest)
  /-- Items are read back up to the closing bracket. -/
  items : ∀ {room : Nat} {items : List Value} {t : List Char} (acc : List Value)
    (rest : List Char), WritesItems items t → depthOfItems items ≤ room → t.length ≤ limit →
      t.length < fuel →
        readItems halves limit room fuel acc (t ++ ']' :: rest) =
          .ok (.list (acc.reverse ++ items), rest)
  /-- Fields are read back up to the closing brace. -/
  fields : ∀ {room : Nat} {fields : List (String × Value)} {t : List Char}
    (acc : List (String × Value)) (rest : List Char), WritesFields fields t →
      ((acc ++ fields).map Prod.fst).Nodup → depthOfFields fields ≤ room → t.length ≤ limit →
        t.length < fuel →
          readFields halves limit room fuel acc (t ++ '\x7d' :: rest) =
            .ok (.object (acc ++ fields), rest)

theorem readText_of_writesString (halves : Bool) {s : String} {t : List Char}
    (h : WritesString s t) {limit : Nat} (hlimit : t.length ≤ limit) (rest : List Char) :
    ∃ u, t ++ rest = '"' :: u ∧ readText halves (t ++ rest) limit [] u = .ok (s, rest) := by
  obtain ⟨u, hu, rfl⟩ := h
  have hlength := hu.length_le
  rw [List.length_cons, List.length_append, List.length_singleton] at hlimit
  refine ⟨u ++ '"' :: rest, by simp, ?_⟩
  have hread := readText_of_writes halves hu ('"' :: (u ++ ['"']) ++ rest) rest
    (show s.toList.length < limit by omega) []
  rw [hread, List.reverse_nil, List.nil_append, String.ofList_toList]

section

variable {halves : Bool} {limit room fuel : Nat}

/-- What comes after an item decides how a list goes on. -/
theorem readItems_item (ih : Reads halves limit fuel) {v : Value} {t : List Char} (h : Writes v t)
    (hroom : depth v ≤ room) (hlimit : t.length ≤ limit) (hfuel : t.length ≤ fuel)
    {rest : List Char} (hrest : Ends rest) (acc : List Value) :
    readItems halves limit room (fuel + 1) acc (t ++ rest) =
      match skipSpace rest with
      | ']' :: after => .ok (.list (v :: acc).reverse, after)
      | ',' :: more => readItems halves limit room fuel (v :: acc) (skipSpace more)
      | more => .error (.fault .comma more) := by
  have hread := ih.value rest h hroom hlimit hfuel hrest
  rw [readItems]
  generalize readValue halves limit room fuel (t ++ rest) = item at hread ⊢
  subst hread
  rfl

theorem reads_items_succ (ih : Reads halves limit fuel) {items : List Value} {t : List Char}
    (h : WritesItems items t) (hroom : depthOfItems items ≤ room) (hlimit : t.length ≤ limit)
    (hfuel : t.length < fuel + 1) (acc : List Value) (rest : List Char) :
    readItems halves limit room (fuel + 1) acc (t ++ ']' :: rest) =
      .ok (.list (acc.reverse ++ items), rest) := by
  cases h with
  | @last v t gap item gaps =>
    rw [List.length_append] at hlimit hfuel
    rw [depthOfItems, Nat.max_le] at hroom
    have hends : Ends (gap ++ ']' :: rest) := ends_gap gaps (ends_cons (by decide) rest)
    rw [List.append_assoc, readItems_item ih item hroom.1 (by omega) (by omega) hends,
      skipSpace_gap gaps]
    show Except.ok (Value.list (v :: acc).reverse, rest) = _
    rw [List.reverse_cons]
  | @cons v items t gap gap' u item gaps gaps' others =>
    simp only [List.length_append, List.length_cons] at hlimit hfuel
    rw [depthOfItems, Nat.max_le] at hroom
    have hends : Ends (gap ++ ',' :: (gap' ++ (u ++ ']' :: rest))) :=
      ends_gap gaps (ends_cons (by decide) _)
    have hmore := ih.items (v :: acc) rest others hroom.2 (by omega) (by omega)
    rw [List.reverse_cons, List.append_assoc, List.singleton_append] at hmore
    simp only [List.append_assoc, List.cons_append]
    rw [readItems_item ih item hroom.1 (by omega) (by omega) hends, skipSpace_gap gaps]
    show readItems halves limit room fuel (v :: acc) (skipSpace (gap' ++ (u ++ ']' :: rest))) = _
    rw [skipSpace_gap gaps', (others.begins.append _).skipSpace_eq, hmore]

/-- What comes after a field decides how an object goes on. -/
theorem readFields_field (ih : Reads halves limit fuel) {name : String} {v : Value} {t : List Char}
    (h : WritesField (name, v) t) (hroom : depth v ≤ room) (hlimit : t.length ≤ limit)
    (hfuel : t.length ≤ fuel) {rest : List Char} (hrest : Ends rest) (acc : List (String × Value)) :
    readFields halves limit room (fuel + 1) acc (t ++ rest) =
      match skipSpace rest with
      | '\x7d' :: after => .ok (.object (setEntry name v acc), after)
      | ',' :: more => readFields halves limit room fuel (setEntry name v acc) (skipSpace more)
      | more => .error (.fault .comma more) := by
  cases h with
  | @field _ _ s gap gap' t label gaps gaps' value =>
    simp only [List.length_append, List.length_cons] at hlimit hfuel
    simp only [List.append_assoc, List.cons_append]
    have hlabel : s.length ≤ limit := by omega
    obtain ⟨u, hquote, hname⟩ := readText_of_writesString halves label hlabel
      (gap ++ ':' :: (gap' ++ (t ++ rest)))
    have hcolon : skipSpace (gap ++ ':' :: (gap' ++ (t ++ rest))) =
        ':' :: (gap' ++ (t ++ rest)) := skipSpace_gap gaps _
    have hvalue : skipSpace (gap' ++ (t ++ rest)) = t ++ rest := by
      rw [skipSpace_gap gaps', (value.begins.append rest).skipSpace_eq]
    have hread := ih.value rest value hroom (by omega) (by omega) hrest
    rw [hquote] at hname ⊢
    rw [readFields, hname]
    simp only [hcolon, hvalue]
    generalize readValue halves limit room fuel (t ++ rest) = read at hread ⊢
    subst hread
    rfl

theorem setEntry_of_notMem {name : String} {v : Value} {acc : List (String × Value)}
    (hnodup : (acc.map Prod.fst).Nodup) (h : name ∉ acc.map Prod.fst) :
    setEntry name v acc = acc ++ [(name, v)] :=
  Table.entries_set_of_notMem (t := ⟨acc, hnodup⟩) h

theorem reads_fields_succ (ih : Reads halves limit fuel) {fields : List (String × Value)}
    {t : List Char} (h : WritesFields fields t) {acc : List (String × Value)}
    (hnodup : ((acc ++ fields).map Prod.fst).Nodup) (hroom : depthOfFields fields ≤ room)
    (hlimit : t.length ≤ limit) (hfuel : t.length < fuel + 1) (rest : List Char) :
    readFields halves limit room (fuel + 1) acc (t ++ '\x7d' :: rest) =
      .ok (.object (acc ++ fields), rest) := by
  -- the name of the first field is a new one
  have hset : ∀ {name : String} {v : Value} {others : List (String × Value)},
      ((acc ++ (name, v) :: others).map Prod.fst).Nodup →
        setEntry name v acc = acc ++ [(name, v)] := by
    intro name v others hnodup
    rw [List.map_append, List.nodup_append] at hnodup
    obtain ⟨hacc, -, hdisjoint⟩ := hnodup
    apply setEntry_of_notMem hacc
    intro hin
    exact hdisjoint name hin name List.mem_cons_self rfl
  cases h with
  | @last f t gap field gaps =>
    obtain ⟨name, v⟩ := f
    rw [List.length_append] at hlimit hfuel
    rw [depthOfFields, Nat.max_le] at hroom
    have hends : Ends (gap ++ '\x7d' :: rest) := ends_gap gaps (ends_cons (by decide) rest)
    rw [List.append_assoc, readFields_field ih field hroom.1 (by omega) (by omega) hends,
      skipSpace_gap gaps]
    show Except.ok (Value.object (setEntry name v acc), rest) = _
    rw [hset hnodup]
  | @cons f fields t gap gap' u field gaps gaps' others =>
    obtain ⟨name, v⟩ := f
    simp only [List.length_append, List.length_cons] at hlimit hfuel
    rw [depthOfFields, Nat.max_le] at hroom
    have hends : Ends (gap ++ ',' :: (gap' ++ (u ++ '\x7d' :: rest))) :=
      ends_gap gaps (ends_cons (by decide) _)
    have hnodup' : ((acc ++ [(name, v)] ++ fields).map Prod.fst).Nodup := by
      rwa [List.append_assoc, List.singleton_append]
    have hmore := ih.fields (acc ++ [(name, v)]) rest others hnodup' hroom.2 (by omega) (by omega)
    rw [List.append_assoc, List.singleton_append] at hmore
    simp only [List.append_assoc, List.cons_append]
    rw [readFields_field ih field hroom.1 (by omega) (by omega) hends, skipSpace_gap gaps]
    show readFields halves limit room fuel (setEntry name v acc)
      (skipSpace (gap' ++ (u ++ '\x7d' :: rest))) = _
    rw [hset hnodup, skipSpace_gap gaps', (others.begins.append _).skipSpace_eq, hmore]

/-- A list or an object is opened by its first character. -/
theorem readValue_open (halves : Bool) (limit room fuel : Nat) {rest : List Char}
    (h : Begins rest) {gap : List Char} (hgap : IsGap gap) :
    readValue halves limit (room + 1) (fuel + 1) ('[' :: (gap ++ rest)) =
        readItems halves limit room fuel [] rest ∧
      readValue halves limit (room + 1) (fuel + 1) ('\x7b' :: (gap ++ rest)) =
        readFields halves limit room fuel [] rest := by
  have hskip : skipSpace (gap ++ rest) = rest := by rw [skipSpace_gap hgap, h.skipSpace_eq]
  obtain ⟨c, cs, rfl, hc⟩ := h
  constructor
  · rw [readValue, if_neg (Nat.succ_ne_zero room), hskip]
    split
    · next heq =>
      cases (List.cons.inj heq).1
      cases hc
    · rfl
  · rw [readValue, if_neg (Nat.succ_ne_zero room), hskip]
    split
    · next heq =>
      cases (List.cons.inj heq).1
      cases hc
    · rfl

theorem reads_value_succ (ih : Reads halves limit fuel) {v : Value} {t : List Char} (h : Writes v t)
    (hroom : depth v ≤ room) (hlimit : t.length ≤ limit) (hfuel : t.length ≤ fuel + 1)
    {rest : List Char} (hrest : Ends rest) :
    readValue halves limit room (fuel + 1) (t ++ rest) = .ok (v, rest) := by
  cases h with
  | null => rfl
  | yes => rfl
  | no => rfl
  | @natural n hdigits =>
    have hread := readPlain_natural hdigits hrest
    -- a figure opens neither a string nor a list nor an object
    obtain ⟨d, ds, hds, hd⟩ := exists_toDigits_eq_cons n
    rw [hds] at hread ⊢
    rw [← hread, List.cons_append, readValue]
    all_goals
      intro rest' heq
      cases (List.cons.inj heq).1
      cases hd
  | negative hdigits =>
    exact readPlain_negative hdigits hrest
  | str htext =>
    obtain ⟨u, hquote, hread⟩ := readText_of_writesString halves htext hlimit rest
    rw [hquote] at hread ⊢
    rw [readValue, hread]
  | @emptyList gap hgap =>
    have hne : room ≠ 0 := Nat.ne_of_gt hroom
    rw [List.cons_append, List.append_assoc, readValue, if_neg hne, skipSpace_gap hgap]
    rfl
  | @list items gap u hgap hparts =>
    cases room with
    | zero => exact absurd hroom (Nat.not_succ_le_zero _)
    | succ room =>
      simp only [List.length_cons, List.length_append] at hlimit hfuel
      simp only [List.cons_append, List.append_assoc]
      rw [(readValue_open halves limit room fuel (hparts.begins.append _) hgap).1]
      exact ih.items [] rest hparts (Nat.le_of_succ_le_succ hroom) (by omega) (by omega)
  | @emptyObject gap hgap =>
    have hne : room ≠ 0 := Nat.ne_of_gt hroom
    rw [List.cons_append, List.append_assoc, readValue, if_neg hne, skipSpace_gap hgap]
    rfl
  | @object fields gap u hgap hdistinct hparts =>
    cases room with
    | zero => exact absurd hroom (Nat.not_succ_le_zero _)
    | succ room =>
      simp only [List.length_cons, List.length_append] at hlimit hfuel
      simp only [List.cons_append, List.append_assoc]
      rw [(readValue_open halves limit room fuel (hparts.begins.append _) hgap).2]
      exact ih.fields [] rest hparts hdistinct (Nat.le_of_succ_le_succ hroom) (by omega) (by omega)

end

/-- **Values are read back**, whichever way they are written. -/
theorem reads (halves : Bool) (limit fuel : Nat) : Reads halves limit fuel := by
  induction fuel with
  | zero =>
    constructor
    · intro room v t rest h _ _ hfuel _
      exact absurd h.begins.length_pos (by omega)
    · intro room items t acc rest _ _ _ hfuel
      exact absurd hfuel (Nat.not_lt_zero _)
    · intro room fields t acc rest _ _ _ _ hfuel
      exact absurd hfuel (Nat.not_lt_zero _)
  | succ fuel ih =>
    constructor
    · intro room v t rest h hroom hlimit hfuel hrest
      exact reads_value_succ ih h hroom hlimit hfuel hrest
    · intro room items t acc rest h hroom hlimit hfuel
      exact reads_items_succ ih h hroom hlimit hfuel acc rest
    · intro room fields t acc rest h hnodup hroom hlimit hfuel
      exact reads_fields_succ ih h hnodup hroom hlimit hfuel rest

/-! ### Whole texts -/

/-- A value with blanks around it. -/
def WritesWhole (v : Value) (text : List Char) : Prop :=
  ∃ gap t gap', IsGap gap ∧ Writes v t ∧ IsGap gap' ∧ text = gap ++ (t ++ gap')

/-- **A whole text is read back**, with as many levels as the value is nested in. -/
theorem readWhole_of_writes (halves : Bool) {v : Value} {text : List Char}
    (h : WritesWhole v text) {levels : Nat} (hlevels : depth v ≤ levels) :
    readWhole halves levels text = .ok v := by
  obtain ⟨gap, t, gap', hgap, ht, hgap', rfl⟩ := h
  have hskip : skipSpace (gap ++ (t ++ gap')) = t ++ gap' := by
    rw [skipSpace_gap hgap, (ht.begins.append gap').skipSpace_eq]
  have hends : Ends gap' := List.append_nil gap' ▸ ends_gap hgap' ends_nil
  have hrest : skipSpace gap' = [] := by
    have hnil := skipSpace_gap hgap' []
    rwa [List.append_nil] at hnil
  have hlength : t.length ≤ (gap ++ (t ++ gap')).length := by
    simp only [List.length_append]
    omega
  have hfuel : t.length ≤ fuelFor (gap ++ (t ++ gap')) := by
    unfold fuelFor
    omega
  have hread := (reads halves _ _).value gap' ht hlevels hlength hfuel hends
  rw [readWhole.eq_def]
  split
  · next rest heq =>
    -- neither a gap nor a value begins with a byte order mark
    cases gap with
    | nil =>
      obtain ⟨c, cs, rfl, hc⟩ := ht.begins
      cases (List.cons.inj heq).1
      cases hc
    | cons c gap =>
      have hmark : c = '\uFEFF' := (List.cons.inj heq).1
      rcases hgap c List.mem_cons_self with rfl | rfl <;> cases hmark
  · rw [hskip, hread]
    simp only [hrest]

theorem readWithin_of_writes {v : Value} {text : List Char} (h : WritesWhole v text)
    {levels : Nat} (hlevels : depth v ≤ levels) : readWithin levels text = .ok v := by
  rw [readWithin, readWhole_of_writes true h hlevels]
  exact readWhole_of_writes false h hlevels

theorem read_of_writes {v : Value} {text : List Char} (h : WritesWhole v text) :
    read text = .ok v :=
  read_eq_of_readWithin (readWithin_of_writes h (Nat.le_refl (depth v)))

/-- No text of a value is nested deeper than the value. -/
theorem tooDeep?_of_writes {v : Value} {text : List Char} (h : WritesWhole v text) {levels : Nat}
    (hlevels : depth v ≤ levels) : tooDeep? levels text = none := by
  rw [tooDeep?, readWithin_of_writes h hlevels]

end RunHistory.Json
