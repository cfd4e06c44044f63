import RunHistory.Json.Reader

/-!
# Strings as JSON writes them

In a string each character stands for itself, or is written by an escape: a letter after a
backslash, or its 16-bit units by four hexadecimal digits each, two of them for a character beyond
U+FFFF.  The quote, the backslash and the control characters cannot stand for themselves.  Whichever
way each of its characters is written, reading the string gives the characters back.

## Main definitions

* `Json.WritesChar`: the ways to write one character.
* `Json.WritesText`: the ways to write a row of characters.

## Main results

* `Json.readText_of_writes`: **a string is read back.**
-/

namespace RunHistory.Json

/-! ### Units -/

/-- A character is the hexadecimal digit of a number, in either case. -/
def IsHexDigit (n : Nat) (c : Char) : Prop :=
  n < 16 ∧ (c = Nat.digitChar n ∨ c = (Nat.digitChar n).toUpper)

theorem hexValue?_of_isHexDigit {n : Nat} {c : Char} (h : IsHexDigit n c) :
    hexValue? c = some n := by
  have hall : ∀ n < 16, hexValue? (Nat.digitChar n) = some n ∧
      hexValue? (Nat.digitChar n).toUpper = some n := by decide
  obtain ⟨hlt, rfl | rfl⟩ := h
  · exact (hall n hlt).1
  · exact (hall n hlt).2

/-- Four hexadecimal digits write a 16-bit unit. -/
inductive WritesUnit (n : Nat) : List Char → Prop where
  /-- The digits, from the most significant one on. -/
  | digits {a b c d : Char} (ha : IsHexDigit (n / 4096) a) (hb : IsHexDigit (n / 256 % 16) b)
    (hc : IsHexDigit (n / 16 % 16) c) (hd : IsHexDigit (n % 16) d) : WritesUnit n [a, b, c, d]

theorem hexUnit?_of_isHexDigit {n : Nat} {a b c d : Char} (ha : IsHexDigit (n / 4096) a)
    (hb : IsHexDigit (n / 256 % 16) b) (hc : IsHexDigit (n / 16 % 16) c)
    (hd : IsHexDigit (n % 16) d) : hexUnit? a b c d = some n := by
  rw [hexUnit?, hexValue?_of_isHexDigit ha, hexValue?_of_isHexDigit hb,
    hexValue?_of_isHexDigit hc, hexValue?_of_isHexDigit hd]
  have hsum : ((n / 4096 * 16 + n / 256 % 16) * 16 + n / 16 % 16) * 16 + n % 16 = n := by omega
  exact congrArg some hsum

/-! ### Characters -/

/-- The letters that escape a character after a backslash. -/
def shortEscapes : List (Char × Char) :=
  [('"', '"'), ('\\', '\\'), ('/', '/'), ('b', '\x08'), ('f', '\x0c'), ('n', '\n'), ('r', '\r'),
    ('t', '\t')]

/-- The ways to write a character in a string. -/
inductive WritesChar : Char → List Char → Prop where
  /-- It stands for itself. -/
  | plain {c : Char} (control : 0x20 ≤ c.toNat) (quote : c ≠ '"') (backslash : c ≠ '\\') :
    WritesChar c [c]
  /-- A letter stands for it. -/
  | short {letter c : Char} (h : (letter, c) ∈ shortEscapes) : WritesChar c ['\\', letter]
  /-- Its only unit stands for it. -/
  | unit {c : Char} {ds : List Char} (h : WritesUnit c.toNat ds) : WritesChar c ('\\' :: 'u' :: ds)
  /-- Its two units stand for it. -/
  | pair {c : Char} {ds ds' : List Char} (beyond : 0x10000 ≤ c.toNat)
    (high : WritesUnit (0xD800 + (c.toNat - 0x10000) / 0x400) ds)
    (low : WritesUnit (0xDC00 + (c.toNat - 0x10000) % 0x400) ds') :
    WritesChar c ('\\' :: 'u' :: (ds ++ '\\' :: 'u' :: ds'))

theorem WritesChar.length_pos {c : Char} {t : List Char} (h : WritesChar c t) : 0 < t.length := by
  cases h <;> simp

theorem not_surrogate (c : Char) : ¬(0xD800 ≤ c.toNat ∧ c.toNat < 0xE000) := by
  have hvalid : c.toNat < 0xD800 ∨ 0xDFFF < c.toNat ∧ c.toNat < 0x110000 := c.valid
  omega

variable {halves : Bool}

theorem escape_unit {n : Nat} {ds : List Char} (h : WritesUnit n ds) (start here : List Char)
    {rest : List Char} (hrest : rest ≠ []) :
    escape halves start here ('u' :: (ds ++ rest)) = escapedUnit halves n rest := by
  obtain ⟨ha, hb, hc, hd⟩ := h
  cases rest with
  | nil => exact absurd rfl hrest
  | cons next more =>
    show escape halves start here ('u' :: _ :: _ :: _ :: _ :: next :: more) = _
    rw [escape, hexUnit?_of_isHexDigit ha hb hc hd]

theorem lowUnit_unit {n : Nat} {ds : List Char} (h : WritesUnit n ds)
    (hlow : 0xDC00 ≤ n ∧ n < 0xE000) {rest : List Char} (hrest : rest ≠ []) :
    lowUnit ('\\' :: 'u' :: (ds ++ rest)) = .ok (some (n, rest)) := by
  obtain ⟨ha, hb, hc, hd⟩ := h
  cases rest with
  | nil => exact absurd rfl hrest
  | cons next more =>
    show lowUnit ('\\' :: 'u' :: _ :: _ :: _ :: _ :: next :: more) = _
    rw [lowUnit, hexUnit?_of_isHexDigit ha hb hc hd]
    simp [hlow]

/-- A unit that is a character by itself. -/
theorem escapedUnit_char (c : Char) (rest : List Char) :
    escapedUnit halves c.toNat rest = .ok (c, rest) := by
  have hchar := not_surrogate c
  have hfirst : ¬(0xD800 ≤ c.toNat ∧ c.toNat < 0xDC00) := by omega
  rw [escapedUnit, if_neg hfirst, unitChar, if_neg hchar, Char.ofNat_toNat]

/-- A unit that is the first of a pair. -/
theorem escapedUnit_pair {c : Char} (beyond : 0x10000 ≤ c.toNat) {ds : List Char}
    (low : WritesUnit (0xDC00 + (c.toNat - 0x10000) % 0x400) ds) {rest : List Char}
    (hrest : rest ≠ []) :
    escapedUnit halves (0xD800 + (c.toNat - 0x10000) / 0x400) ('\\' :: 'u' :: (ds ++ rest)) =
      .ok (c, rest) := by
  have hvalid : c.toNat < 0xD800 ∨ 0xDFFF < c.toNat ∧ c.toNat < 0x110000 := c.valid
  have hhigh : 0xD800 ≤ 0xD800 + (c.toNat - 0x10000) / 0x400 ∧
      0xD800 + (c.toNat - 0x10000) / 0x400 < 0xDC00 := by omega
  have hlow : 0xDC00 ≤ 0xDC00 + (c.toNat - 0x10000) % 0x400 ∧
      0xDC00 + (c.toNat - 0x10000) % 0x400 < 0xE000 := by omega
  have hsum : 0x10000 + (0xD800 + (c.toNat - 0x10000) / 0x400 - 0xD800) * 0x400 +
      (0xDC00 + (c.toNat - 0x10000) % 0x400 - 0xDC00) = c.toNat := by omega
  rw [escapedUnit, if_pos hhigh, lowUnit_unit low hlow hrest]
  show Except.ok (pairChar _ _, rest) = _
  rw [pairChar, hsum, Char.ofNat_toNat]

/-- **A character is read back**, if the string goes on or ends after it. -/
theorem readText_of_writesChar {c : Char} {t : List Char} (h : WritesChar c t) (start : List Char)
    (fuel : Nat) (acc : List Char) {rest : List Char} (hrest : rest ≠ []) :
    readText halves start (fuel + 1) acc (t ++ rest) =
      readText halves start fuel (c :: acc) rest := by
  -- all ways but one are a backslash with an escape after it
  have hescape : ∀ {u : List Char}, (∀ here, escape halves start here (u ++ rest) = .ok (c, rest)) →
      readText halves start (fuel + 1) acc ('\\' :: (u ++ rest)) =
        readText halves start fuel (c :: acc) rest := by
    intro u hu
    rw [readText, if_neg (by decide), if_pos rfl, hu]
  cases h with
  | plain hcontrol hquote hbackslash =>
    have hcontrol' : ¬c.toNat < 0x20 := by omega
    simp [readText, hquote, hbackslash, hcontrol']
  | @short letter _ h =>
    apply hescape (u := [letter])
    intro here
    simp only [shortEscapes, List.mem_cons, Prod.mk.injEq, List.not_mem_nil, or_false] at h
    rcases h with ⟨rfl, rfl⟩ | ⟨rfl, rfl⟩ | ⟨rfl, rfl⟩ | ⟨rfl, rfl⟩ | ⟨rfl, rfl⟩ | ⟨rfl, rfl⟩ |
      ⟨rfl, rfl⟩ | ⟨rfl, rfl⟩ <;> rfl
  | @unit _ ds h =>
    apply hescape (u := 'u' :: ds)
    intro here
    exact (escape_unit h start here hrest).trans (escapedUnit_char c rest)
  | @pair _ ds ds' beyond high low =>
    have hmore : '\\' :: 'u' :: (ds' ++ rest) ≠ [] := by simp
    apply hescape (u := 'u' :: (ds ++ '\\' :: 'u' :: ds'))
    intro here
    rw [List.cons_append, List.append_assoc]
    exact (escape_unit high start here hmore).trans (escapedUnit_pair beyond low hrest)

/-! ### Rows of characters -/

/-- The ways to write a row of characters. -/
inductive WritesText : List Char → List Char → Prop where
  /-- Nothing is written by nothing. -/
  | nil : WritesText [] []
  /-- A character, and the rest. -/
  | cons {c : Char} {cs t u : List Char} (head : WritesChar c t) (tail : WritesText cs u) :
    WritesText (c :: cs) (t ++ u)

theorem WritesText.length_le {cs t : List Char} (h : WritesText cs t) : cs.length ≤ t.length := by
  induction h with
  | nil => exact Nat.le_refl 0
  | cons head _ ih =>
    have hpos := head.length_pos
    rw [List.length_cons, List.length_append]
    omega

/-- **A string is read back** up to its closing quote. -/
theorem readText_of_writes (halves : Bool) {cs t : List Char} (h : WritesText cs t)
    (start rest : List Char) {fuel : Nat} (hfuel : cs.length < fuel) (acc : List Char) :
    readText halves start fuel acc (t ++ '"' :: rest) =
      .ok (String.ofList (acc.reverse ++ cs), rest) := by
  induction h generalizing fuel acc with
  | nil =>
    cases fuel with
    | zero => exact absurd hfuel (Nat.not_lt_zero _)
    | succ fuel =>
      rw [List.append_nil, List.nil_append, readText, if_pos rfl]
  | @cons c cs t u head _ ih =>
    cases fuel with
    | zero => exact absurd hfuel (Nat.not_lt_zero _)
    | succ fuel =>
      have hmore : u ++ '"' :: rest ≠ [] := by simp
      have hless : cs.length < fuel := Nat.lt_of_succ_lt_succ hfuel
      rw [List.append_assoc, readText_of_writesChar head start fuel acc hmore, ih hless,
        List.reverse_cons, List.append_assoc, List.singleton_append]

end RunHistory.Json
