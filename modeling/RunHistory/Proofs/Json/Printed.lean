import RunHistory.Proofs.Number.Decimal

/-!
# Values printed in ASCII

The plain way to write a value: a blank after each comma and colon, letters for the characters that
have such an escape, and units in small hexadecimal digits for all others that are not printable
ASCII.  It is one of the ways to write the value, so printed values are read back.

## Main definitions

* `Json.printed`: a value as it is printed.
* `Json.Plain`: a value without fractional numbers that can be read back.

## Main results

* `Json.writes_printed`: **a value is written by being printed.**
-/

namespace RunHistory.Json

/-! ### Strings -/

/-- A 16-bit unit, as it is printed. -/
def printedUnit (n : Nat) : List Char := '\\' :: 'u' :: hexDigits 4 n

/-- A character of a string, as it is printed. -/
def printedChar (c : Char) : List Char :=
  if c = '"' ∨ c = '\\' then ['\\', c]
  else if c = '\n' then ['\\', 'n']
  else if c = '\r' then ['\\', 'r']
  else if c = '\t' then ['\\', 't']
  else if c = '\x0c' then ['\\', 'f']
  else if c = '\x08' then ['\\', 'b']
  else if 0x20 ≤ c.toNat ∧ c.toNat < 0x7F then [c]
  else if c.toNat < 0x10000 then printedUnit c.toNat
  else printedUnit (0xD800 + (c.toNat - 0x10000) / 0x400) ++
    printedUnit (0xDC00 + (c.toNat - 0x10000) % 0x400)

/-- A string, as it is printed. -/
def printedString (s : String) : List Char := '"' :: (s.toList.flatMap printedChar ++ ['"'])

theorem writesUnit_hexDigits {n : Nat} (h : n < 0x10000) : WritesUnit n (hexDigits 4 n) := by
  have hdigits : hexDigits 4 n = [Nat.digitChar (n / 4096), Nat.digitChar (n / 256 % 16),
      Nat.digitChar (n / 16 % 16), Nat.digitChar (n % 16)] := by
    have htop : n / 4096 % 16 = n / 4096 := by omega
    show [Nat.digitChar (n / 4096 % 16), Nat.digitChar (n / 256 % 16),
      Nat.digitChar (n / 16 % 16), Nat.digitChar (n / 1 % 16)] = _
    rw [htop, Nat.div_one]
  rw [hdigits]
  exact .digits ⟨by omega, .inl rfl⟩ ⟨by omega, .inl rfl⟩ ⟨by omega, .inl rfl⟩
    ⟨by omega, .inl rfl⟩

theorem writesChar_printedChar (c : Char) : WritesChar c (printedChar c) := by
  unfold printedChar
  split_ifs with hquoted hline hreturn htab hfeed hback hplain hunit
  · rcases hquoted with rfl | rfl
    · exact .short (by decide)
    · exact .short (by decide)
  · rw [hline]
    exact .short (by decide)
  · rw [hreturn]
    exact .short (by decide)
  · rw [htab]
    exact .short (by decide)
  · rw [hfeed]
    exact .short (by decide)
  · rw [hback]
    exact .short (by decide)
  · exact .plain hplain.1 (fun h => hquoted (.inl h)) fun h => hquoted (.inr h)
  · exact .unit (writesUnit_hexDigits hunit)
  · have hvalid : c.toNat < 0xD800 ∨ 0xDFFF < c.toNat ∧ c.toNat < 0x110000 := c.valid
    exact .pair (by omega) (writesUnit_hexDigits (by omega)) (writesUnit_hexDigits (by omega))

theorem writesString_printedString (s : String) : WritesString s (printedString s) := by
  refine ⟨s.toList.flatMap printedChar, ?_, rfl⟩
  induction s.toList with
  | nil => exact .nil
  | cons c cs ih =>
    rw [List.flatMap_cons]
    exact .cons (writesChar_printedChar c) ih

/-! ### Values -/

/-- Numbers with a fraction are printed as they are shown, but for their names. -/
def numberLayout : Layout :=
  { Value.realLayout with nan := "NaN".toList, infinite := "Infinity".toList }

/-- Parts, with a comma and a blank between them. -/
def commaParted : List (List Char) → List Char
  | [] => []
  | [t] => t
  | t :: rest => t ++ ',' :: ' ' :: commaParted rest

mutual

/-- A value, as it is printed. -/
def printed : Value → List Char
  | .null => ['n', 'u', 'l', 'l']
  | .bool true => ['t', 'r', 'u', 'e']
  | .bool false => ['f', 'a', 'l', 's', 'e']
  | .int n => (toString n).toList
  | .real x => numberLayout.write x
  | .str s => printedString s
  | .list items => '[' :: (commaParted (printedItems items) ++ [']'])
  | .object fields => '\x7b' :: (commaParted (printedFields fields) ++ ['\x7d'])

/-- The items of a list, each as it is printed. -/
def printedItems : List Value → List (List Char)
  | [] => []
  | v :: rest => printed v :: printedItems rest

/-- The fields of an object, each as it is printed. -/
def printedFields : List (String × Value) → List (List Char)
  | [] => []
  | (name, v) :: rest => (printedString name ++ ':' :: ' ' :: printed v) :: printedFields rest

end

mutual

/-- A value without fractional numbers that can be read back: no integer has too many digits, and no
name comes twice in an object. -/
def Plain : Value → Prop
  | .null | .bool _ | .str _ => True
  | .int n => (Nat.toDigits 10 n.natAbs).length ≤ maxDigits
  | .real _ => False
  | .list items => PlainItems items
  | .object fields => (fields.map Prod.fst).Nodup ∧ PlainFields fields

/-- All items can be read back. -/
def PlainItems : List Value → Prop
  | [] => True
  | v :: rest => Plain v ∧ PlainItems rest

/-- The values of all fields can be read back. -/
def PlainFields : List (String × Value) → Prop
  | [] => True
  | (_, v) :: rest => Plain v ∧ PlainFields rest

end

theorem isGap_nil : IsGap [] := by
  intro c hc
  cases hc

theorem isGap_blank : IsGap [' '] := by
  intro c hc
  exact .inl (List.mem_singleton.1 hc)

theorem writes_printed_int {n : Int} (h : (Nat.toDigits 10 n.natAbs).length ≤ maxDigits) :
    Writes (.int n) (printed (.int n)) := by
  cases n with
  | ofNat n =>
    rw [printed, Whole.toList_toString_ofNat]
    exact .natural h
  | negSucc n =>
    rw [printed, Whole.toList_toString_negSucc]
    exact .negative h

theorem writesField_printed (name : String) {v : Value} (h : Writes v (printed v)) :
    WritesField (name, v) (printedString name ++ ':' :: ' ' :: printed v) := by
  show WritesField (name, v) (printedString name ++ ([] ++ ':' :: ([' '] ++ printed v)))
  exact .field (writesString_printedString name) isGap_nil isGap_blank h

mutual

/-- **A value is written by being printed.** -/
theorem writes_printed : ∀ v : Value, Plain v → Writes v (printed v)
  | .null, _ => .null
  | .bool true, _ => .yes
  | .bool false, _ => .no
  | .int _, h => writes_printed_int h
  | .real _, h => h.elim
  | .str s, _ => .str (writesString_printedString s)
  | .list [], _ => .emptyList isGap_nil
  | .list (v :: items), h =>
    .list isGap_nil (writes_printedItems (v :: items) h (List.cons_ne_nil v items))
  | .object [], _ => .emptyObject isGap_nil
  | .object (f :: fields), h =>
    .object isGap_nil h.1 (writes_printedFields (f :: fields) h.2 (List.cons_ne_nil f fields))

theorem writes_printedItems : ∀ items : List Value, PlainItems items → items ≠ [] →
    WritesItems items (commaParted (printedItems items))
  | [], _, hne => absurd rfl hne
  | [v], h, _ => by
    have hlast := WritesItems.last (writes_printed v h.1) isGap_nil
    rwa [List.append_nil] at hlast
  | v :: w :: items, h, _ => by
    have hothers := writes_printedItems (w :: items) h.2 (List.cons_ne_nil w items)
    show WritesItems (v :: w :: items)
      (printed v ++ ([] ++ ',' :: ([' '] ++ commaParted (printedItems (w :: items)))))
    exact .cons (writes_printed v h.1) isGap_nil isGap_blank hothers

theorem writes_printedFields : ∀ fields : List (String × Value), PlainFields fields →
    fields ≠ [] → WritesFields fields (commaParted (printedFields fields))
  | [], _, hne => absurd rfl hne
  | [(name, v)], h, _ => by
    have hlast := WritesFields.last (writesField_printed name (writes_printed v h.1)) isGap_nil
    rwa [List.append_nil] at hlast
  | (name, v) :: g :: fields, h, _ => by
    have hothers := writes_printedFields (g :: fields) h.2 (List.cons_ne_nil g fields)
    show WritesFields ((name, v) :: g :: fields)
      ((printedString name ++ ':' :: ' ' :: printed v) ++
        ([] ++ ',' :: ([' '] ++ commaParted (printedFields (g :: fields)))))
    exact .cons (writesField_printed name (writes_printed v h.1)) isGap_nil isGap_blank hothers

end

end RunHistory.Json
