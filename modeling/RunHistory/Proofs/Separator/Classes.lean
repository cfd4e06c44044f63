import RunHistory.Proofs.Separator.Literals

/-!
# Patterns of a class and a plus

The class of a separator is written as a character that stands for itself, as a dot, as an escape or
in brackets.  With a plus behind it the pattern is that of the runs of the class.

## Main definitions

* `WritesClass`: a text that writes a class of characters.

## Main results

* `parse_plus`: **a class with a plus behind it is the pattern of the runs of the class.**
-/

namespace RunHistory.Separator

variable {accepts : Char → Bool}

/-- A text that writes a class of characters, in front of a plus. -/
inductive WritesClass : List Char → (Char → Bool) → Prop where
  /-- A character that stands for itself. -/
  | plain {c : Char} (h : c ∉ specials) : WritesClass [c] (charClass false c)
  /-- The dot, which stands for all characters but the line feed. -/
  | dot : WritesClass ['.'] (· != '\n')
  /-- An escape that stands for several characters. -/
  | category {cs : List Char} {accepts : Char → Bool}
    (h : escaped false (cs ++ ['+']) = .someOf accepts ['+']) : WritesClass ('\\' :: cs) accepts
  /-- An escape that stands for one character. -/
  | code {cs : List Char} {code : Nat} (h : escaped false (cs ++ ['+']) = .just code ['+']) :
    WritesClass ('\\' :: cs) (codeClass false code)
  /-- A class in brackets. -/
  | brackets {cs : List Char} {accepts : Char → Bool}
    (h : readClass false (cs ++ ['+']) = .closed accepts ['+']) : WritesClass ('[' :: cs) accepts

/-- No class begins with a parenthesis. -/
theorem WritesClass.head_ne {cs : List Char} (h : WritesClass cs accepts) (rest : List Char) :
    cs ≠ '(' :: rest := by
  cases h with
  | plain h =>
    rintro ⟨⟩
    exact h (by decide)
  | dot => simp
  | category _ => simp
  | code _ => simp
  | brackets _ => simp

/-- The class is taken up, and the plus is left. -/
theorem WritesClass.parseFrom_append {cs : List Char} (h : WritesClass cs accepts)
    (total fuel : Nat) :
    parseFrom false total (fuel + 1) .start (cs ++ ['+']) =
      parseFrom false total fuel (Draft.start.char accepts) ['+'] := by
  cases h with
  | plain h => exact parseFrom_cons_of_plain total fuel .start h ['+']
  | dot => rfl
  | category h => simp [parseFrom, h]
  | code h => simp [parseFrom, h, readable]
  | brackets h => simp [parseFrom, h]

/-- **A class with a plus behind it is the pattern of the runs of the class.** -/
theorem parse_plus {cs : List Char} (h : WritesClass cs accepts) :
    parse (String.ofList (cs ++ ['+'])) = .ok (runOf accepts) := by
  rw [parse, String.toList_ofList]
  split
  · next rest heq =>
    cases cs with
    | nil => cases h
    | cons c cs =>
      obtain ⟨rfl, -⟩ := List.cons_eq_cons.1 heq
      exact absurd rfl (h.head_ne cs)
  · obtain ⟨n, hn⟩ : ∃ n, (cs ++ ['+']).length = n + 2 := by
      cases cs with
      | nil => cases h
      | cons c cs => exact ⟨cs.length, by simp⟩
    rw [hn, h.parseFrom_append]
    cases n <;> rfl

example : parse "#+" = .ok (runOf (· == '#')) := rfl

example : parse "[;,]+" = .ok (runOf fun c => c == ';' || c == ',') := rfl

example : parse "\\s+" = .ok (runOf isBlank) := rfl

example : parse "[\\x01-\\x1f!-/\\0\\b]+" = .ok (runOf fun c =>
    (((1 ≤ c.toNat && c.toNat ≤ 0x1F) || ('!'.toNat ≤ c.toNat && c.toNat ≤ '/'.toNat))
      || c == '\x00') || c == '\x08') := rfl

end RunHistory.Separator
