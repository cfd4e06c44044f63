import Mathlib.Data.List.Basic
import RunHistory.Proofs.Encoding.LineEnds

/-!
# Text in UTF-8 is read as it is

The bytes that write characters are decoded into these characters, and a part of a character at the
end of a piece is recognized as such.  So however the bytes of a text are fetched, no piece of it is
wrong and all of it arrives, and a fault means that the bytes write no text.

## Main definitions

* `Encoding.IsUtf8`: the bytes of a text.

## Main results

* `Encoding.Utf8.next_utf8EncodeChar`: **a character is decoded from its own bytes.**
* `Encoding.Utf8.next_take_utf8EncodeChar`: a part of a character is left for more bytes to
  complete.
* `Encoding.feed_utf8`: **the bytes of a text are read as the text.**
* `Encoding.not_isUtf8_of_fault`: **only bytes that are no text have a fault.**
-/

namespace RunHistory.Encoding

/-- The bytes of a text. -/
def IsUtf8 (bytes : List UInt8) : Prop := ∃ cs : List Char, bytes = cs.flatMap String.utf8EncodeChar

namespace Utf8

/-! ### Bytes as numbers -/

theorem isContinuation_iff {b : UInt8} :
    isContinuation b = true ↔ 0x80 ≤ b.toNat ∧ b.toNat < 0xC0 := by
  simp [isContinuation, UInt8.le_iff_toNat_le, UInt8.lt_iff_toNat_lt]

/-- The first byte of a character of several bytes: the high bits of its number over a mark. -/
def lead (mark n : Nat) : UInt8 := UInt8.ofNat (n + mark)

/-- A further byte of a character: six bits of its number over the mark of such bytes. -/
def tail (n : Nat) : UInt8 := UInt8.ofNat (n % 64 + 128)

theorem toNat_ofNat {n : Nat} (h : n < 256) : (UInt8.ofNat n).toNat = n :=
  UInt8.toNat_ofNat_of_lt' h

theorem toNat_lead {mark n : Nat} (h : n + mark < 256) : (lead mark n).toNat = n + mark :=
  toNat_ofNat h

theorem toNat_tail (n : Nat) : (tail n).toNat = n % 64 + 128 := toNat_ofNat (by omega)

theorem isContinuation_tail (n : Nat) : isContinuation (tail n) = true := by
  rw [isContinuation_iff, toNat_tail]
  omega

theorem low_tail (n : Nat) : low (tail n) = n % 64 := by
  rw [low, toNat_tail]
  omega

theorem fitsSecond_iff {a b : UInt8} : fitsSecond a b = true ↔ isContinuation b = true ∧
    (a.toNat = 0xE0 → 0xA0 ≤ b.toNat) ∧ (a.toNat = 0xED → b.toNat < 0xA0) ∧
      (a.toNat = 0xF0 → 0x90 ≤ b.toNat) ∧ (a.toNat = 0xF4 → b.toNat < 0x90) := by
  simp only [fitsSecond, Bool.and_eq_true, Bool.or_eq_true, bne_iff_ne, ne_eq, decide_eq_true_eq,
    UInt8.le_iff_toNat_le, UInt8.lt_iff_toNat_lt, ← UInt8.toNat_inj, and_assoc]
  simp only [← Decidable.imp_iff_not_or]
  rfl

/-! ### First bytes -/

variable {a : UInt8}

theorem next_one (h : a.toNat < 0x80) (rest : List UInt8) :
    next (a :: rest) = .char (Char.ofNat a.toNat) rest := by
  rw [next, if_pos (UInt8.lt_iff_toNat_lt.2 h)]

theorem next_two (hlo : 0xC2 ≤ a.toNat) (hhi : a.toNat < 0xE0) (rest : List UInt8) :
    next (a :: rest) = nextOfTwo a rest := by
  simp only [next, UInt8.lt_iff_toNat_lt, UInt8.reduceToNat]
  rw [if_neg (by omega), if_neg (by omega), if_pos hhi]

theorem next_three (hlo : 0xE0 ≤ a.toNat) (hhi : a.toNat < 0xF0) (rest : List UInt8) :
    next (a :: rest) = nextOfThree a rest := by
  simp only [next, UInt8.lt_iff_toNat_lt, UInt8.reduceToNat]
  rw [if_neg (by omega), if_neg (by omega), if_neg (by omega), if_pos hhi]

theorem next_four (hlo : 0xF0 ≤ a.toNat) (hhi : a.toNat < 0xF5) (rest : List UInt8) :
    next (a :: rest) = nextOfFour a rest := by
  simp only [next, UInt8.lt_iff_toNat_lt, UInt8.reduceToNat]
  rw [if_neg (by omega), if_neg (by omega), if_neg (by omega), if_neg (by omega), if_pos hhi]

/-! ### Characters -/

/-- The characters are the numbers below 0x110000 but for the halves of pairs. -/
theorem toNat_char (c : Char) : c.toNat < 0xD800 ∨ 0xE000 ≤ c.toNat ∧ c.toNat < 0x110000 := by
  have h := c.valid
  rcases h with h | ⟨h, h'⟩
  · exact .inl h
  · exact .inr ⟨h, h'⟩

theorem utf8EncodeChar_cases (c : Char) :
    c.toNat < 0x80 ∧ String.utf8EncodeChar c = [UInt8.ofNat c.toNat] ∨
    (0x80 ≤ c.toNat ∧ c.toNat < 0x800) ∧
      String.utf8EncodeChar c = [lead 0xC0 (c.toNat / 64), tail c.toNat] ∨
    (0x800 ≤ c.toNat ∧ c.toNat < 0x10000) ∧ String.utf8EncodeChar c =
      [lead 0xE0 (c.toNat / 4096), tail (c.toNat / 64), tail c.toNat] ∨
    0x10000 ≤ c.toNat ∧ String.utf8EncodeChar c = [lead 0xF0 (c.toNat / 262144),
      tail (c.toNat / 4096), tail (c.toNat / 64), tail c.toNat] := by
  have hmax := toNat_char c
  have hval : c.val.toNat = c.toNat := rfl
  simp only [String.utf8EncodeChar, hval, lead, tail]
  -- the highest bits are cut off by the encoder where there are none
  split
  · exact .inl ⟨by omega, rfl⟩
  split
  · refine .inr (.inl ⟨by omega, ?_⟩)
    rw [show c.toNat / 64 % 32 = c.toNat / 64 by omega]
  split
  · refine .inr (.inr (.inl ⟨by omega, ?_⟩))
    rw [show c.toNat / 4096 % 16 = c.toNat / 4096 by omega]
  · refine .inr (.inr (.inr ⟨by omega, ?_⟩))
    rw [show c.toNat / 262144 % 8 = c.toNat / 262144 by omega]

theorem fitsSecond_three {c : Char} (hlo : 0x800 ≤ c.toNat) (hhi : c.toNat < 0x10000) :
    fitsSecond (lead 0xE0 (c.toNat / 4096)) (tail (c.toNat / 64)) = true := by
  have hc := toNat_char c
  rw [fitsSecond_iff, toNat_lead (by omega), toNat_tail]
  refine ⟨isContinuation_tail _, ?_, ?_, ?_, ?_⟩ <;> omega

theorem fitsSecond_four {c : Char} (hlo : 0x10000 ≤ c.toNat) :
    fitsSecond (lead 0xF0 (c.toNat / 262144)) (tail (c.toNat / 4096)) = true := by
  have hc := toNat_char c
  rw [fitsSecond_iff, toNat_lead (by omega), toNat_tail]
  refine ⟨isContinuation_tail _, ?_, ?_, ?_, ?_⟩ <;> omega

/-- **A character is decoded from its own bytes.** -/
theorem next_utf8EncodeChar (c : Char) (rest : List UInt8) :
    next (String.utf8EncodeChar c ++ rest) = .char c rest := by
  have hmax := toNat_char c
  have hback : ∀ n, n = c.toNat → Char.ofNat n = c := fun n hn => hn ▸ Char.ofNat_toNat c
  rcases utf8EncodeChar_cases c with ⟨h, hc⟩ | ⟨⟨hlo, hhi⟩, hc⟩ | ⟨⟨hlo, hhi⟩, hc⟩ | ⟨hlo, hc⟩
  · have ha := toNat_ofNat (show c.toNat < 256 by omega)
    rw [hc, List.singleton_append, next_one (by omega), hback _ ha]
  · have ha := toNat_lead (show c.toNat / 64 + 0xC0 < 256 by omega)
    simp only [hc, List.cons_append, List.nil_append]
    rw [next_two (by omega) (by omega), nextOfTwo, if_pos (isContinuation_tail _), low_tail, ha,
      hback _ (by omega)]
  · have ha := toNat_lead (show c.toNat / 4096 + 0xE0 < 256 by omega)
    simp only [hc, List.cons_append, List.nil_append]
    rw [next_three (by omega) (by omega), nextOfThree, if_neg (by simp [fitsSecond_three hlo hhi]),
      if_pos (isContinuation_tail _), low_tail, low_tail, ha, hback _ (by omega)]
  · have ha := toNat_lead (show c.toNat / 262144 + 0xF0 < 256 by omega)
    simp only [hc, List.cons_append, List.nil_append]
    rw [next_four (by omega) (by omega), nextOfFour, if_neg (by simp [fitsSecond_four hlo]),
      if_neg (by simp [isContinuation_tail]), if_pos (isContinuation_tail _), low_tail, low_tail,
      low_tail, ha, hback _ (by omega)]

/-- **A part of a character waits for the rest of it.** -/
theorem next_take_utf8EncodeChar {c : Char} {k : Nat} (hpos : 0 < k)
    (hk : k < (String.utf8EncodeChar c).length) :
    ∃ width reason, next ((String.utf8EncodeChar c).take k) = .unfinished width reason := by
  have hmax := toNat_char c
  rcases utf8EncodeChar_cases c with ⟨_, hc⟩ | ⟨⟨hlo, hhi⟩, hc⟩ | ⟨⟨hlo, hhi⟩, hc⟩ | ⟨hlo, hc⟩
  · rw [hc, List.length_singleton] at hk
    omega
  · have ha := toNat_lead (show c.toNat / 64 + 0xC0 < 256 by omega)
    rw [hc] at hk ⊢
    obtain rfl : k = 1 := by simp only [List.length_cons, List.length_nil] at hk; omega
    exact ⟨_, _, next_two (by omega) (by omega) []⟩
  · have ha := toNat_lead (show c.toNat / 4096 + 0xE0 < 256 by omega)
    have hfits := fitsSecond_three hlo hhi
    rw [hc] at hk ⊢
    obtain rfl | rfl : k = 1 ∨ k = 2 := by
      simp only [List.length_cons, List.length_nil] at hk
      omega
    · exact ⟨_, _, next_three (by omega) (by omega) []⟩
    · exact ⟨_, _, (next_three (by omega) (by omega) [_]).trans (if_pos hfits)⟩
  · have ha := toNat_lead (show c.toNat / 262144 + 0xF0 < 256 by omega)
    have hfits := fitsSecond_four hlo
    rw [hc] at hk ⊢
    obtain rfl | rfl | rfl : k = 1 ∨ k = 2 ∨ k = 3 := by
      simp only [List.length_cons, List.length_nil] at hk
      omega
    · exact ⟨_, _, next_four (by omega) (by omega) []⟩
    · exact ⟨_, _, (next_four (by omega) (by omega) [_]).trans (if_pos hfits)⟩
    · have hlast := next_four (a := lead 0xF0 (c.toNat / 262144)) (by omega) (by omega)
        [tail (c.toNat / 4096), tail (c.toNat / 64)]
      rw [nextOfFour, if_neg (by simp [hfits]), if_pos (isContinuation_tail _)] at hlast
      exact ⟨_, _, hlast⟩

end Utf8

/-! ### Pieces of a text -/

/-- Decoding a piece of a text goes on to its end, or to a character that the piece breaks off.
`after` is what follows the piece. -/
theorem exists_decodeSteps {final : Bool} {after : List UInt8}
    (hfinal : final = true → after = []) : ∀ (fuel : Nat) (acc cs : List Char) (piece : List UInt8),
      piece ++ after = cs.flatMap String.utf8EncodeChar →
        ∃ done left more, cs = done ++ more ∧ left ++ after = more.flatMap String.utf8EncodeChar ∧
          (final = true → piece.length < fuel → more = []) ∧
          decodeSteps Utf8.next final fuel acc piece = .ok (acc.reverse ++ done, left) := by
  intro fuel
  induction fuel with
  | zero =>
    intro acc cs piece h
    refine ⟨[], piece, cs, rfl, h, ?_, by rw [decodeSteps, List.append_nil]⟩
    intro _ hfuel
    cases hfuel
  | succ fuel ih =>
    intro acc cs piece h
    cases cs with
    | nil =>
      obtain ⟨rfl, rfl⟩ := List.append_eq_nil_iff.1 h
      exact ⟨[], [], [], rfl, rfl, fun _ _ => rfl, by simp [decodeSteps, Utf8.next]⟩
    | cons c cs =>
      rw [List.flatMap_cons] at h
      rcases Nat.lt_or_ge piece.length (String.utf8EncodeChar c).length with hbroken | hwhole
      · -- the piece breaks off inside the character, or before it
        have hmore : final = false := by
          cases final with
          | false => rfl
          | true =>
            have hlength := congrArg List.length h
            rw [hfinal rfl, List.append_nil, List.length_append] at hlength
            omega
        refine ⟨[], piece, c :: cs, rfl, h, fun hlast => absurd (hmore.symm.trans hlast) (by simp),
          ?_⟩
        rw [List.append_nil]
        rcases Nat.eq_zero_or_pos piece.length with hnone | hsome
        · rw [List.length_eq_zero_iff.1 hnone]
          rfl
        · have hpiece : piece = (String.utf8EncodeChar c).take piece.length := by
            have htake := congrArg (List.take piece.length) h
            rwa [List.take_left, List.take_append_of_le_length (by omega)] at htake
          obtain ⟨width, reason, hnext⟩ := Utf8.next_take_utf8EncodeChar hsome hbroken
          rw [← hpiece] at hnext
          rw [decodeSteps, hnext, hmore]
          rfl
      · -- the piece begins with all bytes of the character
        obtain ⟨rest, rfl⟩ := List.prefix_of_prefix_length_le (List.prefix_append _ _)
          (h ▸ List.prefix_append piece after) hwhole
        rw [List.append_assoc] at h
        obtain ⟨done, left, more, hcs, hleft, hall, hdecode⟩ :=
          ih (c :: acc) cs rest (List.append_cancel_left h)
        refine ⟨c :: done, left, more, by rw [hcs, List.cons_append], hleft, ?_, ?_⟩
        · intro hlast hfuel
          have hpos : 0 < (String.utf8EncodeChar c).length := by
            rw [String.length_utf8EncodeChar]
            exact c.utf8Size_pos
          rw [List.length_append] at hfuel
          exact hall hlast (by omega)
        · rw [decodeSteps, Utf8.next_utf8EncodeChar]
          simpa using hdecode

/-- A piece of a text is decoded, and what is left of it with what follows writes the rest of the
text. -/
theorem exists_feed {left piece after : List UInt8} (final : Bool)
    (hfinal : final = true → after = []) {cs : List Char}
    (h : left ++ piece ++ after = cs.flatMap String.utf8EncodeChar) : ∃ chars left' more,
      cs = chars ++ more ∧ left' ++ after = more.flatMap String.utf8EncodeChar ∧
        (final = true → more = []) ∧
        Decoder.feed .utf8 ⟨false, left⟩ final piece = .ok (chars, ⟨false, left'⟩) := by
  obtain ⟨done, left', more, hcs, hmore, hall, hdecode⟩ :=
    exists_decodeSteps hfinal ((left ++ piece).length + 1) [] cs (left ++ piece) h
  refine ⟨done, left', more, hcs, hmore, fun hlast => hall hlast (Nat.lt_succ_self _), ?_⟩
  have hdecoded : decode .utf8 final (left ++ piece) = .ok (done, left') := by
    rw [decode, decodeWith, hdecode]
    rfl
  show (decode .utf8 final (left ++ piece)).map _ = _
  rw [hdecoded]
  rfl

/-- **Fetching the bytes of a text piece by piece** brings all of the text, and meets no fault. -/
theorem arriveFrom_utf8 (size : Nat) : ∀ (fuel : Nat) (p : Progress) (bytes : List UInt8)
    (cs : List Char), p.decoder.markExpected = false →
      p.decoder.left ++ bytes = cs.flatMap String.utf8EncodeChar → bytes.length < fuel →
        arriveFrom .utf8 size fuel p bytes = ⟨p.text ++ lineFeeds (withHeld p.held cs), none⟩ := by
  intro fuel
  induction fuel with
  | zero =>
    intro p bytes cs _ _ hfuel
    cases hfuel
  | succ fuel ih =>
    intro p bytes cs hmark h hfuel
    obtain ⟨width, hwidth⟩ :
        ∃ width, width = pieceSize p.lastBytes p.lastChars (size - p.count % size) := ⟨_, rfl⟩
    have hpos : 0 < width := by
      rw [hwidth, pieceSize]
      exact Nat.lt_of_lt_of_le (by decide) (Nat.le_max_left leastPiece _)
    have hdecoder : p.decoder = ⟨false, p.decoder.left⟩ := by rw [← hmark]
    have hpieces : p.decoder.left ++ bytes.take width ++ bytes.drop width =
        cs.flatMap String.utf8EncodeChar := by
      rwa [List.append_assoc, List.take_append_drop]
    obtain ⟨chars, left, more, hcs, hmore, hall, hfeed⟩ := exists_feed bytes.isEmpty
      (fun hempty => by rw [List.isEmpty_iff.1 hempty, List.drop_nil]) hpieces
    rw [← hdecoder] at hfeed
    obtain ⟨htext, hheld⟩ := lineFeedsOfPiece_spec p.held chars hall
    simp only [arriveFrom, ← hwidth, hfeed]
    split
    · next hlast =>
      -- nothing is left, and nothing is held back
      rw [hall hlast, hheld hlast, List.append_nil] at htext
      have hend : lineFeeds (withHeld false []) = [] := rfl
      rw [hend, List.append_nil] at htext
      rw [hcs, hall hlast, List.append_nil, htext]
      simp [Progress.text]
    · next hlast =>
      have hlength : (bytes.drop width).length < fuel := by
        have hsome : 0 < bytes.length := List.length_pos_iff.2 (by simpa using hlast)
        rw [List.length_drop]
        omega
      have hrest := ih ⟨⟨false, left⟩, (lineFeedsOfPiece p.held bytes.isEmpty chars).2,
        (bytes.take width).length, (lineFeedsOfPiece p.held bytes.isEmpty chars).1.length,
        p.count + (lineFeedsOfPiece p.held bytes.isEmpty chars).1.length,
        (lineFeedsOfPiece p.held bytes.isEmpty chars).1 :: p.pieces⟩ (bytes.drop width) more rfl
        hmore hlength
      rw [hrest, hcs, htext]
      simp [Progress.text]

/-- **The bytes of a text are read as the text**, with line feeds for its line ends and in blocks of
whatever size. -/
theorem feed_utf8 (size : Int) (cs : List Char) :
    feed .utf8 size (cs.flatMap String.utf8EncodeChar) =
      ⟨textBlocks size (lineFeeds cs), none⟩ := by
  unfold feed
  split
  · next hnegative =>
    obtain ⟨chars, left, more, hcs, -, hall, hfeed⟩ := @exists_feed []
      (cs.flatMap String.utf8EncodeChar) [] true (fun _ => rfl) cs (by simp)
    rw [show Decoder.start .utf8 = ⟨false, []⟩ from rfl, hfeed, hcs, hall rfl, List.append_nil]
  split
  · next hzero =>
    subst hzero
    rw [textBlocks, if_neg (by decide), blocksOf, blocksFrom, dif_pos (.inl rfl)]
    rfl
  · next hsize hzero =>
    have harrive : arrive .utf8 size.toNat (cs.flatMap String.utf8EncodeChar) =
        ⟨lineFeeds cs, none⟩ :=
      arriveFrom_utf8 size.toNat _ ⟨.start .utf8, false, 0, 0, 0, []⟩ _ cs rfl rfl
        (Nat.lt_succ_self _)
    simp only [harrive, textBlocks, if_neg hsize]

/-- **Only bytes that are no text have a fault**, whatever the size of the blocks. -/
theorem not_isUtf8_of_fault {size : Int} {bytes : List UInt8} {fault : Fault}
    (h : (feed .utf8 size bytes).fault = some fault) : ¬IsUtf8 bytes := by
  rintro ⟨cs, rfl⟩
  rw [feed_utf8] at h
  cases h

end RunHistory.Encoding
