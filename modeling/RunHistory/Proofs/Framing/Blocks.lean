import RunHistory.Parse

/-!
# Blocks and the text they make up

Blocks of a fixed size, laid end to end, are the text they were cut from.  What was set aside while
a record is read, part by part, is one text as well, and the records kept are those of all records
that are not blank.

## Main definitions

* `Framing.setAside`: the text that was set aside for the record that is being read.
* `Framing.nonBlank`: the texts that are not blank.

## Main results

* `flatten_textBlocks`: no character is lost or repeated by cutting a text into blocks.
* `readText_eq`: reading a text in blocks of a size that blocks may have.
-/

namespace RunHistory

/-! ### Blocks -/

namespace Encoding

theorem flatten_blocksFrom {size : Nat} (hsize : size ≠ 0) : ∀ (n : Nat) (text : List Char)
    (acc : List (List Char)), text.length ≤ n →
      (blocksFrom size acc text).flatten = acc.reverse.flatten ++ text := by
  intro n
  induction n with
  | zero =>
    intro text acc hn
    have htext : text = [] := List.length_eq_zero_iff.1 (by omega)
    rw [blocksFrom, dif_pos (Or.inr htext), htext, List.append_nil]
  | succ n ih =>
    intro text acc hn
    rw [blocksFrom]
    by_cases htext : text = []
    · rw [dif_pos (Or.inr htext), htext, List.append_nil]
    · have hpos := List.length_pos_iff.2 htext
      rw [dif_neg (by simp [hsize, htext]), ih _ _ (by rw [List.length_drop]; omega)]
      simp [List.append_assoc]

/-- **Cutting a text into blocks loses nothing.** -/
theorem flatten_textBlocks {size : Int} (hsize : 1 ≤ size) (text : List Char) :
    (textBlocks size text).flatten = text := by
  have hne : size.toNat ≠ 0 := by omega
  rw [textBlocks, if_neg (by omega), blocksOf, flatten_blocksFrom hne _ _ _ (Nat.le_refl _)]
  rfl

end Encoding

theorem scannerFor_eq {separator : String} {pattern : Separator.Pattern} {blockSize : Int}
    (hsep : Separator.parse separator = .ok pattern) (hsize : isSize blockSize = true) :
    scannerFor separator blockSize = .ok pattern.scan := by
  simp [scannerFor, scannerOf, hsep, hsize, bind, Except.bind, pure, Except.pure]

/-- Reading a text cuts its blocks into records, when the separator is a pattern and the size one
that blocks may have. -/
theorem readText_eq {separator : String} {pattern : Separator.Pattern} {blockSize : Int}
    (hsep : Separator.parse separator = .ok pattern) (hsize : isSize blockSize = true)
    (text : List Char) :
    readText separator blockSize text =
      .ok (records pattern.scan (Framing.overlapFor blockSize) true
        (Encoding.textBlocks blockSize text)) := by
  rw [readText, scannerFor_eq hsep hsize]
  rfl

/-! ### Records being read -/

namespace Framing

/-- The text that was set aside for the record that is being read. -/
def setAside (aside : List (List Char)) : List Char := aside.reverse.flatten

@[simp] theorem setAside_cons (part : List Char) (aside : List (List Char)) :
    setAside (part :: aside) = setAside aside ++ part := by
  simp [setAside]

theorem complete_eq (aside : List (List Char)) (part : List Char) :
    complete aside part = setAside aside ++ part := by
  simp [complete, setAside]

/-- The texts that are not blank. -/
def nonBlank (texts : List (List Char)) : List (List Char) := texts.filter fun t => !allBlank t

@[simp] theorem nonBlank_nil : nonBlank [] = [] := rfl

theorem nonBlank_append (a b : List (List Char)) :
    nonBlank (a ++ b) = nonBlank a ++ nonBlank b :=
  List.filter_append ..

theorem nonBlank_cons (text : List Char) (texts : List (List Char)) :
    nonBlank (text :: texts) = nonBlank [text] ++ nonBlank texts :=
  nonBlank_append [text] texts

theorem reverse_addRecord (done : List (List Char)) (record : List Char) :
    (addRecord done record).reverse = done.reverse ++ nonBlank [record] := by
  by_cases h : allBlank record <;> simp [addRecord, nonBlank, h]

end Framing

end RunHistory
