import RunHistory.Encoding.Utf16
import RunHistory.Encoding.Utf8

/-!
# Decoding in pieces

The bytes of a file come in pieces.  A decoder keeps the bytes that a piece left unfinished and
decodes them again in front of the next piece; the place of a fault is counted from the first byte
decoded with the piece.

## Main definitions

* `Encoding`: the encodings of a history file.
* `Encoding.ofName?`: the encoding of a name.
* `Encoding.Decoder`: what is kept between two pieces.
* `Encoding.Decoder.feed`: decoding one piece.
-/

namespace RunHistory

/-- The encodings of a history file. -/
inductive Encoding where
  /-- One to four bytes for a character. -/
  | utf8
  /-- The same, with a byte order mark in front that is no part of the text. -/
  | utf8Marked
  /-- One byte for a character, below 128. -/
  | ascii
  /-- One byte for a character. -/
  | latin1
  /-- One or two units of two bytes for a character. -/
  | utf16
  deriving DecidableEq, Repr

namespace Encoding

/-! ### Names -/

/-- The plain form of an encoding's name: small letters, figures and dots, and one underscore for
anything between them.  `gap` says that something else came last. -/
def plainName : Bool → List Char → List Char
  | _, [] => []
  | gap, c :: rest =>
    if c.isAlphanum ∨ c = '.' then
      (if gap then ['_', c.toLower] else [c.toLower]) ++ plainName false rest
    else plainName true rest

/-- The plain names of each encoding. -/
def names : Encoding → List String
  | .utf8 => ["utf_8", "u8", "utf", "utf8", "utf8_ucs2", "utf8_ucs4", "cp65001"]
  | .utf8Marked => ["utf_8_sig"]
  | .ascii => ["ascii", "646", "ansi_x3.4_1968", "ansi_x3_4_1968", "ansi_x3.4_1986", "cp367",
      "csascii", "ibm367", "iso646_us", "iso_646.irv_1991", "iso_ir_6", "us", "us_ascii"]
  | .latin1 => ["latin_1", "8859", "cp819", "csisolatin1", "ibm819", "iso8859", "iso8859_1",
      "iso_8859_1", "iso_8859_1_1987", "iso_ir_100", "l1", "latin", "latin1"]
  | .utf16 => ["utf_16_le", "unicodelittleunmarked", "utf_16le"]

/-- All encodings. -/
def all : List Encoding := [.utf8, .utf8Marked, .ascii, .latin1, .utf16]

/-- The encoding of a name, whatever its case and punctuation. -/
def ofName? (name : String) : Option Encoding :=
  let body := name.toList.dropWhile fun c => !(c.isAlphanum || c == '.')
  all.find? fun e => e.names.contains (String.ofList (plainName false body))

/-! ### Decoders -/

/-- What stands at the front of bytes in ASCII. -/
def nextAscii : List UInt8 → Step
  | [] => .done
  | a :: rest =>
    if a < 0x80 then .char (Char.ofNat a.toNat) rest else .invalid 1 .outOfRange

/-- What stands at the front of bytes in Latin-1. -/
def nextLatin1 : List UInt8 → Step
  | [] => .done
  | a :: rest => .char (Char.ofNat a.toNat) rest

/-- Decode bytes in an encoding, no byte order mark expected. -/
def decode (e : Encoding) (final : Bool) (bytes : List UInt8) :
    Except Fault (List Char × List UInt8) :=
  match e with
  | .utf8 | .utf8Marked => decodeWith "utf-8" Utf8.next final bytes
  | .ascii => decodeWith "ascii" nextAscii final bytes
  | .latin1 => decodeWith "latin-1" nextLatin1 final bytes
  | .utf16 => decodeWith "utf-16-le" Utf16.next final bytes

/-- The byte order mark in UTF-8. -/
def mark : List UInt8 := [0xEF, 0xBB, 0xBF]

/-- What is kept between two pieces. -/
structure Decoder where
  /-- Whether a byte order mark may still come. -/
  markExpected : Bool
  /-- The bytes that the last piece left unfinished. -/
  left : List UInt8
  deriving DecidableEq, Repr

/-- A decoder before the first piece. -/
def Decoder.start (e : Encoding) : Decoder := ⟨e = .utf8Marked, []⟩

/-- Decode one piece; `final` says that no more bytes come. -/
def Decoder.feed (e : Encoding) (d : Decoder) (final : Bool) (piece : List UInt8) :
    Except Fault (List Char × Decoder) :=
  let bytes := d.left ++ piece
  if d.markExpected && bytes.length < mark.length && bytes.isPrefixOf mark then
    .ok ([], ⟨true, bytes⟩)
  else
    let body := if d.markExpected && mark.isPrefixOf bytes then bytes.drop mark.length else bytes
    (e.decode final body).map fun r => (r.1, ⟨false, r.2⟩)

end Encoding

end RunHistory
