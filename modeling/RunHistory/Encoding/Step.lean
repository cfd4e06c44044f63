/-!
# One step of decoding

Every encoding is given by what stands at the front of its bytes: a character, bytes that are wrong,
or bytes that may still become a character when more of them arrive.

## Main definitions

* `Encoding.Reason`: what is wrong with bytes.
* `Encoding.Step`: what stands at the front of some bytes.
* `Encoding.Fault`: wrong bytes at their place, with their wording.
* `Encoding.decodeWith`: all characters of some bytes, step by step.
-/

namespace RunHistory.Encoding

/-- What is wrong with bytes. -/
inductive Reason where
  /-- No character begins with this byte. -/
  | invalidStart
  /-- The character that these bytes begin does not go on like this. -/
  | invalidContinuation
  /-- The bytes end inside a character. -/
  | unexpectedEnd
  /-- The byte is not in the range of the encoding. -/
  | outOfRange
  /-- A 16-bit unit that only comes second stands first. -/
  | unpairedLow
  /-- A 16-bit unit that must be followed by a second one is not. -/
  | unpairedHigh
  /-- The bytes end inside a 16-bit unit. -/
  | truncated
  deriving DecidableEq, Repr

/-- The wording of a reason. -/
def Reason.message : Reason → String
  | .invalidStart => "invalid start byte"
  | .invalidContinuation => "invalid continuation byte"
  | .unexpectedEnd => "unexpected end of data"
  | .outOfRange => "ordinal not in range(128)"
  | .unpairedLow => "illegal encoding"
  | .unpairedHigh => "illegal UTF-16 surrogate"
  | .truncated => "truncated data"

/-- What stands at the front of some bytes. -/
inductive Step where
  /-- Nothing. -/
  | done
  /-- A character, and the bytes after it. -/
  | char (c : Char) (rest : List UInt8)
  /-- So many bytes that are wrong. -/
  | invalid (width : Nat) (reason : Reason)
  /-- Bytes that more bytes may complete; if none come, so many of them are wrong. -/
  | unfinished (width : Nat) (reason : Reason)
  deriving Repr

/-- Bytes that could not be decoded. -/
structure Fault where
  /-- The name of the encoding. -/
  codec : String
  /-- The number of bytes before them in the piece that was decoded. -/
  position : Nat
  /-- The bytes. -/
  bytes : List UInt8
  /-- What is wrong with them. -/
  reason : Reason
  deriving DecidableEq, Repr

/-- A byte in two hexadecimal digits. -/
def byteText (b : UInt8) : String :=
  String.ofList [Nat.digitChar (b.toNat / 16), Nat.digitChar (b.toNat % 16)]

/-- The wording of a fault. -/
def Fault.message (f : Fault) : String :=
  let place := match f.bytes with
    | [b] => "byte 0x" ++ byteText b ++ " in position " ++ toString f.position
    | bs => "bytes in position " ++ toString f.position ++ "-" ++
        toString (f.position + bs.length - 1)
  "'" ++ f.codec ++ "' codec can't decode " ++ place ++ ": " ++ f.reason.message

/-- Where decoding got stuck: the bytes from there on, how many of them are wrong, and why. -/
structure Stuck where
  /-- The bytes from the place on. -/
  rest : List UInt8
  /-- How many of them are wrong. -/
  width : Nat
  /-- Why. -/
  reason : Reason
  deriving DecidableEq, Repr

/-- The characters of some bytes, after those decoded so far, which are kept backwards, and the
bytes that more bytes may complete.  When no more bytes come, such bytes are wrong.  The fuel bounds
the characters. -/
def decodeSteps (next : List UInt8 → Step) (final : Bool) :
    Nat → List Char → List UInt8 → Except Stuck (List Char × List UInt8)
  | 0, acc, bytes => .ok (acc.reverse, bytes)
  | fuel + 1, acc, bytes =>
    match next bytes with
    | .done => .ok (acc.reverse, [])
    | .char c rest => decodeSteps next final fuel (c :: acc) rest
    | .invalid width reason => .error ⟨bytes, width, reason⟩
    | .unfinished width reason =>
      if final then .error ⟨bytes, width, reason⟩ else .ok (acc.reverse, bytes)

/-- The characters of some bytes and the bytes that more bytes may complete, or the fault at its
place. -/
def decodeWith (codec : String) (next : List UInt8 → Step) (final : Bool) (bytes : List UInt8) :
    Except Fault (List Char × List UInt8) :=
  match decodeSteps next final (bytes.length + 1) [] bytes with
  | .ok r => .ok r
  | .error e =>
    .error ⟨codec, bytes.length - e.rest.length, e.rest.take e.width, e.reason⟩

end RunHistory.Encoding
