import SlopLint.Json.Writer

/-!
# UTF-8

Encoding and decoding of texts. Decoding stops at the first byte sequence that is no character:
at a byte that starts none, at a byte that should continue one and does not, or at the end of the
data inside of one.
-/

namespace SlopLint.Text.Utf8

def byte (n : Nat) : UInt8 := UInt8.ofNat n

def encodeChar (c : Char) : List UInt8 :=
  let n := c.toNat
  if n < 0x80 then [byte n]
  else if n < 0x800 then [byte (0xC0 + n / 64), byte (0x80 + n % 64)]
  else if n < 0x10000 then
    [byte (0xE0 + n / 4096), byte (0x80 + n / 64 % 64), byte (0x80 + n % 64)]
  else
    [byte (0xF0 + n / 262144), byte (0x80 + n / 4096 % 64), byte (0x80 + n / 64 % 64),
      byte (0x80 + n % 64)]

def encode (text : List Char) : List UInt8 :=
  text.flatMap encodeChar

/-- What is wrong with a byte sequence. -/
inductive Cause where
  | invalidStart
  | invalidContinuation
  | unexpectedEnd
deriving DecidableEq, Repr

def Cause.text : Cause → String
  | invalidStart => "invalid start byte"
  | invalidContinuation => "invalid continuation byte"
  | unexpectedEnd => "unexpected end of data"

/-- A byte sequence that is no character: where it starts, how long it is, and its first byte. -/
structure Fault where
  cause : Cause
  start : Nat
  length : Nat
  first : UInt8
deriving DecidableEq, Repr

def Fault.message (fault : Fault) : String :=
  let what :=
    if fault.length = 1 then
      let digits := [Json.hexDigit (fault.first.toNat / 16), Json.hexDigit (fault.first.toNat % 16)]
      s!"byte 0x{String.ofList digits} in position {fault.start}"
    else s!"bytes in position {fault.start}-{fault.start + fault.length - 1}"
  s!"'utf-8' codec can't decode {what}: {fault.cause.text}"

/-- What the first byte of a character says: the number of bytes behind it, the bounds of the
second byte, and the bits of the code point in the first one. -/
structure Lead where
  tail : Nat
  low : Nat
  high : Nat
  bits : Nat

def lead? (b : Nat) : Option Lead :=
  if b < 0x80 then some ⟨0, 0, 0, b⟩
  else if b < 0xC2 then none
  else if b < 0xE0 then some ⟨1, 0x80, 0xBF, b % 32⟩
  else if b = 0xE0 then some ⟨2, 0xA0, 0xBF, b % 16⟩
  else if b = 0xED then some ⟨2, 0x80, 0x9F, b % 16⟩
  else if b < 0xF0 then some ⟨2, 0x80, 0xBF, b % 16⟩
  else if b = 0xF0 then some ⟨3, 0x90, 0xBF, b % 8⟩
  else if b < 0xF4 then some ⟨3, 0x80, 0xBF, b % 8⟩
  else if b = 0xF4 then some ⟨3, 0x80, 0x8F, b % 8⟩
  else none

/-- Reads the bytes behind a lead; `taken` counts the bytes of the character read so far. -/
def readTail (taken : Nat) :
    (tail low high bits : Nat) → List UInt8 → Except (Cause × Nat) (Nat × List UInt8)
  | 0, _, _, bits, bytes => .ok (bits, bytes)
  | _ + 1, _, _, _, [] => .error (.unexpectedEnd, taken)
  | tail + 1, low, high, bits, b :: bytes =>
    if low ≤ b.toNat ∧ b.toNat ≤ high then
      readTail (taken + 1) tail 0x80 0xBF (bits * 64 + b.toNat % 64) bytes
    else .error (.invalidContinuation, taken)

/-- Reads characters up to the end; `position` counts the bytes before. -/
def decodeFrom : Nat → Nat → List UInt8 → Except Fault (List Char)
  | 0, _, _ => .ok []
  | _ + 1, _, [] => .ok []
  | fuel + 1, position, b :: bytes =>
    match lead? b.toNat with
    | none => .error ⟨.invalidStart, position, 1, b⟩
    | some lead =>
      match readTail 1 lead.tail lead.low lead.high lead.bits bytes with
      | .error (cause, length) => .error ⟨cause, position, length, b⟩
      | .ok (code, rest) => do
        let text ← decodeFrom fuel (position + lead.tail + 1) rest
        pure (Char.ofNat code :: text)

/-- The text that a byte sequence encodes. -/
def decode (bytes : List UInt8) : Except Fault (List Char) :=
  decodeFrom bytes.length 0 bytes

end SlopLint.Text.Utf8
