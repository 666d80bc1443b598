import BrowserPilot.Text.Digit

/-!
# Text from bytes

Reading text in the encoding UTF-8. A character takes one byte to four. The
first one says how many, the others lie in the range of continuation bytes, and
the second one in a part of it where the full range would give a longer form
than needed, a surrogate or a number beyond the last character.
-/

namespace BrowserPilot.Text.Utf8

inductive Reason where
  | start
  | continuation
  | tooShort
  deriving DecidableEq, Repr

/-- Where bytes are no text: the place of a character, and its bytes so far. -/
structure Fault where
  position : Nat
  bytes : List UInt8
  reason : Reason
  deriving DecidableEq, Repr

def Reason.message : Reason → String
  | start => "invalid start byte"
  | continuation => "invalid continuation byte"
  | tooShort => "unexpected end of data"

def Fault.message (f : Fault) : String :=
  "'utf-8' codec can't decode " ++
    (match f.bytes with
      | [b] => "byte 0x" ++ String.ofList (hexDigits 2 b.toNat) ++ " in position " ++ toString f.position
      | bs => "bytes in position " ++ toString f.position ++ "-" ++ toString (f.position + bs.length - 1)) ++
    ": " ++ f.reason.message

/-- What the first byte of a character says: the bits it holds, the range of
the next byte, and how many bytes follow that one. -/
def lead? (b : UInt8) : Option (Nat × (Nat × Nat) × Nat) :=
  let n := b.toNat
  if n < 0xC2 then none
  else if n < 0xE0 then some (n - 0xC0, (0x80, 0xBF), 0)
  else if n < 0xF0 then
    some (n - 0xE0, (if n = 0xE0 then 0xA0 else 0x80, if n = 0xED then 0x9F else 0xBF), 1)
  else if n < 0xF5 then
    some (n - 0xF0, (if n = 0xF0 then 0x90 else 0x80, if n = 0xF4 then 0x8F else 0xBF), 2)
  else none

/-- Reads continuation bytes in the given ranges. The code so far grows by six
bits with each; a failure gives the bytes before it. -/
def follow (code : Nat) (seen : List UInt8) : List (Nat × Nat) → List UInt8 →
    Except (List UInt8 × Reason) (Nat × List UInt8)
  | [], bs => .ok (code, bs)
  | _ :: _, [] => .error (seen, .tooShort)
  | (low, high) :: ranges, b :: bs =>
    if low ≤ b.toNat ∧ b.toNat ≤ high then follow (code * 64 + b.toNat % 64) (seen ++ [b]) ranges bs
    else .error (seen, .continuation)

def first (b : UInt8) (bs : List UInt8) : Except (List UInt8 × Reason) (Char × List UInt8) :=
  if b.toNat < 0x80 then .ok (Char.ofNat b.toNat, bs)
  else
    match lead? b with
    | none => .error ([b], .start)
    | some (code, range, more) =>
      (follow code [b] (range :: List.replicate more (0x80, 0xBF)) bs).map fun r => (Char.ofNat r.1, r.2)

def decodeFrom : Nat → Nat → List UInt8 → Except Fault (List Char)
  | _, _, [] => .ok []
  | 0, _, _ :: _ => .ok []
  | fuel + 1, position, b :: bs =>
    match first b bs with
    | .error (bytes, reason) => .error ⟨position, bytes, reason⟩
    -- the place moves on by the bytes of this character, `b` among them
    | .ok (c, rest) => (decodeFrom fuel (position + (bs.length + 1 - rest.length)) rest).map (c :: ·)

def decode (bs : List UInt8) : Except Fault (List Char) := decodeFrom bs.length 0 bs

end BrowserPilot.Text.Utf8
