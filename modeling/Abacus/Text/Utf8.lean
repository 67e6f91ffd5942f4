/-!
# UTF-8

Decodes bytes by a machine that reads one byte at a time. It stands between
characters, or inside one, where it knows which bytes may come next. It stops at
the first byte that no character allows, and reports the bytes of the character
that could not be finished.

* `Utf8.decode`: the text of a byte sequence, or the first fault.
* `Utf8.Fault.message`: what is said about it.
-/

namespace Abacus.Text.Utf8

/-! ## Faults -/

/-- Why a character could not be decoded. -/
inductive Reason
  | invalidStart
  | invalidContinuation
  | unexpectedEnd
deriving DecidableEq

/-- The words for a reason. -/
def Reason.text : Reason → String
  | .invalidStart => "invalid start byte"
  | .invalidContinuation => "invalid continuation byte"
  | .unexpectedEnd => "unexpected end of data"

/-- The bytes at `start`, …, `stop - 1` are no character; `lead` is the first of them. -/
structure Fault where
  start : Nat
  stop : Nat
  lead : UInt8
  reason : Reason
deriving DecidableEq

/-- A byte in two hexadecimal digits. -/
def byteText (b : UInt8) : String :=
  String.ofList [Nat.digitChar (b.toNat / 16), Nat.digitChar (b.toNat % 16)]

/-- What is said about a fault: one byte is shown, several are only placed. -/
def Fault.message (f : Fault) : String :=
  if f.stop = f.start + 1 then
    "'utf-8' codec can't decode byte 0x" ++ byteText f.lead ++ " in position " ++
      toString f.start ++ ": " ++ f.reason.text
  else
    "'utf-8' codec can't decode bytes in position " ++ toString f.start ++ "-" ++
      toString (f.stop - 1) ++ ": " ++ f.reason.text

/-! ## The machine -/

/-- Where the machine stands: between characters, or inside the one that began
    with `lead` at `start`, with `owed` bytes to come, the next of them between
    `low` and `high`, and `value` the bits read so far. -/
inductive State
  | between
  | inside (start : Nat) (lead : UInt8) (owed : Nat) (low high : UInt8) (value : Nat)
deriving DecidableEq

/-- What one byte leads to: a new state, or a character and the state between. -/
inductive Move
  | next (s : State)
  | emit (c : Char)
  | stuck (f : Fault)

/-- The first byte of a character fixes its length and the range of the second
    byte, which excludes overlong forms, surrogates and values above `0x10FFFF`. -/
def first (pos : Nat) (b : UInt8) : Move :=
  if b < 0x80 then .emit (Char.ofNat b.toNat)
  else if b < 0xC2 then .stuck ⟨pos, pos + 1, b, .invalidStart⟩
  else if b < 0xE0 then .next (.inside pos b 1 0x80 0xBF (b.toNat - 0xC0))
  else if b < 0xF0 then
    .next (.inside pos b 2 (if b = 0xE0 then 0xA0 else 0x80) (if b = 0xED then 0x9F else 0xBF)
      (b.toNat - 0xE0))
  else if b < 0xF5 then
    .next (.inside pos b 3 (if b = 0xF0 then 0x90 else 0x80) (if b = 0xF4 then 0x8F else 0xBF)
      (b.toNat - 0xF0))
  else .stuck ⟨pos, pos + 1, b, .invalidStart⟩

/-- One byte at position `pos`. -/
def step (pos : Nat) (b : UInt8) : State → Move
  | .between => first pos b
  | .inside start lead owed low high value =>
    if low ≤ b ∧ b ≤ high then
      let value := value * 64 + (b.toNat - 0x80)
      if owed ≤ 1 then .emit (Char.ofNat value)
      else .next (.inside start lead (owed - 1) 0x80 0xBF value)
    else .stuck ⟨start, pos, lead, .invalidContinuation⟩

/-- Runs the machine over the bytes that start at position `pos`. -/
def run (pos : Nat) : State → List UInt8 → Except Fault (List Char)
  | .between, [] => .ok []
  | .inside start lead _ _ _ _, [] => .error ⟨start, pos, lead, .unexpectedEnd⟩
  | s, b :: rest =>
    match step pos b s with
    | .next s => run (pos + 1) s rest
    | .emit c => (run (pos + 1) .between rest).map (c :: ·)
    | .stuck f => .error f

/-- The characters that the bytes encode, or the first fault. -/
def decode (bytes : List UInt8) : Except Fault (List Char) := run 0 .between bytes

end Abacus.Text.Utf8
