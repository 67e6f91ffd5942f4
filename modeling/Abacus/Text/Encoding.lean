import Abacus.Bytes
import Abacus.Text.Character
import Abacus.Text.Utf8

/-!
# Encodings of names in archives

Archives name their members in encodings of their own. A zip archive has the code page
of the first personal computers unless it says otherwise: below 128 it agrees with ASCII,
and above each byte stands for one character of a table. A 7z archive has UTF-16, in
units of two bytes, the lower byte first; a character above the first 65,536 takes two
units, a high and a low half. A tape has bytes that should be UTF-8, and they are read so
that nothing is lost: what belongs to no character is kept as it is.

* `CodePage.decode`: the text of bytes. Every byte has a character.
* `Utf16.decode`, `Utf16.Fault.message`: the text of a byte sequence, or the first
  fault, and what is said about it.
* `Stray.decode`: the characters and the stray bytes.
* `Stray.text`, `Stray.quote`: their text, where a stray byte has a character of its own,
  and how it is shown.
-/

namespace Abacus.Text.CodePage

/-- The characters of the bytes from 128 on. -/
def upperHalf : Array Nat :=
  #[0x00C7, 0x00FC, 0x00E9, 0x00E2, 0x00E4, 0x00E0, 0x00E5, 0x00E7,
    0x00EA, 0x00EB, 0x00E8, 0x00EF, 0x00EE, 0x00EC, 0x00C4, 0x00C5,
    0x00C9, 0x00E6, 0x00C6, 0x00F4, 0x00F6, 0x00F2, 0x00FB, 0x00F9,
    0x00FF, 0x00D6, 0x00DC, 0x00A2, 0x00A3, 0x00A5, 0x20A7, 0x0192,
    0x00E1, 0x00ED, 0x00F3, 0x00FA, 0x00F1, 0x00D1, 0x00AA, 0x00BA,
    0x00BF, 0x2310, 0x00AC, 0x00BD, 0x00BC, 0x00A1, 0x00AB, 0x00BB,
    0x2591, 0x2592, 0x2593, 0x2502, 0x2524, 0x2561, 0x2562, 0x2556,
    0x2555, 0x2563, 0x2551, 0x2557, 0x255D, 0x255C, 0x255B, 0x2510,
    0x2514, 0x2534, 0x252C, 0x251C, 0x2500, 0x253C, 0x255E, 0x255F,
    0x255A, 0x2554, 0x2569, 0x2566, 0x2560, 0x2550, 0x256C, 0x2567,
    0x2568, 0x2564, 0x2565, 0x2559, 0x2558, 0x2552, 0x2553, 0x256B,
    0x256A, 0x2518, 0x250C, 0x2588, 0x2584, 0x258C, 0x2590, 0x2580,
    0x03B1, 0x00DF, 0x0393, 0x03C0, 0x03A3, 0x03C3, 0x00B5, 0x03C4,
    0x03A6, 0x0398, 0x03A9, 0x03B4, 0x221E, 0x03C6, 0x03B5, 0x2229,
    0x2261, 0x00B1, 0x2265, 0x2264, 0x2320, 0x2321, 0x00F7, 0x2248,
    0x00B0, 0x2219, 0x00B7, 0x221A, 0x207F, 0x00B2, 0x25A0, 0x00A0]

/-- The character of a byte. -/
def charOf (b : UInt8) : Char :=
  if b < 0x80 then Char.ofNat b.toNat else Char.ofNat ((upperHalf[b.toNat - 0x80]?).getD 0)

/-- The text of bytes. -/
def decode (bytes : List UInt8) : List Char := bytes.map charOf

end Abacus.Text.CodePage

namespace Abacus.Text.Utf16

/-! ## Faults -/

/-- Why a character could not be decoded. -/
inductive Reason
  | truncated
  | unexpectedEnd
  | loneLow
  | loneHigh
deriving DecidableEq

/-- The words for a reason. -/
def Reason.text : Reason → String
  | .truncated => "truncated data"
  | .unexpectedEnd => "unexpected end of data"
  | .loneLow => "illegal encoding"
  | .loneHigh => "illegal UTF-16 surrogate"

/-- The bytes at `start`, …, `stop - 1` are no character; `lead` is the first of them. -/
structure Fault where
  start : Nat
  stop : Nat
  lead : UInt8
  reason : Reason
deriving DecidableEq

/-- What is said about a fault: one byte is shown, several are only placed. -/
def Fault.message (f : Fault) : String :=
  if f.stop = f.start + 1 then
    "'utf-16-le' codec can't decode byte 0x" ++
      String.ofList [Nat.digitChar (f.lead.toNat / 16), Nat.digitChar (f.lead.toNat % 16)] ++
      " in position " ++ toString f.start ++ ": " ++ f.reason.text
  else
    "'utf-16-le' codec can't decode bytes in position " ++ toString f.start ++ "-" ++
      toString (f.stop - 1) ++ ": " ++ f.reason.text

/-! ## Decoding -/

/-- Is the unit a high half? -/
def isHigh (unit : Nat) : Bool := 0xD800 ≤ unit && unit < 0xDC00

/-- Is the unit a low half? -/
def isLow (unit : Nat) : Bool := 0xDC00 ≤ unit && unit < 0xE000

/-- The character of two halves. -/
def join (high low : Nat) : Char :=
  Char.ofNat (0x10000 + (high - 0xD800) * 0x400 + (low - 0xDC00))

/-- Decodes the bytes that start at position `pos`. -/
def decodeFrom (pos : Nat) : List UInt8 → Except Fault (List Char)
  | [] => .ok []
  | [a] => .error ⟨pos, pos + 1, a, .truncated⟩
  | a :: b :: rest =>
    let unit := Bytes.littleEndian [a, b]
    if isLow unit then .error ⟨pos, pos + 2, a, .loneLow⟩
    else if isHigh unit then
      match rest with
      | c :: d :: rest =>
        let next := Bytes.littleEndian [c, d]
        if isLow next then (decodeFrom (pos + 4) rest).map (join unit next :: ·)
        else .error ⟨pos, pos + 2, a, .loneHigh⟩
      | rest => .error ⟨pos, pos + 2 + rest.length, a, .unexpectedEnd⟩
    else (decodeFrom (pos + 2) rest).map (Char.ofNat unit :: ·)

/-- The characters that the bytes encode, or the first fault. -/
def decode (bytes : List UInt8) : Except Fault (List Char) := decodeFrom 0 bytes

end Abacus.Text.Utf16

namespace Abacus.Text.Stray

/-- A character, or a byte that belongs to none. -/
inductive Sign
  | char (c : Char)
  | stray (b : UInt8)
deriving DecidableEq

/-- Reads bytes. Every fault takes bytes, so `fuel` is their number. -/
def decodeFrom : (fuel : Nat) → List UInt8 → List Sign
  | 0, bytes => bytes.map .stray
  | fuel + 1, bytes =>
    match Utf8.decode bytes with
    | .ok cs => cs.map .char
    | .error f =>
      let before := (Utf8.decode (bytes.take f.start)).toOption.getD []
      let strays := (bytes.take f.stop).drop f.start
      before.map .char ++ strays.map .stray ++ decodeFrom fuel (bytes.drop f.stop)

/-- The characters and the stray bytes of a text. -/
def decode (bytes : List UInt8) : List Sign := decodeFrom bytes.length bytes

/-- The character for a sign; that of a stray byte is a private one. -/
def Sign.toChar : Sign → Char
  | .char c => c
  | .stray b => Char.ofNat (0x10FF00 + b.toNat)

/-- The text of bytes. -/
def text (bytes : List UInt8) : List Char := (decode bytes).map Sign.toChar

/-- A sign as it stands in a text between `quoteChar`s. -/
def Sign.escape (quoteChar : Char) : Sign → List Char
  | .char c => Text.escape quoteChar c
  | .stray b => ['\\', 'u', 'd', 'c'] ++ hexPadded 2 b.toNat

/-- The text of bytes in quotes. -/
def quote (bytes : List UInt8) : String :=
  let q := quoteCharFor (text bytes)
  String.ofList (q :: (decode bytes).flatMap (Sign.escape q) ++ [q])

end Abacus.Text.Stray
