import Abacus.Binary64.Decimal
import Abacus.Text.Lines

/-!
# Numerals in free notation

Numbers as data files write them: a sign, digits with or without a point, an
exponent, the words for infinity and NaN in any case, and single underscores
between characters. Blanks around a numeral without underscores are passed over.

Integers as records of archives write them have blanks around them, a sign, digits of
any script, and single underscores between digits. An octal number may begin with a
mark.

* `Numeral.read?`: the number that a text stands for.
* `Numeral.ofDecimal`: a decimal of any exponent, without forming a huge power.
* `Integer.read`, `Integer.readBytes`, `Integer.octal?`: the integer that a text stands for.
-/

namespace Abacus.Numeral

/-- Rounds a decimal. Beyond `10^400` and below `10^-400` the answer is known
    without the exact power. -/
def ofDecimal (neg : Bool) (d : Decimal) : Binary64 :=
  let magnitude : Int := d.exponent + (Nat.toDigits 10 d.digits).length
  if d.digits = 0 ∨ magnitude < -400 then .finite neg .zero
  else if 400 < magnitude then .infinite neg
  else .ofDecimal neg d

/-- The number of an integer, or nothing if it rounds to an infinity. -/
def ofInt? (n : Int) : Option Binary64 :=
  let v := ofDecimal (decide (n < 0)) ⟨n.natAbs, 0⟩
  if v.isFinite then some v else none

/-- Takes a sign off the front of a text; `true` is the minus sign. -/
def sign : List Char → Bool × List Char
  | '-' :: rest => (true, rest)
  | '+' :: rest => (false, rest)
  | cs => (false, cs)

/-- Reads an exponent mark and its digits, which must take up the whole text. -/
def exponent? : List Char → Option Int
  | [] => some 0
  | c :: rest =>
    if c = 'e' ∨ c = 'E' then
      let (neg, digits) := sign rest
      if digits.isEmpty || !digits.all Char.isDigit then none
      else
        let n : Int := Nat.ofDigitChars 10 digits 0
        some (if neg then -n else n)
    else none

/-- Reads digits with an optional point, then an exponent. -/
def decimal? (cs : List Char) : Option Decimal :=
  let whole := cs.takeWhile Char.isDigit
  let rest := cs.dropWhile Char.isDigit
  let (fraction, rest) :=
    match rest with
    | '.' :: rest => (rest.takeWhile Char.isDigit, rest.dropWhile Char.isDigit)
    | rest => ([], rest)
  if whole.isEmpty && fraction.isEmpty then none
  else
    (exponent? rest).map fun e => ⟨Nat.ofDigitChars 10 (whole ++ fraction) 0, e - fraction.length⟩

/-- Reads a numeral that takes up the whole text. -/
def strict? (cs : List Char) : Option Binary64 :=
  let (neg, rest) := sign cs
  let word := rest.map Char.toLower
  if word = ['i', 'n', 'f'] ∨ word = ['i', 'n', 'f', 'i', 'n', 'i', 't', 'y'] then
    some (.infinite neg)
  else if word = ['n', 'a', 'n'] then some .nan
  else (decimal? rest).map (ofDecimal neg)

/-- Do two underscores stand side by side? -/
def hasDoubleUnderscore : List Char → Bool
  | '_' :: '_' :: _ => true
  | _ :: rest => hasDoubleUnderscore rest
  | [] => false

/-- The blanks that may surround a numeral: all but the information separators. -/
def isMargin (c : Char) : Bool := Text.isBlank c && !(0x1C ≤ c.toNat && c.toNat ≤ 0x1F)

/-- A text without the margins at its two ends. -/
def trim (cs : List Char) : List Char :=
  ((cs.dropWhile isMargin).reverse.dropWhile isMargin).reverse

/-- The number that a text stands for. -/
def read? (s : String) : Option Binary64 :=
  let cs := s.toList
  match strict? (trim cs) with
  | some v => some v
  | none =>
    if cs.head? = some '_' ∨ cs.getLast? = some '_' ∨ hasDoubleUnderscore cs then none
    else strict? (cs.filter (· ≠ '_'))

/-! ## Integers -/

namespace Integer

/-- What is wrong with a text that should be an integer: it is none, or it has more
    digits than are read. -/
inductive Fault
  | invalid (quoted : String)
  | tooLong (digits : Nat)
deriving DecidableEq

/-- The most decimal digits that are read. -/
def mostDigits : Nat := 4300

/-- How much of a text is quoted in words about it. -/
def mostQuoted : Nat := 200

/-- The words for a fault. -/
def Fault.message : Fault → String
  | .invalid quoted =>
    "invalid literal for int() with base 10: " ++ String.ofList (quoted.toList.take mostQuoted)
  | .tooLong digits =>
    "Exceeds the limit (" ++ toString mostDigits ++
      " digits) for integer string conversion: value has " ++ toString digits ++
      " digits; use sys.set_int_max_str_digits() to increase the limit"

/-- Takes the mark of an octal number off the front of its digits. -/
def unmarked : List Char → List Char
  | '0' :: c :: rest =>
    if c = 'o' ∨ c = 'O' then
      match rest with
      | '_' :: rest => rest
      | rest => rest
    else '0' :: c :: rest
  | cs => cs

/-- The value of a digit of some script. -/
def digit? (base : Nat) (c : Char) : Option Nat :=
  (Text.decimalDigitRanges.find? fun range => range.1 ≤ c.toNat && c.toNat ≤ range.2).bind
    fun range =>
      let n := (c.toNat - range.1) % 10
      if n < base then some n else none

/-- Takes digits, with single underscores between them, off the front of a text. -/
def digits (base : Nat) : List Char → List Nat × List Char
  | [] => ([], [])
  | '_' :: c :: rest =>
    match digit? base c with
    | some n => let (more, rest) := digits base rest; (n :: more, rest)
    | none => ([], '_' :: c :: rest)
  | c :: rest =>
    match digit? base c with
    | some n => let (more, rest) := digits base rest; (n :: more, rest)
    | none => ([], c :: rest)

/-- The integer of a text to some base, which is `quoted` in a fault. -/
def readWith (base : Nat) (quoted : String) (cs : List Char) : Except Fault Int :=
  let (isNegative, body) := sign (trim cs)
  let body := if base = 8 then unmarked body else body
  let (ns, rest) := digits base body
  if body.head? = some '_' || ns.isEmpty || rest.head? = some '_' then .error (.invalid quoted)
  else if base = 10 && mostDigits < ns.length then .error (.tooLong ns.length)
  else if !rest.isEmpty then .error (.invalid quoted)
  else
    let n := ns.foldl (fun n d => base * n + d) 0
    .ok (if isNegative then -n else n)

/-- The decimal integer of a text, which is `quoted` in a fault. -/
def read (quoted : String) (cs : List Char) : Except Fault Int := readWith 10 quoted cs

/-- The decimal integer of bytes, which are read as ASCII. -/
def readBytes (bytes : List UInt8) : Except Fault Int :=
  let ascii (b : UInt8) : Char := if b < 0x80 then Char.ofNat b.toNat else '\x7f'
  readWith 10 (Text.quoteBytes bytes) (bytes.map ascii)

/-- The octal integer of a text; no text at all is zero. -/
def octal? (cs : List Char) : Option Int :=
  match Text.strip cs with
  | [] => some 0
  | cs => (readWith 8 "" cs).toOption

end Integer

end Abacus.Numeral
