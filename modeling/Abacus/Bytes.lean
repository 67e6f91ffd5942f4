/-!
# Bytes

Numbers and pieces of byte sequences.

* `Bytes.littleEndian`, `Bytes.bigEndian`: the number that bytes stand for.
* `Bytes.slice`: a piece of a byte array.
* `Bytes.toList_ofList`: an array holds the bytes that it is made of.
* `Bytes.repeatBack`: a copy of what was written some distance ago.
-/

namespace Abacus.Bytes

/-- The number that bytes stand for, the lowest byte first. -/
def littleEndian : List UInt8 → Nat
  | [] => 0
  | b :: rest => b.toNat + 256 * littleEndian rest

/-- The number that bytes stand for, the highest byte first. -/
def bigEndian (bytes : List UInt8) : Nat := bytes.foldl (fun n b => 256 * n + b.toNat) 0

/-- Bytes as an array. -/
def ofList (bytes : List UInt8) : ByteArray := ⟨bytes.toArray⟩

/-- The bytes of an array. -/
def toList (bytes : ByteArray) : List UInt8 := bytes.data.toList

/-- The bytes from `start` on, `len` of them or as many as there are. -/
def slice (bytes : ByteArray) (start len : Nat) : List UInt8 :=
  if bytes.size ≤ start then []
  else toList (bytes.extract start (start + min len (bytes.size - start)))

@[simp] theorem toList_ofList (bytes : List UInt8) : toList (ofList bytes) = bytes := rfl

/-- The number in the `len` bytes from `start` on, the lowest byte first. -/
def number (bytes : ByteArray) (start len : Nat) : Nat := littleEndian (slice bytes start len)

/-- Appends `len` bytes, each the one that stands `distance` before it. The copy
    may run into what it has just written. -/
def repeatBack (bytes : ByteArray) (distance : Nat) : Nat → ByteArray
  | 0 => bytes
  | len + 1 => repeatBack (bytes.push ((bytes[bytes.size - distance]?).getD 0)) distance len

end Abacus.Bytes
