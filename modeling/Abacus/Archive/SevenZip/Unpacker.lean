import Abacus.Archive.SevenZip.Header
import Abacus.Archive.SevenZip.Stage

/-!
# Unpacking a folder

A folder goes through its stages in the order of its coders. All that is packed is fed
to the first stage when the first bytes are asked for; what the last stage hands out
beyond that is kept for later.

* `Unpacker.start?`: the stages of a folder.
* `Unpacker.read`: reads bytes of a folder.
-/

namespace Abacus.Archive.SevenZip

/-! ## Stages of a folder -/

/-- The index of the coder whose branches are undone apart: there is one as soon as a
    method that keeps them apart and branches have both occurred. It is the latest. -/
def apartIndex? : (index : Nat) → (keeps : Bool) → (latest : Option Nat) → List Method → Option Nat
  | _, _, _, [] => none
  | index, keeps, latest, m :: rest =>
    let keeps := keeps || m.keepsApart
    let latest := if m.isBranches then some index else latest
    if keeps && latest.isSome then latest else apartIndex? (index + 1) keeps latest rest

/-- Which coders stand in a chain with others. -/
def chained (methods : List Method) : List Bool :=
  let apart := if 2 ≤ methods.length then apartIndex? 0 false none methods else none
  methods.zipIdx.map fun (m, index) => m.isFilter && apart ≠ some index

/-- The sizes of the outputs of stages. Each coder in a chain, after the first, shifts
    all sizes by one. -/
def stageSizes (sizes : List Nat) : (index shift : Nat) → (before : Bool) → List Bool →
    Except Fault (List Nat)
  | _, _, _, [] => .ok []
  | index, shift, before, isChained :: rest => do
    let shift := if isChained && before then shift + 1 else shift
    match sizes[index - shift]? with
    | none => .error .outOfRange
    | some size => return size :: (← stageSizes sizes (index + 1) shift isChained rest)

/-- Puts coders that stand in a chain together. -/
def groups : List (Coder × Method × Bool) → List (Bool × List (Coder × Method))
  | [] => []
  | (c, m, isChained) :: rest =>
    match groups rest with
    | (true, cs) :: others =>
      if isChained then (true, (c, m) :: cs) :: others
      else (false, [(c, m)]) :: (true, cs) :: others
    | others => (isChained, [(c, m)]) :: others

/-- The stage of some coders. -/
def groupStage (isChained : Bool) (group : List (Coder × Method)) (size limit : Nat) :
    Except Fault Stage :=
  match isChained, group with
  | false, [(c, m)] => c.stage? m size
  | _, group => Coder.filters? (group.map Prod.fst) size limit

/-- The method of a coder. -/
def Coder.knownMethod (c : Coder) : Except Fault Method :=
  match c.method? with
  | some m => .ok m
  | none => .error (.coder (.unknown c.id))

/-- The stages of a folder. -/
def Folder.stages (f : Folder) : Except Fault (List Stage) := do
  if Coder.most < f.coders.length then throw (.coder (.tooMany f.coders))
  let methods ← f.coders.mapM Coder.knownMethod
  if methods.contains .aes then throw (.coder (.password f.coders))
  let isChained := chained methods
  let sizes ← stageSizes f.sizes 0 0 false isChained
  match f.sizes.getLast? with
  | none => throw .outOfRange
  | some limit =>
    let grouped := groups (f.coders.zip (methods.zip isChained))
    (grouped.zip sizes).mapM fun ((isChained, group), size) => groupStage isChained group size limit

/-! ## Unpacking -/

/-- A folder that is being unpacked: its stages, what is packed, whether that was fed,
    what was handed out beyond what was asked for, and all that was read. -/
structure Unpacker where
  stages : List Stage
  packed : ByteArray
  isFed : Bool
  ahead : List UInt8
  out : ByteArray

namespace Unpacker

/-- A folder before it is unpacked. -/
def start? (f : Folder) (packed : ByteArray) : Except Fault Unpacker := do
  return ⟨← f.stages, packed, false, [], .empty⟩

/-- Sends data through stages. A stage that has handed out all its output takes no more. -/
def send (room : Nat) : List Stage → List UInt8 → Except Fault (List Stage × List UInt8)
  | [], data => .ok ([], data)
  | s :: rest, data => do
    let (s, out) ←
      if s.given < s.size then s.feed (Bytes.ofList data) room
      else if data.isEmpty then .ok (s, [])
      else .error (.data (.exhausted .size))
    let (rest, data) ← send room rest out
    return ({ s with given := s.given + out.length } :: rest, data)

/-- How much all stages have handed out. -/
def given (u : Unpacker) : Nat := u.stages.foldr (fun s n => s.given + n) 0

/-- Reads up to `n` bytes, at once. -/
def readOnce (u : Unpacker) (n : Nat) : Except Fault (Unpacker × List UInt8) := do
  if n ≤ u.ahead.length then
    return ({ u with ahead := u.ahead.drop n }, u.ahead.take n)
  else
    let data := if u.isFed then [] else Bytes.toList u.packed
    let (stages, data) ← send (n - u.ahead.length) u.stages data
    let all := u.ahead ++ data
    return ({ u with stages, isFed := true, ahead := all.drop n }, all.take n)

/-- Reads `n` bytes. Every time that the stages are asked some bytes are handed out, so
    `fuel` bounds their number; otherwise no more bytes can be had. -/
def readFrom : (fuel : Nat) → (n : Nat) → Unpacker → Except Fault Unpacker
  | 0, _, _ => .error (.data (.exhausted .size))
  | fuel + 1, n, u => do
    if n = 0 then return u
    let (next, out) ← u.readOnce n
    if u.isFed && out.isEmpty && next.given = u.given then throw (.data (.exhausted .size))
    readFrom fuel (n - out.length) { next with out := u.out ++ Bytes.ofList out }

/-- Reads `n` bytes, or none if `n` is negative. -/
def read (u : Unpacker) (n : Int) : Except Fault (Unpacker × List UInt8) := do
  let fuel := 2 * n.toNat + u.stages.foldr (fun s m => s.size.toNat + m) 0 + 2
  let next ← readFrom fuel n.toNat u
  return (next, Bytes.slice next.out u.out.size (next.out.size - u.out.size))

end Unpacker

end Abacus.Archive.SevenZip
