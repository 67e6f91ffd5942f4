import Abacus.Bytes

/-!
# Traces of decoders

What a decoder does, step by step, does not depend on the pieces in which its input
comes or its output is taken. So a decoder is run once on all of its input, and its
trace is followed as far as the input that is there and the room that is left allow.

* `Trace.written`, `Trace.ending`: the output of a trace, and how it ends.
* `Cursor.pull`: follows a trace.
-/

namespace Abacus.Coding

/-- A step of a decoder. `need` counts the bytes of input up to the end of the step.
    Before it writes a byte a decoder has read `read` bytes and waits for room. At a
    pause it hands over what it has written if there is no room left. -/
inductive Event
  | write (b : UInt8) (read need : Nat)
  | pause (need : Nat)
  | finish (need : Nat)
  | fail (need : Nat)

/-- The steps of a decoder. A trace without an end waits for input in vain. -/
abbrev Trace := Array Event

/-- How a run of a decoder stands: it can go on, it has come to the end, or the data
    make no sense. -/
inductive Status
  | running
  | finished
  | failed
deriving DecidableEq

namespace Trace

/-- The bytes that a trace writes. -/
def written (t : Trace) : ByteArray :=
  t.foldl (fun out e => match e with | .write b _ _ => out.push b | _ => out) .empty

/-- How a trace ends. -/
def ending (t : Trace) : Status :=
  match t.back? with
  | some (.finish _) => .finished
  | some (.fail _) => .failed
  | _ => .running

end Trace

/-- A trace that was followed up to the event `next`, with `taken` bytes of input. -/
structure Cursor where
  trace : Trace
  next : Nat
  taken : Nat

namespace Cursor

/-- The start of a trace, at some place of the input. -/
def start (trace : Trace) (place : Nat) : Cursor := ⟨trace, 0, place⟩

/-- Follows a trace as long as `loaded` bytes of input and `room` bytes of room last;
    `steps` bounds the events. -/
def pullFrom (loaded : Nat) : (steps : Nat) → (room : Nat) → ByteArray → Cursor →
    Cursor × ByteArray × Status
  | 0, _, out, c => ({ c with taken := loaded }, out, .running)
  | steps + 1, room, out, c =>
    match c.trace[c.next]? with
    | none => ({ c with taken := loaded }, out, .running)
    | some (.write b read need) =>
      if room = 0 then ({ c with taken := min loaded read }, out, .running)
      else if loaded < need then ({ c with taken := loaded }, out, .running)
      else pullFrom loaded steps (room - 1) (out.push b) ⟨c.trace, c.next + 1, need⟩
    | some (.pause need) =>
      if loaded < need then ({ c with taken := loaded }, out, .running)
      else if room = 0 then (⟨c.trace, c.next + 1, need⟩, out, .running)
      else pullFrom loaded steps room out ⟨c.trace, c.next + 1, need⟩
    | some (.finish need) =>
      if loaded < need then ({ c with taken := loaded }, out, .running)
      else ({ c with taken := need }, out, .finished)
    | some (.fail need) =>
      if loaded < need then ({ c with taken := loaded }, out, .running)
      else ({ c with taken := need }, out, .failed)

/-- Follows a trace as long as `loaded` bytes of input and `room` bytes of room last. -/
def pull (c : Cursor) (loaded room : Nat) : Cursor × ByteArray × Status :=
  pullFrom loaded (c.trace.size - c.next + 1) room .empty c

end Cursor

end Abacus.Coding
