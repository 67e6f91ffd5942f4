import Abacus.Archive.SevenZip
import Abacus.Command

/-!
# The command line

Reads what a command needs, carries it out and does what comes of it. A dialogue is
led line by line as it comes in. All that is decided is decided elsewhere.

* `act`: one act, done for real.
* `lead`: a dialogue, one reply after the other.
* `follow`: a whole command line (`main`).
-/

namespace Abacus

/-- Does one thing. -/
def act : Act → IO Unit
  | .say n => do IO.eprint (n.text (toString (← IO.monoMsNow)))
  | .write output text => IO.FS.writeBinFile output.text text.toUTF8
  | .print text => IO.print text

/-- Does one thing after the other, without what is not to be shown. -/
def enact (verbose : Bool) (acts : List Act) : IO Unit :=
  (acts.filter (·.isShown verbose)).forM act

/-- Presents a performance; gives the exit status. -/
def present (verbose : Bool) (p : Performance) : IO UInt32 := do
  enact verbose p.acts
  match p.ending with
  | .status n => return n.toUInt32
  | .broken f => throw (IO.userError f.message)

/-- Leads a dialogue from the line to come; `count` expressions have been answered. What comes in
    up to a line feed may hold other line ends, so some of it may be `unread`. -/
partial def lead (verbose : Bool) (input : IO.FS.Stream) (unread : List Char) (count : Nat) :
    IO Nat := do
  act (.print Dialogue.defaultPrompt)
  (← IO.getStdout).flush
  let unread ← if unread.isEmpty then
      pure (Text.unifyNewlines (← input.getLine).toList)
    else pure unread
  let (line, rest) := Text.readLine unread
  let reply := Reply.to line
  enact verbose (reply.records.map (fun r => .say (.record r)) ++ [.print reply.output])
  let count := count + reply.expression.toList.length
  if reply.isOver then return count else lead verbose input rest count

/-- Carries out a command on the bytes of its file. -/
def carryOut (command : Command) (bytes : ByteArray) : IO UInt32 := do
  match command.task with
  | .dialogue =>
    enact command.verbose [.say (.record Dialogue.opening)]
    let count ← lead command.verbose (← IO.getStdin) [] 0
    enact command.verbose [.say (.record (Dialogue.closing count))]
    return 0
  | task => present command.verbose (task.perform (fun _ => bytes) [])

/-- Follows a command line; gives the exit status. -/
def follow (words : List String) : IO UInt32 := do
  let named := (Arguments.parse words).toOption.bind (·.file)
  let bytes ← match named with
    | none => pure none
    | some text =>
      try some <$> IO.FS.readBinFile text catch _ => pure none
  match Command.ofWords (fun _ => bytes.isSome) words with
  | .error r => return r.status.toUInt32
  | .ok command => carryOut command (bytes.getD .empty)

end Abacus

def main (words : List String) : IO UInt32 := Abacus.follow words
