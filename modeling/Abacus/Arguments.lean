import Abacus.Text.Character

/-!
# Command-line arguments

A command line is a list of words. A word that begins with a hyphen is a switch,
unless it is a lone hyphen, looks like a negative number or holds a space; after
the word of two hyphens no word is a switch. Long switches may be cut short as long
as they stay clear, and a value may follow its switch in the same word. Short
switches may share one word.

One file or one expression may be given, not both.

* `Arguments.parse`: what a command line says, or how it is refused.
-/

namespace Abacus

/-- What a command line says (`CliArgs`). -/
structure Arguments where
  file : Option String
  expression : Option String
  verbose : Bool
deriving DecidableEq

namespace Arguments

/-- Why a command line is not carried out: help was asked for, or it makes no sense. The texts that
    are shown then, the help and usage of `parse_args` and the reason why an argument is refused,
    are left out of the model: of a refused call or a call for help only the exit status is known,
    and no statement about what a turn prints or says tells anything about these texts. -/
inductive Refusal
  | help
  | misuse
deriving DecidableEq

/-- The exit status of a refusal. -/
def Refusal.status : Refusal → Nat
  | .help => 0
  | .misuse => 2

/-! ## Switches -/

/-- The switches. -/
inductive Switch
  | help
  | expression
  | verbose
deriving DecidableEq

/-- All switches. -/
def Switch.all : List Switch := [.help, .expression, .verbose]

/-- The letter of a switch. -/
def Switch.letter : Switch → Char
  | .help => 'h'
  | .expression => 'e'
  | .verbose => 'v'

/-- The name of a switch. -/
def Switch.name : Switch → List Char
  | .help => ['h', 'e', 'l', 'p']
  | .expression => ['e', 'x', 'p', 'r', 'e', 's', 's', 'i', 'o', 'n']
  | .verbose => ['v', 'e', 'r', 'b', 'o', 's', 'e']

/-- The switch with some letter. -/
def Switch.ofLetter? (c : Char) : Option Switch := Switch.all.find? (·.letter = c)

/-- The switches whose names begin so. -/
def Switch.beginning (cs : List Char) : List Switch :=
  match Switch.all.filter (·.name = cs) with
  | [] => Switch.all.filter fun s => cs.isPrefixOf s.name
  | exact => exact

/-- What follows a switch in its own word: nothing, a text after the equals sign of a
    name, or a text behind a letter, where one equals sign may stand between them. -/
inductive Attachment
  | none
  | value (text : List Char)
  | tail (text : List Char)
deriving DecidableEq

/-- What a word is. -/
inductive Word
  | plain (text : String)
  | divider
  | switch (s : Switch) (attachment : Attachment)
  | unknown
deriving DecidableEq

/-- Is the text a minus sign and a decimal number? A line feed may stand at its end. -/
def isNegativeNumber : List Char → Bool
  | '-' :: rest =>
    let rest := if rest.getLast? = some '\n' then rest.dropLast else rest
    let fraction := rest.dropWhile Text.isDecimalDigit
    match fraction with
    | [] => !rest.isEmpty
    | '.' :: digits => !digits.isEmpty && digits.all Text.isDecimalDigit
    | _ => false
  | _ => false

/-- What a word with a hyphen is that names no switch. -/
def unnamed (text : List Char) : Word :=
  if isNegativeNumber text || text.contains ' ' then .plain (String.ofList text) else .unknown

/-- What follows a name: nothing, or an equals sign and a value. -/
def afterName : List Char → Attachment
  | _ :: text => .value text
  | [] => .none

/-- What follows a letter. -/
def afterLetter : List Char → Attachment
  | [] => .none
  | '=' :: text => .tail text
  | text => .tail text

/-- What a word is, if the divider has not come yet. A name that fits several
    switches is refused. -/
def classify (word : String) : Except Refusal Word :=
  match word.toList with
  | ['-', '-'] => .ok .divider
  | '-' :: '-' :: rest =>
    let name := rest.takeWhile (· ≠ '=')
    match Switch.beginning name with
    | [] => .ok (unnamed ('-' :: '-' :: rest))
    | [s] => .ok (.switch s (afterName (rest.drop name.length)))
    | _ => .error .misuse
  | '-' :: letter :: rest =>
    match Switch.ofLetter? letter with
    | some s => .ok (.switch s (afterLetter rest))
    | none => .ok (unnamed ('-' :: letter :: rest))
  | text => .ok (.plain (String.ofList text))

/-- What the words of a command line are. -/
def classifyAll : List String → Except Refusal (List Word)
  | [] => .ok []
  | word :: rest => do
    match ← classify word with
    | .divider => return .divider :: rest.map Word.plain
    | w => return w :: (← classifyAll rest)

/-! ## Words with switches -/

/-- What one word asks for: flags in their order, then an expression, which stands
    in the word or is the next word. -/
structure Request where
  flags : List Switch
  expression : Option (Option (List Char))

/-- A flag, then the rest of a request. -/
def Request.withFlag (s : Switch) (r : Request) : Request := { r with flags := s :: r.flags }

/-- What a switch asks for that has nothing behind it. -/
def alone (s : Switch) : Request :=
  if s = .expression then ⟨[], some none⟩ else ⟨[s], none⟩

/-- What a switch asks for that has a value. Only an expression may have one. -/
def withValue (s : Switch) (text : List Char) : Except Refusal Request :=
  if s = .expression then .ok ⟨[], some (some text)⟩ else .error .misuse

/-- What a letter asks for that has a text behind it. The text is an expression, or
    else it goes on with letters of switches, all of which must be known. -/
def withTail (s : Switch) : (text : List Char) → Except Refusal Request
  | [] => withValue s []
  | c :: rest =>
    if s = .expression then withValue s (c :: rest)
    else
      match Switch.ofLetter? c with
      | none => .error .misuse
      | some next =>
        let request := if rest.isEmpty then .ok (alone next) else withTail next rest
        request.map (Request.withFlag s)

/-- What a switch asks for. -/
def requestOf (s : Switch) : Attachment → Except Refusal Request
  | .none => .ok (alone s)
  | .value text => withValue s text
  | .tail text => withTail s text

/-! ## The whole command line -/

/-- How far a command line has been followed: the file and the expression so far,
    whether it is verbose, whether a file may still come, and whether there was a word
    too many. An expression may have been asked for and be missing. -/
structure Progress where
  file : Option String
  expression : Option (Option String)
  verbose : Bool
  wantsFile : Bool
  surplus : Bool

/-- The start of a command line. -/
def Progress.start : Progress := ⟨none, none, false, true, false⟩

/-- Takes a file, which excludes an expression. -/
def Progress.takeFile (p : Progress) (text : String) : Except Refusal Progress :=
  if p.expression.isSome then .error .misuse
  else .ok { p with file := some text, wantsFile := false }

/-- What divides words, and is no expression. -/
def divider : String := "--"

/-- Takes an expression, which excludes a file. A later one replaces it. A divider
    leaves it missing. -/
def Progress.takeExpression (p : Progress) (text : String) : Except Refusal Progress :=
  if p.file.isSome then .error .misuse
  else .ok { p with expression := some (if text = divider then none else some text) }

/-- Acts on flags in their order. -/
def Progress.takeFlags (p : Progress) : List Switch → Except Refusal Progress
  | [] => .ok p
  | .help :: _ => .error .help
  | _ :: rest => takeFlags { p with verbose := true } rest

/-- A word too many. -/
def Progress.addSurplus (p : Progress) (surplus : Bool) : Progress :=
  { p with surplus := p.surplus || surplus }

/-- Follows a command line word by word. A divider belongs to the file beside it. -/
def follow : Progress → List Word → Except Refusal Progress
  | p, [] => .ok p
  | p, .plain text :: .divider :: rest =>
    if p.wantsFile then do follow (← p.takeFile text) rest
    else follow (p.addSurplus true) rest
  | p, .plain text :: rest =>
    if p.wantsFile then do follow (← p.takeFile text) rest
    else follow (p.addSurplus true) rest
  | p, .divider :: rest =>
    match rest with
    | .plain text :: rest =>
      if p.wantsFile then do follow (← p.takeFile text) rest
      else follow (p.addSurplus true) rest
    | rest => follow { p.addSurplus (!p.wantsFile) with wantsFile := false } rest
  | p, .unknown :: rest => follow (p.addSurplus true) rest
  | p, .switch s attachment :: rest => do
    let request ← requestOf s attachment
    match request.expression with
    | none => follow (← p.takeFlags request.flags) rest
    | some (some text) =>
      follow (← (← p.takeFlags request.flags).takeExpression (String.ofList text)) rest
    | some none =>
      match rest with
      | .plain text :: rest =>
        follow (← (← p.takeFlags request.flags).takeExpression text) rest
      | _ => throw .misuse

/-- What a command line says (`parse_args`). A word too many, or an expression that is missing, is
    refused when all else is done. -/
def parse (words : List String) : Except Refusal Arguments := do
  let p ← follow .start (← classifyAll words)
  if p.surplus then throw .misuse
  match p.expression with
  | none => return ⟨p.file, none, p.verbose⟩
  | some none => throw .misuse
  | some (some text) => return ⟨p.file, some text, p.verbose⟩

end Arguments

end Abacus
