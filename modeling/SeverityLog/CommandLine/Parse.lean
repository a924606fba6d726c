import SeverityLog.CommandLine.Option
import SeverityLog.Text.Scan

/-!
# Reading the command line

The words are taken from left to right. The value of an option is looked at only when the next
option or message begins, or at the end; a word that cannot be used is refused at once.
-/

namespace SeverityLog.CommandLine

inductive Stop where
  | unknownArgument
  | invalidValue
  | valueValidation
  | argumentConflict
  | tooManyValues
  | help (long : Bool)
  | version
  deriving DecidableEq, Repr

structure Taken where
  message : Option String := none
  level : Option String := none
  sink : Option String := none
  verbosity : Option UInt32 := none
  config : Option String := none
  debug : Bool := false

/-- An optional sign and digits, if the number fits a threshold. -/
def threshold? (text : String) : Option UInt32 :=
  let (negative, ds) := match text.toList with
    | '-' :: r => (true, r)
    | '+' :: r => (false, r)
    | r => (false, r)
  if ds = [] ∨ !ds.all Char.isDigit then none
  else
    let n := Text.numeral 10 ds
    if n < UInt32.size ∧ (negative → n = 0) then some (UInt32.ofNat n) else none

namespace Taken

/-- The options with one more value. An option is given once. -/
def record (name : OptionName) (value : String) (t : Taken) : Except Stop Taken :=
  match name with
  | .level =>
    if t.level.isSome then .error .argumentConflict else .ok { t with level := some value }
  | .sink =>
    if t.sink.isSome then .error .argumentConflict else .ok { t with sink := some value }
  | .verbosity =>
    if t.verbosity.isSome then .error .argumentConflict
    else match threshold? value with
      | some n => .ok { t with verbosity := some n }
      | none => .error .valueValidation
  | .config =>
    if t.config.isSome then .error .argumentConflict
    else if value = "" then .error .invalidValue
    else .ok { t with config := some value }
  | .debug => if t.debug then .error .argumentConflict else .ok { t with debug := true }
  | .help => .error (.help false)
  | .version => .error .version

def invocation (t : Taken) : Invocation where
  message := t.message
  level := t.level.getD defaultLevel
  sink := t.sink
  verbosity := t.verbosity
  config := t.config
  debug := t.debug

end Taken

/-- The state between two words. -/
structure Reader where
  taken : Taken := {}
  /-- The option whose value is awaited, or there but not looked at. -/
  pending : Option (OptionName × Option String) := none
  /-- Every further word is a message. -/
  trailing : Bool := false

namespace Reader

def settle (r : Reader) : Except Stop Reader :=
  match r.pending with
  | none => .ok r
  | some (_, none) => .error .invalidValue
  | some (name, some value) => do
    let taken ← r.taken.record name value
    .ok { r with taken, pending := none }

def await (name : OptionName) (r : Reader) : Except Stop Reader := do
  let r ← r.settle
  .ok { r with pending := some (name, none) }

/-- An option with a value in the same word, or a flag. -/
def take (name : OptionName) (value : String) (r : Reader) : Except Stop Reader := do
  let r ← r.settle
  let taken ← r.taken.record name value
  .ok { r with taken }

def message (word : String) (r : Reader) : Except Stop Reader :=
  if r.taken.message.isSome then .error .unknownArgument
  else do
    let r ← r.settle
    .ok { r with taken := { r.taken with message := some word } }

/-- A word after two hyphens, up to an equals sign the name of an option. -/
def long (word : List Char) (r : Reader) : Except Stop Reader :=
  let name := word.takeWhile (· != '=')
  match OptionName.ofLong? (String.ofList name), word.drop name.length with
  | none, _ => .error .unknownArgument
  | some o, '=' :: value =>
    if o.takesValue then r.take o (String.ofList value) else .error .tooManyValues
  | some o, _ =>
    if o.takesValue then r.await o
    else do
      let r ← r.settle
      if o = .help then .error (.help true) else r.take o ""

/-- Flags after one hyphen, up to an option that takes the rest of the word as its value. -/
def short : List Char → Reader → Except Stop Reader
  | [], r => .ok r
  | c :: cs, r =>
    match OptionName.ofShort? c with
    | none => .error .unknownArgument
    | some o =>
      if !o.takesValue then do
        let r ← r.take o ""
        short cs r
      else match cs with
        | [] => r.await o
        | '=' :: value => r.take o (String.ofList value)
        | value => r.take o (String.ofList value)

/-- A word that is no option is the awaited value, or else the message. -/
def plain (word : String) (r : Reader) : Except Stop Reader :=
  match r.pending with
  | some (name, none) => .ok { r with pending := some (name, some word) }
  | _ => r.message word

def step (r : Reader) (word : String) : Except Stop Reader :=
  if r.trailing then r.message word
  else match word.toList with
    | ['-', '-'] => .ok { r with trailing := true }
    | '-' :: '-' :: cs => r.long cs
    | '-' :: c :: cs => r.short (c :: cs)
    | _ => r.plain word

end Reader

def parse (words : List String) : Except Stop Invocation := do
  let r ← words.foldlM Reader.step {}
  let r ← r.settle
  .ok r.taken.invocation

end SeverityLog.CommandLine
