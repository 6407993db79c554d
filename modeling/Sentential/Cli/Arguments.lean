import Sentential.Cli.Item
import Sentential.File
import Sentential.Search.Progress

namespace Sentential

namespace Cli

abbrev Reader (α : Type) := Text → Except Halt α

def optional {α : Type} (read : Reader α) : List Text → Except Halt (Option α)
  | [] => .ok none
  | [value] => some <$> read value
  | _ => .error .misuse

def withDefault {α : Type} (default : α) (read : Reader α) (values : List Text) : Except Halt α :=
  (·.getD default) <$> optional read values

def readChar : Reader Char
  | [c] => .ok c
  | _ => .error .misuse

def readFile : Reader FileName
  | [] => .error .misuse
  | name => .ok name

def readDigits : Reader Nat
  | [] => .error .misuse
  | digits =>
    if digits.all Char.isDigit then
      .ok (digits.foldl (fun n c => 10 * n + (c.toNat - '0'.toNat)) 0)
    else .error .misuse

def readBelow (bound : Nat) (text : Text) : Except Halt Nat := do
  let n ← readDigits (match text with
    | '+' :: digits => digits
    | digits => digits)
  if n < bound then .ok n else .error .misuse

def readNat64 : Reader Nat := readBelow UInt64.size

/-- An amount of 32 bits. It is read as a signed number, so that zero may have a minus sign. -/
def readAmount : Reader Nat
  | '-' :: digits => do if (← readDigits digits) = 0 then .ok 0 else .error .misuse
  | text => readBelow UInt32.size text

inductive Command where
  | classify (file : Option FileName) (start : Char)
  | derive (target : Text) (grammar : Option FileName) (start : Option Char) (limits : Limits)
  | sample (grammar : Option FileName) (start : Option Char) (amount : Nat) (seed : Option UInt64)
      (maxDepth : Nat)
  deriving Repr, DecidableEq

structure Invocation where
  verbosity : Nat
  command : Command
  deriving Repr, DecidableEq

def readClassify (items : List Item) : Except Halt (Option Command) := do
  let file ← optional readFile (positionals items)
  let start ← withDefault 'S' readChar (valuesOf .start items)
  return some (.classify file start)

def readDerive (items : List Item) : Except Halt (Option Command) := do
  let target ← optional .ok (positionals items)
  let grammar ← optional readFile (valuesOf .grammar items)
  let start ← optional readChar (valuesOf .start items)
  let standard := Limits.standard
  let maxDepth ← withDefault standard.maxDepth readNat64 (valuesOf .maxDepth items)
  let maxLength ← withDefault standard.maxLength readNat64 (valuesOf .maxLength items)
  let maxSteps ← withDefault standard.maxSteps readNat64 (valuesOf .maxSteps items)
  return target.map (.derive · grammar start ⟨maxDepth, maxLength, maxSteps⟩)

def readSample (items : List Item) : Except Halt (Option Command) := do
  let [] := positionals items | throw .misuse
  let grammar ← optional readFile (valuesOf .grammar items)
  let start ← optional readChar (valuesOf .start items)
  let amount ← withDefault 1 readAmount (valuesOf .amount items)
  let seed ← optional readNat64 (valuesOf .seed items)
  let maxDepth ← withDefault 32 readNat64 (valuesOf .maxDepth items)
  return some (.sample grammar start amount (seed.map UInt64.ofNat) maxDepth)

/-- `read` goes to a misuse if some item is wrong, and to no command if none is wrong but one is
missing. -/
structure CommandForm where
  keys : List Key
  read : List Item → Except Halt (Option Command)

def CommandForm.named? (name : Text) : Option CommandForm :=
  if name = "classify".toList then
    some ⟨[.help, .verbose, .start], readClassify⟩
  else if name = "derive".toList then
    some ⟨[.help, .verbose, .grammar, .start, .maxDepth, .maxLength, .maxSteps], readDerive⟩
  else if name = "sample".toList then
    some ⟨[.help, .verbose, .grammar, .start, .amount, .seed, .maxDepth], readSample⟩
  else none

def helpOn : List Text → Halt
  | [] => .help
  | [name] => if name = "help".toList ∨ (CommandForm.named? name).isSome then .help else .misuse
  | _ => .misuse

/-- A wrong item is noticed before a request for help that follows it, and a
verbosity given to the command wins over the program's. -/
def readCommand (verbosity : Nat) (name : Text) (args : List Text) : Except Halt Invocation :=
  if name = "help".toList then .error (helpOn args)
  else match CommandForm.named? name with
    | none => .error .misuse
    | some form => do
      let items ← readItems form.keys none args
      let command? ← form.read items
      if let some halt := halt? items then throw halt
      let some command := command? | throw .misuse
      let own := countFlag .verbose items
      return ⟨if own = 0 then verbosity else own, command⟩

def programKeys : List Key := [.help, .version, .verbose]

def readArguments (verbosity : Nat) : List Text → Except Halt Invocation
  | [] => .error .misuse
  | arg :: rest =>
    match Shape.of arg with
    | .escape => .error .misuse
    | .plain => readCommand verbosity arg rest
    | .long body => do
      let (items, _) ← readLong programKeys body
      if let some halt := halt? items then throw halt
      readArguments (verbosity + countFlag .verbose items) rest
    | .short letters => do
      let (items, _) ← readShort programKeys letters
      if let some halt := halt? items then throw halt
      readArguments (verbosity + countFlag .verbose items) rest

def parse (args : List Text) : Except Halt Invocation := readArguments 0 args

end Cli

end Sentential
