import Sentential.Text.Basic

namespace Sentential

namespace Cli

inductive Key where
  | help
  | version
  | verbose
  | start
  | grammar
  | amount
  | seed
  | maxDepth
  | maxLength
  | maxSteps
  deriving Repr, DecidableEq

namespace Key

def long : Key → String
  | help => "help"
  | version => "version"
  | verbose => "verbose"
  | start => "start"
  | grammar => "grammar"
  | amount => "amount"
  | seed => "seed"
  | maxDepth => "max-depth"
  | maxLength => "max-length"
  | maxSteps => "max-steps"

def short? : Key → Option Char
  | help => some 'h'
  | version => some 'V'
  | verbose => some 'v'
  | start => some 's'
  | grammar => some 'g'
  | amount => some 'n'
  | _ => none

def takesValue : Key → Bool
  | help | version | verbose => false
  | _ => true

end Key

inductive Halt where
  | misuse
  | help
  | version
  deriving Repr, DecidableEq

inductive Item where
  | flag (key : Key)
  | setting (key : Key) (value : Text)
  | positional (value : Text)
  deriving Repr, DecidableEq

/-- Items, and the option at the end whose value is still to come. -/
abbrev Items := List Item × Option Key

def Key.halt? : Key → Option Halt
  | .help => some .help
  | .version => some .version
  | _ => none

def halt? (items : List Item) : Option Halt :=
  items.findSome? fun
    | .flag key => key.halt?
    | _ => none

def readLong (keys : List Key) (body : Text) : Except Halt Items :=
  let name := body.takeWhile (· ≠ '=')
  match keys.find? (·.long.toList == name), body.dropWhile (· ≠ '=') with
  | none, _ => .error .misuse
  | some key, [] => .ok (if key.takesValue then ([], some key) else ([.flag key], none))
  | some key, _ :: value =>
    if key.takesValue then .ok ([.setting key value], none) else .error .misuse

/-- An argument with one dash: letters, of which the first that takes a value takes the rest for it,
less one equals sign in front. -/
def readShort (keys : List Key) : Text → Except Halt Items
  | [] => .ok ([], none)
  | c :: rest =>
    match keys.find? (·.short? == some c) with
    | none => .error .misuse
    | some key =>
      if key.takesValue then
        match rest with
        | [] => .ok ([], some key)
        | '=' :: value => .ok ([.setting key value], none)
        | value => .ok ([.setting key value], none)
      else if key.halt?.isSome then .ok ([.flag key], none)
      else do
        let (items, pending) ← readShort keys rest
        return (.flag key :: items, pending)

inductive Shape where
  | escape
  | long (body : Text)
  | short (letters : Text)
  | plain

def Shape.of : Text → Shape
  | ['-', '-'] => .escape
  | '-' :: '-' :: body => .long body
  | ['-'] => .plain
  | '-' :: letters => .short letters
  | _ => .plain

/-- The items of a command's arguments. After an argument of just two dashes all are positional. An
option whose value is still to come takes the next argument, which must not look like an option. -/
def readItems (keys : List Key) (pending : Option Key) : List Text → Except Halt (List Item)
  | [] => if pending.isSome then .error .misuse else .ok []
  | arg :: rest =>
    match pending, Shape.of arg with
    | some key, .plain => do return .setting key arg :: (← readItems keys none rest)
    | some _, _ => .error .misuse
    | none, .plain => do return .positional arg :: (← readItems keys none rest)
    | none, .escape => .ok (rest.map .positional)
    | none, .long body => do
      let (items, pending) ← readLong keys body
      if (halt? items).isSome then return items
      return items ++ (← readItems keys pending rest)
    | none, .short letters => do
      let (items, pending) ← readShort keys letters
      if (halt? items).isSome then return items
      return items ++ (← readItems keys pending rest)

def countFlag (key : Key) (items : List Item) : Nat := items.count (.flag key)

def valuesOf (key : Key) (items : List Item) : List Text :=
  items.filterMap fun
    | .setting k value => if k = key then some value else none
    | _ => none

def positionals (items : List Item) : List Text :=
  items.filterMap fun
    | .positional value => some value
    | _ => none

end Cli

end Sentential
