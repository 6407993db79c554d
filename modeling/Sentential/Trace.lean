import Sentential.Text.Quoted

namespace Sentential

structure Trace where
  lines : List String
  deriving Repr, DecidableEq

namespace Trace

def empty : Trace := ⟨[]⟩

def push (t : Trace) (line : String) : Trace := ⟨t.lines ++ [line]⟩

def blank (t : Trace) : Trace := t.push ""

def size (t : Trace) : Nat := t.lines.length

def isEmpty (t : Trace) : Bool := t.lines.isEmpty

def mentions (t : Trace) (needle : String) : Bool := t.lines.any (·.contains needle)

def shown (t : Trace) : String := t.lines.foldl (fun text line => (text ++ line).push '\n') ""

end Trace

namespace Log

inductive Level where
  | warn
  | info
  | debug
  | trace
  deriving Repr, DecidableEq

namespace Level

def verbosity : Level → Nat
  | warn => 0
  | info => 1
  | debug => 2
  | trace => 3

def name : Level → String
  | warn => "WARN"
  | info => "INFO"
  | debug => "DEBUG"
  | trace => "TRACE"

end Level

structure Record where
  level : Level
  speaker : String
  message : String
  fields : List (String × String)
  deriving Repr, DecidableEq

/-- Characters that could steer a terminal are spelled out. -/
def shownMessage (message : String) : String :=
  message.toList.foldl (fun text c =>
    if [0x07, 0x08, 0x0C, 0x1B, 0x7F].contains c.toNat then
      text ++ "\\x" ++ (if c.toNat < 0x10 then "0" else "") ++ Text.hexadecimal c.toNat
    else if 0x80 ≤ c.toNat ∧ c.toNat ≤ 0x9F then text ++ Text.byNumber c
    else text.push c) ""

def Record.shown (r : Record) : String :=
  let fields := String.join (r.fields.map fun (name, value) => " " ++ name ++ "=" ++ value)
  r.level.name ++ " " ++ r.speaker ++ ": " ++ shownMessage r.message ++ fields

def shown (verbosity : Nat) (records : List Record) : String :=
  (Trace.mk ((records.filter (·.level.verbosity ≤ verbosity)).map Record.shown)).shown

def ofLine (line : String) : Record := ⟨.trace, "chomsky::trace", line, []⟩

end Log

end Sentential
