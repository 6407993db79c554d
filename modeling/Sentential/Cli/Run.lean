import Sentential.Cli.Arguments
import Sentential.Grammar.Parser
import Sentential.Hierarchy.Classification
import Sentential.Sample
import Sentential.Search.Explore

namespace Sentential.Cli

structure Report where
  exit : UInt8
  out : String
  err : String
  deriving Repr, DecidableEq

namespace Report

/-- The string is not in the language, as far as the search went. -/
def rejected : UInt8 := 1

/-- The input is wrong. -/
def badInput : UInt8 := 2

end Report

/-- The texts of a usage error and of the help screen are left out. -/
def Halt.report : Halt → Report
  | .misuse => ⟨2, "", ""⟩
  | .version => ⟨0, "chomsky 0.1.0\n", ""⟩
  | .help => ⟨0, "", ""⟩

inductive Input where
  | file (name : FileName)
  | standardInput
  | nothing
  deriving Repr, DecidableEq

def Command.input : Command → Input
  | .classify (some file) _ => .file file
  | .classify none _ => .standardInput
  | .derive _ (some file) _ _ => .file file
  | .derive _ none _ _ => .nothing
  | .sample (some file) _ _ _ _ => .file file
  | .sample none _ _ _ _ => .nothing

def Input.name : Input → FileName
  | .file name => name
  | .standardInput => "<stdin>".toList
  | .nothing => []

structure Outcome where
  report : Report
  records : List Log.Record

def Outcome.ofDiagnostics (diagnostics : List Diagnostic) : Outcome :=
  ⟨⟨Report.badInput, "", (Trace.mk (diagnostics.map Diagnostic.shown)).shown⟩, []⟩

/-- The grammar in a file, or else the demonstration grammar. Only the former is checked: a start
symbol asked for replaces that of the demonstration grammar whether it has rules or not. -/
def loadGrammar (file : Option FileName) (start : Option Char)
    (contents : Except FileFault Bytes) : Except (List Diagnostic) Grammar :=
  match file with
  | some name => Grammar.load name start contents
  | none => .ok { Grammar.demonstration with start := start.getD Grammar.demonstration.start }

def loadRecords : Option FileName → List Log.Record
  | some name => [⟨.info, "chomsky", "loading grammar", [("path", String.ofList name)]⟩]
  | none => []

def runClassify (lines : List Text) (start : Char) : Outcome :=
  if lines.isEmpty then
    ⟨⟨Report.badInput, "", "No rules given. Write one rule per line, for example: S->aAB\n"⟩, []⟩
  else
    let result := classify start lines
    let out := "=== Rule by rule ===\n\n" ++ result.trace.shown ++ "\n=== Result ===\n" ++
      s!"Grammar is {result.grammarType.shown}\n{result.grammarType.explanation}\n"
    ⟨⟨0, out, ""⟩, Classification.records start lines⟩

def runDerive (g : Grammar) (target : Text) (limits : Limits) : Outcome :=
  let progress := Search.run g limits g.start target
  let verdict := if progress.accepted then "is in the language"
    else if progress.pruned then "was not derived within the search limits"
    else "is not in the language"
  let shown := String.ofList (Form.shown target)
  let out := progress.trace.shown ++ s!"\n`{shown}` {verdict}\n"
  ⟨⟨if progress.accepted then 0 else Report.rejected, out, ""⟩,
    Search.records limits target progress⟩

/-- Sentences go to the output and failures to the error output; one failure decides the exit
code. -/
def runSample (g : Grammar) (amount maxDepth : Nat) (source : RandomSource) : Outcome :=
  let results := (g.sampleMany maxDepth amount source).1.map Prod.fst
  let sentences := results.filterMap fun
    | .ok sentence => some (String.ofList (Form.shown sentence))
    | .error _ => none
  let failures := results.filterMap fun
    | .ok _ => none
    | .error error => some error.message
  ⟨⟨if failures.isEmpty then 0 else Report.badInput,
    (Trace.mk sentences).shown, (Trace.mk failures).shown⟩, []⟩

def Command.outcome (command : Command) (contents : Except FileFault Bytes)
    (source : RandomSource) : Outcome :=
  match command with
  | .classify _ start =>
    match Listing.load command.input.name contents with
    | .error diagnostics => .ofDiagnostics diagnostics
    | .ok lines => runClassify lines start
  | .derive target file start limits =>
    let outcome : Outcome := match loadGrammar file start contents with
      | .error diagnostics => .ofDiagnostics diagnostics
      | .ok g => runDerive g target limits
    { outcome with records := loadRecords file ++ outcome.records }
  | .sample file start amount seed maxDepth =>
    let outcome : Outcome := match loadGrammar file start contents with
      | .error diagnostics => .ofDiagnostics diagnostics
      | .ok g => runSample g amount maxDepth ((seed.map RandomSource.ofSeed).getD source)
    { outcome with records := loadRecords file ++ outcome.records }

def Invocation.run (invocation : Invocation) (contents : Except FileFault Bytes)
    (source : RandomSource) (logging : Bool) : Report :=
  let outcome := invocation.command.outcome contents source
  let log := if logging then Log.shown invocation.verbosity outcome.records else ""
  { outcome.report with err := log ++ outcome.report.err }

end Sentential.Cli
