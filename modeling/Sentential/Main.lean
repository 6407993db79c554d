import Sentential.Cli.Run

namespace Sentential

/-- What a failure of the system means for the reader of a file. A path through a file fails when it
is opened, with its name; a directory opens and fails when it is read, without one. -/
def FileFault.ofError (error : IO.Error) : FileFault :=
  match error with
  | .noFileOrDirectory .. => .notFound
  | .inappropriateType (some _) .. => .notADirectory
  | .inappropriateType none .. => .isADirectory
  | .invalidArgument .. => .nameTooLong
  | .permissionDenied .. => ⟨.permissionDenied, "Permission denied (os error 13)"⟩
  | error => ⟨.other, toString error⟩

def Cli.Input.contents (input : Cli.Input) : IO (Except FileFault Bytes) := do
  try
    match input with
    | .file name =>
      if let some fault := FileFault.ofName? name then return .error fault
      return .ok (← IO.FS.readBinFile (String.ofList name)).toList
    | .standardInput => return .ok (← (← IO.getStdin).readBinToEnd).toList
    | .nothing => return .ok []
  catch error => return .error (.ofError error)

def Cli.Report.print (report : Cli.Report) : IO UInt32 := do
  IO.print report.out
  IO.eprint report.err
  return report.exit.toUInt32

def RandomSource.fresh : IO RandomSource := do
  let bytes ← IO.getRandomBytes 8
  return .ofSeed (bytes.toList.foldl (fun seed byte => seed <<< 8 ||| byte.toUInt64) 0)

end Sentential

open Sentential

def main (args : List String) : IO UInt32 := do
  match Cli.parse (args.map String.toList) with
  | .error halt => halt.report.print
  | .ok invocation =>
    let contents ← invocation.command.input.contents
    (invocation.run contents (← RandomSource.fresh) true).print
