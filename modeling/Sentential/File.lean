import Sentential.Text.Basic

namespace Sentential

abbrev FileName := Text

namespace FileName

inductive Step where
  | root
  | here
  | up
  | down (name : Text)
  deriving Repr, DecidableEq

def segments (name : FileName) : List Text := pieces '/' name

def Step.ofSegment? (segment : Text) : Option Step :=
  if segment = [] ∨ segment = ['.'] then none
  else if segment = ['.', '.'] then some .up
  else some (.down segment)

def steps (name : FileName) : List Step :=
  let first : List Step :=
    if name.head? = some '/' then [.root]
    else if name.segments.head? = some ['.'] then [.here]
    else []
  first ++ name.segments.filterMap Step.ofSegment?

def size (name : FileName) : Nat := name.encode.length

def maxSize : Nat := 4095

def maxStepSize : Nat := 255

/-- Names of one path. Repeated and trailing slashes and inner `.` steps do not count, a leading `.`
does, and `..` is a step like any other. -/
def same (a b : FileName) : Bool := a.steps == b.steps

end FileName

inductive FileFault.Kind where
  | notFound
  | permissionDenied
  | isADirectory
  | notADirectory
  | invalidData
  | invalidInput
  | invalidFileName
  | other
  deriving Repr, DecidableEq

/-- Faults are told apart by their kind; the message is for the reader only. -/
structure FileFault where
  kind : FileFault.Kind
  message : String
  deriving Repr, DecidableEq

namespace FileFault

def notFound : FileFault := ⟨.notFound, "No such file or directory (os error 2)"⟩
def isADirectory : FileFault := ⟨.isADirectory, "Is a directory (os error 21)"⟩
def notADirectory : FileFault := ⟨.notADirectory, "Not a directory (os error 20)"⟩

def notText : FileFault := ⟨.invalidData, "stream did not contain valid UTF-8"⟩

def nameTooLong : FileFault := ⟨.invalidFileName, "File name too long (os error 36)"⟩
def nameWithNull : FileFault := ⟨.invalidInput, "file name contained an unexpected NUL byte"⟩

def ofName? (name : FileName) : Option FileFault :=
  if '\x00' ∈ name then some nameWithNull
  else if name.isEmpty then some notFound
  else if FileName.maxSize < name.size then some nameTooLong
  else none

def ofMissing (name : Text) : FileFault :=
  if FileName.maxStepSize < FileName.size name then nameTooLong else notFound

def same (a b : FileFault) : Bool := a.kind == b.kind

end FileFault

/-- What is below the working directory, each with the names that lead to it. Of two files at one
place the first counts. -/
structure Directory where
  subdirectories : List (List Text)
  files : List (List Text × Bytes)
  deriving Repr, DecidableEq

namespace Directory

def trail (path : List Text) : List FileName.Step → List (List Text)
  | [] => []
  | step :: rest =>
    let next := match step with
      | .down name => path ++ [name]
      | .up => path.dropLast
      | .root | .here => path
    next :: trail next rest

def insert (d : Directory) (name : FileName) (bytes : Bytes) : Directory :=
  let places := trail [] name.steps
  match places.getLast? with
  | none => d
  | some place => ⟨places.dropLast ++ d.subdirectories, (place, bytes) :: d.files⟩

def ofFiles (files : List (FileName × Bytes)) : Directory :=
  files.foldl (fun d (name, bytes) => d.insert name bytes) ⟨[], []⟩

/-- Where a walk from the working directory stands. Nothing is known about what lies outside, except
that the parents of the working directory are directories. -/
inductive Place where
  | file (bytes : Bytes)
  | inside (path : List Text)
  | outside

def enter (d : Directory) (path : List Text) (name : Text) : Except FileFault Place :=
  let target := path ++ [name]
  match d.files.find? fun entry => entry.1 == target with
  | some (_, bytes) => .ok (.file bytes)
  | none =>
    if d.subdirectories.contains target then .ok (.inside target) else .error (.ofMissing name)

/-- One step of a walk. Only a directory can be walked through, even by an empty step. -/
def step (d : Directory) (place : Place) (segment : Text) : Except FileFault Place :=
  match place, FileName.Step.ofSegment? segment with
  | .file _, _ => .error .notADirectory
  | place, none => .ok place
  | .inside path, some (.down name) => d.enter path name
  | .inside [], some _ => .ok .outside
  | .inside path, some _ => .ok (.inside path.dropLast)
  | .outside, some (.down name) => .error (.ofMissing name)
  | .outside, some _ => .ok .outside

def read (d : Directory) (name : FileName) : Except FileFault Bytes := do
  if let some fault := FileFault.ofName? name then throw fault
  let start : Place := if name.head? = some '/' then .outside else .inside []
  match ← name.segments.foldlM d.step start with
  | .file bytes => .ok bytes
  | _ => .error .isADirectory

end Directory

end Sentential
