import AgentConvert.CommandLine.Plan

/-!
# Runs on files

A run as a function: from files, the environment and the arguments to what stands on both channels,
the files afterwards and the exit code. A run reads and writes whatever `FileSystem` there is; one
of them is a tree of directories (`FileTree`).
-/

namespace AgentConvert.CommandLine

/-! ## Files -/

/-- Files that are read and written at paths. A fault says why this cannot be done. -/
class FileSystem (σ : Type) where
  /-- The content of the file at a path. -/
  read (files : σ) (path : String) : Except String ByteArray
  /-- Puts a file at a path, in place of one that is there. -/
  write (files : σ) (path : String) (content : ByteArray) : Except String σ

/-- Why a path leads to no file. -/
inductive FileFault where
  | notFound
  | notADirectory
  | isADirectory
  deriving DecidableEq

def FileFault.message : FileFault → String
  | notFound => "No such file or directory (os error 2)"
  | notADirectory => "Not a directory (os error 20)"
  | isADirectory => "Is a directory (os error 21)"

/-- Directories and files, each with the names that lead to it from the root on. -/
structure FileTree where
  directories : List (List String)
  files : List (List String × ByteArray)
  /-- The directory from which on a path leads that does not start at the root. -/
  current : List String

namespace FileTree

/-- The file with these names. -/
def file? (t : FileTree) (names : List String) : Option ByteArray :=
  (t.files.find? (·.1 == names)).map Prod.snd

/-- Whether a directory has these names; the root has none. -/
def isDirectory (t : FileTree) (names : List String) : Bool :=
  names.isEmpty || t.directories.contains names

/-- Where a part of a path leads from a directory. -/
def step (names : List String) (part : String) : List String :=
  if part == "" || part == "." then names
  else if part == ".." then names.dropLast
  else names ++ [part]

/-- Where parts of a path lead; all but the last lead to directories. -/
def walk (t : FileTree) (names : List String) : List String → Except FileFault (List String)
  | [] => .ok names
  | part :: rest =>
    if t.isDirectory names then t.walk (step names part) rest
    else .error (if (t.file? names).isSome then .notADirectory else .notFound)

/-- The names that a path leads to. They are those of no directory, so a file has them or can be
given them. -/
def resolve (t : FileTree) (path : String) : Except FileFault (List String) :=
  let start := if path.startsWith "/" then [] else t.current
  if path == "" then .error .notFound
  else match t.walk start ((path.toList.splitOn '/').map String.ofList) with
    | .error fault => .error fault
    | .ok names => if t.isDirectory names then .error .isADirectory else .ok names

/-- The tree with a file in it, in place of one with its names. -/
def put (t : FileTree) (names : List String) (content : ByteArray) : FileTree :=
  { t with files := (names, content) :: t.files.filter (·.1 != names) }

instance : FileSystem FileTree where
  read t path := match t.resolve path with
    | .error fault => .error fault.message
    | .ok names => match t.file? names with
      | some content => .ok content
      | none => .error FileFault.notFound.message
  write t path content := match t.resolve path with
    | .error fault => .error fault.message
    | .ok names => .ok (t.put names content)

end FileTree

/-! ## Runs -/

/-- What a run leaves behind. -/
structure Outcome (σ : Type) where
  output : ByteArray
  errors : String
  files : σ
  exitCode : Nat

variable {σ : Type} [FileSystem σ]

namespace Plan

/-- Carries out actions; a file that cannot be written ends the run with exit code 1. -/
def perform (exitCode : Nat) (output : ByteArray) (errors : String) (files : σ) :
    List Action → Outcome σ
  | [] => ⟨output, errors, files, exitCode⟩
  | .say text :: rest => perform exitCode output (errors ++ text) files rest
  | .print document :: rest => perform exitCode (output ++ document) errors files rest
  | .write path content complaint :: rest =>
    match FileSystem.write files path content with
    | .ok files => perform exitCode output errors files rest
    | .error reason =>
      ⟨output, errors ++ "error: " ++ complaint ++ ": " ++ reason ++ "\n", files, 1⟩

/-- The outcome of a plan. -/
def outcome (files : σ) (p : Plan) : Outcome σ :=
  perform p.exitCode ByteArray.empty "" files p.actions

end Plan

/-- The plan of a run. -/
def plan (files : σ) (lookup : String → Option String) (arguments : List String) : Plan :=
  match Request.ofArguments arguments with
  | .error fault => .ofUsageFault fault
  | .ok .version => .version
  | .ok .help => .help
  | .ok (.convert o) =>
    match FileSystem.read files o.file with
    | .error reason => .unreadable o reason
    | .ok bytes => .ofBytes lookup o bytes

/-- The outcome of a run. -/
def run (files : σ) (lookup : String → Option String) (arguments : List String) : Outcome σ :=
  (plan files lookup arguments).outcome files

end AgentConvert.CommandLine
