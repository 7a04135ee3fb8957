import FeatureFlags.Command.Arguments
import FeatureFlags.Files.Tree
import FeatureFlags.Log
import FeatureFlags.Reading

/-!
# Command/Basic — the commands

A command line names a command behind the options that hold for all of them, and the command's own
options and operands behind it.  The level of the log may be given in either case.  Files have to be
there when the command line is read.
-/

namespace FeatureFlags

/-- The names of the commands. -/
inductive CommandName where
  | check
  | evalLevel
  | evalVersion
  | serve
deriving DecidableEq

namespace CommandName

/-- All names. -/
def all : List CommandName := [.check, .evalLevel, .evalVersion, .serve]

/-- A name as it is written. -/
def text : CommandName → Text
  | .check => "check"
  | .evalLevel => "eval-level"
  | .evalVersion => "eval-version"
  | .serve => "serve"

/-- **The command of a name.** -/
def ofText? (t : Text) : Option CommandName := all.find? (·.text = t)

end CommandName

/-- **A command.** -/
inductive Command where
  | check (file : Path) (level : Option Int) (version : Option Text)
  | evalLevel (rule : Text) (level : Int)
  | evalVersion (rule version : Text)
  | serve (host : Text) (port : Int) (definitions : Option Path)

/-- Why there is no command: help is asked for, the command line is not in order, or it names a file
by a text that no file can have. -/
inductive NoCommand where
  | help
  | usage
  | nullInPath
deriving DecidableEq

/-- **A command line**: the level of the log, if it is given, the command, and its arguments. -/
structure CommandLine where
  logLevel : Option Severity
  name : CommandName
  arguments : List Text

namespace CommandLine

/-- A level of the log, in either case. -/
def severity? (t : Text) : Option Severity :=
  Severity.all.find? fun s => Reading.asciiLower s.name = Reading.asciiLower t

/-- **Reading a command line.** -/
def parse (arguments : List Text) : Except NoCommand CommandLine :=
  match Arguments.scan ["--log-level"] true arguments with
  | none => .error .usage
  | some a =>
    if a.helps then .error .help
    else
      match (a.value? "--log-level").map severity?, a.operands with
      | some none, _ => .error .usage
      | _, [] => .error .usage
      | level, word :: rest =>
        match CommandName.ofText? word with
        | none => .error .usage
        | some name => .ok ⟨level.join, name, rest⟩

end CommandLine

namespace Command

/-- An integer among the arguments. -/
def integer (t : Text) : Except NoCommand Int :=
  match Numeral.generous? t with
  | some (.ok n) => .ok n
  | _ => .error .usage

/-- A file that is there. -/
def file (files : FileTree) (t : Text) : Except NoCommand Path :=
  if t.contains (.scalar '\x00') then .error .nullInPath
  else match files.search t with
    | .ok (some (.file _)) => .ok (.ofText t)
    | _ => .error .usage

/-- A value that may be missing. -/
def optional {α : Type} (read : Text → Except NoCommand α) :
    Option Text → Except NoCommand (Option α)
  | none => .ok none
  | some t => (read t).map some

/-- The options of a command that take a value. -/
def options : CommandName → List Text
  | .check => ["--level", "--version"]
  | .evalLevel => []
  | .evalVersion => []
  | .serve => ["--host", "--port", "--definitions"]

/-- There are no more operands. -/
def noMore : List Text → Except NoCommand Unit
  | [] => .ok ()
  | _ => .error .usage

/-- A port and a file with flags, each read where its option first stands. -/
def portAndDefinitions (files : FileTree) (a : Arguments) :
    Except NoCommand (Option Int × Option Path) := do
  let port := optional integer (a.value? "--port")
  let definitions := optional (file files) (a.value? "--definitions")
  if a.precedes "--definitions" "--port" then
    let path ← definitions
    return (← port, path)
  else
    let n ← port
    return (n, ← definitions)

/-- A command from its arguments told apart: the values of options are read before operands, and too
many operands are noticed last. -/
def ofArguments (files : FileTree) (name : CommandName) (a : Arguments) :
    Except NoCommand Command :=
  match name, a.operands with
  | .check, t :: extra => do
    let level ← optional integer (a.value? "--level")
    let path ← file files t
    noMore extra
    return .check path level (a.value? "--version")
  | .evalLevel, [rule, level] => do return .evalLevel rule (← integer level)
  | .evalVersion, [rule, version] => .ok (.evalVersion rule version)
  | .serve, extra => do
    let (port, definitions) ← portAndDefinitions files a
    noMore extra
    return .serve ((a.value? "--host").getD "127.0.0.1") (port.getD 8000) definitions
  | _, _ => .error .usage

/-- **Reading a command from its arguments.** -/
def parse (files : FileTree) (name : CommandName) (arguments : List Text) :
    Except NoCommand Command :=
  match Arguments.scan (options name) false arguments with
  | none => .error .usage
  | some a => if a.helps then .error .help else ofArguments files name a

end Command

end FeatureFlags
