import FeatureFlags.Command.Basic
import FeatureFlags.Command.Output
import FeatureFlags.Panel.Respond
import FeatureFlags.Rule.Level
import FeatureFlags.Rule.Version
import FeatureFlags.Switchboard.Start

/-!
# Command/Run — what the commands print

The commands show the flags of a file and whether the host may use them, evaluate one rule, or say
what would be served.  A command line that is not in order is noticed in a fixed sequence: the
options before the command, its name, the settings, and then its own arguments.
-/

namespace FeatureFlags

/-- What would be served: an address, a title and the flags. -/
structure Service where
  host : Text
  port : Int
  title : Text
  flags : List Flag

/-- **How a command line ends.** -/
inductive Ending where
  | success (service : Option Service)
  | usage
  | report (message : Text)
  | breakdown (b : Breakdown)

/-- The exit code of an ending. -/
def Ending.exitCode : Ending → Nat
  | .success _ => 0
  | .usage => 2
  | .report _ => 1
  | .breakdown _ => 1

/-- What is reported besides what was printed. -/
def Ending.complaint? : Ending → Option Text
  | .report message => some (Console.plain ("Error: " ++ message ++ "\n"))
  | _ => none

/-- What was printed, and how it ended. -/
structure Outcome where
  output : List Char
  ending : Ending

namespace Command

open Console

/-- The answer to a question about a switchboard. -/
def ask {α : Type} (s : Switchboard) (action : Action α) : Console α :=
  match (action.run s).1 with
  | .ok a => return a
  | .error f => throw (.breakdown (.failure f))

/-- **A switchboard with the flags of a file**, or none; nothing else is loaded. -/
def seeded (files : FileTree) : Option Path → Console Switchboard
  | none => return .ofRoster []
  | some path =>
    match (Loading.load files path).result with
    | .ok flags => return .ofRoster flags
    | .error (.unloadable path reason) =>
      throw (.report (Fault.unloadable path.toText reason.message).message)
    | .error (.overlong o) => throw (.breakdown (.failure (.overlong o)))
    | .error (.tooDeep n) => throw (.breakdown (.tooDeep n))
    | .error (.unreachable f) => throw (.breakdown (.pathTooLong f))

/-- A truth value that may be missing. -/
def yesNo : Option Bool → Text
  | none => "-"
  | some true => "yes"
  | some false => "no"

/-- Rules; where there are none, everything is allowed. -/
def rules (rs : List Text) : Text := if rs.isEmpty then "any" else Text.quotedList rs

/-- **A flag and its eligibility.** -/
def showFlag (f : Flag) (e : Switchboard.Eligibility) : Console Unit := do
  line ((if f.enabled then "✓ " else "○ ") ++ f.name)
  line ("    enabled:   " ++ yesNo (some f.enabled))
  line ("    levels:    " ++ rules f.condition.levels)
  line ("    versions:  " ++ rules f.condition.versions)
  line ("    supported: level=" ++ yesNo e.level ++ " version=" ++ yesNo e.version)

/-- A value that may be missing, among others on a line. -/
def orNone : Option Text → Text
  | none => "None"
  | some t => t

/-- **The flags of a file**, for a level and a version; an empty version is none. -/
def runCheck (settings : Settings) (files : FileTree) (file : Path) (level : Option Int)
    (version : Option Text) : Console Unit := do
  let s ← seeded files (some file)
  let level := level <|> Panel.hostLevel settings
  let version := version.filter (!·.isEmpty) <|> settings.hostVersion
  if s.roster.isEmpty then line "No features available"
  else
    line ("\nFeatures (" ++ Text.ofNat s.roster.length ++ "), level="
      ++ orNone (level.map Text.ofInt) ++ ", version=" ++ orNone version)
    line (List.replicate 70 (.scalar '-'))
    s.roster.forM fun f => do
      let e ← ask s (Switchboard.eligibility f.name level version)
      showFlag f e
    line ("\n" ++ Text.ofNat s.roster.enabled.length ++ " enabled, "
      ++ Text.ofNat s.roster.disabled.length ++ " disabled")

/-- The answer of a rule. -/
def answer (v : Verdict) : Console Unit :=
  match v.answer with
  | .ok b => line (if b then "true" else "false")
  | .error o => throw (.breakdown (.failure (.overlong o)))

/-- **What would be served**, with the flags of a file or those the settings name.  It is announced
before it turns out that there is no panel without a label. -/
def runServe (settings : Settings) (files : FileTree) (host : Text) (port : Int)
    (definitions : Option Path) : Console Service := do
  let s ← match definitions with
    | some path => seeded files (some path)
    | none => pure (Switchboard.start settings (.file files) []).switchboard
  line ("Serving " ++ settings.appName ++ " on http://" ++ host ++ ":" ++ Text.ofInt port)
  match Panel.Label.missing? settings with
  | some label => throw (.breakdown (.unlabelled label))
  | none => pure ()
  return ⟨host, port, settings.appName, s.roster⟩

/-- **Carrying out a command.** -/
def run (settings : Settings) (files : FileTree) : Command → Console (Option Service)
  | .check file level version => do
    runCheck settings files file level version
    return none
  | .evalLevel rule level => do
    answer (LevelRule.evaluate rule level)
    return none
  | .evalVersion rule version => do
    answer (VersionRule.evaluate rule version)
    return none
  | .serve host port definitions => do return some (← runServe settings files host port definitions)

end Command

namespace Outcome

/-- Nothing printed. -/
def silent (ending : Ending) : Outcome := ⟨[], ending⟩

/-- What comes of a command line without a command. -/
def ofNoCommand : NoCommand → Outcome
  | .help => silent (.success none)
  | .usage => silent .usage
  | .nullInPath => silent (.breakdown .nullInPath)

/-- What comes of printing. -/
def ofConsole (console : Console (Option Service)) : Outcome :=
  match console.run [] with
  | (.ok service, output) => ⟨output, .success service⟩
  | (.error (.report message), output) => ⟨output, .report message⟩
  | (.error (.breakdown b), output) => ⟨output, .breakdown b⟩

end Outcome

namespace CommandLine

/-- The settings of a command line. -/
def settings (l : CommandLine) (environment : List (Text × Text)) : Checked Settings :=
  Settings.make environment <| match l.logLevel with
    | some s => [("log_level", .str s.name)]
    | none => []

/-- **Carrying out a command line.** -/
def run (environment : List (Text × Text)) (files : FileTree) (arguments : List Text) : Outcome :=
  match parse arguments with
  | .error e => .ofNoCommand e
  | .ok l =>
    match l.settings environment with
    | .error issues => .silent (.breakdown (.failure (.invalid issues)))
    | .ok settings =>
      match Command.parse files l.name l.arguments with
      | .error e => .ofNoCommand e
      | .ok command => .ofConsole (command.run settings files)

end CommandLine

end FeatureFlags
