import FeatureFlags.Command.Run

/-!
# Main — the command line

Reads the environment and the files that the arguments may name, carries the command line out, and
prints what it printed.
-/

namespace FeatureFlags

namespace Main

/-- The settings that the environment may hold. -/
def settingNames : List String :=
  ["APP_NAME", "APP_VERSION", "DEBUG", "LOG_LEVEL", "CACHE_ENABLED", "CACHE_PATH", "PLATFORM_LEVEL",
    "HOST_VERSION", "STREAM_POLL_INTERVAL"]

/-- The environment, as far as it holds settings. -/
def environment : IO (List (Text × Text)) := do
  let given ← settingNames.filterMapM fun name => do
    return (← IO.getEnv name).map fun value => (Text.ofString name, Text.ofString value)
  return given

/-- What stands at a path. -/
def entry? (path : Path) : IO (Option Entry) := do
  match path.toText.string? with
  | none => return none
  | some name =>
    try
      let content ← IO.FS.readBinFile name
      return some (.file content.toList)
    catch
      | .noFileOrDirectory .. => return none
      | _ => return some .directory

/-- The paths that lead to a path, itself included. -/
def leading (path : Path) : List Path :=
  (List.range path.names.length).map fun n => ⟨path.root, path.names.take (n + 1)⟩

/-- The files to which texts may lead. -/
def files (texts : List Text) : IO FileTree := do
  let paths := (texts.map Path.ofText).flatMap leading
  let found ← paths.filterMapM fun path => do
    let root : PathRoot := if path.root = .relative then .relative else .absolute
    return (← entry? path).map fun e => ((⟨root, path.names⟩ : Path), e)
  return found

/-- What ended a command before its end. -/
def breakdownText : Breakdown → Text
  | .failure (.overlong o) => o.message
  | .failure _ => "Error: invalid settings"
  | .nullInPath => Breakdown.nullInPathMessage
  | .pathTooLong f => f.message
  | .tooDeep n => n.message
  | .unlabelled l => l.message
  | .unencodable u => u.message

/-- What is printed besides the output of a command. -/
def complaint? : Ending → Option Text
  | .usage => some "Error: the command line is not in order\n"
  | .breakdown b => some (breakdownText b ++ "\n")
  | ending => ending.complaint?

end Main

end FeatureFlags

open FeatureFlags in
/-- Carries the command line out. -/
def main (arguments : List String) : IO UInt32 := do
  let environment ← Main.environment
  let texts := arguments.map Text.ofString
  let cachePath := (environment.lookup (Text.ofString "CACHE_PATH")).getD "flag_cache.json"
  let outcome := CommandLine.run environment (← Main.files (cachePath :: texts)) texts
  IO.print (String.ofList outcome.output)
  match (Main.complaint? outcome.ending).bind Text.string? with
  | none => pure ()
  | some message => IO.eprint message
  return outcome.ending.exitCode.toUInt32
