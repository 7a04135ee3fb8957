import FeatureFlags.Command.Run
import FeatureFlags.Proofs.Text.Natural

/-!
# Proofs/Command/Arguments — the command line that checks a file

A file is checked for a level and a version, for one of them or for neither (`checkLine`), and this
is what is read off the command line, whatever the version is: it is taken from the argument behind
its option even if it looks like an option itself (`parse_checkLine`).  A level of too many digits
is not in order (`parse_checkLine_of_not_short`).
-/

namespace FeatureFlags

namespace Arguments

variable {names rest : List Text} {operandsEnd : Bool} {name value operand : Text}

/-- An operand, and the rest, where operands do not end the options. -/
theorem scan_operand (h : isOption operand = false) :
    scan names false (operand :: rest) = (scan names false rest).map (withOperand operand) := by
  have hhyphens : operand ≠ "--" := by
    rintro rfl
    cases h
  rw [scan.eq_def]
  dsimp only
  rw [if_neg hhyphens, h, if_neg Bool.false_ne_true, if_neg Bool.false_ne_true]

/-- **An option that takes a value**, as it is written. -/
structure TakesValue (names : List Text) (name : Text) : Prop where
  mem : names.contains name
  isOption : isOption name
  ne_hyphens : name ≠ "--"
  ne_help : name ≠ "--help"
  noEquals : name.cut? (.scalar '=') = none

/-- An option and its value, whatever this looks like, and the rest. -/
theorem scan_value (h : TakesValue names name) :
    scan names operandsEnd (name :: value :: rest)
      = (scan names operandsEnd rest).map (withValue name value) := by
  rw [scan.eq_def]
  dsimp only
  rw [if_neg h.ne_hyphens, if_pos h.isOption, h.noEquals]
  dsimp only
  rw [if_neg h.ne_help, if_pos h.mem]

/-- An option with its value, if there is one. -/
def given (name : Text) (value : Option Text) : List Text := (value.map ([name, ·])).getD []

/-- **An option that may be given**, and the rest. -/
theorem scan_given (h : TakesValue names name) (value : Option Text) :
    scan names operandsEnd (given name value ++ rest) = (scan names operandsEnd rest).map
      fun a => { a with values := (value.map (name, ·)).toList ++ a.values } := by
  cases value with
  | none => exact (Option.map_id_apply ..).symm
  | some t => exact scan_value h

end Arguments

namespace Command

open Arguments

variable {files : FileTree} {file : Text} {path : Path} {level : Option Nat} {version : Option Text}

/-- The options that ask for a level and a version. -/
def checkOptions (level : Option Nat) (version : Option Text) : List Text :=
  given "--level" (level.map Text.ofNat) ++ given "--version" version

/-- **The command line that checks a file** for a level and a version, if they are given. -/
def checkLine (file : Text) (level : Option Nat) (version : Option Text) : List Text :=
  "check" :: file :: checkOptions level version

/-- What the options and the operand come to. -/
def checkArguments (file : Text) (level : Option Nat) (version : Option Text) : Arguments :=
  ⟨((level.map Text.ofNat).map (("--level" : Text), ·)).toList
    ++ (version.map (("--version" : Text), ·)).toList, false, [file]⟩

theorem scan_checkLine (hfile : isOption file = false) :
    scan (options .check) false (file :: checkOptions level version)
      = some (checkArguments file level version) := by
  have hlevel : TakesValue (options .check) "--level" :=
    ⟨by decide, by decide, by decide, by decide, by decide⟩
  have hversion : TakesValue (options .check) "--version" :=
    ⟨by decide, by decide, by decide, by decide, by decide⟩
  have hend : scan (options .check) false [] = some ⟨[], false, []⟩ := rfl
  rw [scan_operand hfile, checkOptions, scan_given hlevel,
    ← List.append_nil (given "--version" version), scan_given hversion, hend]
  cases level <;> cases version <;> rfl

/-- A level is read before the file is looked for. -/
theorem parse_check (hfile : isOption file = false) :
    parse files .check (file :: checkOptions level version) = do
      let n ← optional integer (level.map Text.ofNat)
      let path ← Command.file files file
      return Command.check path n version := by
  have hvalues : (checkArguments file level version).value? "--level" = level.map Text.ofNat ∧
      (checkArguments file level version).value? "--version" = version := by
    cases level <;> cases version <;> exact ⟨rfl, rfl⟩
  rw [parse, scan_checkLine hfile]
  change (do
    let n ← optional integer ((checkArguments file level version).value? "--level")
    let path ← Command.file files file
    noMore []
    return Command.check path n ((checkArguments file level version).value? "--version")) = _
  rw [hvalues.1, hvalues.2]
  rfl

/-- **What is read off the command line.** -/
theorem parse_checkLine (hfile : isOption file = false) (hpath : Command.file files file = .ok path)
    (hlevel : ∀ n ∈ level, Numeral.Short n) :
    parse files .check (file :: checkOptions level version)
      = .ok (.check path (level.map Int.ofNat) version) := by
  have hread : optional integer (level.map Text.ofNat) = .ok (level.map Int.ofNat) := by
    cases level with
    | none => rfl
    | some n =>
      rw [Option.map, optional, integer, generous?_ofNat (hlevel n rfl)]
      rfl
  rw [parse_check hfile, hread, hpath]
  rfl

/-- A level of too many digits is not in order. -/
theorem parse_checkLine_of_not_short {n : Nat} (hfile : isOption file = false)
    (hn : ¬ Numeral.Short n) :
    parse files .check (file :: checkOptions (some n) version) = .error .usage := by
  obtain ⟨o, ho⟩ := generous?_ofNat_of_not_short hn
  rw [parse_check hfile, Option.map, optional, integer, ho]
  rfl

end Command

namespace CommandLine

open Command

variable {environment : List (Text × Text)} {settings : Settings} {files : FileTree}
variable {file : Text} {level : Option Nat} {version : Option Text}

/-- **The command line that checks a file** does what the command read off it does. -/
theorem run_checkLine {command : Command} (hsettings : Settings.make environment [] = .ok settings)
    (h : Command.parse files .check (file :: checkOptions level version) = .ok command) :
    run environment files (checkLine file level version)
      = .ofConsole (command.run settings files) := by
  have hmade : (⟨none, .check, file :: checkOptions level version⟩ : CommandLine).settings
      environment = .ok settings := hsettings
  have hparse : parse (checkLine file level version)
      = .ok ⟨none, .check, file :: checkOptions level version⟩ := rfl
  simp only [run, hparse, hmade, h]

/-- Without a command nothing is printed. -/
theorem run_checkLine_of_error {e : NoCommand}
    (hsettings : Settings.make environment [] = .ok settings)
    (h : Command.parse files .check (file :: checkOptions level version) = .error e) :
    run environment files (checkLine file level version) = .ofNoCommand e := by
  have hmade : (⟨none, .check, file :: checkOptions level version⟩ : CommandLine).settings
      environment = .ok settings := hsettings
  have hparse : parse (checkLine file level version)
      = .ok ⟨none, .check, file :: checkOptions level version⟩ := rfl
  simp only [run, hparse, hmade, h]

end CommandLine

end FeatureFlags
