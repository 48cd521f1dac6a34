import SingleSignOn.Settings.Basic

namespace SingleSignOn.Settings

/-!
# What a run says about itself

The list of options for who asks for help, and one line for a command line
that cannot be accepted.
-/

open CommandLine (Setting Value Fault)

/-- A value as an operator would write it. -/
def shown : Value -> String
  | .text value => value
  | .number value => String.ofList (Decimal.textOfInt value)

/-- One line about an option: its name, what it is for, and what stands in for it. -/
def optionLine (setting : Setting) : String :=
  let default := match setting.fallback with
    | some value => ", by default " ++ shown value
    | none => if setting.mayBeAbsent then "" else ", required"
  "  --" ++ setting.name ++ "  " ++ setting.purpose ++ " (" ++ setting.environmentName ++ default ++ ")"

/-- The list of all options. -/
def usage : String :=
  String.intercalate "\n" ("Usage: tenant-sso [OPTIONS]" :: options.map optionLine)

/-- What is told about a command line that does not lead to a run, and the
status with which the program ends.  Who asked for something gets it; only a
fault is an error. -/
def conclusion : Fault -> String × UInt32
  | .displayHelp => (usage, 0)
  | .displayVersion => (version, 0)
  | fault => ("error: " ++ fault.name, 2)

end SingleSignOn.Settings
