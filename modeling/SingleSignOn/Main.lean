import SingleSignOn.Settings.Usage

namespace SingleSignOn

/-!
# The command line

Reads the settings of a run from its arguments and its environment, and says
whether a service can be built with them.  Connections are somebody else's:
a server that has one hands each request to `Api.answerPublic` or
`Api.answerManagement`.
-/

/-- The variables of the environment that options ask for, as far as they are set. -/
def givenVariables : IO (List (String × String)) := do
  let values ← Settings.options.mapM fun setting => do
    let value ← IO.getEnv setting.environmentName
    return value.map fun text => (setting.environmentName, text)
  return values.filterMap id

end SingleSignOn

open SingleSignOn

/-- Checks the settings of a run. -/
def main (arguments : List String) : IO UInt32 := do
  let environment ← givenVariables
  match Settings.read arguments fun name => environment.lookup name with
  | .ok settings =>
    match Service.build .standard settings.auth settings.cost with
    | .ok _ =>
      IO.println "The settings are complete."
      return 0
    | .error cause =>
      IO.eprintln cause.message
      return 1
  | .error fault =>
    let (text, status) := Settings.conclusion fault
    if status = 0 then IO.println text else IO.eprintln text
    return status
