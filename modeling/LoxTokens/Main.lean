import LoxTokens.Command.Run

/-!
# The command

The outermost layer of `loxscan`: it gathers what the arguments name, the environment and the
standard input, has `Request.outcome` decide, and writes what that says.  Nothing is decided here.
Whatever is proved of calls is proved of `Request.ofArguments` and `Request.outcome`, which take all
of this as arguments.

The standard input is read only if it is asked for, and before anything is written.
-/

set_option autoImplicit false

namespace LoxTokens

/-- What a path names.  A directory can be opened but not read, and a fault met in reading, unlike
one met in opening, comes without the name of the file. -/
def nodeOnDisk (path : String) : IO (Option Node) := do
  match ← (IO.FS.readBinFile path).toBaseIO with
  | .ok bytes => return some (.file bytes.toList)
  | .error (.inappropriateType none _ _) => return some .directory
  | .error _ => return none

/-- The bytes of the standard input, if the request needs them. -/
def inputFor : Request → IO (List UInt8)
  | .dump _ .standardInput => return (← (← IO.getStdin).readBinToEnd).toList
  | _ => return []

/-- The variables of the environment that matter, and their values. -/
def knownVariables : IO (List (Text × Text)) := do
  let names := [Options.blockCommentsVariable, Options.exponentOperatorVariable]
  names.filterMapM fun name ↦ do
    return (← IO.getEnv (String.ofList name)).map fun value ↦ (name, value.toList)

end LoxTokens

open LoxTokens in
/-- Answers a call with the given arguments. -/
def main (args : List String) : IO UInt32 := do
  let nodes ← args.mapM fun path ↦ do return (path.toList, ← nodeOnDisk path)
  let request := Request.ofArguments (fun path ↦ (nodes.lookup path).join) (args.map String.toList)
  let settings ← knownVariables
  let outcome := request.outcome (fun name ↦ settings.lookup name) (← inputFor request)
  IO.print (String.ofList outcome.output)
  IO.eprint (String.ofList outcome.error)
  return outcome.exit.code.toUInt32
