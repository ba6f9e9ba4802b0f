import LocalRepair.CommandLine.Program

/-!
# The executable

Reads the policy file that the command line names, if there is one, runs the program and prints
its outcome.
-/

namespace LocalRepair.CommandLine

def policyFile? (arguments : List String) : Option String :=
  match parse arguments with
  | .run invocation =>
    match invocation.source with
    | .policy file _ => file
    | _ => none
  | _ => none

/-- The failure of a read, by the number of the system, which some operations negate. -/
def fileError (failure : IO.Error) : FileError :=
  let known := fun (code : UInt32) => FileError.ofCode code.toInt32.toInt.natAbs failure.toString
  match failure with
  | .noFileOrDirectory _ code _ => known code
  | .inappropriateType _ code _ => known code
  | .invalidArgument _ code _ => known code
  | _ => .other failure.toString

def readPolicyFile (path : String) : IO (Except FileError String) := do
  try
    pure (Registry.textOf (← IO.FS.readBinFile path))
  catch failure =>
    pure (.error (fileError failure))

end LocalRepair.CommandLine

open LocalRepair.CommandLine in
def main (arguments : List String) : IO UInt32 := do
  let content ← match policyFile? arguments with
    | some path => readPolicyFile path
    | none => pure (.error .missing)
  let outcome := run (fun _ => content) arguments
  IO.print outcome.output
  IO.eprint outcome.report
  pure outcome.code.toUInt32
