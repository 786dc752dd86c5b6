import MeshControl.CommandLine.Run

/-!
# The program

Reads the files that the arguments may name and the variables that a run may ask for, runs the command
line and prints its outcome. There is no connection to a cluster, and the reader of YAML says no more about
a text than that it does not hold what is wanted.
-/

open MeshControl

/-- The content of a file, or the reason why it cannot be read. -/
def readContent (path : String) : IO (Except String String) := do
  try
    let bytes ← IO.FS.readBinFile path
    return match String.fromUTF8? bytes with
      | some content => .ok content
      | none => .error "stream did not contain valid UTF-8"
  catch error =>
    return .error (toString error)

/-- Runs the command line on the arguments of the process. -/
def main (arguments : List String) : IO UInt32 := do
  let patchFile ← IO.getEnv CommandLine.patchFileVariable
  let ignored ← IO.getEnv CommandLine.ignoredVariable
  let attached := arguments.filterMap fun argument =>
    match CommandLine.optionOf? .translate argument with
    | some (_, value) => value
    | none => none
  let contents ← (arguments ++ attached ++ patchFile.toList).mapM fun path => return (path, ← readContent path)
  let world : CommandLine.World :=
    { files :=
        { read := fun path => (contents.lookup path).getD (.error "not read")
          complaint := fun _ => "not a list of objects" }
      environment := fun name =>
        if name = CommandLine.patchFileVariable then patchFile
        else if name = CommandLine.ignoredVariable then ignored
        else none
      client := .error "no kube context"
      configComplaint := fun _ => "not a configuration" }
  let outcome := CommandLine.run world arguments
  match outcome.printed with
  | .text content => IO.print content
  | .json value => IO.println value.pretty
  return outcome.code.toUInt32
