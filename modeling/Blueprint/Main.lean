import Blueprint.CommandLine.Response

/-
  The command line: reads the files that a request names,
  prints the response and ends with its exit code.

  Main definition:
    * `main`
-/

------------------------------------------------------------
-- Reading and Printing
------------------------------------------------------------

namespace Blueprint

/- The fault that an attempt to read has ended with. -/
def ReadFault.ofError : IO.Error → ReadFault
| .noFileOrDirectory _ _ _ => .missing
| .permissionDenied _ _ _ => .denied
| .inappropriateType _ _ _ => .folder
| error => .other (toString error)

/- Read the file at a path. -/
def readPath (path : String) : IO (String × Reading) := do
  try
    let bytes ← IO.FS.readBinFile path
    return (path, .ofBytes bytes)
  catch error =>
    return (path, .error (.ofError error))

/- The paths that arguments ask to read. -/
def pathsToRead (arguments : List String) : List String :=
  match Request.ofArguments arguments with
  | .ok (.run i) => i.paths
  | _ => []

end Blueprint

/- Answer a command line. -/
def main (arguments : List String) : IO UInt32 := do
  let readings ←
    (Blueprint.pathsToRead arguments).mapM Blueprint.readPath
  let read := fun path =>
    (readings.lookup path).getD (.error .missing)
  let response := (Blueprint.answer read arguments).response
  IO.print response.output
  IO.eprint response.errorOutput
  return response.exitCode
