/-
  DomainScope.Main
  ────────────────
  **THE COMMAND LINE PROGRAM.**

  Reads the arguments and the file that they name, carries out the command, and
  writes the report.  All decisions are taken by the library.
-/
import DomainScope.CommandLine.Arguments
import DomainScope.CommandLine.Run
import DomainScope.Resolver.SpecialUse
import DomainScope.Wildcard.RandomLabel

namespace DomainScope

/-- What the operating system says of a file that is out of reach. -/
def fileFaultText : IO.Error → String
  | .noFileOrDirectory _ code _ => s!"No such file or directory (os error {code})"
  | .inappropriateType _ code _ => s!"Is a directory (os error {code})"
  | .permissionDenied _ code _ => s!"Permission denied (os error {code})"
  | e => e.toString

/-- The bytes of a file, or why it is out of reach. -/
def readFileBytes (path : Text) : IO (Except Text (List UInt8)) := do
  try
    return .ok (← IO.FS.readBinFile (String.ofList path)).toList
  catch e => return .error (fileFaultText e).toList

/-- The bytes of the list file that the settings name, if they name one. -/
def readListFile : SuffixSource → IO (Except Text (List UInt8))
  | .file path => readFileBytes path
  | _ => return .ok []

/-- Writes a report; the exit status is 0 if all went well, and 1 otherwise. -/
def writeReport (r : Report) : IO UInt32 := do
  (← IO.getStdout).putStr (String.ofList r.out)
  (← IO.getStderr).putStr (String.ofList r.err)
  return if r.allWell then 0 else 1

/-- Writes an outcome and gives the exit status. -/
def writeOutcome : Outcome → IO UInt32
  | .ok (.ok r) => writeReport r
  | .ok (.error failure) => do
    IO.eprintln ("domain_probe error: " ++ String.ofList failure.message)
    return 1
  | .error _ => do
    IO.eprintln "domain_probe error: a record cannot be printed"
    return 101

end DomainScope

open DomainScope in
/-- Carries out the command line. -/
def main (arguments : List String) : IO UInt32 := do
  match readCommandLine (arguments.map String.toList) with
  | .error e =>
    if e.isRequest then IO.println e.text else IO.eprintln ("error: " ++ e.text)
    return e.exitStatus.toUInt32
  | .ok (settings, command) =>
    let contents ← readListFile settings.suffixSource
    -- Each kind of record is checked with made-up labels of its own.
    let seed ← IO.rand 0 0x7FFFFFFF
    let surroundings : Surroundings :=
      { readFile := fun _ => contents
        client := { source := .unreachable }
        labels := fun kind => RandomLabel.source (seed + (kind.map RecordKind.code).getD 0) }
    writeOutcome (surroundings.run settings command)
