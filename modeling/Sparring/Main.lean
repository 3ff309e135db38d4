/-
The two programs: the assistant, and behind the word `lint-bots` the linter.

Only this module touches the world.  It reads the files that a command line names, hands
them to the pure programs, and prints what they leave behind.
-/
import Sparring.Program.Assist
import Sparring.Program.Lint

namespace Sparring

/-- The fault that an error is. -/
def FileFault.ofError : IO.Error → FileFault
  | .noFileOrDirectory _ _ _ => notFound
  | .inappropriateType _ 21 _ => isDirectory
  | e => other (toString e)

/-- The bytes of a file. -/
def readBytes (path : String) : IO (Except FileFault (List UInt8)) := do
  try
    let bytes ← IO.FS.readBinFile path
    return .ok bytes.toList
  catch e =>
    return .error (FileFault.ofError e)

/-- The files at these paths. -/
def readFiles (paths : List String) : IO Files := do
  let found ← paths.mapM fun path => do return (path, ← readBytes path)
  return fun path => (found.lookup path).getD (.error .notFound)

/-- A seed that nobody chose. -/
def chance : IO UInt64 := do
  let bytes ← IO.getRandomBytes 8
  return bytes.toList.foldl (fun n b => n * 256 + b.toUInt64) 0

/-- Prints an outcome and gives its exit code. -/
def present : Option Outcome → IO UInt32
  | some o => do
    IO.print o.output
    IO.eprint o.errors
    return UInt32.ofNat o.code
  | none => do
    IO.eprintln "a number of the tables left its range"
    return 101

/-- Tells how the programs are called. -/
def refuse : IO UInt32 := do
  IO.eprintln "usage: [--bots FILE] list | show | table | roll | dump | legend, or lint-bots FILE..."
  return 2

end Sparring

open Sparring in
/-- Runs the program that the words ask for. -/
def main (words : List String) : IO UInt32 := do
  match words with
  | "lint-bots" :: words =>
    match Lint.request? words with
    | some paths => present (Lint.run (← readFiles paths) paths)
    | none => refuse
  | words =>
    match Assist.request? words with
    | some r => present (Assist.run (← readFiles r.bots.toList) (← chance) r)
    | none => refuse
