/-
The linter: compiles files of tables and reports what is wrong with them.

Every file is judged on its own, in the order of the command line: names of bots go to the
output, errors to the errors, and at the end the failures are counted.
-/
import Sparring.Program.Arguments
import Sparring.Program.Files

namespace Sparring.Lint

variable [Yaml.Reader]

/-- The files that a command line names: one at least, and each with a name. -/
def request? (words : List String) : Option (List String) := do
  let paths ← Arguments.plainWords words
  if paths.isEmpty || paths.contains "" then none else pure paths

/-- The catalog of a file, or what is wrong with it. -/
def judge (files : Files) (path : String) : Checked String Catalog := do
  let bytes ← (files path).mapError fun f => .refused f.message
  let text ← (Text.decodeFile bytes).mapError fun f => .refused f.message
  (Catalog.ofStream (String.ofList text)).mapError fun e =>
    match e.failure with
    | .overflow => .overflow
    | .refused f => .refused f.text

/-- Verdicts so far. -/
structure Report where
  output : String := ""
  errors : String := ""
  failed : Nat := 0

/-- The report with the verdict on one more file. Nothing if a number left its range. -/
def Report.add (files : Files) (r : Report) (path : String) : Option Report :=
  match judge files path with
  | .ok c =>
    some { r with output := r.output ++ "ok " ++ path ++ ": " ++ ", ".intercalate c.names ++ "\n" }
  | .error (.refused text) =>
    some { r with
      errors := r.errors ++ "error " ++ path ++ ": " ++ text ++ "\n"
      failed := r.failed + 1 }
  | .error .overflow => none

/-- The outcome for some files. Nothing if a number of their tables left its range. -/
def run (files : Files) (paths : List String) : Option Outcome := do
  let r ← paths.foldlM (Report.add files) {}
  if r.failed = 0 then pure { output := r.output }
  else
    let count := toString r.failed ++ " of " ++ toString paths.length ++ " file(s) failed"
    pure (Failure.outcome { text := count } r.output r.errors)

end Sparring.Lint
