/-
What a program leaves behind, and how it reports that it failed.

A failure is a chain of texts, the outermost first, each explained by the next.  The first
stands alone; the others follow as its causes, numbered if there is more than one, and
every line of a cause is indented.
-/

namespace Sparring

/-- Exit code and output of a program. -/
structure Outcome where
  code : Nat := 0
  output : String := ""
  errors : String := ""
deriving DecidableEq, Repr

/-- A program that was called the wrong way. -/
def Outcome.refused : Outcome := { code := 2 }

/-- Why something failed: what was attempted, and the causes. -/
structure Failure where
  text : String
  causes : List String := []
deriving DecidableEq, Repr

namespace Failure

/-- The failure as the cause of a larger one. -/
def inContext (text : String) (f : Failure) : Failure := { text, causes := f.text :: f.causes }

/-- A text with something in front of its first line and something in front of the others. -/
def indent (first others text : String) : String :=
  first ++ ("\n" ++ others).intercalate (text.splitOn "\n")

/-- The number in front of a cause, five wide. -/
def number (i : Nat) : String :=
  let digits := toString i
  String.ofList (List.replicate (5 - digits.length) ' ') ++ digits ++ ": "

/-- The causes, one below the other. -/
def causeLines (causes : List String) : List String :=
  match causes with
  | [cause] => [indent "    " "    " cause]
  | causes => causes.mapIdx fun i cause => indent (number i) "       " cause

/-- The failure with its causes. -/
def report (f : Failure) : String :=
  match f.causes with
  | [] => f.text
  | causes => f.text ++ "\n\nCaused by:\n" ++ "\n".intercalate (causeLines causes)

/-- The failure and its causes on one line. -/
def brief (f : Failure) : String := ": ".intercalate (f.text :: f.causes)

/-- The outcome of a program that failed after some output. -/
def outcome (f : Failure) (output errors : String) : Outcome :=
  { code := 1, output, errors := errors ++ "Error: " ++ f.report ++ "\n" }

end Failure

end Sparring
