/-
Command lines.

An option is `--name`, and its value is the next word or follows an equals sign.  A value
that is a word of its own does not begin with a dash, unless it is a dash.  Nothing may be
given twice, and two dashes end the options.
-/

namespace Sparring

/-- The options that a command knows. -/
structure Grammar where
  /-- Options without a value. -/
  switches : List String := []
  /-- Options with a value. -/
  settings : List String := []

/-- Options as they were given. A switch has an empty value. -/
abbrev Given := List (String × String)

namespace Arguments

/-- Does a word begin with a dash and go on after it? -/
def isDashed (word : String) : Bool :=
  match word.toList with
  | '-' :: _ :: _ => true
  | _ => false

/-- The name of an option, and the value behind its equals sign. -/
def option? (word : String) : Option (String × Option String) :=
  match word.toList with
  | '-' :: '-' :: cs =>
    let name := String.ofList (cs.takeWhile (· ≠ '='))
    match cs.dropWhile (· ≠ '=') with
    | [] => some (name, none)
    | _ :: value => some (name, some (String.ofList value))
  | _ => none

/-- The options at the front, and the words from the first on that is none. -/
def options (g : Grammar) : List String → Option (Given × List String)
  | [] => some ([], [])
  | word :: rest =>
    if word = "--" then
      if rest.isEmpty then some ([], []) else none
    else if isDashed word then
      match option? word, rest with
      | some (name, some value), rest =>
        if g.settings.contains name then
          (options g rest).map fun (given, words) => ((name, value) :: given, words)
        else none
      | some (name, none), [] => if g.switches.contains name then some ([(name, "")], []) else none
      | some (name, none), value :: more =>
        if g.switches.contains name then
          (options g (value :: more)).map fun (given, words) => ((name, "") :: given, words)
        else if g.settings.contains name && !isDashed value then
          (options g more).map fun (given, words) => ((name, value) :: given, words)
        else none
      | none, _ => none
    else
      some ([], word :: rest)

/-- Has no option been given twice? -/
def noneTwice (given : Given) : Bool := decide (given.map (·.1)).Nodup

/-- The words behind the options of a command that takes any. -/
def plainWords : List String → Option (List String)
  | [] => some []
  | word :: rest =>
    if word = "--" then some rest
    else if isDashed word then none
    else (plainWords rest).map (word :: ·)

end Arguments

namespace Given

/-- Was the switch given? -/
def has (given : Given) (name : String) : Bool := (given.lookup name).isSome

/-- The value of an option, or its default. Nothing if the value is no good. -/
def get {α : Type} (given : Given) (name : String) (read : String → Option α)
    (default : Option α) : Option α :=
  match given.lookup name with
  | some value => read value
  | none => default

end Given

end Sparring
