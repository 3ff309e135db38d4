/-
The short code of a bot, made from its name.

    Jandra, the Negator   has the code   jandra-the-negator

Letters and digits of ASCII are kept in lower case; whatever stands between them
becomes one hyphen, and nothing is left of what stands around them.
-/

namespace Sparring.Code

/-- One character more: kept, or a hyphen when one is due. The characters kept so far are
latest first. -/
def push (kept : List Char) (c : Char) : List Char :=
  if c.isAlphanum then c.toLower :: kept
  else
    match kept with
    | [] => []
    | '-' :: _ => kept
    | _ => '-' :: kept

/-- The code of a name. -/
def ofName (name : String) : String :=
  String.ofList ((name.toList.foldl push []).dropWhile (· = '-')).reverse

end Sparring.Code
