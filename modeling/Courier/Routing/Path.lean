import Courier.Text.Basic

/-
  This file joins the path of a route to the path of the group
  that it stands in.

  Key definitions include:
    * `Routing.joinPath`
-/

namespace Courier.Routing

/- True for the character that separates segments. -/
def isSlash
    (c : Char) : Bool :=
  c = '/'

/-
  Join two lists of characters with one slash. An empty second
  path adds nothing, but no path at all is the root.
-/
def joinChars
    (base path : List Char) : List Char :=
  match Text.trimStart isSlash path with
  | [] => if base.isEmpty then ['/'] else base
  | rest => Text.trimEnd isSlash base ++ '/' :: rest

/- Join a path to the path that it stands below. -/
def joinPath
    (base path : String) : String :=
  String.ofList (joinChars base.toList path.toList)

end Courier.Routing
