import Courier.Text.Basic

/-
  This file takes the path of a file apart and joins it to a
  directory.

  Key definitions include:
    * `DiskPath.Part`
    * `DiskPath.segments`
    * `DiskPath.parts`
    * `DiskPath.join`
-/

namespace Courier.DiskPath

------------------------------------------------------------
-- Segments
------------------------------------------------------------

/- True for a segment that stays where it is. -/
def staysPut
    (name : String) : Bool :=
  name.isEmpty || name = "."

/- The segment that leads back to the directory above. -/
def parentName : String := ".."

/- The segments of a path that do not stay where they are. -/
def segments
    (path : String) : List String :=
  (Text.pieces '/' path).filter (!staysPut ·)

/- True for a path that starts at the root. -/
def isAbsolute
    (path : String) : Bool :=
  Text.startsWith "/" path

/- True for a path that starts with a single dot. -/
def startsHere
    (path : String) : Bool :=
  (Text.pieces '/' path).head? = some "."

------------------------------------------------------------
-- Parts
------------------------------------------------------------

/- What a path is made up of. -/
inductive Part where
  | root
  | here
  | parent
  | name (segment : String)
deriving DecidableEq, Repr

/- True for a part that leads to an entry of a directory. -/
def Part.isName : Part → Bool
  | .name _ => true
  | .root | .here | .parent => false

/- The part that a segment stands for. -/
def partOf
    (segment : String) : Part :=
  if segment = parentName then .parent else .name segment

/- The part that says where a path starts, when it says so. -/
def lead
    (path : String) : List Part :=
  if isAbsolute path then [.root]
  else if startsHere path then [.here]
  else []

/-
  The parts of a path. A single dot is a part only where the
  path starts, and slashes that follow each other are one.
-/
def parts
    (path : String) : List Part :=
  lead path ++ (segments path).map partOf

------------------------------------------------------------
-- Joining
------------------------------------------------------------

/-
  A path as seen from a directory. A path that starts at the
  root stands for itself.
-/
def join
    (directory path : String) : String :=
  if isAbsolute path then path
  else if directory.isEmpty then path
  else if directory.toList.getLast? = some '/' then
    directory ++ path
  else directory ++ "/" ++ path

end Courier.DiskPath
