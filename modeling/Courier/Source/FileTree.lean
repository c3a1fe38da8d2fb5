import Courier.Calendar
import Courier.Error
import Courier.Source.Path

/-
  This file defines trees of files and directories and looks up
  paths in them.

  Key definitions include:
    * `FileTime`
    * `FileTree`
    * `FileTree.Place.step`
    * `FileTree.Place.walk`
    * `FileTree.lookup`
    * `FileTree.put`
-/

namespace Courier

/-
  The last second that a file can be told to have. There are
  thirty-four bits for it, and they count from 1901 on.
-/
def lastFileSecond : Nat :=
  15032385535

/- The time of a file: one from 1970 on that it can have. -/
structure FileTime where
  instant : Instant
  start_le : 0 ≤ instant.seconds
  le_last : instant.seconds ≤ lastFileSecond

namespace FileTime

/-
  The time of a file that is given any time at all. What no
  file can have is moved to the nearest time that one can.
-/
def ofInstant
    (t : Instant) : FileTime where
  instant := ⟨max 0 (min t.seconds lastFileSecond), t.nanos⟩
  start_le := Int.le_max_left _ _
  le_last :=
    Int.max_le.mpr
      ⟨Int.natCast_nonneg _, Int.min_le_right _ _⟩

/- The date of a file. -/
def date
    (t : FileTime) : String :=
  Calendar.httpDate t.instant.seconds.toNat

/- The time of a file is in a year that can be written. -/
theorem httpDate?_instant
    (t : FileTime) :
    Calendar.httpDate? t.instant = some t.date := by
  have hEnd : t.instant.seconds < Calendar.endOfYears :=
    Int.lt_of_le_of_lt t.le_last (by decide)
  simp [Calendar.httpDate?, date, t.start_le, hEnd]

end FileTime

/-
  A file with its content and the time it was last changed, or a
  directory.
-/
inductive FileTree where
  | file (content : ByteArray) (modified : FileTime)
  | directory (entries : List (String × FileTree))

namespace FileTree

/- The most bytes that one name has. -/
def maxName : Nat := 255

/- The number of bytes that a path stays below. -/
def pathLimit : Nat := 4096

------------------------------------------------------------
-- Places
------------------------------------------------------------

/-
  An entry of a tree and the directories above it, the nearest
  one first.
-/
structure Place where
  above : List FileTree
  entry : FileTree

namespace Place

/- The topmost place of a tree. -/
def top
    (tree : FileTree) : Place :=
  ⟨[], tree⟩

/- The place above; above the topmost one is that one itself. -/
def up : Place → Place
  | ⟨[], entry⟩ => ⟨[], entry⟩
  | ⟨parent :: farther, _⟩ => ⟨farther, parent⟩

/- The place below that holds an entry of this one. -/
def down
    (p : Place)
    (child : FileTree) : Place :=
  ⟨p.entry :: p.above, child⟩

/-
  Where one segment of a path leads. Every segment, an empty one
  included, asks that what comes before it is a directory.
-/
def step
    (p : Place)
    (name : String) : Except IoError Place :=
  match p.entry with
  | .file _ _ => .error .notDirectory
  | .directory entries =>
      if DiskPath.staysPut name then .ok p
      else if name = DiskPath.parentName then .ok p.up
      else if maxName < name.utf8ByteSize then
        .error .nameTooLong
      else
        match entries.lookup name with
        | none => .error .notFound
        | some child => .ok (p.down child)

/- Where the segments of a path lead, one after the other. -/
def walk
    (p : Place) : List String → Except IoError Place
  | [] => .ok p
  | name :: rest =>
      match p.step name with
      | .error cause => .error cause
      | .ok q => q.walk rest

end Place

------------------------------------------------------------
-- Looking up
------------------------------------------------------------

/- The error of a path that is never looked for. -/
def refusal?
    (path : String) : Option IoError :=
  if '\x00' ∈ path.toList then some .nulInName
  else if path.isEmpty then some .notFound
  else if pathLimit ≤ path.utf8ByteSize then some .nameTooLong
  else none

/-
  What a path leads to. The tree is both the root and the
  directory that other paths start from.
-/
def lookup
    (tree : FileTree)
    (path : String) : Except IoError FileTree :=
  match refusal? path with
  | some cause => .error cause
  | none =>
      ((Place.top tree).walk (Text.pieces '/' path)).map
        Place.entry

------------------------------------------------------------
-- Building
------------------------------------------------------------

/- Put an entry in place of the one with its name, or last. -/
def putEntry
    (name : String)
    (node : FileTree) :
    List (String × FileTree) → List (String × FileTree)
  | [] => [(name, node)]
  | (n, old) :: rest =>
      if n = name then (name, node) :: rest
      else (n, old) :: putEntry name node rest

/-
  Put a file or a directory where the segments lead, with the
  directories on the way. A directory that is there already
  keeps its entries.
-/
def put
    (tree : FileTree)
    (segments : List String)
    (node : FileTree) : FileTree :=
  match segments, tree with
  | [], .directory entries =>
      match node with
      | .directory [] => .directory entries
      | _ => node
  | [], _ => node
  | name :: rest, .directory entries =>
      let old := (entries.lookup name).getD (.directory [])
      .directory (putEntry name (put old rest node) entries)
  | _ :: _, tree => tree

end FileTree

end Courier
