import Courier.Source.Basic

/-
  This file defines the source over a file. Its length is the
  one that the file had when it was opened; the file itself may
  change afterwards.

  Key definitions include:
    * `FileSource`
    * `FileSource.ofContent`
    * `FileSource.Portion`
    * `FileSource.fill`
    * `FileSource.readIn`
    * `FileSource.read`
    * `FileSource.resize`
-/

namespace Courier

/-
  An open or closed file: what it holds now, whether it is
  open, and a cursor within the length it had when opened.
-/
structure FileSource where
  content : ByteArray
  isOpen : Bool
  cursor : Cursor
deriving DecidableEq

namespace FileSource

/- The source over a file that has just been opened. -/
def ofContent
    (content : ByteArray) : FileSource :=
  ⟨content, true, .start content.size⟩

/-
  What the system does with one request for bytes: hand over at
  least one and at most so many more, be interrupted, or fail.
-/
inductive Portion where
  | bytes (more : Nat)
  | interrupted
  | failed (cause : IoError)

/-
  Ask the system for bytes at a position until all that are
  wanted are there or the file ends. An interrupted request is
  made again. Behind its last portion the system hands over all
  that it is asked for.
-/
def fill
    (content : ByteArray)
    (offset wanted : Nat)
    (portions : List Portion) : Except IoError ByteArray :=
  if wanted = 0 then
    .ok .empty
  else
    match portions with
    | [] => .ok (content.extract offset (offset + wanted))
    | .interrupted :: rest => fill content offset wanted rest
    | .failed cause :: _ => .error cause
    | .bytes more :: rest =>
        let chunk :=
          content.extract offset
            (offset + min (more + 1) wanted)
        if chunk.isEmpty then
          .ok .empty
        else
          (fill content (offset + chunk.size)
            (wanted - chunk.size) rest).map (chunk ++ ·)

/-
  The next bytes of a file that the system hands over in
  portions. When the file ends before the read is complete, the
  source is exhausted.
-/
def readIn
    (portions : List Portion)
    (upTo : Nat)
    (s : FileSource) : ReadAnswer × FileSource :=
  if s.isOpen then
    let n := s.cursor.nextRead upTo
    match fill s.content s.cursor.position n portions with
    | .error cause => (.error cause, s)
    | .ok chunk =>
        if chunk.size < n then
          (.ok (chunk, true),
            { s with cursor := s.cursor.toEnd })
        else
          let cursor := s.cursor.advance chunk.size
          (.ok (chunk, cursor.isExhausted),
            { s with cursor })
  else
    (.error .sourceClosed, s)

/- The next bytes of a file, handed over all at once. -/
def read
    (upTo : Nat)
    (s : FileSource) : ReadAnswer × FileSource :=
  s.readIn [] upTo

/- Move the cursor forward. -/
def skip
    (n : Nat)
    (s : FileSource) : Bool × FileSource :=
  let cursor := s.cursor.advance n
  (cursor.isExhausted, { s with cursor })

/- Close the file. -/
def close
    (s : FileSource) : Except IoError Unit × FileSource :=
  (.ok (), { s with isOpen := false })

/- A buffer of zeros. -/
def zeros
    (n : Nat) : ByteArray :=
  ⟨Array.replicate n 0⟩

/-
  Cut the file off at a size, or grow it with zeros, behind the
  back of its source.
-/
def resize
    (size : Nat)
    (s : FileSource) : FileSource :=
  { s with
    content :=
      s.content.extract 0 size
        ++ zeros (size - s.content.size) }

instance : ByteSource FileSource where
  read := read
  skip := skip
  close := close
  length s := s.cursor.length
  position s := s.cursor.position

end FileSource

/- What a path may name. -/
inductive DiskEntry where
  | file (content : ByteArray)
  | directory

/- Open what a path names, if anything. -/
def FileSource.openEntry :
    Option DiskEntry → Except IoError FileSource
  | none => .error .notFound
  | some .directory => .error .isDirectory
  | some (.file content) => .ok (.ofContent content)

end Courier
