import Courier.Text.Basic

/-
  This file tells the content type of a file by its name.

  Key definitions include:
    * `Media.fileName?`
    * `Media.extension?`
    * `Media.ofExtension?`
    * `Media.ofPath?`
-/

namespace Courier.Media

/- The content type of bytes that nothing is known about. -/
def octetStream : String :=
  "application/octet-stream"

/-
  The steps of a path that count: empty ones are left out, and
  so is a `.` anywhere but at the start.
-/
def steps
    (path : String) : List String :=
  match Text.pieces '/' path with
  | [] => []
  | first :: rest =>
      (if first.isEmpty then [] else [first])
        ++ rest.filter fun s => !s.isEmpty && s ≠ "."

/- The last step of a path, when it names something. -/
def fileName?
    (path : String) : Option String :=
  match (steps path).getLast? with
  | some name =>
      if name = "." || name = ".." then none else some name
  | none => none

/-
  What stands after the last dot of a file name. A name without
  a dot, or whose only dot comes first, has no extension.
-/
def extension?
    (path : String) : Option String :=
  match fileName? path with
  | none => none
  | some name =>
      match Text.cutFirst '.' name.toList.reverse with
      | (_, none) => none
      | (_, some []) => none
      | (last, some _) => some (String.ofList last.reverse)

/- The content types of well known extensions. -/
def extensionTable : List (List String × String) :=
  [ (["html", "htm"], "text/html"),
    (["css"], "text/css"),
    (["js", "mjs"], "text/javascript"),
    (["md"], "text/markdown"),
    (["csv"], "text/csv"),
    (["txt"], "text/plain"),
    (["xml"], "application/xml"),
    (["json"], "application/json"),
    (["yaml", "yml"], "application/yaml"),
    (["wasm"], "application/wasm"),
    (["png"], "image/png"),
    (["jpg", "jpeg"], "image/jpeg"),
    (["gif"], "image/gif"),
    (["svg"], "image/svg+xml"),
    (["ico"], "image/x-icon"),
    (["webp"], "image/webp"),
    (["mp4"], "video/mp4"),
    (["webm"], "video/webm"),
    (["ogv"], "video/ogg"),
    (["mov"], "video/quicktime"),
    (["mp3"], "audio/mpeg"),
    (["wav"], "audio/wav"),
    (["flac"], "audio/flac"),
    (["ogg"], "audio/ogg"),
    (["woff"], "font/woff"),
    (["woff2"], "font/woff2"),
    (["ttf"], "font/ttf"),
    (["otf"], "font/otf"),
    (["pdf"], "application/pdf"),
    (["zip"], "application/zip"),
    (["gz"], "application/gzip") ]

/- The content type of an extension, in any casing. -/
def ofExtension?
    (extension : String) : Option String :=
  (extensionTable.find? (extension.toLower ∈ ·.1)).map (·.2)

/- The content type of a path, none when it is not known. -/
def ofPath?
    (path : String) : Option String :=
  (extension? path).bind ofExtension?

end Courier.Media
