import Courier.Routing.Path
import Courier.Server.Endpoint
import Courier.Source.FileTree

/-
  This file serves the files of a directory.

  Key definitions include:
    * `StaticFiles`
    * `StaticFiles.resolve?`
    * `StaticFiles.serveFile`
    * `StaticFiles.respond`
    * `StaticFiles.endpoint`
-/

namespace Courier

/- A directory of a file tree, and where it is served. -/
structure StaticFiles where
  mount : String
  tree : FileTree
  directory : String
  disableStreaming : Bool := false

namespace StaticFiles

/- The name of the parameter that holds the path of a file. -/
def fileParam : String :=
  "file"

/- The size from which on a file is streamed. -/
def streamMinSize : Nat :=
  1024 * 1024

/- The content types that are never streamed. -/
def alwaysBuffered : List String :=
  [ "text/javascript",
    "text/html",
    "text/css",
    "application/json" ]

------------------------------------------------------------
-- Paths
------------------------------------------------------------

/-
  The path of a file below a directory. A path that names
  anything but entries could leave it.
-/
def resolve?
    (directory file : String) : Option String :=
  if (DiskPath.parts file).all DiskPath.Part.isName then
    some (DiskPath.join directory file)
  else none

------------------------------------------------------------
-- Files
------------------------------------------------------------

/- The number of bytes that a content type is told from. -/
def sniffedSize : Nat :=
  512

/- The content type of a file. -/
def contentType
    (path : String)
    (content : ByteArray) : String :=
  (Media.ofPath? path).getD
    (Media.sniff (content.extract 0 sniffedSize))

/- True when a file is read whole before it is sent. -/
def isBuffered
    (s : StaticFiles)
    (path : String)
    (content : ByteArray) : Bool :=
  s.disableStreaming
    || alwaysBuffered.contains (contentType path content)
    || content.size < streamMinSize

/- The response with a file, without the time of its change. -/
def sendFile
    (s : StaticFiles)
    (path : String)
    (content : ByteArray) : Answer :=
  let entry := some (DiskEntry.file content)
  if s.isBuffered path content then
    { (Response.ofStatus 200).file path entry with
      allowStreaming := !s.disableStreaming }
  else
    (Response.ofStatus 200).streamFile .file entry
      (contentType path content)

/-
  The response with a file. Nothing is sent when the time of its
  last change cannot be written.
-/
def serveFile
    (s : StaticFiles)
    (path : String)
    (content : ByteArray)
    (modified : FileTime) : Execution :=
  match Calendar.httpDate? modified.instant with
  | none => .error .dateOutOfRange
  | some date =>
      .ok ((s.sendFile path content).setHeader
        "Last-Modified" date)

/- The response to a request for a file. -/
def respond
    (s : StaticFiles)
    (file : Option String) : Execution :=
  match file.bind (resolve? s.directory) with
  | none => .ok (.ofStatus 404)
  | some path =>
      match s.tree.lookup path with
      | .ok (.file content modified) =>
          s.serveFile path content modified
      | .ok (.directory _) => .ok (.ofStatus 404)
      | .error .notFound => .ok (.ofStatus 404)
      | .error _ => .ok (.ofStatus 500)

/- The endpoint that serves the files. -/
def endpoint
    {ω δ : Type}
    (s : StaticFiles)
    (settings : EndpointSettings ω δ) : Endpoint ω δ where
  method := some "GET"
  path :=
    Routing.joinPath s.mount ("\x7b*" ++ fileParam ++ "\x7d")
  settings := settings
  execute request :=
    pure (s.respond (request.params.get? fileParam))

end StaticFiles

end Courier
