import Courier.Cache.Policy
import Courier.Connection.Handler
import Courier.Delivery.Outcome
import Courier.Delivery.Pushed
import Courier.Encoding.Coding
import Courier.Media.Sniff
import Courier.Source.File
import Courier.Source.Memory

/-
  This file defines responses: what a request is answered with,
  before it is delivered. A response is built from a status by
  setters; setting one kind of body replaces the others.

  Key definitions include:
    * `Payload`
    * `Response`
    * `Response.ofStatus`
    * `Response.withBody`
    * `Response.failed`
    * `Response.file`
    * `Response.stream`
    * `Response.notModified`
-/

namespace Courier

/- What a response sends as its body. -/
inductive Payload (σ : Type) where
  | empty
  | body (bytes : ByteArray)
  | source (source : σ)
  | producer (producer : Producer)

/-
  A pending response. A handler of its own replaces everything
  else in it.
-/
structure Response (σ : Type) where
  status : Nat
  headers : HeaderList := .empty
  payload : Payload σ := .empty
  encoding : Option Encoding := none
  cachePolicy : Option CachePolicy := none
  allowStreaming : Bool := false
  settings : Option StreamSettings := none
  tag : Option String := none
  cookies : List Cookie := []
  handler : Option Handler := none

namespace Response

variable {σ : Type}

------------------------------------------------------------
-- Making
------------------------------------------------------------

/- A response with a status and nothing else. -/
def ofStatus
    (status : Nat) : Response σ where
  status := status

/- A response that a handler writes. -/
def ofHandler
    (handler : Handler) : Response σ where
  status := 200
  handler := some handler

------------------------------------------------------------
-- Looking
------------------------------------------------------------

/- The buffered body, when there is one. -/
def body?
    (r : Response σ) : Option ByteArray :=
  match r.payload with
  | .body bytes => some bytes
  | _ => none

/- True when the body comes from a source or a producer. -/
def isStreamed
    (r : Response σ) : Bool :=
  match r.payload with
  | .source _ | .producer _ => true
  | .empty | .body _ => false

------------------------------------------------------------
-- Headers and cookies
------------------------------------------------------------

/- Replace the values of a header. -/
def setHeader
    (r : Response σ)
    (name value : String) : Response σ :=
  { r with headers := r.headers.set name value }

/- Append a value to a header. -/
def addHeader
    (r : Response σ)
    (name value : String) : Response σ :=
  { r with headers := r.headers.add name value }

/- Remove a header. -/
def delHeader
    (r : Response σ)
    (name : String) : Response σ :=
  { r with headers := r.headers.del name }

/- Attach a cookie. -/
def addCookie
    (r : Response σ)
    (cookie : Cookie) : Response σ :=
  { r with cookies := r.cookies ++ [cookie] }

/- Make the client drop a cookie. -/
def deleteCookie
    (r : Response σ)
    (name : String) : Response σ :=
  r.addCookie (.removal name)

/- Set the content type, when one is given. -/
def withType
    (r : Response σ)
    (contentType : Option String) : Response σ :=
  match contentType with
  | some t => r.setHeader "Content-Type" t
  | none => r

------------------------------------------------------------
-- Bodies
------------------------------------------------------------

/- A buffered body with a content type. -/
def withBody
    (r : Response σ)
    (bytes : ByteArray)
    (contentType : Option String) : Response σ :=
  { r with payload := .body bytes }.withType contentType

/- What becomes of a response whose body cannot be made. -/
def failed
    (r : Response σ) : Response σ :=
  { r with status := 500, payload := .empty }

/- A body of text of a given type. -/
def text
    (r : Response σ)
    (content contentType : String) : Response σ :=
  r.withBody content.toUTF8 (some contentType)

/- The content type of a JSON body. -/
def jsonType : String :=
  "application/json; charset=utf-8"

/- A body that is a written JSON value. -/
def json
    (r : Response σ)
    (written : String) : Response σ :=
  r.text written jsonType

/- Bytes whose content type is told from how they begin. -/
def blob
    (r : Response σ)
    (bytes : ByteArray) : Response σ :=
  r.withBody bytes (some (Media.sniff bytes))

/-
  A file read whole. Its content type comes from its name, or
  from its bytes when the name tells nothing. Anything that is
  no file makes the response fail.
-/
def file
    (r : Response σ)
    (path : String) : Option DiskEntry → Response σ
  | some (.file content) =>
      r.withBody content
        (some ((Media.ofPath? path).getD (Media.sniff content)))
  | some .directory | none => r.failed

/- A body that is streamed from a source. -/
def stream
    (r : Response σ)
    (source : σ)
    (contentType : String) : Response σ :=
  { r with payload := .source source }.setHeader
    "Content-Type" contentType

/-
  A body that is streamed from a file. Anything that cannot be
  opened makes the response fail.
-/
def streamFile
    (r : Response σ)
    (wrap : FileSource → σ)
    (entry : Option DiskEntry)
    (contentType : String) : Response σ :=
  match FileSource.openEntry entry with
  | .error _ => r.failed
  | .ok source => r.stream (wrap source) contentType

/- A body that a producer pushes. -/
def produce
    (r : Response σ)
    (producer : Producer) : Response σ :=
  { r with payload := .producer producer }

/- The response without body that says nothing has changed. -/
def notModified
    (r : Response σ) : Response σ :=
  { r with status := 304, payload := .empty, handler := none }

end Response

end Courier
