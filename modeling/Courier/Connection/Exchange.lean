import Courier.Connection.Basic
import Courier.Cookie
import Courier.Source.Basic

/-
  This file defines an exchange: a connection, the headers that
  have been set for the response, and a trace of every call
  that has been made on the connection and on a byte source,
  with what it answered.

  Key definitions include:
    * `HeaderEdit`
    * `Event`
    * `Exchange`
    * `Exchange.sendHead`
    * `Exchange.sendFull`
    * `Exchange.write`
    * `Exchange.flush`
    * `Exchange.isClosed`
    * `Exchange.setCookie`
    * `Exchange.readFrom`
    * `Exchange.skipIn`
    * `Exchange.closeSource`
-/

namespace Courier

/- A change of the outgoing headers. -/
inductive HeaderEdit where
  | set (name value : String)
  | add (name value : String)
  | del (name : String)
deriving DecidableEq, Repr

/- What a call by a producer or a handler was answered. -/
inductive Reply where
  | sent (answer : Sent)
  | closed (isClosed : Bool)
  | count (bytes : Nat)

/- One call of an exchange and its answer. -/
inductive Event where
  | edit (change : HeaderEdit)
  | head (status : Nat) (headers : WireHeaders) (answer : Sent)
  | full
      (status : Nat)
      (headers : WireHeaders)
      (body : ByteArray)
      (answer : Sent)
  | write (chunk : ByteArray) (answer : Sent)
  | flush (answer : Sent)
  | asked (isClosed : Bool)
  | read (upTo : Nat) (answer : ReadAnswer)
  | skip (count : Nat) (exhausted : Bool)
  | close (answer : Except IoError Unit)
  | reply (answer : Reply)

/- A connection, the headers set so far, and the trace. -/
structure Exchange (τ : Type) where
  connection : τ
  headers : WireHeaders := .empty
  trace : Array Event := #[]

namespace Exchange

variable {τ : Type}

/- An exchange over a connection before any call. -/
def start
    (connection : τ) : Exchange τ where
  connection := connection

/- A computation that makes calls on an exchange. -/
abbrev Act
    (τ α : Type) : Type :=
  StateM (Exchange τ) α

/- Add an event to the trace. -/
def log
    (event : Event) : Act τ Unit :=
  modify fun x => { x with trace := x.trace.push event }

------------------------------------------------------------
-- Headers
------------------------------------------------------------

/- Carry out a change of the headers. -/
def applyEdit
    (w : WireHeaders) : HeaderEdit → WireHeaders
  | .set name value => w.set name value
  | .add name value => w.add name value
  | .del name => w.del name

/- Change the headers and trace it. -/
def editHeaders
    (change : HeaderEdit)
    (x : Exchange τ) : Exchange τ :=
  { x with
    headers := applyEdit x.headers change
    trace := x.trace.push (.edit change) }

instance : HeaderTarget (Exchange τ) where
  set name value := editHeaders (.set name value)
  add name value := editHeaders (.add name value)
  del name := editHeaders (.del name)

/- Replace the values of a header. -/
def setHeader
    (name value : String) : Act τ Unit :=
  modify (editHeaders (.set name value))

/- Replace the values of a header, when one is given. -/
def setHeader?
    (name : String)
    (value : Option String) : Act τ Unit :=
  match value with
  | some v => setHeader name v
  | none => pure ()

/- Remove a header. -/
def delHeader
    (name : String) : Act τ Unit :=
  modify (editHeaders (.del name))

/- Copy the headers of a response. -/
def copyHeaders
    (headers : HeaderList) : Act τ Unit :=
  modify headers.copyInto

/-
  Append a cookie. Fails when its expiry date cannot be
  written; a cookie that is no header value is left out.
-/
def setCookie
    (cookie : Cookie) : Act τ (Except DeliveryError Unit) :=
  match cookie.render? with
  | none => pure (.error .dateOutOfRange)
  | some value => do
      modify (editHeaders (.add "Set-Cookie" value))
      return .ok ()

/- Append cookies in order, up to the first that fails. -/
def setCookies :
    List Cookie → Act τ (Except DeliveryError Unit)
  | [] => pure (.ok ())
  | cookie :: rest => do
      match ← setCookie cookie with
      | .error e => return .error e
      | .ok () => setCookies rest

------------------------------------------------------------
-- Sending
------------------------------------------------------------

variable [Connection τ]

/- Send the status and the headers set so far. -/
def sendHead
    (status : Nat) : Act τ Sent := fun x =>
  let (answer, connection) :=
    Connection.sendHead status x.headers x.connection
  (answer,
    { x with
      connection
      trace := x.trace.push (.head status x.headers answer) })

/- Hand a chunk to the connection. -/
def write
    (chunk : ByteArray) : Act τ Sent := fun x =>
  let (answer, connection) := Connection.write chunk x.connection
  (answer,
    { x with
      connection
      trace := x.trace.push (.write chunk answer) })

/- Push out what has been written. -/
def flush : Act τ Sent := fun x =>
  let (answer, connection) := Connection.flush x.connection
  (answer,
    { x with
      connection
      trace := x.trace.push (.flush answer) })

/- Write a chunk and flush it, when the write succeeds. -/
def writeAndFlush
    (chunk : ByteArray) : Act τ Sent := do
  match ← write chunk with
  | .error e => return .error e
  | .ok () => flush

/-
  Send a complete response. A connection that does not take it
  in one call gets a head and, for a body with bytes, one
  flushed write.
-/
def sendFull
    (status : Nat)
    (body : ByteArray) : Act τ Sent :=
  match Connection.sendFull? (τ := τ) with
  | some send => fun x =>
      let (answer, connection) :=
        send status x.headers body x.connection
      (answer,
        { x with
          connection
          trace :=
            x.trace.push (.full status x.headers body answer) })
  | none => do
      match ← sendHead status with
      | .error e => return .error e
      | .ok () =>
          if body.isEmpty then
            return .ok ()
          else
            writeAndFlush body

/- Ask whether the client went away. -/
def isClosed : Act τ Bool := fun x =>
  let (closed, connection) := Connection.isClosed x.connection
  (closed,
    { x with
      connection
      trace := x.trace.push (.asked closed) })

------------------------------------------------------------
-- Byte sources
------------------------------------------------------------

variable {σ : Type} [ByteSource σ]

omit [Connection τ]

/- Read from a source. -/
def readFrom
    (upTo : Nat)
    (source : σ) : Act τ (ReadAnswer × σ) := do
  let (answer, source) := ByteSource.read upTo source
  log (.read upTo answer)
  return (answer, source)

/- Move the cursor of a source forward. -/
def skipIn
    (count : Nat)
    (source : σ) : Act τ (Bool × σ) := do
  let (exhausted, source) := ByteSource.skip count source
  log (.skip count exhausted)
  return (exhausted, source)

/- Close a source; a failure to do so has no consequence. -/
def closeSource
    (source : σ) : Act τ Unit :=
  log (.close (ByteSource.close source).1)

end Exchange

end Courier
