import Courier.Request.Head

/-
  This file defines requests as handlers see them: the head, the
  parameters taken from the path, the body, and what authenticators
  and middlewares have attached.

  Key definitions include:
    * `PathParams`
    * `Request`
-/

namespace Courier

/- The parameters taken from a path, in order. -/
structure PathParams where
  entries : List (String × String) := []
deriving DecidableEq, Repr

namespace PathParams

/- No parameters. -/
def empty : PathParams := {}

/- The number of parameters. -/
def size
    (p : PathParams) : Nat :=
  p.entries.length

/- True when there is no parameter. -/
def isEmpty
    (p : PathParams) : Bool :=
  p.entries.isEmpty

/- The first parameter of a name. -/
def get?
    (p : PathParams)
    (name : String) : Option String :=
  p.entries.lookup name

end PathParams

/-
  A request with its whole body. What is attached to it can be
  of any type; nothing is when it arrives.
-/
structure Request (δ : Type) where
  head : RequestHead
  params : PathParams := .empty
  body : ByteArray := .empty
  attached : Option δ := none
deriving DecidableEq

namespace Request

variable {δ : Type}

/- The query string, undecoded. -/
def query?
    (q : Request δ) : Option String :=
  q.head.target.query

/- The last value of a header, when it is visible text. -/
def header?
    (q : Request δ)
    (name : String) : Option String :=
  q.head.header? name

/- The value of the first cookie of a name. -/
def cookie?
    (q : Request δ)
    (name : String) : Option String :=
  q.head.cookie? name

/- The request with something else attached. -/
def attach
    (q : Request δ)
    (datum : δ) : Request δ :=
  { q with attached := some datum }

end Request

end Courier
