import Courier.Source.Basic

/-
  This file defines the source whose answers are written down
  beforehand. It shows how delivery treats a source of any
  behaviour.

  Key definitions include:
    * `ScriptedSource`
    * `ScriptedSource.read`
-/

namespace Courier

/-
  The announced length, the answer to `skip`, the answers to
  the reads in order, and the answer to `close`.
-/
structure ScriptedSource where
  length : Nat
  skipAnswer : Bool := false
  reads : List ReadAnswer := []
  closeAnswer : Except IoError Unit := .ok ()

namespace ScriptedSource

/- The next answer; past the last one, no bytes and no end. -/
def read
    (s : ScriptedSource) : ReadAnswer × ScriptedSource :=
  match s.reads with
  | [] => (.ok (.empty, false), s)
  | answer :: rest => (answer, { s with reads := rest })

instance : ByteSource ScriptedSource where
  read _ s := s.read
  skip _ s := (s.skipAnswer, s)
  close s := (s.closeAnswer, s)
  length s := s.length
  position _ := 0

end ScriptedSource

end Courier
