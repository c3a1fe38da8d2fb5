import Courier.Source.File
import Courier.Source.Memory
import Courier.Source.Scripted

/-
  This file joins the kinds of byte sources into one type.

  Key definitions include:
    * `AnySource`
-/

namespace Courier

/- A byte source of one of the known kinds. -/
inductive AnySource where
  | memory (source : MemorySource)
  | file (source : FileSource)
  | scripted (source : ScriptedSource)

namespace AnySource

/- Run an operation of the source and wrap what is left. -/
def onState
    {α σ : Type}
    (wrap : σ → AnySource)
    (result : α × σ) : α × AnySource :=
  (result.1, wrap result.2)

instance : ByteSource AnySource where
  read n
    | memory s => onState memory (ByteSource.read n s)
    | file s => onState file (ByteSource.read n s)
    | scripted s => onState scripted (ByteSource.read n s)
  skip n
    | memory s => onState memory (ByteSource.skip n s)
    | file s => onState file (ByteSource.skip n s)
    | scripted s => onState scripted (ByteSource.skip n s)
  close
    | memory s => onState memory (ByteSource.close s)
    | file s => onState file (ByteSource.close s)
    | scripted s => onState scripted (ByteSource.close s)
  length
    | memory s => ByteSource.length s
    | file s => ByteSource.length s
    | scripted s => ByteSource.length s
  position
    | memory s => ByteSource.position s
    | file s => ByteSource.position s
    | scripted s => ByteSource.position s

end AnySource

end Courier
