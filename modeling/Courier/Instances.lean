/-
  Powers and the comparison of bytes are those of the core
  library, whatever other libraries are in scope. So every
  definition means the same wherever it is read.
-/

namespace Courier

@[default_instance 20000]
instance (priority := 2000) powNat : Pow Nat Nat :=
  instPowNat

@[default_instance 15000]
instance (priority := 2000) powInt : Pow Int Nat :=
  instPowNat

instance (priority := 2000) decidableEqByteArray :
    DecidableEq ByteArray :=
  ByteArray.instDecidableEq

end Courier
