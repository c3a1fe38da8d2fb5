/-
  This file defines the content codings, the directive that a
  response carries about them, and compressors.

  Key definitions include:
    * `Coding`
    * `Encoding`
    * `Encoding.ofToken?`
    * `Compressor`
-/

namespace Courier

/- A way to write a body in fewer bytes. -/
inductive Coding where
  | gzip
  | deflate
  | brotli
deriving DecidableEq, Repr

namespace Coding

/- The token that names a coding in headers. -/
def token : Coding → String
  | gzip => "gzip"
  | deflate => "deflate"
  | brotli => "br"

/- The order in which codings are tried. -/
def preference : List Coding :=
  [brotli, deflate, gzip]

/- The coding that a header token names. -/
def ofToken?
    (token : String) : Option Coding :=
  preference.find? (·.token = token)

end Coding

/-
  What a response asks of its encoding: the best coding for its
  type, no coding, or one coding.
-/
inductive Encoding where
  | auto
  | none
  | only (coding : Coding)
deriving DecidableEq, Repr

namespace Encoding

/- The name of a directive. -/
def token : Encoding → String
  | auto => "auto"
  | none => "none"
  | only .gzip => "gzip"
  | only .brotli => "brotli"
  | only .deflate => "deflate"

/- Every directive. -/
def all : List Encoding :=
  [auto, none, only .gzip, only .brotli, only .deflate]

/-
  The directive that a name stands for. Names are
  case-sensitive, and no name at all means `auto`.
-/
def ofToken?
    (s : String) : Option Encoding :=
  if s.isEmpty then some auto else all.find? (·.token = s)

/- The wording for a name that stands for no directive. -/
def unknownMessage
    (s : String) : String :=
  "unknown encoding `" ++ s ++ "`"

end Encoding

/-
  A compressor writes bytes in each coding and reads them back.
  What it writes is never empty and reads back as what was
  written; it may fail to write.
-/
structure Compressor where
  encode : Coding → ByteArray → Option ByteArray
  decode : Coding → ByteArray → Option ByteArray
  decode_encode :
    ∀ coding plain packed,
      encode coding plain = some packed →
        decode coding packed = some plain
  encode_nonempty :
    ∀ coding plain packed,
      encode coding plain = some packed →
        packed.isEmpty = false

end Courier
