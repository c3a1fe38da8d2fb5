import Courier.Encoding.Coding
import Courier.Header.List
import Courier.Text.Basic

/-
  This file decides which coding a body gets and encodes it.

  Key definitions include:
    * `EncodingRules`
    * `EncodingRules.isCompressible`
    * `EncodingRules.select`
    * `Codec`
    * `Codec.apply`
-/

namespace Courier

/-
  Which content types are worth encoding, and from which size
  on each coding is used.
-/
structure EncodingRules where
  compressible : List String :=
    [ "application/json",
      "application/xml",
      "application/yaml",
      "text/calendar",
      "text/css",
      "text/csv",
      "text/html",
      "text/javascript",
      "text/markdown",
      "text/mathml",
      "text/plain",
      "text/prs.lines.tag",
      "text/richtext",
      "text/sgml",
      "text/tab-separated-values",
      "text/troff",
      "text/uri-list" ]
  brotliMinSize : Nat := 256
  deflateMinSize : Nat := 512
  gzipMinSize : Nat := 1024
deriving DecidableEq, Repr

namespace EncodingRules

/- The size from which on a coding is used. -/
def minSize
    (rules : EncodingRules) : Coding → Nat
  | .brotli => rules.brotliMinSize
  | .deflate => rules.deflateMinSize
  | .gzip => rules.gzipMinSize

/- True when the content type contains an entry of the list. -/
def isCompressible
    (rules : EncodingRules)
    (contentType : String) : Bool :=
  rules.compressible.any (Text.contains · contentType)

/-
  True when the client names the coding and the body reaches
  its minimum size.
-/
def admits
    (rules : EncodingRules)
    (accept : String)
    (size : Nat)
    (coding : Coding) : Bool :=
  Text.contains coding.token accept
    && rules.minSize coding ≤ size

/-
  The coding of a body of `size` bytes. With `auto` the content
  type must be compressible and the first admitted coding in
  order of preference is taken; a single coding skips the list
  of types but must be admitted as well.
-/
def select
    (rules : EncodingRules)
    (encoding : Encoding)
    (contentType accept : Option String)
    (size : Nat) : Option Coding :=
  let accept := accept.getD ""
  match encoding with
  | .auto =>
      if rules.isCompressible (contentType.getD "") then
        Coding.preference.find? (rules.admits accept size)
      else
        none
  | .none => none
  | .only coding =>
      if rules.admits accept size coding then
        some coding
      else
        none

end EncodingRules

/- Encoding rules together with the compressor that is used. -/
structure Codec where
  rules : EncodingRules := {}
  compressor : Compressor

namespace Codec

/- What became of a body that was to be encoded. -/
structure Encoded where
  coding : Option Coding
  headers : HeaderList
  body : ByteArray

/-
  Encode a body and say so in its headers. Nothing happens to
  an empty body, to one whose headers name an encoding already,
  or when no coding is selected or the compressor fails.
-/
def apply
    (codec : Codec)
    (encoding : Encoding)
    (headers : HeaderList)
    (body : ByteArray)
    (accept : Option String) : Encoded :=
  let unchanged : Encoded := ⟨none, headers, body⟩
  if headers.has "Content-Encoding" || body.isEmpty then
    unchanged
  else
    let contentType := headers.get? "Content-Type"
    match
      codec.rules.select encoding contentType accept body.size
    with
    | none => unchanged
    | some coding =>
        match codec.compressor.encode coding body with
        | none => unchanged
        | some packed =>
            { coding := some coding
              headers :=
                headers.set "Content-Encoding" coding.token
              body := packed }

end Codec

end Courier
