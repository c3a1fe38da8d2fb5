import Courier.Compression.Brotli.Reader
import Courier.Compression.Brotli.Writer
import Courier.Compression.Container
import Courier.Encoding.Selection

/-
  This file makes the compressor for the three codings.

  Nothing is assumed of the writers and readers of the formats:
  what has been written is read back and only handed out when it
  is what was to be written. So the compressor keeps its laws
  whatever they do.

  Key definitions include:
    * `Compressor.checked`
    * `Compressor.standard`
-/

namespace Courier

namespace Compressor

/- A compressor that reads back what it writes. -/
def checked
    (write : Coding → ByteArray → ByteArray)
    (read : Coding → ByteArray → Option ByteArray) :
    Compressor where
  encode coding plain :=
    let packed := write coding plain
    if !packed.isEmpty && read coding packed = some plain then
      some packed
    else
      none
  decode := read
  decode_encode coding plain packed h := by
    simp only [Option.ite_none_right_eq_some] at h
    obtain ⟨hc, hp⟩ := h
    cases hp
    simp_all
  encode_nonempty coding plain packed h := by
    simp only [Option.ite_none_right_eq_some] at h
    obtain ⟨hc, hp⟩ := h
    cases hp
    simp_all

open Compression in
/- Write bytes in a coding. -/
def write
    (coding : Coding)
    (plain : ByteArray) : ByteArray :=
  match coding with
  | .gzip => Gzip.compress plain
  | .deflate => Zlib.compress plain
  | .brotli => Brotli.compress plain

open Compression in
/- Read bytes in a coding. -/
def read
    (coding : Coding)
    (packed : ByteArray) : Option ByteArray :=
  match coding with
  | .gzip => Gzip.decompress packed
  | .deflate => Zlib.decompress packed
  | .brotli => Brotli.decompress packed

/- The compressor for the three codings. -/
def standard : Compressor :=
  checked write read

end Compressor

/- The codec with the usual rules. -/
def Codec.standard : Codec where
  compressor := .standard

end Courier
