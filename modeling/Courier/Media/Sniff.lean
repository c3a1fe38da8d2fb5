import Courier.Media.Extension

/-
  This file tells the content type of bytes by how they begin,
  the way browsers do.

  Key definitions include:
    * `Media.sniffLength`
    * `Media.isTag`
    * `Media.isBinary`
    * `Media.sniffHead`
    * `Media.sniff`
-/

namespace Courier.Media

/- How many leading bytes are looked at. -/
def sniffLength : Nat :=
  512

/- The bytes of an ASCII text. -/
def ascii
    (s : String) : List UInt8 :=
  s.toList.map fun c => UInt8.ofNat c.toNat

/- The beginnings that make bytes an HTML document. -/
def htmlTags : List (List UInt8) :=
  ["<!DOCTYPE HTML", "<HTML", "<HEAD", "<SCRIPT", "<IFRAME",
    "<H1", "<DIV", "<FONT", "<TABLE", "<A", "<STYLE", "<TITLE",
    "<B", "<BODY", "<BR", "<P", "<!--"].map ascii

/- The beginnings that settle a content type, in order. -/
def signatures : List (List UInt8 × String) :=
  [ (ascii "%PDF-", "application/pdf"),
    (ascii "%!PS-Adobe-", "application/postscript"),
    (ascii "GIF87a", "image/gif"),
    (ascii "GIF89a", "image/gif"),
    ([0x89, 0x50, 0x4E, 0x47, 0x0D, 0x0A, 0x1A, 0x0A],
      "image/png"),
    ([0xFF, 0xD8, 0xFF], "image/jpeg"),
    (ascii "BM", "image/bmp"),
    ([0x00, 0x00, 0x01, 0x00], "image/x-icon"),
    ([0x1F, 0x8B, 0x08], "application/x-gzip"),
    ([0x50, 0x4B, 0x03, 0x04], "application/zip"),
    (ascii "OggS" ++ [0x00], "application/ogg"),
    ([0x1A, 0x45, 0xDF, 0xA3], "video/webm"),
    (ascii "ID3", "audio/mpeg"),
    (ascii "wOFF", "font/woff"),
    (ascii "wOF2", "font/woff2"),
    ([0x00] ++ ascii "asm", "application/wasm") ]

/- The blanks that may stand before a tag. -/
def isMarkupBlank
    (b : UInt8) : Bool :=
  b = 9 || b = 10 || b = 12 || b = 13 || b = 32

/- An ASCII letter in upper case. -/
def upperByte
    (b : UInt8) : UInt8 :=
  if 97 ≤ b && b ≤ 122 then b - 32 else b

/-
  True when the bytes begin with the tag in any casing and a
  space or a closing bracket follows it.
-/
def isTag
    (bytes tag : List UInt8) : Bool :=
  (bytes.take tag.length).map upperByte = tag
    && match bytes.drop tag.length with
      | b :: _ => b = 32 || b = 62
      | [] => false

/- The bytes that do not occur in text. -/
def isBinary
    (b : UInt8) : Bool :=
  b ≤ 0x08 || b = 0x0B || (0x0E ≤ b && b ≤ 0x1A)
    || (0x1C ≤ b && b ≤ 0x1F)

/- The content type of the bytes that are looked at. -/
def sniffHead
    (head : List UInt8) : String :=
  let trimmed := head.dropWhile isMarkupBlank
  if htmlTags.any (isTag trimmed) then
    "text/html; charset=utf-8"
  else if (ascii "<?xml").isPrefixOf trimmed then
    "text/xml; charset=utf-8"
  else
    match signatures.find? (·.1.isPrefixOf head) with
    | some (_, contentType) => contentType
    | none =>
        if (ascii "RIFF").isPrefixOf head
            && (head.drop 8).take 4 = ascii "WEBP" then
          "image/webp"
        else if (head.drop 4).take 4 = ascii "ftyp"
            && 12 ≤ head.length then
          "video/mp4"
        else if head.any isBinary then
          octetStream
        else
          "text/plain; charset=utf-8"

/- The content type of bytes by how they begin. -/
def sniff
    (data : ByteArray) : String :=
  sniffHead (data.extract 0 sniffLength).toList

end Courier.Media
