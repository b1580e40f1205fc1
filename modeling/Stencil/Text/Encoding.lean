import Stencil.Text.Encoding.Single
import Stencil.Text.Encoding.Units
import Stencil.Text.Encoding.Utf8

/-!
Byte strings as encoded text: the encodings, the names they go by, and decoding. A mark before the
text tells its encoding from the ones alike.
-/

namespace Stencil

inductive Encoding
  | utf8
  /-- With or without a mark before the text. -/
  | markedUtf8
  /-- In an order of bytes, or in the one that a mark tells. -/
  | utf16 (order : Option ByteOrder)
  | utf32 (order : Option ByteOrder)
  | ascii
  | latin1
  | latin9
  | page1252
deriving DecidableEq

/-- Bytes that a definite encoding is to decode, and the position of the first of them. -/
structure Encoded where
  encoding : Encoding
  position : Nat
  bytes : List UInt8

namespace Encoding

def mark (width : Nat) : ByteOrder → List UInt8
  | .little => [0xFF, 0xFE] ++ List.replicate (width - 2) 0
  | .big => List.replicate (width - 2) 0 ++ [0xFE, 0xFF]

/-- Settles the order of bytes by the mark. Without a mark, the least significant byte is first. -/
def settleOrder (width : Nat) (encoding : Option ByteOrder → Encoding) (bs : List UInt8) :
    Encoded :=
  if (mark width .little).isPrefixOf bs then ⟨encoding (some .little), width, bs.drop width⟩
  else if (mark width .big).isPrefixOf bs then ⟨encoding (some .big), width, bs.drop width⟩
  else ⟨encoding (some .little), 0, bs⟩

/-- Settles what a mark decides. The mark of an encoding in bytes does not count as a position. -/
def settle (encoding : Encoding) (bs : List UInt8) : Encoded :=
  match encoding with
  | .markedUtf8 =>
    let utf8Mark : List UInt8 := [0xEF, 0xBB, 0xBF]
    ⟨.utf8, 0, if utf8Mark.isPrefixOf bs then bs.drop 3 else bs⟩
  | .utf16 none => settleOrder 2 .utf16 bs
  | .utf32 none => settleOrder 4 .utf32 bs
  | e => ⟨e, 0, bs⟩

end Encoding

namespace Encoded

def decode (e : Encoded) : Except Undecodable Text :=
  match e.encoding with
  | .utf8 | .markedUtf8 => Encoding.decodeUtf8 e.position none e.bytes
  | .utf16 order => Encoding.decodeUtf16 (order.getD .little) e.position e.bytes
  | .utf32 order => Encoding.decodeUtf32 (order.getD .little) e.position e.bytes
  | .ascii => Encoding.decodeSingle Encoding.asciiByte e.position e.bytes
  | .latin1 => Encoding.decodeSingle Encoding.latin1Byte e.position e.bytes
  | .latin9 => Encoding.decodeSingle Encoding.latin9Byte e.position e.bytes
  | .page1252 => Encoding.decodeSingle Encoding.page1252Byte e.position e.bytes

end Encoded

namespace Encoding

def title : Encoding → Text
  | .utf8 | .markedUtf8 => "utf-8"
  | .utf16 order => "utf-16" ++ (order.map (·.suffix)).getD []
  | .utf32 order => "utf-32" ++ (order.map (·.suffix)).getD []
  | .ascii => "ascii"
  | .latin1 => "latin-1"
  | .latin9 | .page1252 => "charmap"

/--
The encodings by their own names and the others they go by, in small letters and with underscores
between the parts.
-/
def byNames : List (Text × List Text × Encoding) :=
  [("utf_8", ["u8", "utf", "utf8", "utf8_ucs2", "utf8_ucs4", "cp65001"], .utf8),
   ("utf_8_sig", [], .markedUtf8),
   ("utf_16", ["u16", "utf16"], .utf16 none),
   ("utf_16_le", ["unicodelittleunmarked", "utf_16le"], .utf16 (some .little)),
   ("utf_16_be", ["unicodebigunmarked", "utf_16be"], .utf16 (some .big)),
   ("utf_32", ["u32", "utf32"], .utf32 none),
   ("utf_32_le", ["utf_32le"], .utf32 (some .little)),
   ("utf_32_be", ["utf_32be"], .utf32 (some .big)),
   ("ascii",
    ["646", "ansi_x3.4_1968", "ansi_x3_4_1968", "ansi_x3.4_1986", "cp367", "csascii", "ibm367",
     "iso646_us", "iso_646.irv_1991", "iso_ir_6", "us", "us_ascii"], .ascii),
   ("latin_1",
    ["8859", "cp819", "csisolatin1", "ibm819", "iso8859", "iso8859_1", "iso_8859_1",
     "iso_8859_1_1987", "iso_ir_100", "l1", "latin", "latin1"], .latin1),
   ("iso8859_15", ["iso_8859_15", "l9", "latin9"], .latin9),
   ("cp1252", ["1252", "windows_1252"], .page1252)]

/-- Names of conversions that turn bytes into something else than text. -/
def otherConversions : List Text :=
  ["base64_codec", "base64", "base_64", "bz2_codec", "bz2", "hex_codec", "hex", "quopri_codec",
   "quopri", "quoted_printable", "quotedprintable", "rot_13", "rot13", "uu_codec", "uu",
   "zlib_codec", "zip", "zlib"]

/-- The ASCII letter or digit, in small form, or the point that a name keeps. -/
def nameMember? (c : CodePoint) : Option CodePoint :=
  let n := c.val
  if (0x30 ≤ n ∧ n ≤ 0x39) ∨ (0x61 ≤ n ∧ n ≤ 0x7A) ∨ c = CodePoint.ofChar '.' then some c
  else if 0x41 ≤ n ∧ n ≤ 0x5A then some (codePoint (n + 0x20))
  else none

/-- A name in its common form: every run of other characters between its parts is an underscore. -/
def normalize (name : Text) : Text :=
  Text.join "_" ((name.map nameMember?).splitOnP (·.isNone) |>.map (·.filterMap id) |>.filter
    (· ≠ []))

def withoutPoints (name : Text) : Text :=
  name.map fun c => if c = CodePoint.ofChar '.' then CodePoint.ofChar '_' else c

/-- The encoding of a name. A point may stand for an underscore, but not in its own name. -/
def ofName? (name : Text) : Option Encoding :=
  let name := normalize name
  (byNames.find? fun (own, others, _) =>
    own = name || others.contains name || others.contains (withoutPoints name)).map (·.2.2)

end Encoding
end Stencil
