import Copybook.Text.Utf16

/-!
Code pages: how text is written as bytes, and read from them. Reading never fails; a byte without a
character reads as the replacement character.

These are the three EBCDIC pages, ASCII, Latin-1 and two forms of Unicode. Any other encoding is a parameter of
the conversion that uses it.
-/

namespace Copybook

inductive CodePage
  | cp037
  | cp500
  | cp1140
  | ascii
  | latin1
  | utf8
  | utf16
  deriving DecidableEq, Repr

namespace CodePage

-- The code points of cp037, byte by byte.
def cp037Codes : List Nat := [
    0x00, 0x01, 0x02, 0x03, 0x9c, 0x09, 0x86, 0x7f, 0x97, 0x8d, 0x8e, 0x0b, 0x0c, 0x0d, 0x0e, 0x0f,
    0x10, 0x11, 0x12, 0x13, 0x9d, 0x85, 0x08, 0x87, 0x18, 0x19, 0x92, 0x8f, 0x1c, 0x1d, 0x1e, 0x1f,
    0x80, 0x81, 0x82, 0x83, 0x84, 0x0a, 0x17, 0x1b, 0x88, 0x89, 0x8a, 0x8b, 0x8c, 0x05, 0x06, 0x07,
    0x90, 0x91, 0x16, 0x93, 0x94, 0x95, 0x96, 0x04, 0x98, 0x99, 0x9a, 0x9b, 0x14, 0x15, 0x9e, 0x1a,
    0x20, 0xa0, 0xe2, 0xe4, 0xe0, 0xe1, 0xe3, 0xe5, 0xe7, 0xf1, 0xa2, 0x2e, 0x3c, 0x28, 0x2b, 0x7c,
    0x26, 0xe9, 0xea, 0xeb, 0xe8, 0xed, 0xee, 0xef, 0xec, 0xdf, 0x21, 0x24, 0x2a, 0x29, 0x3b, 0xac,
    0x2d, 0x2f, 0xc2, 0xc4, 0xc0, 0xc1, 0xc3, 0xc5, 0xc7, 0xd1, 0xa6, 0x2c, 0x25, 0x5f, 0x3e, 0x3f,
    0xf8, 0xc9, 0xca, 0xcb, 0xc8, 0xcd, 0xce, 0xcf, 0xcc, 0x60, 0x3a, 0x23, 0x40, 0x27, 0x3d, 0x22,
    0xd8, 0x61, 0x62, 0x63, 0x64, 0x65, 0x66, 0x67, 0x68, 0x69, 0xab, 0xbb, 0xf0, 0xfd, 0xfe, 0xb1,
    0xb0, 0x6a, 0x6b, 0x6c, 0x6d, 0x6e, 0x6f, 0x70, 0x71, 0x72, 0xaa, 0xba, 0xe6, 0xb8, 0xc6, 0xa4,
    0xb5, 0x7e, 0x73, 0x74, 0x75, 0x76, 0x77, 0x78, 0x79, 0x7a, 0xa1, 0xbf, 0xd0, 0xdd, 0xde, 0xae,
    0x5e, 0xa3, 0xa5, 0xb7, 0xa9, 0xa7, 0xb6, 0xbc, 0xbd, 0xbe, 0x5b, 0x5d, 0xaf, 0xa8, 0xb4, 0xd7,
    0x7b, 0x41, 0x42, 0x43, 0x44, 0x45, 0x46, 0x47, 0x48, 0x49, 0xad, 0xf4, 0xf6, 0xf2, 0xf3, 0xf5,
    0x7d, 0x4a, 0x4b, 0x4c, 0x4d, 0x4e, 0x4f, 0x50, 0x51, 0x52, 0xb9, 0xfb, 0xfc, 0xf9, 0xfa, 0xff,
    0x5c, 0xf7, 0x53, 0x54, 0x55, 0x56, 0x57, 0x58, 0x59, 0x5a, 0xb2, 0xd4, 0xd6, 0xd2, 0xd3, 0xd5,
    0x30, 0x31, 0x32, 0x33, 0x34, 0x35, 0x36, 0x37, 0x38, 0x39, 0xb3, 0xdb, 0xdc, 0xd9, 0xda, 0x9f]

-- A code page that has other code points than cp037 for some bytes.
def variant (changes : List (Nat × Nat)) : List Char :=
  cp037Codes.zipIdx.map fun (code, byte) => Char.ofNat ((changes.lookup byte).getD code)

def cp037Chars : List Char :=
  variant []

def cp500Chars : List Char :=
  variant [(0x4a, 0x5b), (0x4f, 0x21), (0x5a, 0x5d), (0x5f, 0x5e), (0xb0, 0xa2), (0xba, 0xac), (0xbb, 0x7c)]

def cp1140Chars : List Char :=
  variant [(0x9f, 0x20ac)]

def asciiChars : List Char :=
  (List.range 0x80).map Char.ofNat

def latin1Chars : List Char :=
  (List.range 0x100).map Char.ofNat

-- The characters of a code page with one byte for each, in the order of the bytes.
def chars? : CodePage → Option (List Char)
  | cp037 => some cp037Chars
  | cp500 => some cp500Chars
  | cp1140 => some cp1140Chars
  | ascii => some asciiChars
  | latin1 => some latin1Chars
  | utf8 => none
  | utf16 => none

def decode (page : CodePage) (b : Bytes) : Text :=
  match page.chars? with
  | some chars => b.map fun byte => chars.getD byte.toNat replacementChar
  | none => if page = utf8 then Utf8.decode b else Utf16.decode b

def encodeChar? (page : CodePage) (c : Char) : Option Bytes :=
  match page.chars? with
  | some chars => (chars.idxOf? c).map fun byte => [UInt8.ofNat byte]
  | none => some (if page = utf8 then String.utf8EncodeChar c else Utf16.encodeChar c)

-- The bytes of a text, if the code page has all its characters.
def encode? (page : CodePage) (s : Text) : Option Bytes :=
  (s.mapM page.encodeChar?).map List.flatten

-- A name in small ASCII letters, digits and points, each run of other characters between two of those
-- being one low line.
def plainName (name : Text) : Text :=
  let plain := name.map fun c => if c.isAlphanum || c == '.' then c.toLower else ' '
  Text.join ['_'] (((Text.splitOn ' ' plain).filter fun piece => !piece.isEmpty))

def ownName : CodePage → String
  | cp037 => "cp037"
  | cp500 => "cp500"
  | cp1140 => "cp1140"
  | ascii => "ascii"
  | latin1 => "latin_1"
  | utf8 => "utf_8"
  | utf16 => "utf_16_le"

-- The other names under which each code page is known.
def aliases : CodePage → List String
  | cp037 => ["037", "csibm037", "ebcdic_cp_ca", "ebcdic_cp_nl", "ebcdic_cp_us", "ebcdic_cp_wt", "ibm037",
      "ibm039"]
  | cp500 => ["500", "csibm500", "ebcdic_cp_be", "ebcdic_cp_ch", "ibm500"]
  | cp1140 => ["1140", "ibm1140"]
  | ascii => ["646", "ansi_x3.4_1968", "ansi_x3_4_1968", "ansi_x3.4_1986", "cp367", "csascii", "ibm367",
      "iso646_us", "iso_646.irv_1991", "iso_ir_6", "us", "us_ascii"]
  | latin1 => ["8859", "cp819", "csisolatin1", "ibm819", "iso8859", "iso8859_1", "iso_8859_1",
      "iso_8859_1_1987", "iso_ir_100", "l1", "latin", "latin1"]
  | utf8 => ["u8", "utf", "utf8", "utf8_ucs2", "utf8_ucs4", "cp65001"]
  | utf16 => ["unicodelittleunmarked", "utf_16le"]

def all : List CodePage :=
  [cp037, cp500, cp1140, ascii, latin1, utf8, utf16]

-- The code page of a name. In an alias a point is as good as a low line; a name with a NUL is none.
def ofName? (name : Text) : Option CodePage :=
  if name.contains '\x00' then none
  else
    let plain := plainName name
    all.find? fun page => page.ownName.toList == plain ||
      page.aliases.any fun known => known.toList == plain || known.toList == Text.replaceChar '.' '_' plain

end CodePage

end Copybook
