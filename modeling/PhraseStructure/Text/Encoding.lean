import PhraseStructure.Text.CodePage.Graphic
import PhraseStructure.Text.CodePage.Publishing
import PhraseStructure.Text.CodePage.Regional
import PhraseStructure.Text.CodePage.Scattered
import PhraseStructure.Text.CodePage.Standard
import PhraseStructure.Text.CodePage.Typographic
import PhraseStructure.Text.DomainName.Basic
import PhraseStructure.Text.EncodingName
import PhraseStructure.Text.Escaped
import PhraseStructure.Text.Lines
import PhraseStructure.Text.Multibyte.Code
import PhraseStructure.Text.Utf7

/-!
# Encodings of files

A file may be declared to be written in one of several encodings, which are known under several
names.
-/

namespace PhraseStructure.Text

/-- How the text of a file is written. -/
inductive Encoding
  | utf7
  | utf8
  /-- UTF-8 behind a mark that may be missing. -/
  | markedUtf8
  /-- Units of two bytes, in a given order or behind a mark. -/
  | utf16 (order : Option ByteOrder)
  /-- Units of four bytes, in a given order or behind a mark. -/
  | utf32 (order : Option ByteOrder)
  /-- One byte for each of the first characters. -/
  | latin1
  /-- One byte for each character of the basic block. -/
  | ascii
  | codePage (page : CodePage)
  | multibyte (code : MultibyteCode)
  /-- Characters by their numbers behind backslashes; in the raw form only long numbers. -/
  | escaped (raw : Bool)
  | punycode
  /-- Domain names. -/
  | idna
  /-- The encoding that no text is written in. -/
  | undefined

namespace Encoding

/-- The code pages under their main names. -/
def pages : List (String × CodePage) :=
  CodePage.standardPages ++ CodePage.typographicPages ++ CodePage.graphicPages ++
    CodePage.scatteredPages ++ CodePage.publishingPages ++ CodePage.regionalPages

/-- The encoding with a main name. -/
def ofMainName? : String → Option Encoding
  | "utf_7" => some utf7
  | "utf_8" => some utf8
  | "utf_8_sig" => some markedUtf8
  | "utf_16" => some (utf16 none)
  | "utf_16_le" => some (utf16 (some .little))
  | "utf_16_be" => some (utf16 (some .big))
  | "utf_32" => some (utf32 none)
  | "utf_32_le" => some (utf32 (some .little))
  | "utf_32_be" => some (utf32 (some .big))
  | "latin_1" => some latin1
  | "ascii" => some ascii
  | "unicode_escape" => some (escaped false)
  | "raw_unicode_escape" => some (escaped true)
  | "punycode" => some punycode
  | "idna" => some idna
  | "undefined" => some undefined
  | name => (pages.lookup name).map codePage <|> (MultibyteCode.ofMainName? name).map multibyte

/-- The encoding with a name. One name stands for the encoding of the place where the program
runs. -/
def ofName? (name : String) : Option Encoding :=
  if name = "locale" then some utf8 else ofMainName? (mainName (commonForm name))

/-- The mark in front of text in UTF-8. -/
def mark : List UInt8 := [0xEF, 0xBB, 0xBF]

/-- The text of UTF-8 behind a mark. Bytes that end inside the mark are no text yet. -/
def decodeMarkedUtf8 (bytes : List UInt8) : Except DecodingFault (List Char) :=
  if mark.isPrefixOf bytes then decodeUtf8 (bytes.drop mark.length)
  else if bytes.isPrefixOf mark then .ok []
  else decodeUtf8 bytes

/-- The characters that bytes encode. -/
def decode (encoding : Encoding) (bytes : List UInt8) : Except DecodingFault (List Char) :=
  match encoding with
  | utf7 => Utf7.decode bytes
  | utf8 => decodeUtf8 bytes
  | markedUtf8 => decodeMarkedUtf8 bytes
  | utf16 order => decodeUtf16 order bytes
  | utf32 order => decodeUtf32 order bytes
  | latin1 => .ok (decodeLatin1 bytes)
  | ascii => decodeAscii bytes
  | codePage page => page.decode bytes
  | multibyte code => code.decode bytes
  | escaped raw => Escaped.decode raw bytes
  | punycode => Punycode.decode bytes
  | idna => DomainName.decode bytes
  | undefined => .error ⟨"undefined", bytes.headD 0, 0, bytes.length, .noText⟩

/-- The text of a file. -/
def decodeFile (encoding : Encoding) (bytes : List UInt8) : Except DecodingFault (List Char) :=
  (encoding.decode bytes).map normalizeNewlines

end Encoding

end PhraseStructure.Text
