import PhraseStructure.Text.Multibyte.Switched
import PhraseStructure.Text.Multibyte.TraditionalChinese

/-!
# Encodings of several bytes

The encodings with characters of several bytes, under their main names.
-/

namespace PhraseStructure.Text

/-- The encodings with characters of several bytes. -/
inductive MultibyteCode
  | gb2312
  | gbk
  | gb18030
  | hz
  | big5
  | cp950
  | big5Hkscs
  | eucKr
  | cp949
  | johab
  | shiftJis
  | cp932
  | eucJp
  | eucJis (edition : JisEdition)
  | shiftJisX0213 (edition : JisEdition)
  | switched (code : Multibyte.SwitchedCode)

namespace MultibyteCode

open Multibyte

/-- The text of bytes. -/
def decode : MultibyteCode → List UInt8 → Except DecodingFault (List Char)
  | gb2312 => Multibyte.decode "gb2312" (readPairs gb2312Pair)
  | gbk => Multibyte.decode "gbk" (readPairs gbkPair)
  | gb18030 => Multibyte.decode "gb18030" readGb18030
  | hz => decodeSwitching "hz" readHz false
  | big5 => Multibyte.decode "big5" (readPairs big5Pair)
  | cp950 => Multibyte.decode "cp950" (readPairs cp950Pair)
  | big5Hkscs => Multibyte.decode "big5hkscs" (readPairs hkscsPair)
  | eucKr => Multibyte.decode "euc_kr" readEucKr
  | cp949 => Multibyte.decode "cp949" (readPairs cp949Pair)
  | johab => Multibyte.decode "johab" (readPairs johabPair)
  | shiftJis => Multibyte.decode "shift_jis" (readShiftJis shiftJisSingle? shiftJisCell?)
  | cp932 => Multibyte.decode "cp932" (readShiftJis cp932Single? cp932Cell?)
  | eucJp => Multibyte.decode "euc_jp" readEucJp
  | eucJis edition => Multibyte.decode "euc_jis_2004" (readEucJis edition)
  | shiftJisX0213 edition =>
      Multibyte.decode "shift_jis_2004"
        (readShiftJis shiftJis2004Single? (shiftJis2004Cell? edition))
  | switched code => code.decode

/-- The encoding with a main name. -/
def ofMainName? : String → Option MultibyteCode
  | "gb2312" => some gb2312
  | "gbk" => some gbk
  | "gb18030" => some gb18030
  | "hz" => some hz
  | "big5" => some big5
  | "cp950" => some cp950
  | "big5hkscs" => some big5Hkscs
  | "euc_kr" => some eucKr
  | "cp949" => some cp949
  | "johab" => some johab
  | "shift_jis" => some shiftJis
  | "cp932" => some cp932
  | "euc_jp" => some eucJp
  | "euc_jisx0213" => some (eucJis .first)
  | "euc_jis_2004" => some (eucJis .revised)
  | "shift_jisx0213" => some (shiftJisX0213 .first)
  | "shift_jis_2004" => some (shiftJisX0213 .revised)
  | name => (switchedCodes.find? (·.name = name)).map switched

end MultibyteCode

end PhraseStructure.Text
