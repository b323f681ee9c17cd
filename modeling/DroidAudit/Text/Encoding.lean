import DroidAudit.Text.Charset.Shifted
import DroidAudit.Text.CodePage
import DroidAudit.Text.Escaped
import DroidAudit.Text.Lines
import DroidAudit.Text.Punycode
import DroidAudit.Text.Units
import DroidAudit.Text.Utf7
import DroidAudit.Text.Utf8

/-! From bytes to text, by the name of an encoding. -/
namespace DroidAudit.Text

inductive ByteTable
  | page (p : CodePage)
  /-- Some characters take several bytes. -/
  | several
  /-- Bytes from 128 on cannot be read. -/
  | asciiOnly
  /-- Nothing can be read with a table, for a reason. -/
  | refused (reason : String)

structure Encoding where
  names : List String
  aliases : List String := []
  decoder : Decoder
  table : ByteTable := .several

namespace Encoding

def utf8 : Encoding where
  names := ["utf_8"]
  aliases := ["cp65001", "u8", "utf", "utf8", "utf8_ucs2", "utf8_ucs4"]
  decoder := .utf8
  table := .page .ascii

def universal : List Encoding :=
  [utf8,
   { names := ["utf_8_sig"], decoder := .utf8Marked, table := .page .ascii },
   { names := ["utf_7"], aliases := ["u7", "unicode_1_1_utf_7", "utf7"], decoder := Utf7.decoder },
   { names := ["utf_16"], aliases := ["u16", "utf16"], decoder := .utf16Marked },
   { names := ["utf_16_be"], aliases := ["unicodebigunmarked", "utf_16be"],
     decoder := .utf16 .bigEndian },
   { names := ["utf_16_le"], aliases := ["unicodelittleunmarked", "utf_16le"],
     decoder := .utf16 .littleEndian },
   { names := ["utf_32"], aliases := ["u32", "utf32"], decoder := .utf32Marked },
   { names := ["utf_32_be"], aliases := ["utf_32be"], decoder := .utf32 .bigEndian },
   { names := ["utf_32_le"], aliases := ["utf_32le"], decoder := .utf32 .littleEndian },
   { names := ["unicode_escape"], decoder := .ofHead Escaped.full, table := .page .latin1 },
   { names := ["raw_unicode_escape"], decoder := .ofHeads () fun final _ => Escaped.raw final,
     table := .page .latin1 },
   { names := ["punycode"], decoder := Punycode.decoder, table := .asciiOnly },
   { names := ["idna"], decoder := Punycode.hostDecoder,
     table := .refused "Unsupported error handling replace" },
   { names := ["undefined"], decoder := .ofHead fun _ => .fault,
     table := .refused "undefined encoding" }]

open Charset in
def chinese : List Encoding :=
  [{ names := ["gb2312"]
     aliases :=
       ["chinese", "csiso58gb231280", "euc_cn", "euccn", "eucgb2312_cn", "gb2312_1980", "gb2312_80",
        "iso_ir_58", "x_mac_simp_chinese"]
     decoder := .ofHead (doubleByte gb2312Char?) },
   { names := ["gbk"], aliases := ["936", "cp936", "ms936"],
     decoder := .ofHead (doubleByte gbkChar?) },
   { names := ["gb18030"], aliases := ["gb18030_2000"], decoder := .ofHead Charset.gb18030 },
   { names := ["big5"], aliases := ["big5_tw", "csbig5", "x_mac_trad_chinese"],
     decoder := .ofHead (doubleByte big5Char?) },
   { names := ["cp950"], aliases := ["950", "ms950"],
     decoder := .ofHead (doubleByte page950Char?) },
   { names := ["big5hkscs"], aliases := ["big5_hkscs", "hkscs"], decoder := .ofHead big5HongKong },
   { names := ["hz"], aliases := ["hz_gb", "hz_gb_2312", "hzgb"],
     decoder := .ofHeads false fun _ => Charset.hz,
     table := .page { CodePage.ascii with lower := asciiHalf.map fun c => if c == '~' then
       CodePage.undefinedChar else c } }]

open Charset in
def japanese : List Encoding :=
  [{ names := ["shift_jis"]
     aliases := ["csshiftjis", "s_jis", "shiftjis", "sjis", "x_mac_japanese"]
     decoder := .ofHead shiftJis },
   { names := ["cp932"], aliases := ["932", "ms932", "ms_kanji", "mskanji"],
     decoder := .ofHead page932 },
   { names := ["shift_jis_2004"], aliases := ["s_jis_2004", "shiftjis2004", "sjis_2004"],
     decoder := .ofHead (shiftJis0213 .of2004) },
   { names := ["shift_jisx0213"], aliases := ["s_jisx0213", "shiftjisx0213", "sjisx0213"],
     decoder := .ofHead (shiftJis0213 .of2000) },
   { names := ["euc_jp"], aliases := ["eucjp", "u_jis", "ujis"], decoder := .ofHead eucJp },
   { names := ["euc_jis_2004"], aliases := ["euc_jis2004", "eucjis2004", "jisx0213"],
     decoder := .ofHead (eucJis0213 .of2004) },
   { names := ["euc_jisx0213"], aliases := ["eucjisx0213"],
     decoder := .ofHead (eucJis0213 .of2000) }]

open Charset in
def korean : List Encoding :=
  [{ names := ["euc_kr"]
     aliases :=
       ["euckr", "korean", "ks_c_5601", "ks_c_5601_1987", "ks_x_1001", "ksc5601", "ksx1001",
        "x_mac_korean"]
     decoder := .ofHead eucKr },
   { names := ["cp949"], aliases := ["949", "ms949", "uhc"],
     decoder := .ofHead (doubleByte page949Char?) },
   { names := ["johab"], aliases := ["cp1361", "ms1361"],
     decoder := .ofHead (doubleByte johabChar?) }]

open Charset in
def escapeSequences : List Encoding :=
  let kind (k : Iso2022) : Decoder := .ofHeads {} fun _ => iso2022 k
  [{ names := ["iso2022_kr"], aliases := ["csiso2022kr", "iso2022kr", "iso_2022_kr"],
     decoder := kind .kr },
   { names := ["iso2022_jp"], aliases := ["csiso2022jp", "iso2022jp", "iso_2022_jp"],
     decoder := kind .jp, table := .page .ascii },
   { names := ["iso2022_jp_1"], aliases := ["iso2022jp_1", "iso_2022_jp_1"],
     decoder := kind .jp1, table := .page .ascii },
   { names := ["iso2022_jp_2"], aliases := ["iso2022jp_2", "iso_2022_jp_2"],
     decoder := kind .jp2, table := .page .ascii },
   { names := ["iso2022_jp_2004"], aliases := ["iso2022jp_2004", "iso_2022_jp_2004"],
     decoder := kind .jp2004, table := .page .ascii },
   { names := ["iso2022_jp_3"], aliases := ["iso2022jp_3", "iso_2022_jp_3"],
     decoder := kind .jp3, table := .page .ascii },
   { names := ["iso2022_jp_ext"], aliases := ["iso2022jp_ext", "iso_2022_jp_ext"],
     decoder := kind .jpExtended, table := .page .ascii }]

def ofPage (p : CodePage) : Encoding where
  names := p.names
  aliases := p.aliases
  decoder := p.decoder
  table := .page p

def all : List Encoding :=
  universal ++ CodePage.all.map ofPage ++ chinese ++ japanese ++ korean ++ escapeSequences

/-- The parts of a name between signs, in small letters with low lines between them. Points count
as letters. -/
def tidyName (name : String) : String :=
  let isSign (c : Char) : Bool := !(c.isAlphanum || c == '.')
  let parts := splitAt '_' (name.toLower.toList.map fun c => if isSign c then '_' else c)
  String.intercalate "_" ((parts.filter (!·.isEmpty)).map String.ofList)

/-- The encoding of a name. Points may stand for low lines in a further name only. -/
def find? (name : String) : Option Encoding :=
  let tidy := tidyName name
  let other := replace tidy "." "_"
  all.find? fun e =>
    e.aliases.contains tidy || e.aliases.contains other ||
      (tidy == other && e.names.contains tidy)

/-- The names of encodings that make bytes or text of something else than text. -/
def byteNames : List String :=
  ["base64", "base64_codec", "base_64", "bz2", "bz2_codec", "hex", "hex_codec", "quopri",
   "quopri_codec", "quoted_printable", "quotedprintable", "rot13", "rot_13", "uu", "uu_codec",
   "zip", "zlib", "zlib_codec"]

def isOfBytes (name : String) : Bool := byteNames.contains (tidyName name)

/-- The encoding in which a file is to be read. The word `locale` stands for the usual one. -/
def ofName? (name : String) : Option Encoding :=
  if name == "locale" then some utf8
  else if name.contains '\x00' then none
  else find? name

end Encoding

def blockSize : Nat := 8192

def blocksFrom : Nat → List UInt8 → List (List UInt8)
  | _, [] => []
  | 0, bytes => [bytes]
  | n + 1, bytes => bytes.take blockSize :: blocksFrom n (bytes.drop blockSize)

def blocks (bytes : List UInt8) : List (List UInt8) := blocksFrom bytes.length bytes

/-- The lines of text with unified line ends, each with its line feed. -/
def linesRead (cs : List Char) : List (List Char) := linesKept (unifyNewlines cs)

/-- The lines of text behind which a fault shows. A line that is not complete is lost, and so is
one that ends in a carriage return, as a line feed could have followed. -/
def completeLines (cs : List Char) : List (List Char) :=
  let cs := if cs.getLast? == some '\r' then cs.dropLast else cs
  (linesRead cs).filter fun l => l.getLast? == some '\n'

def Encoding.linesOf (e : Encoding) (bytes : ByteArray) : List (List Char) :=
  let (cs, complete) := e.decoder.read (blocks bytes.toList)
  if complete then linesRead cs else completeLines cs

def utf8Lines (bytes : ByteArray) : List (List Char) × Option DecodeFault :=
  (Encoding.utf8.linesOf bytes, utf8Fault bytes)

end DroidAudit.Text
