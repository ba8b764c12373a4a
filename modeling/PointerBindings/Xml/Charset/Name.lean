import PointerBindings.Xml.Charset.CodePage
import PointerBindings.Xml.Charset.Iso
import PointerBindings.Xml.Charset.Macintosh
import PointerBindings.Xml.Charset.Regional
import PointerBindings.Xml.Charset.Windows

/-! # Character set names — what a declared name stands for

    A name is looked up in small letters, with one underscore for each run of hyphens
    and underscores.  It may stand for a set whose characters take one byte each, for
    one that takes more bytes for some, for one whose lower half is not ASCII, or for
    something that is no way to write texts at all. -/

namespace PointerBindings.Xml

open Text

/-- Sets that have no character in the upper half, or none that stands by itself. -/
def asciiNames : List CharsetName :=
  [⟨"ascii", ["ansi_x3.4_1968", "ansi_x3.4_1986", "ansi_x3_4_1968", "cp367", "csascii", "ibm367",
    "iso646_us", "iso_646.irv_1991", "iso_ir_6", "us", "us_ascii"]⟩,
   ⟨"iso2022_jp", ["csiso2022jp", "iso2022jp", "iso_2022_jp"]⟩,
   ⟨"iso2022_jp_1", ["iso2022jp_1", "iso_2022_jp_1"]⟩,
   ⟨"iso2022_jp_2", ["iso2022jp_2", "iso_2022_jp_2"]⟩,
   ⟨"iso2022_jp_2004", ["iso2022jp_2004", "iso_2022_jp_2004"]⟩,
   ⟨"iso2022_jp_3", ["iso2022jp_3", "iso_2022_jp_3"]⟩,
   ⟨"iso2022_jp_ext", ["iso2022jp_ext", "iso_2022_jp_ext"]⟩,
   ⟨"utf_8", ["cp65001", "u8", "utf", "utf8", "utf8_ucs2", "utf8_ucs4"]⟩,
   ⟨"utf_8_sig", []⟩]

/-- Sets like these that have no tilde either. -/
def tildelessNames : List CharsetName :=
  [⟨"hz", ["hz_gb", "hz_gb_2312", "hzgb"]⟩]

/-- Sets whose upper half has the characters with the codes from 128 on. -/
def latinNames : List CharsetName :=
  [⟨"charmap", []⟩,
   ⟨"iso8859_1", []⟩,
   ⟨"latin_1", ["cp819", "csisolatin1", "ibm819", "iso8859", "iso8859_1", "iso_8859_1",
    "iso_8859_1_1987", "iso_ir_100", "l1", "latin", "latin1"]⟩,
   ⟨"raw_unicode_escape", []⟩,
   ⟨"unicode_escape", []⟩]

/-- Sets that take more than one byte for some characters. -/
def multiByteNames : List CharsetName :=
  [⟨"big5", ["big5_tw", "csbig5", "x_mac_trad_chinese"]⟩,
   ⟨"big5hkscs", ["big5_hkscs", "hkscs"]⟩,
   ⟨"cp932", ["ms932", "ms_kanji", "mskanji"]⟩,
   ⟨"cp949", ["ms949", "uhc"]⟩,
   ⟨"cp950", ["ms950"]⟩,
   ⟨"euc_jis_2004", ["euc_jis2004", "eucjis2004", "jisx0213"]⟩,
   ⟨"euc_jisx0213", ["eucjisx0213"]⟩,
   ⟨"euc_jp", ["eucjp", "u_jis", "ujis"]⟩,
   ⟨"euc_kr", ["euckr", "korean", "ks_c_5601", "ks_c_5601_1987", "ks_x_1001", "ksc5601", "ksx1001",
    "x_mac_korean"]⟩,
   ⟨"gb18030", ["gb18030_2000"]⟩,
   ⟨"gb2312", ["chinese", "csiso58gb231280", "euc_cn", "euccn", "eucgb2312_cn", "gb2312_1980",
    "gb2312_80", "iso_ir_58", "x_mac_simp_chinese"]⟩,
   ⟨"gbk", ["cp936", "ms936"]⟩,
   ⟨"iso2022_kr", ["csiso2022kr", "iso2022kr", "iso_2022_kr"]⟩,
   ⟨"johab", ["cp1361", "ms1361"]⟩,
   ⟨"shift_jis", ["csshiftjis", "s_jis", "shiftjis", "sjis", "x_mac_japanese"]⟩,
   ⟨"shift_jis_2004", ["s_jis_2004", "shiftjis2004", "sjis_2004"]⟩,
   ⟨"shift_jisx0213", ["s_jisx0213", "shiftjisx0213", "sjisx0213"]⟩,
   ⟨"utf_16", ["u16", "utf16"]⟩,
   ⟨"utf_16_be", ["unicodebigunmarked", "utf_16be"]⟩,
   ⟨"utf_16_le", ["unicodelittleunmarked", "utf_16le"]⟩,
   ⟨"utf_32", ["u32", "utf32"]⟩,
   ⟨"utf_32_be", ["utf_32be"]⟩,
   ⟨"utf_32_le", ["utf_32le"]⟩,
   ⟨"utf_7", ["u7", "unicode_1_1_utf_7", "utf7"]⟩]

/-- Sets whose lower half is not ASCII. -/
def foreignNames : List CharsetName :=
  [⟨"cp037", ["csibm037", "ebcdic_cp_ca", "ebcdic_cp_nl", "ebcdic_cp_us", "ebcdic_cp_wt", "ibm037",
    "ibm039"]⟩,
   ⟨"cp1026", ["csibm1026", "ibm1026"]⟩,
   ⟨"cp1140", ["ibm1140"]⟩,
   ⟨"cp273", ["csibm273", "ibm273"]⟩,
   ⟨"cp424", ["csibm424", "ebcdic_cp_he", "ibm424"]⟩,
   ⟨"cp500", ["csibm500", "ebcdic_cp_be", "ebcdic_cp_ch", "ibm500"]⟩,
   ⟨"cp864", ["csibm864", "ibm864"]⟩,
   ⟨"cp875", []⟩,
   ⟨"mac_arabic", []⟩,
   ⟨"mac_farsi", []⟩]

/-- What a declared name stands for. -/
inductive CharsetMeaning where
  /-- A set whose characters take one byte each. -/
  | single (charset : Charset)
  | multiByte
  /-- The lower half is not ASCII. -/
  | foreign
  /-- It is no set of characters. -/
  | failing (reason : Text)
  /-- It is a way to write names in ASCII, and nothing else. -/
  | nameWriting
deriving DecidableEq

/-- A name in the form it is looked up in. -/
def plainCharsetName (declared : Text) : Text :=
  joined ['_']
    ((splitAt '_' (exchange '-' '_' (declared.map Char.toLower))).filter fun part => !part.isEmpty)

/-- Some of the names is the given one. -/
def namesFit (names : List CharsetName) (plain : Text) : Bool :=
  names.any fun n => n.fits plain

/-- All sets with an upper half of their own. -/
def namedCharsets : List NamedCharset :=
  isoCharsets ++ windowsCharsets ++ codePages ++ macintoshCharsets ++ regionalCharsets

/-- What a name stands for in the form it is looked up in. -/
def CharsetMeaning.ofPlain? (plain : Text) : Option CharsetMeaning :=
  if namesFit asciiNames plain then some (.single .ascii)
  else if namesFit tildelessNames plain then some (.single .tildeless)
  else if namesFit latinNames plain then some (.single .latin)
  else if namesFit multiByteNames plain then some .multiByte
  else if namesFit foreignNames plain then some .foreign
  else if plain = "idna".toList then some (.failing "Unsupported error handling replace".toList)
  else if plain = "undefined".toList then some (.failing "undefined encoding".toList)
  else if plain = "punycode".toList then some .nameWriting
  else
    (namedCharsets.find? fun c => c.names.fits plain).map fun c =>
      .single (Charset.ofUpper c.upper.toList)

/-- What a declared name stands for, if anybody knows it. -/
def CharsetMeaning.ofName? (declared : Text) : Option CharsetMeaning :=
  CharsetMeaning.ofPlain? (plainCharsetName declared)

end PointerBindings.Xml
