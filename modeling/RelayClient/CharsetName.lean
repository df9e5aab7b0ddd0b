import RelayClient.Charset
import RelayClient.IsoSets
import RelayClient.MainframeSets
import RelayClient.TerminalSets
import RelayClient.VendorSets
import RelayClient.WindowsSets

/-!
# Names of character sets

Case does not matter, nor what separates the words of a name.
-/
namespace RelayClient.Charset

/-- Sets with their own names first and the names they are also known by. -/
def unicodeNames : List (Charset × List String) :=
  [(utf7, ["utf_7", "u7", "unicode_1_1_utf_7", "utf7"]),
    (utf8, ["utf_8", "cp65001", "u8", "utf", "utf8", "utf8_ucs2", "utf8_ucs4"]),
    (utf8Signature, ["utf_8_sig"]),
    (utf16, ["utf_16", "u16", "utf16"]),
    (utf16In .littleEndian, ["utf_16_le", "unicodelittleunmarked", "utf_16le"]),
    (utf16In .bigEndian, ["utf_16_be", "unicodebigunmarked", "utf_16be"]),
    (utf32, ["utf_32", "u32", "utf32"]),
    (utf32In .littleEndian, ["utf_32_le", "utf_32le"]),
    (utf32In .bigEndian, ["utf_32_be", "utf_32be"])]

def plainNames : List (Charset × List String) :=
  [(ascii, ["ascii", "646", "ansi_x3.4_1968", "ansi_x3.4_1986", "ansi_x3_4_1968", "cp367", "csascii",
      "ibm367", "iso646_us", "iso_646.irv_1991", "iso_ir_6", "us", "us_ascii"]),
    (latin1, ["latin_1", "8859", "cp819", "csisolatin1", "ibm819", "iso8859", "iso8859_1",
      "iso_8859_1", "iso_8859_1_1987", "iso_ir_100", "l1", "latin", "latin1"]),
    (latin1, ["charmap"]),
    (escaped .full, ["unicode_escape"]),
    (escaped .raw, ["raw_unicode_escape"]),
    (punycode, ["punycode"]),
    (hostName, ["idna"]),
    (undefined, ["undefined"]),
    (betweenTexts, ["rot_13", "rot13"]),
    (betweenBytes, ["base64_codec", "base64", "base_64"]),
    (betweenBytes, ["bz2_codec", "bz2"]),
    (betweenBytes, ["hex_codec", "hex"]),
    (betweenBytes, ["quopri_codec", "quopri", "quoted_printable", "quotedprintable"]),
    (betweenBytes, ["uu_codec", "uu"]),
    (betweenBytes, ["zlib_codec", "zip", "zlib"])]

def eastAsianNames : List (Charset × List String) :=
  [(multiByte .eucJapanese, ["euc_jp", "eucjp", "u_jis", "ujis"]),
    (multiByte (.eucJis .first), ["euc_jisx0213", "eucjisx0213"]),
    (multiByte (.eucJis .second), ["euc_jis_2004", "euc_jis2004", "eucjis2004", "jisx0213"]),
    (multiByte .shiftJis, ["shift_jis", "csshiftjis", "s_jis", "shiftjis", "sjis", "x_mac_japanese"]),
    (multiByte (.shiftJis2004 .first), ["shift_jisx0213", "s_jisx0213", "shiftjisx0213", "sjisx0213"]),
    (multiByte (.shiftJis2004 .second),
      ["shift_jis_2004", "s_jis_2004", "shiftjis2004", "sjis_2004"]),
    (multiByte .codePage932, ["cp932", "932", "ms932", "ms_kanji", "mskanji"]),
    (multiByte .eucKorean, ["euc_kr", "euckr", "korean", "ks_c_5601", "ks_c_5601_1987", "ks_x_1001",
      "ksc5601", "ksx1001", "x_mac_korean"]),
    (multiByte .codePage949, ["cp949", "949", "ms949", "uhc"]),
    (multiByte .johab, ["johab", "cp1361", "ms1361"]),
    (multiByte .gb2312, ["gb2312", "chinese", "csiso58gb231280", "euc_cn", "euccn", "eucgb2312_cn",
      "gb2312_1980", "gb2312_80", "iso_ir_58", "x_mac_simp_chinese"]),
    (multiByte .gbk, ["gbk", "936", "cp936", "ms936"]),
    (multiByte .gb18030, ["gb18030", "gb18030_2000"]),
    (hz, ["hz", "hz_gb", "hz_gb_2312", "hzgb"]),
    (multiByte .big5, ["big5", "big5_tw", "csbig5", "x_mac_trad_chinese"]),
    (multiByte .codePage950, ["cp950", "950", "ms950"]),
    (multiByte .big5HongKong, ["big5hkscs", "big5_hkscs", "hkscs"])]

def singleByteSets : List SingleByteSet :=
  open SingleByteSet in isoSets ++ windowsSets ++ terminalSets ++ mainframeSets ++ vendorSets

def named : List (Charset × List String) :=
  unicodeNames ++ plainNames ++ eastAsianNames ++
    Iso2022.all.map (fun s => (iso2022 s, s.names)) ++
    singleByteSets.map fun s => (singleByte s, s.names)

def isNameChar (c : Char) : Bool := c.isAlphanum || c = '.'

/-- A name in lower case, every run of separators between two words made one underscore. -/
def words (pending : Bool) : List Char → List Char
  | [] => []
  | c :: r =>
    if isNameChar c then
      (if pending then ['_', c.toLower] else [c.toLower]) ++ words false r
    else words true r

/-- The set of a name. In the other names of a set a dot may stand for an underscore. -/
def named? (name : List Char) : Except Fault (Option Charset) :=
  if name.contains '\x00' then .error (.undecodable .nullCharacter)
  else
    let key := words false (name.dropWhile fun c => !isNameChar c)
    let own := String.ofList key
    let other := String.ofList (key.map fun c => if c = '.' then '_' else c)
    let found := named.find? fun e => e.2.contains own || e.2.tail.contains other
    .ok (found.map Prod.fst)

/-- A character as the byte of its number or, if the number is too large, as an escape. -/
def bytesOf (c : CodePoint) : Bytes :=
  if c.val < 0x100 then [UInt8.ofNat c.val] else c.escape.map fun d => UInt8.ofNat d.val

/-- The name in an extended value, which is written in a set that has a name as well. -/
def Content.name (c : MediaType.Content) : Except Fault Text :=
  match c with
  | .plain value => .ok (value.map CodePoint.ofChar)
  | .extended charset value => do
    let set ← named? (if charset.isEmpty then "us-ascii".toList else charset)
    let value := value.map CodePoint.ofChar
    if value.isEmpty then return []
    match set with
    | none => return value
    | some s => return (← s.strict? (value.flatMap bytesOf)).getD value

/-- The set that a media type asks for; an unknown one counts as UTF-8, and so does one with a name
that is not ASCII. -/
def ofMediaType (mediaType : Option (List Char)) : Except Fault Charset :=
  match mediaType with
  | none => .ok utf8
  | some m => do
    match ← MediaType.charset? m with
    | none => return utf8
    | some content =>
      let name ← Content.name content
      if name.any fun c => c.val ≥ 0x80 then return utf8
      return (← named? name.toChars).getD utf8

end RelayClient.Charset
