import SymbolReference.Encoding.CodePage
import SymbolReference.Encoding.Escape
import SymbolReference.Encoding.Punycode
import SymbolReference.Encoding.ShiftedBase
import SymbolReference.Encoding.Switching

namespace SymbolReference.Encoding

/-- The encodings that read most characters from pairs of bytes. -/
inductive PairScheme where
  | shiftJis
  | shiftPlanes (old : Bool)
  | codePage932
  | eucJapanese
  | eucPlanes (old : Bool)
  | eucKorean
  | codePage949
  | johab
  | gb2312
  | gbk
  | gb18030
  | big5
  | codePage950
  | hongKong
deriving Repr, DecidableEq

def PairScheme.step : PairScheme → Step Unit
  | shiftJis => shiftedStep
  | shiftPlanes old => shiftedPlanesStep old
  | codePage932 => codePage932Step
  | eucJapanese => eucJapaneseStep
  | eucPlanes old => eucPlanesStep old
  | eucKorean => eucKoreanStep
  | codePage949 => codePage949Step (ksX1001.lacking 0xAC00 11172)
  | johab => asciiOrPair johabPair?
  | gb2312 => asciiOrPair Encoding.gb2312.highPair?
  | gbk => asciiOrPair (gbkPair? (Encoding.gb2312.lacking 0x4E00 20902))
  | gb18030 => gb18030Step (Encoding.gb2312.lacking 0x4E00 20902)
  | big5 => asciiOrPair Encoding.big5.pair?
  | codePage950 => asciiOrPair codePage950Pair?
  | hongKong => asciiOrPair hongKongPair?

/-- An encoding. An alphabet is a table together with the number below which the codes that it lacks
stand for themselves. Numbers of two or four bytes have an order unless a mark says it. Escapes may
be raw. Some encodings are not for texts. -/
inductive Scheme where
  | ascii
  | alphabet (same : Nat) (table : CharTable)
  | utf7
  | utf8
  | utf8Marked
  | utf16 (order : Option ByteOrder)
  | utf32 (order : Option ByteOrder)
  | escaped (raw : Bool)
  | punycode
  | labels
  | pairs (scheme : PairScheme)
  | hz
  | switching (rules : SwitchRules)
  | undefined
  | notText

/-- The normal form of the name of an encoding: lower case, with single underscores between its
words. Letters beyond ASCII are left out. -/
def normalName (name : List Char) : List Char :=
  words false (name.dropWhile fun c => !isLetter c)
where
  /-- Whether a character belongs to a word. -/
  isLetter (c : Char) : Bool := c.isAlphanum || c = '.' || 127 < c.toNat
  /-- The words of a name, perhaps after a divider. -/
  words : Bool → List Char → List Char
    | _, [] => []
    | divided, c :: rest =>
      if isLetter c then
        (if divided then ['_'] else []) ++ (if c.toNat < 128 then [c.toLower] else []) ++
          words false rest
      else words true rest

/-- An encoding with its name and its further names in their normal form. -/
structure NamedScheme where
  name : String
  aliases : List String
  scheme : Scheme

/-- The encodings that are known. -/
def namedSchemes : List NamedScheme :=
  [⟨"utf_8", ["cp65001", "u8", "utf", "utf8", "utf8_ucs2", "utf8_ucs4"], .utf8⟩,
    ⟨"utf_8_sig", [], .utf8Marked⟩,
    ⟨"utf_7", ["u7", "unicode_1_1_utf_7", "utf7"], .utf7⟩,
    ⟨"utf_16", ["u16", "utf16"], .utf16 none⟩,
    ⟨"utf_16_le", ["unicodelittleunmarked", "utf_16le"], .utf16 (some .little)⟩,
    ⟨"utf_16_be", ["unicodebigunmarked", "utf_16be"], .utf16 (some .big)⟩,
    ⟨"utf_32", ["u32", "utf32"], .utf32 none⟩,
    ⟨"utf_32_le", ["utf_32le"], .utf32 (some .little)⟩,
    ⟨"utf_32_be", ["utf_32be"], .utf32 (some .big)⟩,
    ⟨"unicode_escape", [], .escaped false⟩,
    ⟨"raw_unicode_escape", [], .escaped true⟩,
    ⟨"punycode", [], .punycode⟩,
    ⟨"idna", [], .labels⟩,
    ⟨"undefined", [], .undefined⟩,
    ⟨"ascii", ["646", "ansi_x3.4_1968", "ansi_x3.4_1986", "ansi_x3_4_1968", "cp367", "csascii",
      "ibm367", "iso646_us", "iso_646.irv_1991", "iso_ir_6", "us", "us_ascii"], .ascii⟩,
    ⟨"latin_1", ["8859", "cp819", "csisolatin1", "ibm819", "iso8859", "iso8859_1", "iso_8859_1",
      "iso_8859_1_1987", "iso_ir_100", "l1", "latin", "latin1"], .alphabet 256 ⟨#[]⟩⟩,
    ⟨"charmap", [], .alphabet 256 ⟨#[]⟩⟩,
    ⟨"cp037", ["037", "csibm037", "ebcdic_cp_ca", "ebcdic_cp_nl", "ebcdic_cp_us", "ebcdic_cp_wt",
      "ibm037", "ibm039"], .alphabet 0 codePage037⟩,
    ⟨"cp273", ["273", "csibm273", "ibm273"], .alphabet 0 codePage273⟩,
    ⟨"cp424", ["424", "csibm424", "ebcdic_cp_he", "ibm424"], .alphabet 0 codePage424⟩,
    ⟨"cp500", ["500", "csibm500", "ebcdic_cp_be", "ebcdic_cp_ch", "ibm500"], .alphabet 0
      codePage500⟩,
    ⟨"cp875", [], .alphabet 0 codePage875⟩,
    ⟨"cp1026", ["1026", "csibm1026", "ibm1026"], .alphabet 0 codePage1026⟩,
    ⟨"cp1140", ["1140", "ibm1140"], .alphabet 0 codePage1140⟩,
    ⟨"cp437", ["437", "cspc8codepage437", "ibm437"], .alphabet 128 codePage437⟩,
    ⟨"cp720", [], .alphabet 128 codePage720⟩,
    ⟨"cp737", [], .alphabet 128 codePage737⟩,
    ⟨"cp775", ["775", "cspc775baltic", "ibm775"], .alphabet 128 codePage775⟩,
    ⟨"cp850", ["850", "cspc850multilingual", "ibm850"], .alphabet 128 codePage850⟩,
    ⟨"cp852", ["852", "cspcp852", "ibm852"], .alphabet 128 codePage852⟩,
    ⟨"cp855", ["855", "csibm855", "ibm855"], .alphabet 128 codePage855⟩,
    ⟨"cp856", [], .alphabet 128 codePage856⟩,
    ⟨"cp857", ["857", "csibm857", "ibm857"], .alphabet 128 codePage857⟩,
    ⟨"cp858", ["858", "csibm858", "ibm858"], .alphabet 128 codePage858⟩,
    ⟨"cp860", ["860", "csibm860", "ibm860"], .alphabet 128 codePage860⟩,
    ⟨"cp861", ["861", "cp_is", "csibm861", "ibm861"], .alphabet 128 codePage861⟩,
    ⟨"cp862", ["862", "cspc862latinhebrew", "ibm862"], .alphabet 128 codePage862⟩,
    ⟨"cp863", ["863", "csibm863", "ibm863"], .alphabet 128 codePage863⟩,
    ⟨"cp864", ["864", "csibm864", "ibm864"], .alphabet 128 codePage864⟩,
    ⟨"cp865", ["865", "csibm865", "ibm865"], .alphabet 128 codePage865⟩,
    ⟨"cp866", ["866", "csibm866", "ibm866"], .alphabet 128 codePage866⟩,
    ⟨"cp869", ["869", "cp_gr", "csibm869", "ibm869"], .alphabet 128 codePage869⟩,
    ⟨"cp874", [], .alphabet 128 codePage874⟩,
    ⟨"cp1006", [], .alphabet 160 codePage1006⟩,
    ⟨"cp1125", ["1125", "cp866u", "ibm1125", "ruscii"], .alphabet 128 codePage1125⟩,
    ⟨"cp1250", ["1250", "windows_1250"], .alphabet 128 codePage1250⟩,
    ⟨"cp1251", ["1251", "windows_1251"], .alphabet 128 codePage1251⟩,
    ⟨"cp1252", ["1252", "windows_1252"], .alphabet 128 codePage1252⟩,
    ⟨"cp1253", ["1253", "windows_1253"], .alphabet 128 codePage1253⟩,
    ⟨"cp1254", ["1254", "windows_1254"], .alphabet 128 codePage1254⟩,
    ⟨"cp1255", ["1255", "windows_1255"], .alphabet 128 codePage1255⟩,
    ⟨"cp1256", ["1256", "windows_1256"], .alphabet 128 codePage1256⟩,
    ⟨"cp1257", ["1257", "windows_1257"], .alphabet 128 codePage1257⟩,
    ⟨"cp1258", ["1258", "windows_1258"], .alphabet 128 codePage1258⟩,
    ⟨"iso8859_2", ["csisolatin2", "iso_8859_2", "iso_8859_2_1987", "iso_ir_101", "l2", "latin2"],
      .alphabet 160 iso8859Part2⟩,
    ⟨"iso8859_3", ["csisolatin3", "iso_8859_3", "iso_8859_3_1988", "iso_ir_109", "l3", "latin3"],
      .alphabet 160 iso8859Part3⟩,
    ⟨"iso8859_4", ["csisolatin4", "iso_8859_4", "iso_8859_4_1988", "iso_ir_110", "l4", "latin4"],
      .alphabet 160 iso8859Part4⟩,
    ⟨"iso8859_5", ["csisolatincyrillic", "cyrillic", "iso_8859_5", "iso_8859_5_1988",
      "iso_ir_144"], .alphabet 160 iso8859Part5⟩,
    ⟨"iso8859_6", ["arabic", "asmo_708", "csisolatinarabic", "ecma_114", "iso_8859_6",
      "iso_8859_6_1987", "iso_ir_127"], .alphabet 160 iso8859Part6⟩,
    ⟨"iso8859_7", ["csisolatingreek", "ecma_118", "elot_928", "greek", "greek8", "iso_8859_7",
      "iso_8859_7_1987", "iso_ir_126"], .alphabet 160 iso8859Part7⟩,
    ⟨"iso8859_8", ["csisolatinhebrew", "hebrew", "iso_8859_8", "iso_8859_8_1988", "iso_ir_138"],
      .alphabet 160 iso8859Part8⟩,
    ⟨"iso8859_9", ["csisolatin5", "iso_8859_9", "iso_8859_9_1989", "iso_ir_148", "l5", "latin5"],
      .alphabet 160 iso8859Part9⟩,
    ⟨"iso8859_10", ["csisolatin6", "iso_8859_10", "iso_8859_10_1992", "iso_ir_157", "l6",
      "latin6"], .alphabet 160 iso8859Part10⟩,
    ⟨"iso8859_11", ["iso_8859_11", "iso_8859_11_2001", "thai"], .alphabet 160 iso8859Part11⟩,
    ⟨"iso8859_13", ["iso_8859_13", "l7", "latin7"], .alphabet 160 iso8859Part13⟩,
    ⟨"iso8859_14", ["iso_8859_14", "iso_8859_14_1998", "iso_celtic", "iso_ir_199", "l8",
      "latin8"], .alphabet 160 iso8859Part14⟩,
    ⟨"iso8859_15", ["iso_8859_15", "l9", "latin9"], .alphabet 160 iso8859Part15⟩,
    ⟨"iso8859_16", ["iso_8859_16", "iso_8859_16_2001", "iso_ir_226", "l10", "latin10"], .alphabet
      160 iso8859Part16⟩,
    ⟨"tis_620", ["iso_ir_166", "tis620", "tis_620_0", "tis_620_2529_0", "tis_620_2529_1"],
      .alphabet 160 tis620⟩,
    ⟨"koi8_r", ["cskoi8r"], .alphabet 128 koi8R⟩,
    ⟨"koi8_t", [], .alphabet 128 koi8T⟩,
    ⟨"koi8_u", [], .alphabet 128 koi8U⟩,
    ⟨"kz1048", ["kz_1048", "rk1048", "strk1048_2002"], .alphabet 128 kz1048⟩,
    ⟨"ptcp154", ["cp154", "csptcp154", "cyrillic_asian", "pt154"], .alphabet 128 ptcp154⟩,
    ⟨"hp_roman8", ["cp1051", "ibm1051", "r8", "roman8"], .alphabet 160 hpRoman8⟩,
    ⟨"palmos", [], .alphabet 128 palmos⟩,
    ⟨"mac_arabic", [], .alphabet 128 macArabic⟩,
    ⟨"mac_croatian", [], .alphabet 128 macCroatian⟩,
    ⟨"mac_cyrillic", ["maccyrillic"], .alphabet 128 macCyrillic⟩,
    ⟨"mac_farsi", [], .alphabet 128 macFarsi⟩,
    ⟨"mac_greek", ["macgreek"], .alphabet 128 macGreek⟩,
    ⟨"mac_iceland", ["maciceland"], .alphabet 128 macIceland⟩,
    ⟨"mac_latin2", ["mac_centeuro", "maccentraleurope", "maclatin2"], .alphabet 128 macLatin2⟩,
    ⟨"mac_roman", ["macintosh", "macroman"], .alphabet 128 macRoman⟩,
    ⟨"mac_romanian", [], .alphabet 128 macRomanian⟩,
    ⟨"mac_turkish", ["macturkish"], .alphabet 128 macTurkish⟩,
    ⟨"shift_jis", ["csshiftjis", "s_jis", "shiftjis", "sjis", "x_mac_japanese"], .pairs .shiftJis⟩,
    ⟨"shift_jis_2004", ["s_jis_2004", "shiftjis2004", "sjis_2004"], .pairs (.shiftPlanes false)⟩,
    ⟨"shift_jisx0213", ["s_jisx0213", "shiftjisx0213", "sjisx0213"], .pairs (.shiftPlanes true)⟩,
    ⟨"cp932", ["932", "ms932", "ms_kanji", "mskanji"], .pairs .codePage932⟩,
    ⟨"euc_jp", ["eucjp", "u_jis", "ujis"], .pairs .eucJapanese⟩,
    ⟨"euc_jis_2004", ["euc_jis2004", "eucjis2004", "jisx0213"], .pairs (.eucPlanes false)⟩,
    ⟨"euc_jisx0213", ["eucjisx0213"], .pairs (.eucPlanes true)⟩,
    ⟨"euc_kr", ["euckr", "korean", "ks_c_5601", "ks_c_5601_1987", "ks_x_1001", "ksc5601",
      "ksx1001", "x_mac_korean"], .pairs .eucKorean⟩,
    ⟨"cp949", ["949", "ms949", "uhc"], .pairs .codePage949⟩,
    ⟨"johab", ["cp1361", "ms1361"], .pairs .johab⟩,
    ⟨"gb2312", ["chinese", "csiso58gb231280", "euc_cn", "euccn", "eucgb2312_cn", "gb2312_1980",
      "gb2312_80", "iso_ir_58", "x_mac_simp_chinese"], .pairs .gb2312⟩,
    ⟨"gbk", ["936", "cp936", "ms936"], .pairs .gbk⟩,
    ⟨"gb18030", ["gb18030_2000"], .pairs .gb18030⟩,
    ⟨"big5", ["big5_tw", "csbig5", "x_mac_trad_chinese"], .pairs .big5⟩,
    ⟨"cp950", ["950", "ms950"], .pairs .codePage950⟩,
    ⟨"big5hkscs", ["big5_hkscs", "hkscs"], .pairs .hongKong⟩,
    ⟨"hz", ["hz_gb", "hz_gb_2312", "hzgb"], .hz⟩,
    ⟨"iso2022_jp", ["csiso2022jp", "iso2022jp", "iso_2022_jp"], .switching .japanese⟩,
    ⟨"iso2022_jp_1", ["iso2022jp_1", "iso_2022_jp_1"], .switching .japanese1⟩,
    ⟨"iso2022_jp_2", ["iso2022jp_2", "iso_2022_jp_2"], .switching .japanese2⟩,
    ⟨"iso2022_jp_3", ["iso2022jp_3", "iso_2022_jp_3"], .switching .japanese3⟩,
    ⟨"iso2022_jp_2004", ["iso2022jp_2004", "iso_2022_jp_2004"], .switching .japanese2004⟩,
    ⟨"iso2022_jp_ext", ["iso2022jp_ext", "iso_2022_jp_ext"], .switching .japaneseExtended⟩,
    ⟨"iso2022_kr", ["csiso2022kr", "iso2022kr", "iso_2022_kr"], .switching .korean⟩,
    ⟨"base64_codec", ["base64", "base_64"], .notText⟩,
    ⟨"bz2_codec", ["bz2"], .notText⟩,
    ⟨"hex_codec", ["hex"], .notText⟩,
    ⟨"quopri_codec", ["quopri", "quoted_printable", "quotedprintable"], .notText⟩,
    ⟨"rot_13", ["rot13"], .notText⟩,
    ⟨"uu_codec", ["uu"], .notText⟩,
    ⟨"zlib_codec", ["zip", "zlib"], .notText⟩]

/-- The encoding with a name. Points in further names may stand for underscores. -/
def Scheme.ofName? (name : String) : Option Scheme :=
  if name = "locale" then some .utf8
  else
    let normal := normalName name.toList
    let plain := String.ofList normal
    let pointless := String.ofList (normal.map fun c => if c = '.' then '_' else c)
    let isNamed := fun e : NamedScheme =>
      e.name = plain || e.aliases.contains plain || e.aliases.contains pointless
    (namedSchemes.find? isNamed).map NamedScheme.scheme

/-- The characters of bytes in an alphabet. -/
def readAlphabet (same : Nat) (table : CharTable) (place : Nat) :
    List Nat → Except EncodingError (List Char)
  | [] => .ok []
  | b :: rest =>
    let found := table.find? b <|> if b < same then some (Char.ofNat b) else none
    match found with
    | some c => do return c :: (← readAlphabet same table (place + 1) rest)
    | none => .error (.unreadable "charmap" place [b] "character maps to <undefined>")

def PairScheme.name : PairScheme → String
  | shiftJis => "shift_jis"
  | shiftPlanes old => if old then "shift_jisx0213" else "shift_jis_2004"
  | codePage932 => "cp932"
  | eucJapanese => "euc_jp"
  | eucPlanes old => if old then "euc_jisx0213" else "euc_jis_2004"
  | eucKorean => "euc_kr"
  | codePage949 => "cp949"
  | johab => "johab"
  | gb2312 => "gb2312"
  | gbk => "gbk"
  | gb18030 => "gb18030"
  | big5 => "big5"
  | codePage950 => "cp950"
  | hongKong => "big5hkscs"

def Scheme.read (scheme : Scheme) (text : String) : Except EncodingError String :=
  let bytes := text.toUTF8.toList.map UInt8.toNat
  let chars :=
    match scheme with
    | .ascii => readAscii 0 bytes
    | .alphabet same table => readAlphabet same table 0 bytes
    | .utf7 => readUtf7 none 0 bytes
    | .utf8 => .ok text.toList
    | .utf8Marked => .ok (if text.startsWith "\uFEFF" then text.toList.tail else text.toList)
    | .utf16 none => readMarked 16 (readUtf16 .little) bytes
    | .utf16 (some order) => readUtf16 order 0 bytes
    | .utf32 none => readMarked 32 (readUtf32 .little) bytes
    | .utf32 (some order) => readUtf32 order 0 bytes
    | .escaped raw => readEscaped raw 0 bytes
    | .punycode => readPunycode bytes
    | .labels => readLabels bytes
    | .pairs scheme => readSteps scheme.name scheme.step () 0 bytes
    | .hz => readSteps "hz" hzStep false 0 bytes
    | .switching rules => readSteps rules.name rules.step {} 0 bytes
    | .undefined | .notText => .error .undefined
  chars.map String.ofList

end SymbolReference.Encoding
