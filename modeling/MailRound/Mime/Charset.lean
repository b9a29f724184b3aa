import MailRound.Mime.Charset.Page
import MailRound.Mime.Charset.Wide
import MailRound.Text.LowerCase

namespace MailRound.Mime

/-- How bytes stand for characters. Character sets of single bytes agree with ASCII below 128;
above, each has a page of 128 characters. -/
inductive Charset where
  | page (high : String)
  | sevenBits
  | sixteenBits
  | littleEndian
  | bigEndian
  deriving DecidableEq, Repr

namespace Charset

def decodePage (high : String) (bs : Bytes) : String :=
  let table := high.toList.toArray
  String.ofList <| bs.map fun b =>
    if b.toNat < 128 then Char.ofNat b.toNat
    else table.getD (b.toNat - 128) (Char.ofNat 0xFFFD)

def decode : Charset → Bytes → String
  | .page high, bs => decodePage high bs
  | .sevenBits, bs => String.ofList (decodeShifted none bs)
  | .sixteenBits, bs => decodeMarked bs
  | .littleEndian, bs => decodeLittle bs
  | .bigEndian, bs => decodeBig bs

/-- The names of the character sets, in lower case and with low lines for dashes. ASCII and Latin-1
are read as the larger Western set, the Turkish and the Thai sets in the same way. -/
def names : List (Charset × List String) := [
  (.page Page.western,
    ["windows_1252", "cp1252", "x_cp1252", "cswindows1252", "iso_8859_1", "iso8859_1", "iso88591",
      "iso_8859_1:1987", "iso_ir_100", "latin1", "l1", "ibm819", "cp819", "csisolatin1",
      "us_ascii", "ascii", "ansi_x3.4_1968", "ansi_x3.4_1986", "iso_ir_6", "iso_646.irv:1991",
      "iso646_us", "us", "ibm367", "cp367", "csascii"]),
  (.page Page.centralEuropean, ["windows_1250", "cp1250", "x_cp1250", "cswindows1250"]),
  (.page Page.cyrillic, ["windows_1251", "cp1251", "x_cp1251", "cswindows1251"]),
  (.page Page.greek, ["windows_1253", "cp1253", "x_cp1253", "cswindows1253"]),
  (.page Page.turkish,
    ["windows_1254", "cp1254", "x_cp1254", "cswindows1254", "iso_8859_9", "iso8859_9",
      "iso88599", "iso_8859_9:1989", "iso_ir_148", "latin5", "l5", "csisolatin5"]),
  (.page Page.hebrew, ["windows_1255", "cp1255", "x_cp1255", "cswindows1255"]),
  (.page Page.arabic, ["windows_1256", "cp1256", "x_cp1256", "cswindows1256"]),
  (.page Page.baltic, ["windows_1257", "cp1257", "x_cp1257", "cswindows1257"]),
  (.page Page.vietnamese, ["windows_1258", "cp1258", "x_cp1258", "cswindows1258"]),
  (.page Page.thai,
    ["windows_874", "cswindows874", "dos_874", "tis_620", "cstis620", "iso_8859_11",
      "iso8859_11", "iso885911"]),
  (.page Page.latin2,
    ["iso_8859_2", "iso8859_2", "iso88592", "iso_8859_2:1987", "iso_ir_101", "latin2", "l2",
      "csisolatin2"]),
  (.page Page.latin3,
    ["iso_8859_3", "iso8859_3", "iso88593", "iso_8859_3:1988", "iso_ir_109", "latin3", "l3",
      "csisolatin3"]),
  (.page Page.latin4,
    ["iso_8859_4", "iso8859_4", "iso88594", "iso_8859_4:1988", "iso_ir_110", "latin4", "l4",
      "csisolatin4"]),
  (.page Page.isoCyrillic,
    ["iso_8859_5", "iso8859_5", "iso88595", "iso_8859_5:1988", "iso_ir_144", "cyrillic",
      "csisolatincyrillic"]),
  (.page Page.isoArabic,
    ["iso_8859_6", "iso8859_6", "iso88596", "iso_8859_6:1987", "iso_ir_127", "ecma_114",
      "asmo_708", "arabic", "csisolatinarabic", "csiso88596e", "csiso88596i", "iso_8859_6_e",
      "iso_8859_6_i"]),
  (.page Page.isoGreek,
    ["iso_8859_7", "iso8859_7", "iso88597", "iso_8859_7:1987", "iso_ir_126", "elot_928",
      "ecma_118", "greek", "greek8", "csisolatingreek", "sun_eu_greek"]),
  (.page Page.isoHebrew,
    ["iso_8859_8", "iso8859_8", "iso88598", "iso_8859_8:1988", "iso_ir_138", "hebrew",
      "csisolatinhebrew", "csiso88598e", "csiso88598i", "iso_8859_8_e", "iso_8859_8_i",
      "logical", "visual"]),
  (.page Page.latin6,
    ["iso_8859_10", "iso8859_10", "iso885910", "iso_8859_10:1992", "iso_ir_157", "latin6", "l6",
      "csisolatin6"]),
  (.page Page.latin7, ["iso_8859_13", "iso8859_13", "iso885913", "csiso885913"]),
  (.page Page.latin8,
    ["iso_8859_14", "iso8859_14", "iso885914", "iso_8859_14:1998", "iso_ir_199", "latin8", "l8",
      "iso_celtic", "csiso885914"]),
  (.page Page.latin9,
    ["iso_8859_15", "iso8859_15", "iso885915", "latin_9", "l9", "csiso885915", "csisolatin9"]),
  (.page Page.latin10,
    ["iso_8859_16", "iso8859_16", "iso885916", "iso_8859_16:2001", "iso_ir_226", "latin10",
      "l10", "csiso885916"]),
  (.page Page.koiRussian, ["koi8_r", "koi8", "koi", "cskoi8r"]),
  (.page Page.koiUkrainian, ["koi8_u", "koi8_ru", "cskoi8u"]),
  (.page Page.dosWestern, ["ibm850", "cp850", "850", "cspc850multilingual"]),
  (.page Page.dosCyrillic, ["ibm866", "cp866", "866", "csibm866"]),
  (.page Page.macRoman, ["macintosh", "mac", "x_mac_roman", "csmacintosh"]),
  (.page Page.macCyrillic, ["x_mac_cyrillic", "x_mac_ukrainian"]),
  (.sevenBits, ["utf_7", "csutf7"]),
  (.sixteenBits, ["utf_16", "csutf16"]),
  (.littleEndian, ["utf_16le", "csutf16le"]),
  (.bigEndian, ["utf_16be", "csutf16be"])]

def normalName (name : Bytes) : String :=
  String.ofList ((Text.Utf8.decodeLossy name).toList.map fun c =>
    if c = '-' then '_' else c.toLower)

def ofName? (name : Bytes) : Option Charset :=
  let name := normalName name
  (names.find? (·.2.contains name)).map (·.1)

/-- An unknown name stands for UTF-8. -/
def decodeNamed (name bs : Bytes) : String :=
  match ofName? name with
  | some charset => charset.decode bs
  | none => Text.Utf8.decodeLossy bs

end Charset

end MailRound.Mime
