import MailRelay.Mime.Charset.Tables
import MailRelay.Text.Ascii
import MailRelay.Text.Utf8

set_option autoImplicit false

namespace MailRelay

-- Sets whose tables are not part of this library.
inductive ForeignCharset where
  | shiftJis
  | eucJp
  | iso2022Jp
  | eucKr
  | gbk
  | gb18030
  | big5
  | utf7
  deriving DecidableEq, Repr

-- In the other two, what an ASCII byte stands for depends on what came before it.
def ForeignCharset.keepsAscii : ForeignCharset → Bool
  | iso2022Jp | utf7 => false
  | shiftJis | eucJp | eucKr | gbk | gb18030 | big5 => true

/-- How text in the foreign sets is read. All that is known of it is how long the text can become:
three bytes for a byte, and one for an ASCII byte where that stands for itself. -/
class ForeignDecoders where
  decode : ForeignCharset → Bytes → List Char
  grows (set : ForeignCharset) (bytes : Bytes) :
    (Utf8.encode (decode set bytes)).length ≤
      bytes.length + 2 * bytes.countP fun b => !(b < 128 && set.keepsAscii)

inductive Charset where
  | utf8
  | utf16 (bigEndian : Bool)
  | single (upper : String)
  | userDefined
  | replaced
  | foreign (set : ForeignCharset)
  deriving DecidableEq

namespace Charset

open Tables in
def labels : List (List String × Charset) :=
  [(["utf-8", "utf8", "unicode-1-1-utf-8", "unicode11utf8", "unicode20utf8", "x-unicode20utf8"],
      utf8),
    (["utf-16", "utf-16le", "ucs-2", "unicode", "unicodefeff", "iso-10646-ucs-2", "csunicode"],
      utf16 false),
    (["utf-16be", "unicodefffe"], utf16 true),
    (["windows-1252", "us-ascii", "ascii", "ansi_x3.4-1968", "iso-8859-1", "iso8859-1", "iso88591",
      "iso_8859-1", "iso_8859-1:1987", "iso-ir-100", "latin1", "l1", "ibm819", "cp819",
      "csisolatin1", "cp1252", "x-cp1252"], single windows1252),
    (["iso-8859-2", "iso8859-2", "iso88592", "iso_8859-2", "iso_8859-2:1987", "iso-ir-101",
      "latin2", "l2", "csisolatin2"], single latin2),
    (["iso-8859-3", "iso8859-3", "iso88593", "iso_8859-3", "iso_8859-3:1988", "iso-ir-109",
      "latin3", "l3", "csisolatin3"], single latin3),
    (["iso-8859-4", "iso8859-4", "iso88594", "iso_8859-4", "iso_8859-4:1988", "iso-ir-110",
      "latin4", "l4", "csisolatin4"], single latin4),
    (["iso-8859-5", "iso8859-5", "iso88595", "iso_8859-5", "iso_8859-5:1988", "iso-ir-144",
      "cyrillic", "csisolatincyrillic"], single isoCyrillic),
    (["iso-8859-6", "iso8859-6", "iso88596", "iso_8859-6", "iso_8859-6:1987", "iso-ir-127",
      "iso-8859-6-e", "iso-8859-6-i", "csiso88596e", "csiso88596i", "arabic", "asmo-708",
      "ecma-114", "csisolatinarabic"], single isoArabic),
    (["iso-8859-7", "iso8859-7", "iso88597", "iso_8859-7", "iso_8859-7:1987", "iso-ir-126", "greek",
      "greek8", "ecma-118", "elot_928", "sun_eu_greek", "csisolatingreek"], single isoGreek),
    (["iso-8859-8", "iso8859-8", "iso88598", "iso_8859-8", "iso_8859-8:1988", "iso-ir-138",
      "iso-8859-8-e", "csiso88598e", "hebrew", "visual", "csisolatinhebrew", "iso-8859-8-i",
      "csiso88598i", "logical"], single isoHebrew),
    (["iso-8859-10", "iso8859-10", "iso885910", "iso-ir-157", "latin6", "l6", "csisolatin6"],
      single latin6),
    (["iso-8859-13", "iso8859-13", "iso885913"], single latin7),
    (["iso-8859-14", "iso8859-14", "iso885914"], single latin8),
    (["iso-8859-15", "iso8859-15", "iso885915", "iso_8859-15", "l9", "csisolatin9"],
      single latin9),
    (["iso-8859-16"], single latin10),
    (["windows-1250", "cp1250", "x-cp1250"], single windows1250),
    (["windows-1251", "cp1251", "x-cp1251"], single windows1251),
    (["windows-1253", "cp1253", "x-cp1253"], single windows1253),
    (["windows-1254", "cp1254", "x-cp1254", "iso-8859-9", "iso8859-9", "iso88599", "iso_8859-9",
      "iso_8859-9:1989", "iso-ir-148", "latin5", "l5", "csisolatin5"], single windows1254),
    (["windows-1255", "cp1255", "x-cp1255"], single windows1255),
    (["windows-1256", "cp1256", "x-cp1256"], single windows1256),
    (["windows-1257", "cp1257", "x-cp1257"], single windows1257),
    (["windows-1258", "cp1258", "x-cp1258"], single windows1258),
    (["windows-874", "dos-874", "iso-8859-11", "iso8859-11", "iso885911", "tis-620"],
      single windows874),
    (["ibm866", "866", "cp866", "csibm866"], single ibm866),
    (["koi8-r", "koi8", "koi", "koi8_r", "cskoi8r"], single koi8r),
    (["koi8-u", "koi8-ru"], single koi8u),
    (["macintosh", "mac", "x-mac-roman", "csmacintosh"], single macintosh),
    (["x-mac-cyrillic", "x-mac-ukrainian"], single macCyrillic),
    (["x-user-defined"], userDefined),
    (["replacement", "hz-gb-2312", "iso-2022-cn", "iso-2022-cn-ext", "iso-2022-kr",
      "csiso2022kr"], replaced),
    (["shift_jis", "shift-jis", "sjis", "x-sjis", "ms_kanji", "ms932", "windows-31j", "csshiftjis"],
      foreign .shiftJis),
    (["euc-jp", "x-euc-jp", "cseucpkdfmtjapanese"], foreign .eucJp),
    (["iso-2022-jp", "csiso2022jp"], foreign .iso2022Jp),
    (["euc-kr", "ks_c_5601-1987", "ks_c_5601-1989", "ksc5601", "ksc_5601", "korean", "iso-ir-149",
      "windows-949", "cseuckr", "csksc56011987"], foreign .eucKr),
    (["gbk", "x-gbk", "gb2312", "gb_2312", "gb_2312-80", "chinese", "iso-ir-58", "csgb2312",
      "csiso58gb231280"], foreign .gbk),
    (["gb18030"], foreign .gb18030),
    (["big5", "big5-hkscs", "cn-big5", "x-x-big5", "csbig5"], foreign .big5),
    (["utf-7"], foreign .utf7)]

def isPadding (c : Char) : Bool :=
  c == ' ' || c == '\t' || c == '\n' || c == '\x0C' || c == '\r'

def trimLabel (label : String) : String :=
  String.ofList ((label.toList.dropWhile isPadding).reverse.dropWhile isPadding).reverse

def ofLabel? (label : String) : Option Charset :=
  let label := Text.lowercase (trimLabel label)
  (labels.find? fun entry => entry.1.contains label).map (·.2)

def readable? (label : String) : Option Charset :=
  (ofLabel? label).filter (· != replaced)

def unit (bigEndian : Bool) (a b : UInt8) : Nat :=
  if bigEndian then a.toNat * 256 + b.toNat else b.toNat * 256 + a.toNat

def isHigh (u : Nat) : Bool := 0xD800 ≤ u && u < 0xDC00
def isLow (u : Nat) : Bool := 0xDC00 ≤ u && u < 0xE000

/-- Reads code units of two bytes after the characters `read`, the last one first. `high` is the
first half of a pair whose second half has to follow. -/
def decodeUnits (bigEndian : Bool) (high : Option Nat) (read : List Char) : Bytes → List Char
  | a :: b :: rest =>
    let u := unit bigEndian a b
    match high with
    | some h =>
      if isLow u then
        let c := Char.ofNat (0x10000 + (h - 0xD800) * 0x400 + (u - 0xDC00))
        decodeUnits bigEndian none (c :: read) rest
      else if isHigh u then decodeUnits bigEndian (some u) (Utf8.replacement :: read) rest
      else decodeUnits bigEndian none (Char.ofNat u :: Utf8.replacement :: read) rest
    | none =>
      if isHigh u then decodeUnits bigEndian (some u) read rest
      else if isLow u then decodeUnits bigEndian none (Utf8.replacement :: read) rest
      else decodeUnits bigEndian none (Char.ofNat u :: read) rest
  | [_] => (Utf8.replacement :: read).reverse
  | [] => (if high.isSome then Utf8.replacement :: read else read).reverse

def decodeByte (upper : Array Char) (b : UInt8) : Char :=
  if b < 128 then Char.ofNat b.toNat else upper.getD (b.toNat - 128) Utf8.replacement

def decodeAscii (bytes : Bytes) : List Char :=
  bytes.map fun b => if b < 128 then Char.ofNat b.toNat else Utf8.replacement

def decode [ForeignDecoders] (set : Charset) (bytes : Bytes) : List Char :=
  match set with
  | utf8 => Utf8.decodeLossy bytes
  | utf16 bigEndian => decodeUnits bigEndian none [] bytes
  | single upper => bytes.map (decodeByte upper.toList.toArray)
  | userDefined =>
    bytes.map fun b => Char.ofNat (if b < 128 then b.toNat else 0xF780 + (b.toNat - 128))
  | replaced => if bytes.isEmpty then [] else [Utf8.replacement]
  | foreign set => ForeignDecoders.decode set bytes

def marked? : Bytes → Option (Charset × Bytes)
  | 0xEF :: 0xBB :: 0xBF :: rest => some (utf8, rest)
  | 0xFF :: 0xFE :: rest => some (utf16 false, rest)
  | 0xFE :: 0xFF :: rest => some (utf16 true, rest)
  | _ => none

/-- Decodes the content of a part. A byte order mark goes before a known label; without one the
content is taken for ASCII. -/
def decodeLabelled [ForeignDecoders] (label : String) (bytes : Bytes) : List Char :=
  match ofLabel? label with
  | some set =>
    match marked? bytes with
    | some (set, rest) => set.decode rest
    | none => set.decode bytes
  | none => decodeAscii bytes

end Charset

namespace AsciiOnly

-- Foreign sets as far as they are ASCII.
scoped instance decoders : ForeignDecoders where
  decode _ bytes := Charset.decodeAscii bytes
  grows set bytes := by
    have small : ∀ n < 128, (Char.ofNat n).utf8Size = 1 := by decide
    induction bytes with
    | nil => exact Nat.le_refl 0
    | cons b bytes ih =>
      simp only [Charset.decodeAscii, Utf8.encode, List.map_cons, List.flatMap_cons,
        List.length_append, String.length_utf8EncodeChar, List.length_cons, List.countP_cons]
        at ih ⊢
      by_cases ascii : b < 128
      · have one := small _ (UInt8.lt_iff_toNat_lt.1 ascii)
        rw [if_pos ascii, one]
        omega
      · have three : Utf8.replacement.utf8Size = 3 := by decide
        simp only [ascii, if_false, decide_false, Bool.false_and, Bool.not_false, if_true, three]
        omega

end AsciiOnly

end MailRelay
