import RelayClient.EscapedText
import RelayClient.Iso2022
import RelayClient.MediaType
import RelayClient.Punycode
import RelayClient.SingleByteSet
import RelayClient.Utf7
import RelayClient.Utf8
import RelayClient.WideUnicode

/-!
# Character sets

A set reads bytes as text. Malformed pieces are either replaced by U+FFFD or refused.
-/
namespace RelayClient

/-- The East Asian sets in which every character has bytes of its own. -/
inductive MultiByteSet where
  | eucJapanese
  | eucJis (e : JisX0213.Edition)
  | shiftJis
  | shiftJis2004 (e : JisX0213.Edition)
  | codePage932
  | eucKorean
  | codePage949
  | johab
  | gb2312
  | gbk
  | gb18030
  | big5
  | codePage950
  | big5HongKong
  deriving DecidableEq

def MultiByteSet.ahead : MultiByteSet → Bytes → Ahead Unit
  | eucJapanese => Japanese.euc
  | eucJis e => Japanese.eucJis e
  | shiftJis => Japanese.shiftJis
  | shiftJis2004 e => Japanese.shiftJis2004 e
  | codePage932 => Japanese.codePage932
  | eucKorean => Korean.euc
  | codePage949 => Korean.codePage949
  | johab => Korean.johab
  | gb2312 => Chinese.gb2312
  | gbk => Chinese.gbk
  | gb18030 => Chinese.gb18030
  | big5 => Chinese.big5
  | codePage950 => Chinese.codePage950
  | big5HongKong => Chinese.big5HongKong

/-- The last three of the sets without a parameter turn nothing into text: one is never defined, the
others lead from text to text and from bytes to bytes. -/
inductive Charset where
  | ascii
  | latin1
  | utf7
  | utf8
  | utf8Signature
  | utf16
  | utf16In (order : ByteOrder)
  | utf32
  | utf32In (order : ByteOrder)
  | escaped (style : EscapedText.Style)
  | punycode
  | hostName
  | singleByte (s : SingleByteSet)
  | multiByte (s : MultiByteSet)
  | iso2022 (s : Iso2022)
  | hz
  | undefined
  | betweenTexts
  | betweenBytes

namespace Charset

def asciiItems (bytes : Bytes) : ReadText :=
  bytes.map fun b => if b < 0x80 then some (CodePoint.ofNat b.toNat) else none

/-- The reading of bytes from which nothing is missing at the front, such as a byte order mark. -/
def items (s : Charset) (bytes : Bytes) : Except Undecodable ReadText :=
  match s with
  | ascii | hostName => .ok (asciiItems bytes)
  | latin1 => .ok (bytes.map fun b => some (CodePoint.ofNat b.toNat))
  | utf7 => .ok (Utf7.items .outside bytes)
  | utf8 => .ok (Utf8.items false none bytes)
  | utf8Signature => .ok (match bytes with
    | [] | [0xEF] | [0xEF, 0xBB] => []
    | 0xEF :: 0xBB :: 0xBF :: r => Utf8.items false none r
    | r => Utf8.items false none r)
  | utf16In order => .ok (Utf16.items false order bytes)
  | utf16 => .ok (match bytes with
    | 0xFE :: 0xFF :: r => Utf16.items false .bigEndian r
    | 0xFF :: 0xFE :: r => Utf16.items false .littleEndian r
    | r => Utf16.items false .littleEndian r)
  | utf32In order => .ok (Utf32.items false order bytes)
  | utf32 => .ok (match bytes with
    | 0 :: 0 :: 0xFE :: 0xFF :: r => Utf32.items false .bigEndian r
    | 0xFF :: 0xFE :: 0 :: 0 :: r => Utf32.items false .littleEndian r
    | r => Utf32.items false .littleEndian r)
  | escaped style => .ok (EscapedText.items style .outside bytes)
  | punycode => Prod.fst <$> Punycode.read bytes
  | singleByte t => .ok (t.items bytes)
  | multiByte t => Ahead.text (fun _ => t.ahead) () bytes
  | iso2022 t => Ahead.text t.ahead {} bytes
  | hz => Ahead.text Chinese.hz false bytes
  | undefined => .error .undefinedSet
  | betweenTexts => .error .notBytes
  | betweenBytes => .error .notText

/-- Whether bytes that need a byte order mark are long enough for one and have none. -/
def lacksMark (s : Charset) (bytes : Bytes) : Option String :=
  match s, bytes with
  | utf16, 0xFF :: 0xFE :: _ | utf16, 0xFE :: 0xFF :: _ => none
  | utf16, _ :: _ :: _ => some "UTF-16"
  | utf32, 0xFF :: 0xFE :: 0 :: 0 :: _ | utf32, 0 :: 0 :: 0xFE :: 0xFF :: _ => none
  | utf32, _ :: _ :: _ :: _ :: _ => some "UTF-32"
  | _, _ => none

def decode (s : Charset) (bytes : Bytes) : Except Fault Text :=
  match s, s.lacksMark bytes with
  | hostName, _ => .error (.undecodable .notReplacing)
  | _, some encoding => .error (.undecodable (.noByteOrderMark encoding))
  | _, none => (s.items bytes).mapError .undecodable |>.map ReadText.replaced

def strict? (s : Charset) (bytes : Bytes) : Except Fault (Option Text) :=
  match s with
  | punycode => .ok (match Punycode.read bytes with
    | .ok (t, true) => t.intact?
    | _ => none)
  | s => match s.items bytes with
    | .ok t => .ok t.intact?
    | .error .unknownShift => .error (.undecodable .unknownShift)
    | .error _ => .ok none

end Charset
end RelayClient
