import Mathlib.Data.Nat.Digits.Defs
import RootZone.Http.Response

/-!
# Successful responses

What a server sends that hands bytes over: a head with a status of success, and the bytes in one of
three ways, after a header with their number, in chunks, or up to the closing of the connection. A
`Response` carries the proofs of its own form, so it is well-formed by its type: its lines are made of
the bytes that may stand there, its headers announce the way in which the bytes are sent and no other
one, and there is no coding of the contents. `Response.bytes` is what goes over the connection and
`Response.payload` what is handed over.
-/

namespace RootZone.Http

/-- The bytes of a text, one for each code point. -/
def bytesOf (text : List Char) : List UInt8 :=
  text.map fun c => UInt8.ofNat c.toNat

def lineEnd : List UInt8 := [13, 10]

def block (lines : List (List UInt8)) : List UInt8 :=
  lines.flatMap (· ++ lineEnd) ++ lineEnd

/-- A header: a name, a colon, and a value, which may have blanks on both sides. -/
structure Field where
  name : List UInt8
  value : List UInt8
  before : List UInt8 := [32]
  behind : List UInt8 := []
  name_ne_nil : name ≠ [] := by decide
  isNameByte_name : name.all isNameByte = true := by decide
  isTextByte_value : value.all isTextByte = true := by decide
  head?_value : value.head?.all (!isBlankByte ·) = true := by decide
  getLast?_value : value.getLast?.all (!isBlankByte ·) = true := by decide
  isBlankByte_before : before.all isBlankByte = true := by decide
  isBlankByte_behind : behind.all isBlankByte = true := by decide

namespace Field

def line (f : Field) : List UInt8 :=
  f.name ++ 58 :: (f.before ++ f.value ++ f.behind)

/-- The name in lower case, as headers are told apart. -/
def key (f : Field) : List Char :=
  (textOf f.name).map Char.toLower

def values (fields : List Field) (name : String) : List (List Char) :=
  (fields.filter (·.key = name.toList)).map (textOf ·.value)

end Field

def hexValue (b : UInt8) : ℕ :=
  (hexadecimal? b).getD 0

/-- A line that announces a chunk of so many bytes: their number in hexadecimal digits, and maybe an
extension behind a semicolon. -/
structure SizeLine (n : ℕ) where
  digits : List UInt8
  extension : Option (List UInt8) := none
  digits_ne_nil : digits ≠ [] := by decide
  isSome_digits : digits.all (fun b => (hexadecimal? b).isSome) = true := by decide
  value_digits : Nat.ofDigits 16 (digits.reverse.map hexValue) = n := by decide
  isTextByte_extension : extension.all (·.all isTextByte) = true := by decide

def SizeLine.line {n : ℕ} (s : SizeLine n) : List UInt8 :=
  s.digits ++ (s.extension.map (59 :: ·)).getD []

/-- A chunk that is not the last. -/
structure Chunk where
  data : List UInt8
  size : SizeLine data.length
  data_ne_nil : data ≠ [] := by decide

def Chunk.bytes (c : Chunk) : List UInt8 :=
  c.size.line ++ lineEnd ++ (c.data ++ lineEnd)

inductive Carriage where
  /-- Their number is announced. -/
  | length (payload : List UInt8)
  /-- In chunks, and one of length zero behind which further headers may stand. -/
  | chunked (chunks : List Chunk) (last : SizeLine 0) (trailers : List Field)
  /-- Until the connection is closed. -/
  | untilClose (payload : List UInt8)

namespace Carriage

def payload : Carriage → List UInt8
  | length payload | untilClose payload => payload
  | chunked chunks _ _ => chunks.flatMap Chunk.data

def bytes : Carriage → List UInt8
  | length payload | untilClose payload => payload
  | chunked chunks last trailers =>
      chunks.flatMap Chunk.bytes ++ (last.line ++ lineEnd ++ block (trailers.map Field.line))

/-- What the head says of the end of the bytes. Their end is the closing of the connection if it says
nothing. -/
def announcement : Carriage → Option Framing
  | length payload => some (.length payload.length)
  | chunked .. => some .chunked
  | untilClose _ => none

/-- The headers announce the bytes, and nothing but them. The number of bytes has to be one that can
be announced. -/
def Announced (version : Version) (fields : List Field) : Carriage → Prop
  | length payload =>
      Field.values fields "transfer-encoding" = [] ∧ payload.length < Head.lengthBound ∧
        ∃ value, Field.values fields "content-length" = [value] ∧
          Text.number? value = some payload.length
  | chunked .. =>
      Field.values fields "content-length" = [] ∧ version = .v11 ∧
        ∃ value, Field.values fields "transfer-encoding" = [value] ∧
          value.map Char.toLower = "chunked".toList
  | untilClose _ =>
      Field.values fields "content-length" = [] ∧ Field.values fields "transfer-encoding" = []

end Carriage

def Version.bytes : Version → List UInt8
  | v10 => bytesOf "HTTP/1.0".toList
  | v11 => bytesOf "HTTP/1.1".toList

def digitByte (n : ℕ) : UInt8 :=
  UInt8.ofNat (48 + n)

/-- A response of success that hands bytes over as they are. -/
structure Response where
  version : Version
  status : ℕ
  reason : Option (List UInt8)
  fields : List Field
  carriage : Carriage
  isSuccess : 200 ≤ status ∧ status < 300
  isTextByte_reason : reason.all (·.all isTextByte) = true
  uncoded : Field.values fields "content-encoding" = []
  announced : carriage.Announced version fields
  /-- A response that says that there is no content has none and announces none. -/
  noContent : status = 204 → carriage = .untilClose []

namespace Response

def payload (r : Response) : List UInt8 :=
  r.carriage.payload

def statusLine (r : Response) : List UInt8 :=
  r.version.bytes ++ 32 :: digitByte (r.status / 100) :: digitByte (r.status / 10 % 10) ::
    digitByte (r.status % 10) :: (r.reason.map (32 :: ·)).getD []

def headBytes (r : Response) : List UInt8 :=
  block (r.statusLine :: r.fields.map Field.line)

def head (r : Response) : Head :=
  ⟨r.version, r.status, r.fields.map fun f => (f.key, textOf f.value)⟩

def bytes (r : Response) : List UInt8 :=
  r.headBytes ++ r.carriage.bytes

end Response

end RootZone.Http
