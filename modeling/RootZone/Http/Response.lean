import RootZone.Text.Decimal
import RootZone.Text.Split
import RootZone.Unicode.Blank

/-!
# Responses

What a server sends: a status line, header lines, an empty line, and a body. `readHead?` takes the
head off the bytes and refuses one that is incomplete or malformed; a line may end in a line feed
alone, and empty lines in front do not count. The head says how the body ends, and `body` takes it
off the bytes that follow: after a number of bytes, after a chunk of length zero, or where the
connection is closed. A body that is cut short is a fault, so are chunks that are not well-formed;
bytes behind the end do not matter.

Clients also refuse a head that is longer than they care for, or has more headers. There is no such
limit here: what is said of a response holds where the client takes a head of its size.
-/

namespace RootZone.Http

inductive Version where
  /-- The older version, which has no chunks. -/
  | v10
  | v11
  deriving DecidableEq

/-- What comes before the body of a response. The names of headers are in lower case. -/
structure Head where
  version : Version
  status : Nat
  headers : List (List Char × List Char)
  deriving DecidableEq

inductive Framing where
  | noBody
  | length (n : Nat)
  | chunked
  | untilClose
  deriving DecidableEq

inductive BodyFault where
  | cutShort
  | badChunkLength
  | badChunkEnd
  | notUtf8
  deriving DecidableEq

def BodyFault.message : BodyFault → String
  | cutShort => "Peer disconnected"
  | badChunkLength => "protocol: chunk length cannot be read as a number"
  | badChunkEnd => "protocol: chunk expected crlf as next character"
  | notUtf8 => "stream did not contain valid UTF-8"

/-- A line that is complete but for its line feed, given in reverse. One carriage return at its end
goes with the line feed. -/
def lineOf : List UInt8 → List UInt8
  | 13 :: r => r.reverse
  | r => r.reverse

def dropEmptyLines : List UInt8 → List UInt8
  | 13 :: 10 :: r => dropEmptyLines r
  | 10 :: r => dropEmptyLines r
  | r => r

/-- A text of bytes, one code point for each. -/
def textOf (bytes : List UInt8) : List Char :=
  bytes.map fun b => Char.ofNat b.toNat

/-- A byte of the text of a status line or of a header: no control but the tab. -/
def isTextByte (b : UInt8) : Bool :=
  b = 9 || 0x20 ≤ b && b ≠ 0x7F

def isNameByte (b : UInt8) : Bool :=
  let c := Char.ofNat b.toNat
  c.isAlphanum || b < 0x80 && ['!', '#', '$', '%', '&', '\'', '*', '+', '-', '.', '^', '_', '\x60',
    '|', '~'].contains c

def decimal? (b : UInt8) : Option Nat :=
  if 48 ≤ b ∧ b ≤ 57 then some (b.toNat - 48) else none

/-- Take the version off the front of a status line. -/
def version? (line : List UInt8) : Option (Version × List UInt8) :=
  if textOf (line.take 8) = "HTTP/1.1".toList then some (.v11, line.drop 8)
  else if textOf (line.take 8) = "HTTP/1.0".toList then some (.v10, line.drop 8)
  else none

/-- The status that follows the version. A reason may follow the status and does not matter. -/
def status? : List UInt8 → Option Nat
  | 32 :: a :: b :: c :: r =>
      match decimal? a, decimal? b, decimal? c with
      | some a, some b, some c =>
          let reason := match r with
            | [] => true
            | s :: r => s = 32 && r.all isTextByte
          if reason && 1 ≤ a then some (a * 100 + b * 10 + c) else none
      | _, _, _ => none
  | _ => none

def isBlankByte (b : UInt8) : Bool :=
  b = 32 || b = 9

/-- A header line as its name in lower case and its value. -/
def header? (line : List UInt8) : Option (List Char × List Char) :=
  let name := line.takeWhile (· ≠ 58)
  match line.drop name.length with
  | [] => none
  | _ :: value =>
      if !name.isEmpty && name.all isNameByte && value.all isTextByte then
        let value := ((value.dropWhile isBlankByte).reverse.dropWhile isBlankByte).reverse
        some ((textOf name).map Char.toLower, textOf value)
      else none

/-- Take lines off the bytes, up to an empty one, which is taken off too. `line` holds the bytes of
the line that is being read, newest first. -/
def linesToEmpty? (line : List UInt8) : List UInt8 → Option (List (List UInt8) × List UInt8)
  | [] => none
  | b :: r =>
      if b = 10 then
        if (lineOf line).isEmpty then some ([], r)
        else (linesToEmpty? [] r).map fun (lines, r) => (lineOf line :: lines, r)
      else linesToEmpty? (b :: line) r

def readHead? (bytes : List UInt8) : Option (Head × List UInt8) :=
  match linesToEmpty? [] (dropEmptyLines bytes) with
  | none | some ([], _) => none
  | some (line :: lines, r) => do
      let (version, line) ← version? line
      let status ← status? line
      let headers ← lines.mapM header?
      some (⟨version, status, headers⟩, r)

namespace Head

/-- The value of the first header of a name. A value that is not ASCII is not read. -/
def header? (h : Head) (name : String) : Option (List Char) :=
  (h.headers.lookup name.toList).filter (·.all (·.toNat < 0x7F))

/-- A list in a header names `chunked`, in any case. -/
def namesChunked (value : List Char) : Bool :=
  (Text.split ',' value).any fun part => (Unicode.trim part).map Char.toLower = "chunked".toList

/-- A body announces its length with fewer than these bytes. -/
def lengthBound : Nat := UInt64.size

/-- The end of the body, if a header speaks of it. -/
def announced? (h : Head) : Option (Option Framing) := do
  let length ← match h.header? "content-length" with
    | none => some none
    | some value => (Text.numberBelow? lengthBound value).map some
  if h.version = .v11 && (h.header? "transfer-encoding").any namesChunked then
    some (some .chunked)
  else some (length.map .length)

def isRedirect (h : Head) : Bool :=
  300 ≤ h.status && h.status < 400 && h.status ≠ 304

/-- How the body ends, or `none` if the head does not make sense. -/
def framing? (h : Head) : Option Framing :=
  h.announced?.map fun announced =>
    if h.status < 200 || h.status = 204 || h.status = 304 then .noBody
    else announced.getD (if h.isRedirect then .noBody else .untilClose)

end Head

def hexadecimal? (b : UInt8) : Option Nat :=
  if 48 ≤ b ∧ b ≤ 57 then some (b.toNat - 48)
  else if 97 ≤ b ∧ b ≤ 102 then some (b.toNat - 87)
  else if 65 ≤ b ∧ b ≤ 70 then some (b.toNat - 55)
  else none

/-- The length that a chunk begins with. What follows a semicolon does not matter. -/
def chunkLength? (line : List UInt8) : Option Nat :=
  let digits := (line.takeWhile (· ≠ 59)).filter (!isBlankByte ·)
  if digits.isEmpty then none
  else digits.foldl (fun n b => do some (16 * (← n) + (← hexadecimal? b))) (some 0)

/-- Where the reader of a chunked body stands. A line that is being read is held newest first. -/
inductive ChunkState where
  /-- In the line with the length of a chunk. -/
  | length (line : List UInt8)
  /-- In a chunk, with so many bytes left after the next one. -/
  | data (left : Nat)
  /-- Behind a chunk. -/
  | behind
  /-- Behind a chunk and a carriage return. -/
  | carriage
  /-- In a line behind the last chunk. -/
  | trailer (line : List UInt8)

/-- Take a chunked body off the bytes, up to the empty line behind the chunk of length zero. `done`
holds the body so far, newest first. -/
def chunks (done : List UInt8) : ChunkState → List UInt8 → Except BodyFault (List UInt8)
  | _, [] => .error .cutShort
  | .length line, b :: r =>
      if b = 10 then
        match chunkLength? (lineOf line) with
        | none => .error .badChunkLength
        | some 0 => chunks done (.trailer []) r
        | some (n + 1) => chunks done (.data n) r
      else chunks done (.length (b :: line)) r
  | .data 0, b :: r => chunks (b :: done) .behind r
  | .data (n + 1), b :: r => chunks (b :: done) (.data n) r
  | .behind, b :: r => if b = 13 then chunks done .carriage r else .error .badChunkEnd
  | .carriage, b :: r => if b = 10 then chunks done (.length []) r else .error .badChunkEnd
  | .trailer line, b :: r =>
      if b = 10 then
        if (lineOf line).isEmpty then .ok done.reverse else chunks done (.trailer []) r
      else chunks done (.trailer (b :: line)) r

def body (framing : Framing) (bytes : List UInt8) : Except BodyFault (List UInt8) :=
  match framing with
  | .noBody => .ok []
  | .untilClose => .ok bytes
  | .length n => if bytes.length < n then .error .cutShort else .ok (bytes.take n)
  | .chunked => chunks [] (.length []) bytes

end RootZone.Http
