import RootZone.Http.Response
import RootZone.Http.Url
import RootZone.Journal
import RootZone.Text.Lines
import RootZone.Text.Utf8

/-!
# Downloads

A list is downloaded by one request and, where the server says so, further ones elsewhere.
`fetch` needs nothing but a way to exchange a request for the bytes that come back until the
connection closes, or for the reason why there is no connection, so it can be run against any server,
a list of prepared answers included. The whole text arrives or the download fails.

What a client has to say of a failure of the transport is its own and the system's affair. The wording
is a parameter of everything that reports one, and may depend on all that was received.
-/

namespace RootZone.Http

structure Request where
  url : Url
  deriving DecidableEq

def Request.line (r : Request) : List Char :=
  "GET ".toList ++ r.url.target ++ " HTTP/1.1".toList

/-- The whole request. The server is asked to close the connection behind its response. -/
def Request.text (r : Request) : List Char :=
  r.line ++ "\r\nHost: ".toList ++ Url.serverOf r.url.authority ++
    "\r\nAccept: */*\r\nConnection: close\r\n\r\n".toList

/-- Why there is no response that can be understood. -/
inductive TransportFault where
  | badLocator
  | noConnection (reason : String)
  /-- The head of what was received is incomplete or makes no sense. -/
  | badHead (received : List UInt8)
  /-- The request is to be sent elsewhere, and it is not said where, or not to the end. -/
  | badRedirect (received : List UInt8)
  | tooManyRedirects
  deriving DecidableEq

def TransportFault.summary : TransportFault → String
  | badLocator => "bad uri"
  | noConnection reason => s!"io: {reason}"
  | badHead _ => "protocol: http parse fail"
  | badRedirect _ => "redirect failed"
  | tooManyRedirects => "too many redirects"

inductive Fault where
  | transport (fault : TransportFault)
  /-- The server refused. -/
  | status (code : Nat)
  | body (fault : BodyFault)
  deriving DecidableEq

/-- How often a request is sent elsewhere. -/
def redirectLimit : Nat := 10

inductive Turn where
  /-- The response is final; this is its body. -/
  | final (body : List UInt8)
  | redirect (url : Url)
  deriving DecidableEq

def readResponse (url : Url) (bytes : List UInt8) : Except Fault Turn :=
  match readHead? bytes with
  | none => .error (.transport (.badHead bytes))
  | some (head, rest) =>
      match head.framing? with
      | none => .error (.transport (.badHead bytes))
      | some framing =>
          if head.isRedirect then
            match (head.header? "location").bind url.join, body framing rest with
            | some url, .ok _ => .ok (.redirect url)
            | _, _ => .error (.transport (.badRedirect bytes))
          else if 400 ≤ head.status then .error (.status head.status)
          else
            match body framing rest with
            | .error fault => .error (.body fault)
            | .ok bytes => .ok (.final bytes)

/-- Ask for a locator, following so many redirections. -/
def fetchWithin {m : Type → Type} [Monad m] (exchange : Request → m (Except String (List UInt8))) :
    Nat → Url → m (Except Fault (List UInt8))
  | n, url => do
      match ← exchange ⟨url⟩ with
      | .error reason => pure (.error (.transport (.noConnection reason)))
      | .ok bytes =>
          match readResponse url bytes with
          | .error fault => pure (.error fault)
          | .ok (.final body) => pure (.ok body)
          | .ok (.redirect url) =>
              match n with
              | 0 => pure (.error (.transport .tooManyRedirects))
              | n + 1 => fetchWithin exchange n url

def fetch {m : Type → Type} [Monad m] (exchange : Request → m (Except String (List UInt8)))
    (url : List Char) : m (Except Fault (List UInt8)) :=
  match Url.parse? url with
  | none => pure (.error (.transport .badLocator))
  | some url => fetchWithin exchange redirectLimit url

/-- The error that a fault amounts to, for the locator that was asked for. -/
def Fault.toError (explain : TransportFault → String) (url : List Char) : Fault → Error
  | transport fault =>
      .fetch .transport s!"Request to {String.ofList url} failed: {explain fault}"
  | status code => .fetch .status s!"{String.ofList url} returned HTTP {code}"
  | body fault =>
      .fetch .body s!"Failed to read response from {String.ofList url}: {fault.message}"

/-- The lines of a list on the web, given what asking for it gave. -/
def linesOfDownload (explain : TransportFault → String) (url : List Char)
    (outcome : Except Fault (List UInt8)) : Logged (List (List Char)) := do
  Logged.report (.downloading url)
  match outcome with
  | .error fault => Logged.ofExcept (.error (fault.toError explain url))
  | .ok bytes =>
      match Text.decodeUtf8? bytes with
      | none => Logged.ofExcept (.error (Fault.toError explain url (.body .notUtf8)))
      | some text => do
          let lines := Text.lines text
          Logged.report (.downloaded lines.length)
          pure lines

/-- The locator of the list when none is given. -/
def defaultUrl : List Char :=
  "https://data.iana.org/TLD/tlds-alpha-by-domain.txt".toList

structure Options where
  url : List Char := defaultUrl
  /-- The time for all requests together, in seconds. -/
  timeout : Nat := 30

def lines {m : Type → Type} [Monad m] (exchange : Request → m (Except String (List UInt8)))
    (explain : TransportFault → String) (url : List Char) : m (Logged (List (List Char))) := do
  return linesOfDownload explain url (← fetch exchange url)

end RootZone.Http
