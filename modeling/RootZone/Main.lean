import RootZone.CommandLine
import Std.Async.DNS
import Std.Async.TCP

/-!
# The program

The host of the program is the system that it runs on. Servers are reached without encryption; a
locator that asks for encryption gets no connection.
-/

namespace RootZone.System

open Std.Async Std.Net

def faultOf : IO.Error → Files.Fault
  | .noFileOrDirectory .. => .os .missing
  | .alreadyExists .. => .os .alreadyExists
  | .otherError code text | .resourceBusy code text | .resourceVanished code text
  | .unsupportedOperation code text | .hardwareFault code text
  | .unsatisfiedConstraints code text | .illegalOperation code text | .protocolError code text
  | .timeExpired code text | .interrupted _ code text | .invalidArgument _ code text
  | .permissionDenied _ code text | .resourceExhausted _ code text
  | .inappropriateType _ code text | .noSuchThing _ code text =>
      match [Files.OsFault.busy, .notDirectory, .isDirectory, .nameTooLong].find?
        (·.code = code.toNat) with
      | some fault => .os fault
      | none => .os (.other code.toNat text)
  | e => .os (.other 0 (toString e))

/-- The program runs with the file to which it writes. -/
abbrev Running := StateT (Option IO.FS.Handle) IO

/-- The outcome of an action on paths. -/
def attempt {α : Type} (paths : List (List Char)) (action : IO α) :
    IO (Except Files.Fault α) := do
  if paths.any (·.contains '\x00') then return .error .zeroInName
  match ← action.toBaseIO with
  | .ok a => return .ok a
  | .error e => return .error (faultOf e)

/-- Make a directory, unless there is one. Where something exists, making all directories of the
path fails unless it is a directory. -/
def makeDirectory (path : String) : IO Unit := do
  try IO.FS.createDir path
  catch
    | .alreadyExists .. => IO.FS.createDirAll path
    | e => throw e

def withOpenFile (action : IO.FS.Handle → IO Unit) : Running (Except Files.Fault Unit) := do
  match ← get with
  | some file => attempt [] (action file)
  | none => return .error (.os (.other 9 "Bad file descriptor"))

def perform : Files.Operation → Running (Except Files.Fault Unit)
  | .makeDirectory path => attempt [path] (makeDirectory (String.ofList path))
  | .create path => do
      match ← attempt [path] (IO.FS.Handle.mk (String.ofList path) .write) with
      | .error fault => return .error fault
      | .ok file =>
          set (some file)
          return .ok ()
  | .append _ bytes => withOpenFile (·.write ⟨bytes.toArray⟩)
  | .flush _ => withOpenFile (·.flush)
  | .rename source target => do
      -- the file is closed before it is given another name
      set (none : Option IO.FS.Handle)
      attempt [source, target] (IO.FS.rename (String.ofList source) (String.ofList target))
  | .remove path => attempt [path] (IO.FS.removeFile (String.ofList path))

partial def receive (socket : TCP.Socket.Client) (received : List UInt8) : Async (List UInt8) := do
  match ← socket.recv? 65536 with
  | some bytes => receive socket (bytes.data.toList.reverse ++ received)
  | none => return received.reverse

def exchangeWith (request : Http.Request) (host : String) (service : UInt16) : Async (List UInt8) := do
  let addresses ← DNS.getAddrInfo host (toString service)
  let some address := addresses[0]? | throw (IO.userError "no address")
  let socket ← TCP.Socket.Client.mk
  socket.connect (match address with
    | .v4 address => .v4 ⟨address, service⟩
    | .v6 address => .v6 ⟨address, service⟩)
  socket.send ⟨(Text.encodeUtf8 request.text).toArray⟩
  receive socket []

partial def waitUntil {α : Type} (moment : Nat) (task : Task α) : BaseIO (Option α) := do
  if ← IO.hasFinished task then return some task.get
  if moment ≤ (← IO.monoMsNow) then return none
  IO.sleep 5
  waitUntil moment task

/-- Exchange a request for a response. The seconds count from the start. -/
def exchange (start : Nat) (seconds : Nat) (request : Http.Request) :
    IO (Except String (List UInt8)) := do
  match request.url.scheme, request.url.service? with
  | .plain, some service =>
      let host := String.ofList (Http.Url.hostOf request.url.authority)
      let task ← (exchangeWith request host service.toUInt16).block.asTask
      match ← waitUntil (start + 1000 * seconds) task with
      | some (.ok bytes) => return .ok bytes
      | some (.error e) => return .error (toString e)
      | none => return .error "timeout"
  | .plain, none => return .error "invalid port"
  | .secure, _ => return .error "encryption is not supported"

/-- The host of a program that began at a moment. -/
def host (start : Nat) : Host Running where
  read path := attempt [path] do
    return (← IO.FS.readBinFile (String.ofList path)).data.toList
  perform := perform
  exchange seconds request := exchange start seconds request

def tell (report : CommandLine.Report) : IO UInt32 := do
  for event in report.events do
    if event.severity = .info then IO.eprintln event.message
  IO.print report.printed
  IO.eprint report.complaint
  return report.exit.status.toUInt32

end RootZone.System

def main (words : List String) : IO UInt32 := do
  let host := RootZone.System.host (← IO.monoMsNow)
  let environment := (← IO.getEnv "TLDGEN_URL").map String.toList
  let (report, _) ← (RootZone.CommandLine.run host environment (words.map String.toList)).run none
  RootZone.System.tell report
