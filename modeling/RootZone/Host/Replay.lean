import RootZone.Host

/-!
# Replay

A host without an outside. Its files are a file tree, and its server, which is reached without
encryption only, answers every connection with the next of a list of prepared replies and refuses
connections when none is left. It remembers the requests that were answered.

`hostWithRoom` is the same host with a disk that fills up: a write that is longer than the room for it
leaves its first bytes behind and fails.
-/

namespace RootZone

structure Replay where
  files : Files.Tree := {}
  /-- The replies that are left. -/
  replies : List (List UInt8) := []
  /-- The requests that were answered, newest first. -/
  answered : List Http.Request := []

namespace Replay

def exchange (request : Http.Request) : StateM Replay (Except String (List UInt8)) := fun r =>
  match request.url.scheme, r.replies with
  | .plain, reply :: replies =>
      (.ok reply, { r with replies := replies, answered := request :: r.answered })
  | _, _ => (.error "Connection refused", r)

def host : Host (StateM Replay) where
  read path := fun r => (r.files.contents path, r)
  perform op := fun r =>
    let (outcome, files) := Files.Tree.perform op r.files
    (outcome, { r with files := files })
  exchange _ request := exchange request

def noSpace : Files.Fault :=
  .os (.other 28 "No space left on device")

/-- The host of a disk on which every write has room for so many bytes. -/
def hostWithRoom (room : Nat) : Host (StateM Replay) where
  read := host.read
  perform
    | .append path bytes => fun r =>
        let written := host.perform (.append path (bytes.take room)) r
        (if bytes.length ≤ room then written.1 else .error noSpace, written.2)
    | op => host.perform op
  exchange := host.exchange

/-- The requests that were answered, in order. -/
def requests (r : Replay) : List Http.Request :=
  r.answered.reverse

end Replay

end RootZone
