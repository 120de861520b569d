import RootZone.Files.Save
import RootZone.Http.Download

/-!
# Hosts

What the work on a list needs from the world around it: the contents of a file, operations on
files, an exchange of a request for a response, and words for an exchange that failed. A host offers
these, the first three in some monad, and nothing else of the outside is ever used, so what is said of
a run holds on every host that does what these say.
-/

namespace RootZone

structure Host (m : Type → Type) where
  /-- The contents of a file. -/
  read : List Char → m (Except Files.Fault (List UInt8))
  perform : Files.Operation → m (Except Files.Fault Unit)
  /-- The bytes that come back for a request until the connection closes, or the reason why there is
  no connection. The number is the seconds in which a download has to be done. -/
  exchange : Nat → Http.Request → m (Except String (List UInt8))
  /-- The wording for failures of the transport. -/
  explain : Http.TransportFault → String := Http.TransportFault.summary

/-- The host acts on the files in its state as a system does on which any operation may fail at any
time. Reading and talking to servers leave the files alone. -/
structure Host.Obeys {σ : Type} (host : Host (StateM σ)) (files : σ → Files.Tree) : Prop where
  read : ∀ path s, files (host.read path s).2 = files s
  perform : ∀ op s, Files.Performs (files s) op (host.perform op s).1 (files (host.perform op s).2)
  exchange : ∀ seconds request s, files (host.exchange seconds request s).2 = files s

end RootZone
