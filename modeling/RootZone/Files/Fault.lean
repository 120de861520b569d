/-!
# Faults of file operations

The ways in which an operation on files fails, with the numbers and texts that the system has for
them, and the one fault of reading that is not the system's: contents that are not a text.
-/

namespace RootZone.Files

/-- What the system answers when an operation fails. -/
inductive OsFault where
  | missing
  | busy
  | alreadyExists
  | notDirectory
  | isDirectory
  | nameTooLong
  | other (code : Nat) (text : String)
  deriving DecidableEq

namespace OsFault

def code : OsFault → Nat
  | missing => 2
  | busy => 16
  | alreadyExists => 17
  | notDirectory => 20
  | isDirectory => 21
  | nameTooLong => 36
  | other code _ => code

def text : OsFault → String
  | missing => "No such file or directory"
  | busy => "Device or resource busy"
  | alreadyExists => "File exists"
  | notDirectory => "Not a directory"
  | isDirectory => "Is a directory"
  | nameTooLong => "File name too long"
  | other _ text => text

def message (f : OsFault) : String :=
  s!"{f.text} (os error {f.code})"

end OsFault

inductive Fault where
  | os (fault : OsFault)
  /-- The contents are not a text. -/
  | notUtf8
  /-- A name holds the code point zero. -/
  | zeroInName
  deriving DecidableEq

def Fault.message : Fault → String
  | os fault => fault.message
  | notUtf8 => "stream did not contain valid UTF-8"
  | zeroInName => "file name contained an unexpected NUL byte"

end RootZone.Files
