import RootZone.Text.Decimal
import RootZone.Text.Split

/-!
# Settings

The words of a command line, read from left to right into settings. A setting with a value is
written `--name value`, `--name=value`, `-n value`, `-nvalue` or `-n=value`; a value that stands by
itself does not begin with a hyphen, unless it is nothing else. A name is written in full and given
once. A switch takes no value, and nothing stands on the line that is not an option. The first word
that asks for help or for the version, or that is not understood, ends the reading.
-/

namespace RootZone.CommandLine

inductive Setting where
  | url
  | input
  | output
  | format
  | package
  | timeout
  deriving DecidableEq

inductive Switch where
  | lazy
  | capture
  | noVerify
  deriving DecidableEq

inductive Key where
  | setting (s : Setting)
  | switch (s : Switch)
  | help
  | version
  deriving DecidableEq

namespace Key

def all : List Key :=
  [setting .url, setting .input, setting .output, setting .format, setting .package,
    setting .timeout, switch .lazy, switch .capture, switch .noVerify, help, version]

/-- The name of an option, which two hyphens introduce. -/
def name : Key → String
  | setting .url => "url"
  | setting .input => "input"
  | setting .output => "output"
  | setting .format => "format"
  | setting .package => "package"
  | setting .timeout => "timeout"
  | switch .lazy => "lazy"
  | switch .capture => "capture"
  | switch .noVerify => "no-verify"
  | help => "help"
  | version => "version"

/-- The letter of an option, which one hyphen introduces. -/
def letter? : Key → Option Char
  | setting .input => some 'i'
  | setting .output => some 'o'
  | help => some 'h'
  | version => some 'V'
  | _ => none

def ofName? (name : List Char) : Option Key :=
  all.find? fun k => k.name.toList = name

def ofLetter? (letter : Char) : Option Key :=
  all.find? fun k => k.letter? = some letter

theorem ofName?_name (k : Key) : ofName? k.name.toList = some k := by
  cases k with
  | setting s => cases s <;> decide
  | switch s => cases s <;> decide
  | help => decide
  | version => decide

end Key

inductive Word where
  /-- The value is the next word. -/
  | awaits (s : Setting)
  | gives (s : Setting) (value : List Char)
  | sets (s : Switch)
  | help
  | version
  /-- Nothing follows. -/
  | ending
  | unknown
  deriving DecidableEq

def Word.of : List Char → Word
  | ['-', '-'] => .ending
  | '-' :: '-' :: option =>
      let (name, value) := Text.cut '=' option
      match Key.ofName? name, value with
      | some (.setting s), none => .awaits s
      | some (.setting s), some value => .gives s value
      | some (.switch s), none => .sets s
      | some .help, none => .help
      | some .version, none => .version
      | _, _ => .unknown
  | '-' :: letter :: value =>
      match Key.ofLetter? letter, value with
      | some (.setting s), [] => .awaits s
      | some (.setting s), '=' :: value => .gives s value
      | some (.setting s), value => .gives s value
      | some (.switch s), [] => .sets s
      | some .help, _ => .help
      | some .version, _ => .version
      | _, _ => .unknown
  | _ => .unknown

/-- The word may be the value of the option before it. -/
def mayBeValue : List Char → Bool
  | '-' :: _ :: _ => false
  | _ => true

structure Settings where
  url : Option (List Char) := none
  input : Option (List Char) := none
  output : Option (List Char) := none
  format : Option (List Char) := none
  package : Option (List Char) := none
  timeout : Option Nat := none
  lazy : Bool := false
  capture : Bool := false
  noVerify : Bool := false
  deriving DecidableEq

/-- The seconds of a download are fewer than this. -/
def timeoutBound : Nat := UInt64.size

namespace Settings

def path? (value : List Char) : Option (List Char) :=
  if value.isEmpty then none else some value

/-- Give a setting its value, unless it has one or the value is none for it. -/
def give (s : Settings) (setting : Setting) (value : List Char) : Option Settings :=
  match setting with
  | .url => if s.url.isSome then none else some { s with url := some value }
  | .input =>
      if s.input.isSome then none else (path? value).map fun v => { s with input := some v }
  | .output =>
      if s.output.isSome then none else (path? value).map fun v => { s with output := some v }
  | .format => if s.format.isSome then none else some { s with format := some value }
  | .package => if s.package.isSome then none else some { s with package := some value }
  | .timeout =>
      if s.timeout.isSome then none
      else (Text.numberBelow? timeoutBound value).map fun n => { s with timeout := some n }

/-- Turn a switch, unless it is turned. -/
def turn (s : Settings) : Switch → Option Settings
  | .lazy => if s.lazy then none else some { s with lazy := true }
  | .capture => if s.capture then none else some { s with capture := true }
  | .noVerify => if s.noVerify then none else some { s with noVerify := true }

end Settings

inductive Reading where
  | work (settings : Settings)
  | help
  | version
  | refused
  deriving DecidableEq

/-- Read words on top of settings; the first word may be the value of a setting. -/
def readFrom (s : Settings) : Option Setting → List (List Char) → Reading
  | none, [] => .work s
  | some _, [] => .refused
  | some setting, word :: words =>
      if mayBeValue word then
        match s.give setting word with
        | some s => readFrom s none words
        | none => .refused
      else .refused
  | none, word :: words =>
      match Word.of word with
      | .awaits setting => readFrom s (some setting) words
      | .gives setting value =>
          match s.give setting value with
          | some s => readFrom s none words
          | none => .refused
      | .sets switch =>
          match s.turn switch with
          | some s => readFrom s none words
          | none => .refused
      | .help => .help
      | .version => .version
      | .ending => if words.isEmpty then .work s else .refused
      | .unknown => .refused

def read (words : List (List Char)) : Reading :=
  readFrom {} none words

end RootZone.CommandLine
