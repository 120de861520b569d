import RootZone.CommandLine.Settings
import RootZone.Job

/-!
# The command line

The settings of a command line make a job, if the name of the format is known. What a run shows is
a `Report`: the status it exits with, what it prints, and what it complains of. A complaint is a
headline and below it the causes, the nearest first, indented and, if there is more than one,
numbered.

A command line that is refused is answered with how the program is called, but without a word on
what was wrong.
-/

namespace RootZone.CommandLine

def defaultOutput : List Char := Format.go.defaultFileName

inductive Failure where
  | unknownFormat (name : List Char)
  | job (failure : Job.Failure)
  deriving DecidableEq

namespace Settings

/-- The format that is asked for: by its name, or by the extension of the output, or Go. -/
def format? (s : Settings) : Except Failure Format :=
  match s.format with
  | some name =>
      match Format.ofName? name with
      | some f => .ok f
      | none => .error (.unknownFormat name)
  | none => .ok ((Format.ofPath? (s.output.getD defaultOutput)).getD .go)

/-- The list that is asked for. A file comes before a locator, and the given locator before that of
the environment. -/
def origin (environment : Option (List Char)) (s : Settings) : Origin :=
  match s.input with
  | some path => .file path
  | none =>
      let default : Http.Options := {}
      .web {
        url := (s.url <|> environment).getD default.url
        timeout := s.timeout.getD default.timeout }

def job (environment : Option (List Char)) (s : Settings) : Except Failure Job := do
  let format ← s.format?
  return {
    origin := s.origin environment
    corpora := { style := { greedy := !s.lazy, capturing := s.capture }, verify := !s.noVerify }
    artifact := { format := format, package := s.package.getD Artifact.defaultPackage }
    output := s.output.getD defaultOutput }

end Settings

/-- Indent every line of a text but the first. -/
def hang (margin : Nat) (text : String) : String :=
  String.ofList (text.toList.flatMap fun c =>
    if c = '\n' then '\n' :: List.replicate margin ' ' else [c])

def rightAligned (n : Nat) : String :=
  String.ofList ((toString n).toList.leftpad 5 ' ')

def numbered : Nat → List String → String
  | _, [] => ""
  | n, cause :: causes => s!"{rightAligned n}: {hang 7 cause}\n" ++ numbered (n + 1) causes

def complaint (headline : String) : List String → String
  | [] => s!"Error: {headline}\n"
  | [cause] => s!"Error: {headline}\n\nCaused by:\n    {hang 4 cause}\n"
  | causes => s!"Error: {headline}\n\nCaused by:\n" ++ numbered 0 causes

def Failure.complaint : Failure → String
  | unknownFormat name => CommandLine.complaint s!"unknown format: {String.ofList name}" []
  | job failure =>
      CommandLine.complaint failure.message
        (failure.error.message :: failure.error.cause?.toList)

inductive Exit where
  | success
  | failure
  /-- The command line was not understood. -/
  | usage
  deriving DecidableEq

def Exit.status : Exit → Nat
  | success => 0
  | failure => 1
  | usage => 2

structure Report where
  exit : Exit
  printed : String := ""
  complaint : String := ""
  events : List Event := []

def versionText : String := "tldgen 0.1.0\n"

def usageText : String :=
  "Usage: tldgen [OPTIONS]\n"

/-- What the options mean. A locator that the environment names is shown with its variable. -/
def helpText (environment : Option (List Char)) : String :=
  let named := String.ofList (environment.getD [])
  let default := String.ofList Http.defaultUrl
  "Compile the TLD list into a sorted corpus and prefix-factored regex\n\n" ++ usageText ++
  "\nOptions:\n" ++
  s!"      --url <URL>          URL of the TLD list [env: TLDGEN_URL={named}] [default: {default}]\n" ++
  "  -i, --input <FILE>       Read the list from a local file instead of downloading it\n" ++
  "  -o, --output <OUTPUT>    Output path [default: tlds.go]\n" ++
  "      --format <FORMAT>    Output format: go or json (detected from the output extension by " ++
  "default)\n" ++
  "      --package <PACKAGE>  Go package name [default: urlx]\n" ++
  "      --lazy               Emit reluctant `??` quantifiers\n" ++
  "      --capture            Emit capturing groups\n" ++
  "      --timeout <TIMEOUT>  Download timeout in seconds [default: 30]\n" ++
  "      --no-verify          Skip checking each pattern against its corpus\n" ++
  "  -h, --help               Print help\n" ++
  "  -V, --version            Print version\n"

def work {m : Type → Type} [Monad m] (host : Host m) (environment : Option (List Char))
    (s : Settings) : m (List Event × Except Failure Unit) :=
  match s.job environment with
  | .error failure => pure ([], .error failure)
  | .ok job => do
      let (events, outcome) ← job.run host
      return (events, outcome.mapError .job)

/-- Run a command line. The environment may name a locator. -/
def run {m : Type → Type} [Monad m] (host : Host m) (environment : Option (List Char))
    (words : List (List Char)) : m Report :=
  match read words with
  | .help => pure { exit := .success, printed := helpText environment }
  | .version => pure { exit := .success, printed := versionText }
  | .refused =>
      pure { exit := .usage, complaint := usageText ++ "\nFor more information, try '--help'.\n" }
  | .work settings => do
      match ← work host environment settings with
      | (events, .ok ()) => return { exit := .success, events := events }
      | (events, .error failure) =>
          return { exit := .failure, complaint := failure.complaint, events := events }

end RootZone.CommandLine
