import RootZone.Error
import RootZone.Variant

/-!
# The journal

The library reports its progress as a list of events. A computation that may fail and reports
events is a `Logged` value: the events up to the point where it succeeded or failed, and the
outcome.
-/

namespace RootZone

inductive Severity where
  | debug
  | info
  deriving DecidableEq

inductive Event where
  /-- A list was normalized: the number of entries, of those in encoded form, and of the lines
  that were dropped. -/
  | normalized (entries encoded dropped : Nat)
  /-- A pattern was made: the number of words and of bytes. -/
  | compiled (variant : Variant) (words bytes : Nat)
  | wrote (path : List Char) (bytes : Nat)
  | reading (path : List Char)
  | downloading (url : List Char)
  | downloaded (lines : Nat)
  deriving DecidableEq

namespace Event

def severity : Event → Severity
  | normalized .. => .debug
  | _ => .info

def message : Event → String
  | normalized entries encoded dropped =>
      s!"Normalized {entries} labels ({encoded} punycode, {dropped} dropped)"
  | compiled variant words bytes =>
      s!"Compiled {variant.name} corpus: {words} entries, pattern length {bytes}"
  | wrote path bytes => s!"Wrote {String.ofList path} ({bytes} bytes)"
  | reading path => s!"Reading TLD list from {String.ofList path}"
  | downloading url => s!"Downloading TLD list from {String.ofList url}"
  | downloaded lines => s!"Downloaded {lines} lines"

end Event

/-- An outcome and the events that led to it. -/
structure Logged (α : Type) where
  events : List Event
  outcome : Except Error α

namespace Logged

def ofExcept {α : Type} (outcome : Except Error α) : Logged α := ⟨[], outcome⟩

def report (event : Event) : Logged Unit := ⟨[event], .ok ()⟩

/-- Go on with a result, unless there is none. -/
def andThen {α β : Type} (x : Logged α) (f : α → Logged β) : Logged β :=
  match x.outcome with
  | .error e => ⟨x.events, .error e⟩
  | .ok a => ⟨x.events ++ (f a).events, (f a).outcome⟩

instance : Monad Logged where
  pure a := ⟨[], .ok a⟩
  bind := andThen

@[simp] theorem outcome_pure {α : Type} (a : α) : (pure a : Logged α).outcome = .ok a := rfl

/-- The outcome of two steps does not depend on the events. -/
theorem outcome_bind {α β : Type} (x : Logged α) (f : α → Logged β) :
    (x >>= f).outcome = x.outcome.bind fun a => (f a).outcome := by
  obtain ⟨events, outcome⟩ := x
  cases outcome <;> rfl

/-- A result hands its events on. -/
theorem events_bind_of_ok {α β : Type} {x : Logged α} {a : α} (h : x.outcome = .ok a)
    (f : α → Logged β) : (x >>= f).events = x.events ++ (f a).events := by
  obtain ⟨events, outcome⟩ := x
  cases h
  rfl

end Logged

section Except

variable {ε α β : Type} {x : Except ε α} {b : β}

theorem exists_of_map_eq_ok {f : α → β} (h : x.map f = .ok b) : ∃ a, x = .ok a ∧ f a = b := by
  cases x with
  | error e => cases h
  | ok a => exact ⟨a, rfl, Except.ok.inj h⟩

theorem exists_of_bind_eq_ok {f : α → Except ε β} (h : x.bind f = .ok b) :
    ∃ a, x = .ok a ∧ f a = .ok b := by
  cases x with
  | error e => cases h
  | ok a => exact ⟨a, rfl, h⟩

theorem toOption_eq_some {a : α} : x.toOption = some a ↔ x = .ok a := by
  cases x <;> simp [Except.toOption]

theorem toOption_bind_congr {y : Except ε α} {f g : α → Except ε β}
    (h : x.toOption = y.toOption) (hfg : ∀ a, (f a).toOption = (g a).toOption) :
    (x.bind f).toOption = (y.bind g).toOption := by
  cases x with
  | error e =>
      cases y with
      | error e' => rfl
      | ok b => cases h
  | ok a =>
      cases y with
      | error e => cases h
      | ok b =>
          cases h
          exact hfg a

end Except

end RootZone
