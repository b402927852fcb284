import Warrant.Join
import Warrant.Unicode.Property

/-! How much an evaluation may use. -/

namespace Warrant

/-- A span of time; `nanos` is below a thousand million. -/
structure Duration where
  seconds : Nat
  nanos : Nat
  deriving Repr, DecidableEq

/-- As many whole seconds as there are, and the rest. -/
def Duration.ofParts (seconds nanos : Nat) : Duration :=
  ⟨seconds + nanos / 1000000000, nanos % 1000000000⟩

def Duration.ofMillis (ms : Nat) : Duration := ⟨ms / 1000, ms % 1000 * 1000000⟩

structure RunLimits where
  /-- How many entries may be stored when another pass begins. -/
  maxFacts : Nat := 1000
  maxIterations : Nat := 100
  /-- Counted from the start of the whole evaluation. -/
  maxTime : Duration := .ofMillis 5
  deriving Repr, DecidableEq

/-- A number in decimal below `2 ^ 64`, with a plus sign or none, between blanks. -/
def settingValue? (text : String) : Option Nat :=
  let isBlank := Unicode.Property.whiteSpace.has
  let trimmed := ((text.toList.dropWhile isBlank).reverse.dropWhile isBlank).reverse
  let digits := if trimmed.head? == some '+' then trimmed.drop 1 else trimmed
  let value := digits.foldl (fun n c => n * 10 + (c.toNat - '0'.toNat)) 0
  if !digits.isEmpty && digits.all Char.isDigit && value < UInt64.size then some value else none

namespace RunLimits

/-- The limits with those settings that can be read; the time is in milliseconds. -/
def withSettings (l : RunLimits) (facts iterations millis : Option String) : RunLimits :=
  { maxFacts := (facts.bind settingValue?).getD l.maxFacts
    maxIterations := (iterations.bind settingValue?).getD l.maxIterations
    maxTime := ((millis.bind settingValue?).map Duration.ofMillis).getD l.maxTime }

/-- Whether the time is too long for the clock, whose seconds are below `2 ^ 63` and do not start
at zero. -/
def isUnbounded (l : RunLimits) : Bool := UInt64.size ≤ 2 * (l.maxTime.seconds + 1)

/-- No time at all is used up before the start; any other is taken to be long enough. -/
def deadline (l : RunLimits) : Deadline :=
  if l.maxTime = ⟨0, 0⟩ then .passed else .never

end RunLimits

end Warrant
