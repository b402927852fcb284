import Warrant.Limits
import Warrant.Rule

/-! Facts and rules together, and the loop that adds what the rules derive.
The loop goes in passes. A pass applies every rule to the facts stored before it; from the second
on it looks only for what uses a fact of the pass before. The loop ends when a pass adds nothing,
or by a limit, and keeps what it has added in any case. -/

namespace Warrant

/-- A rule with the block that declares it and what it relies on. -/
structure RuleEntry where
  block : BlockId
  trust : Trust
  rule : Rule Nat Nat
  deriving DecidableEq

inductive Phase where
  /-- Something may have been added since the last run, or the last run failed. -/
  | idle
  /-- The last run ended because there was nothing to add. -/
  | converged
  | stopped (limit : RunLimit)
  deriving Repr, DecidableEq

structure World where
  facts : FactSet := .empty
  rules : List RuleEntry := []
  /-- The passes that the last run completed. -/
  iterations : Nat := 0
  phase : Phase := .idle

namespace World

def empty : World := {}

def addFact (w : World) (entry : Entry) : World :=
  { w with facts := w.facts.insert entry, phase := .idle }

def addRule (w : World) (entry : RuleEntry) : World :=
  { w with rules := w.rules ++ [entry], phase := .idle }

/-- Gives the rules of a block the trust they have now. -/
def updateTrust (w : World) (block : BlockId) (trust : Rule Nat Nat → Trust) : World :=
  let rules := w.rules.map fun e => if e.block = block then { e with trust := trust e.rule } else e
  { w with rules, phase := if rules = w.rules then w.phase else .idle }

/-- The world after a run that failed. -/
def stop (w : World) : EvaluationError → World
  | .limit l => { w with phase := .stopped l }
  | .execution _ => { w with phase := .idle }

/-- The facts of a pass stored. -/
def grow (w : World) (derived : List Entry) : World :=
  { w with facts := w.facts.insertAll derived, iterations := w.iterations + 1 }

theorem size_le_size_grow (w : World) (derived : List Entry) :
    w.facts.size ≤ (w.grow derived).facts.size :=
  FactSet.size_le_size_insertAll ..

variable [Patterns]

/-- What the rules derive from the stored facts, in their order. -/
def pass (w : World) (symbols : Symbols) (since : Option Nat) (deadline : Deadline) :
    Except EvaluationError (List Entry) := do
  let derived ← w.rules.mapM fun e =>
    e.rule.apply e.block symbols { facts := w.facts, trust := e.trust, since, deadline }
  return derived.flatten

/-- Passes from here on; the first looks for what uses a fact at or after `since`. -/
def loop (symbols : Symbols) (limits : RunLimits) (deadline : Deadline) (since : Option Nat)
    (w : World) : Except EvaluationError Unit × World :=
  let fail (w : World) (error : EvaluationError) : Except EvaluationError Unit × World :=
    (.error error, w.stop error)
  if deadline = .passed then fail w (.limit .timeout)
  else
    match w.pass symbols since deadline with
    | .error error => fail w error
    | .ok derived =>
      let grown := w.grow derived
      if grown.facts.size = w.facts.size then (.ok (), { grown with phase := .converged })
      else if limits.maxFacts < grown.facts.size then fail grown (.limit .tooManyFacts)
      else if limits.maxIterations ≤ grown.iterations then fail grown (.limit .tooManyIterations)
      else loop symbols limits deadline (some w.facts.size) grown
termination_by limits.maxFacts - w.facts.size
decreasing_by
  have := size_le_size_grow w derived
  grind

/-- Runs until nothing is left to add. -/
def run (w : World) (symbols : Symbols) (limits : RunLimits) (deadline : Deadline) :
    Except EvaluationError Unit × World :=
  loop symbols limits deadline none { w with iterations := 0 }

/-- What a rule derives from the stored facts, without storing it. -/
def query (w : World) (rule : Rule Nat Nat) (block : BlockId) (trust : Trust) (symbols : Symbols)
    (deadline : Deadline) : Except EvaluationError FactSet :=
  (rule.apply block symbols { facts := w.facts, trust, deadline }).map FactSet.ofList

/-- Whether a rule matches the stored facts. -/
def hasMatch (w : World) (rule : Rule Nat Nat) (trust : Trust) (symbols : Symbols)
    (deadline : Deadline) : Except EvaluationError Bool :=
  rule.hasMatch symbols { facts := w.facts, trust, deadline }

end World

end Warrant
