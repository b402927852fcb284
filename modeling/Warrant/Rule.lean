import Warrant.Expression
import Warrant.Join

/-! Rules and checks, over any kind of names and keys, and what a rule derives from stored facts.
A rule with interned names is `Rule Nat Nat`; as people write it, it is `Rule String PublicKey`. -/

namespace Warrant

/-- `head <- body, expressions trusting scopes`. -/
structure Rule (σ κ : Type) where
  head : Atom σ
  body : List (Atom σ)
  expressions : List (Expression σ)
  scopes : List (Scope κ)
  deriving Repr, DecidableEq

inductive CheckKind where
  /-- Some query matches. -/
  | one
  /-- Every query matches. -/
  | all
  /-- No query matches. -/
  | reject
  deriving Repr, DecidableEq

structure Check (σ κ : Type) where
  kind : CheckKind
  queries : List (Rule σ κ)
  deriving Repr, DecidableEq

/-- Why an evaluation ended without an answer. -/
inductive EvaluationError where
  | limit (limit : RunLimit)
  | execution (error : ExpressionError)
  deriving Repr, DecidableEq

def EvaluationError.message : EvaluationError → String
  | .limit l => "run limit exceeded: " ++ l.message
  | .execution e => "expression execution failed: " ++ e.message

namespace Rule

variable {σ κ τ μ : Type}

/-- The variables of head and expressions that no atom of the body binds. -/
def freeVars [Ord σ] [DecidableEq σ] (r : Rule σ κ) : List σ :=
  let bound := r.body.flatMap Atom.vars
  Sorted.ofList ((r.head.vars ++ r.expressions.flatMap Expression.vars).filter (!bound.contains ·))

def isWellFormed [Ord σ] [DecidableEq σ] (r : Rule σ κ) : Bool := r.freeVars.isEmpty

/-- The terms of the head, the body and the expressions, in order. -/
def terms (r : Rule σ κ) : List (Term σ) :=
  r.head.terms ++ r.body.flatMap Atom.terms ++ r.expressions.flatMap Expression.terms

/-- The head, the body, the expressions and then the scopes. -/
def mapM {m : Type → Type} [Monad m] (name : σ → m τ) (term : Term σ → m (Term τ))
    (key : κ → m μ) (r : Rule σ κ) : m (Rule τ μ) :=
  return {
    head := ← r.head.mapM name term
    body := ← r.body.mapM (Atom.mapM name term)
    expressions := ← r.expressions.mapM (Expression.mapM term)
    scopes := ← r.scopes.mapM (Scope.mapM key) }

/-- The head under a binding, if it has a value for each of its variables. -/
def instantiate? (r : Rule Nat Nat) (binding : Binding) : Option (Fact Nat) :=
  (r.head.terms.mapM fun (t : Term Nat) =>
    match t with
    | .var v => binding.get? v
    | t => some t).map fun terms => ⟨r.head.name, terms⟩

/-- The matches of the body. -/
def candidates (r : Rule Nat Nat) (j : Join) : Except EvaluationError (List Match) :=
  (j.matchesOf r.body (bodyVars r.body)).mapError .limit

variable [Patterns]

/-- Whether a match passes the expressions. -/
def keeps (r : Rule Nat Nat) (symbols : Symbols) (m : Match) : Except EvaluationError Bool :=
  (Warrant.keeps symbols r.expressions m.binding).mapError .execution

/-- What a match that passes derives, in the name of `block`. -/
def derive? (r : Rule Nat Nat) (block : BlockId) (m : Match) : Option Entry :=
  (r.instantiate? m.binding).map fun fact => ⟨m.origin.insert block, fact⟩

/-- The elements of a list that pass a test; an error ends the walk. -/
def allKept {α ε : Type} (keep : α → Except ε Bool) : List α → Except ε (List α)
  | [] => .ok []
  | a :: rest => do
    let kept ← keep a
    let others ← allKept keep rest
    return if kept then a :: others else others

/-- Everything that the rule derives, in the order of the matches. -/
def apply (r : Rule Nat Nat) (block : BlockId) (symbols : Symbols) (j : Join) :
    Except EvaluationError (List Entry) := do
  let kept ← allKept (r.keeps symbols) (← r.candidates j)
  return kept.filterMap (r.derive? block)

/-- Whether an element of a list passes a test; the first that does ends the walk, and so does an
error before it. -/
def firstKept {α ε : Type} (keep : α → Except ε Bool) : List α → Except ε Bool
  | [] => .ok false
  | a :: rest => do if ← keep a then return true else firstKept keep rest

/-- Whether some match passes. The search ends with the first that does. -/
def hasMatch (r : Rule Nat Nat) (symbols : Symbols) (j : Join) : Except EvaluationError Bool := do
  firstKept (r.keeps symbols) (← r.candidates j)

end Rule

namespace Check

variable {σ κ τ μ : Type}

def mapM {m : Type → Type} [Monad m] (name : σ → m τ) (term : Term σ → m (Term τ))
    (key : κ → m μ) (c : Check σ κ) : m (Check τ μ) :=
  return { kind := c.kind, queries := ← c.queries.mapM (Rule.mapM name term key) }

/-- Whether the check passes, given which of its queries match. The first query that settles the
matter is the last that is asked. -/
def passes {ε : Type} (c : Check σ κ) (matched : Rule σ κ → Except ε Bool) : Except ε Bool :=
  match c.kind with
  | .one => Rule.firstKept matched c.queries
  | .all => (Rule.firstKept (fun q => (matched q).map not) c.queries).map not
  | .reject => (Rule.firstKept matched c.queries).map not

end Check

end Warrant
