import Warrant.Binding
import Warrant.FactSet

/-! Matching the body of a rule against stored facts.
The body is taken from left to right; each atom is matched with every readable fact of its shape,
in the order in which the facts came, and what the match binds holds for the atoms after it. A
match of the whole body is one fact for each atom, the binding they agree on, and the union of
their origins. With `since` only matches count that use a fact at or after that place. `matchesOf`
gathers all matches; `visit` shows them one by one, for as long as that is wanted. -/

namespace Warrant

/-- A deadline as an evaluation sees it: it has passed before anything happens, or it never
does. -/
inductive Deadline where
  | never
  | passed
  deriving Repr, DecidableEq

inductive RunLimit where
  | tooManyFacts
  | tooManyIterations
  | timeout
  deriving Repr, DecidableEq

def RunLimit.message : RunLimit → String
  | .tooManyFacts => "too many facts generated"
  | .tooManyIterations => "too many engine iterations"
  | .timeout => "spent too much time evaluating"

/-- A way to match a body. -/
structure Match where
  origin : Origin
  binding : Binding
  deriving DecidableEq

/-- The variables of a body in increasing order. -/
def bodyVars (body : List (Atom Nat)) : List Nat := Sorted.ofList (body.flatMap Atom.vars)

structure Join where
  facts : FactSet
  trust : Trust
  /-- The place from which on a fact counts as new, if only matches with something new are
  wanted. -/
  since : Option Nat := none
  deadline : Deadline := .never

namespace Join

/-- Whether the fact at this place counts as new. -/
def isNew (j : Join) (place : Nat) : Bool := j.since.any (· ≤ place)

/-- The matches of the rest of a body. `origin` and `used` tell of the facts taken so far: their
origins, and whether one of them is new. -/
def walk (j : Join) : List (Atom Nat) → Assignment → Origin → (used : Bool) →
    Except RunLimit (List Match)
  | [], a, origin, used =>
    if j.since.isSome && !used then .ok []
    else .ok (a.complete?.map fun binding => ⟨origin, binding⟩).toList
  | atom :: rest, a, origin, used => do
    let found ← (j.facts.candidates atom j.trust).mapM fun (place, entry) =>
      match j.deadline with
      | .passed => .error .timeout
      | .never =>
        match unify atom entry.fact a with
        | some a => walk j rest a (origin.union entry.origin) (used || j.isNew place)
        | none => .ok []
    return found.flatten

/-- Every match of the body, with bindings for the variables of `declared`. -/
def matchesOf (j : Join) (body : List (Atom Nat)) (declared : List Nat) :
    Except RunLimit (List Match) := j.walk body { declared } .empty false

/-- The same walk with something to be done at each match, which tells whether that is enough: then
the walk ends there. `late` is what comes of a deadline that has passed. -/
def visit {m : Type → Type} [Monad m] (j : Join) (late : m Bool) (enough : Match → m Bool) :
    List (Atom Nat) → Assignment → Origin → (used : Bool) → m Bool
  | [], a, origin, used =>
    if j.since.isSome && !used then pure false
    else
      match a.complete? with
      | some binding => enough ⟨origin, binding⟩
      | none => pure false
  | atom :: rest, a, origin, used =>
    (j.facts.candidates atom j.trust).anyM fun (place, entry) =>
      match j.deadline with
      | .passed => late
      | .never =>
        match unify atom entry.fact a with
        | some a => visit j late enough rest a (origin.union entry.origin) (used || j.isNew place)
        | none => pure false

/-- Whether the body has a match at all. The first one is enough. -/
def finds (j : Join) (body : List (Atom Nat)) (declared : List Nat) : Except RunLimit Bool :=
  j.visit (.error .timeout) (fun _ => .ok true) body { declared } .empty false

end Join

end Warrant
