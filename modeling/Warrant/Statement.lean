import Warrant.Naming

/-! Statements as people write them, with strings for names and keys in full.
Each has a text, which is that of the statement taken into an empty table, and a test that it can
be evaluated: facts hold no variable, sets hold plain values only, and the body of a rule binds
every variable of the rule. -/

namespace Warrant

/-- Why a statement is refused. -/
inductive StatementError where
  | invalidTerm (term : String)
  | invalidFact (fact : String)
  | invalidRule (rule : String) (free : List String)
  deriving Repr, DecidableEq

def StatementError.message : StatementError → String
  | .invalidTerm term => "invalid term: " ++ term
  | .invalidFact fact => "invalid fact: " ++ fact
  | .invalidRule rule free =>
    "rule " ++ rule ++ " has unbound variables: " ++ ", ".intercalate free

/-- The text of something, by way of a table of its own. -/
def Symbols.textIn {α : Type} (intern : StateM Symbols α) (render : Symbols → α → String) :
    String :=
  let (a, table) := intern.run .empty
  render table a

namespace Term

def display (t : Term String) : String := Symbols.textIn t.intern Symbols.renderTerm

/-- Refuses a set that holds variables or sets. -/
def validate (t : Term String) : Except StatementError Unit :=
  if t.isWellFormed then .ok () else .error (.invalidTerm t.display)

/-- The date of a moment in seconds; what comes before 1970 is moved there. -/
def ofSeconds (seconds : Int) : Term String := .date (.ofNat seconds.toNat)

end Term

namespace Atom

def display (a : Atom String) : String := Symbols.textIn a.intern Symbols.renderAtom

/-- Whether the atom can be a fact; the first term that stands in the way decides. -/
def validateFact (a : Atom String) : Except StatementError Unit :=
  a.terms.forM fun t => if t.isVar then .error (.invalidFact a.display) else t.validate

/-- A fact taken into a table, if it passes its test. That it holds no variable is looked at once
more when it is there. -/
def convert (f : Fact String) : ExceptT StatementError (StateM Symbols) (Fact Nat) := do
  ExceptT.mk (pure f.validateFact)
  let fact ← ExceptT.lift f.intern
  if fact.isGround then return fact else throw (.invalidFact f.display)

end Atom

namespace Expression

def display (e : Expression String) : String := Symbols.textIn e.intern Symbols.renderExpression

end Expression

namespace Rule

def display (r : Rule String PublicKey) : String := Symbols.textIn r.intern Symbols.renderRule

/-- The variables that the body does not bind, as they are written. -/
def freeNames (r : Rule String PublicKey) : List String := r.freeVars.map ("$" ++ ·)

/-- Sets come first, in the order of the terms. -/
def validate (r : Rule String PublicKey) : Except StatementError Unit := do
  r.terms.forM Term.validate
  if r.isWellFormed then .ok () else .error (.invalidRule r.display r.freeNames)

/-- The rule with more scopes at the end. -/
def trusting (r : Rule String PublicKey) (scopes : List (Scope PublicKey)) :
    Rule String PublicKey := { r with scopes := r.scopes ++ scopes }

/-- A rule that only asks whether a body matches. -/
def ofBody (body : List (Atom String)) : Rule String PublicKey :=
  { head := ⟨"query", []⟩, body, expressions := [], scopes := [] }

end Rule

namespace Check

def display (c : Check String PublicKey) : String := Symbols.textIn c.intern Symbols.renderCheck

def validate (c : Check String PublicKey) : Except StatementError Unit :=
  c.queries.forM Rule.validate

/-- A check of one query. -/
def ofBody (kind : CheckKind) (body : List (Atom String)) : Check String PublicKey :=
  { kind, queries := [.ofBody body] }

end Check

inductive PolicyKind where
  | allow
  | deny
  deriving Repr, DecidableEq

/-- What to decide if one of the queries matches. -/
structure Policy (σ κ : Type) where
  kind : PolicyKind
  queries : List (Rule σ κ)
  deriving Repr, DecidableEq

namespace Policy

def intern (p : Policy String PublicKey) : StateM Symbols (Policy Nat Nat) :=
  return { kind := p.kind, queries := ← p.queries.mapM Rule.intern }

def validate (p : Policy String PublicKey) : Except StatementError Unit :=
  p.queries.forM Rule.validate

/-- A policy of one query. -/
def ofBody (kind : PolicyKind) (body : List (Atom String)) : Policy String PublicKey :=
  { kind, queries := [.ofBody body] }

end Policy

def Symbols.renderPolicy (t : Symbols) (p : Policy Nat Nat) : String :=
  let opening := match p.kind with
    | .allow => "allow if"
    | .deny => "deny if"
  if p.queries.isEmpty then opening
  else opening ++ " " ++ " or ".intercalate (p.queries.map t.renderBody)

def Policy.display (p : Policy String PublicKey) : String :=
  Symbols.textIn p.intern Symbols.renderPolicy

end Warrant
