import Warrant.Statement

/-! The blocks of a token.
A block brings its own symbol table, to which the ids in it refer. `BlockDraft` gathers statements
and makes a block of them. -/

namespace Warrant

structure Block where
  symbols : Symbols
  facts : List (Fact Nat)
  rules : List (Rule Nat Nat)
  checks : List (Check Nat Nat)
  /-- What rules and checks without scopes of their own rely on. -/
  scopes : List (Scope Nat)
  context : Option String
  /-- Who signed the block, if it is not the issuer of the token. -/
  externalKey : Option PublicKey
  version : Nat
  deriving Repr, DecidableEq

/-- Blocks in order; the first one is the issuer's. -/
structure Token where
  blocks : List Block
  deriving Repr, DecidableEq

def Token.append (t : Token) (b : Block) : Token := ⟨t.blocks ++ [b]⟩

/-- Whether the expression works on the bits of integers. -/
def Expression.usesBits {σ : Type} (e : Expression σ) : Bool :=
  e.ops.any fun | .binary .bitAnd | .binary .bitOr | .binary .bitXor => true | _ => false

namespace Block

/-- The versions that can be evaluated. -/
def oldestVersion : Nat := 3

def newestVersion : Nat := 5

/-- One statement to a line. -/
def source (b : Block) : String :=
  let statements := b.facts.map b.symbols.renderAtom ++ b.rules.map b.symbols.renderRule ++
    b.checks.map b.symbols.renderCheck
  "\n".intercalate (statements.map (· ++ ";"))

/-- The oldest version that has what the block uses. -/
def requiredVersion (b : Block) : Nat :=
  let rules := b.rules ++ b.checks.flatMap Check.queries
  if b.checks.any (·.kind = .reject) then 5
  else if !b.scopes.isEmpty || rules.any (!·.scopes.isEmpty) || b.checks.any (·.kind = .all) ||
      rules.any (·.expressions.any Expression.usesBits) || b.externalKey.isSome then 4
  else oldestVersion

end Block

structure BlockDraft where
  facts : List (Fact String) := []
  rules : List (Rule String PublicKey) := []
  checks : List (Check String PublicKey) := []
  scopes : List (Scope PublicKey) := []
  context : Option String := none

namespace BlockDraft

def addFact (d : BlockDraft) (f : Fact String) : Except StatementError BlockDraft := do
  f.validateFact
  return { d with facts := d.facts ++ [f] }

def addRule (d : BlockDraft) (r : Rule String PublicKey) : Except StatementError BlockDraft := do
  r.validate
  return { d with rules := d.rules ++ [r] }

def addCheck (d : BlockDraft) (c : Check String PublicKey) : Except StatementError BlockDraft := do
  c.validate
  return { d with checks := d.checks ++ [c] }

def addScope (d : BlockDraft) (s : Scope PublicKey) : BlockDraft :=
  { d with scopes := d.scopes ++ [s] }

def setContext (d : BlockDraft) (context : String) : BlockDraft :=
  { d with context := some context }

/-- The block, signed by the issuer or by the holder of a key. Facts are taken in first, then
rules, checks and scopes. -/
def build (d : BlockDraft) (externalKey : Option PublicKey) : Block :=
  let intern : StateM Symbols Block := do
    let facts ← d.facts.mapM Atom.intern
    let rules ← d.rules.mapM Rule.intern
    let checks ← d.checks.mapM Check.intern
    let scopes ← d.scopes.mapM Scope.intern
    return { facts, rules, checks, scopes, externalKey, context := d.context,
             symbols := ← get, version := Block.oldestVersion }
  let block := (intern.run .empty).1
  { block with version := block.requiredVersion }

/-- The same, with every fact tested again on its way. -/
def tryBuild (d : BlockDraft) (externalKey : Option PublicKey) : Except StatementError Block :=
  let taken : ExceptT StatementError (StateM Symbols) Block := do
    let facts ← d.facts.mapM Atom.convert
    let rules ← ExceptT.lift (d.rules.mapM Rule.intern)
    let checks ← ExceptT.lift (d.checks.mapM Check.intern)
    let scopes ← ExceptT.lift (d.scopes.mapM Scope.intern)
    return { facts, rules, checks, scopes, externalKey, context := d.context,
             symbols := ← getThe Symbols, version := Block.oldestVersion }
  (taken.run.run .empty).1.map fun block => { block with version := block.requiredVersion }

end BlockDraft

end Warrant
