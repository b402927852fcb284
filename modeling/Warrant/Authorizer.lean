import Warrant.Block
import Warrant.World

/-! The authorizer: one token, statements of its own, and the decision.
Blocks and statements share one symbol table and one world. `addToken` takes in a token as a whole
or not at all. `authorize` lets the world run to its end, asks every check of the blocks, then its
own, and then the policies in order; the first policy with a query that matches decides. What
rules of the authorizer rely on is worked out anew for every evaluation, as its scopes and the
token may have come later than the rules. -/

namespace Warrant

/-- A check that did not pass, with its text. -/
inductive FailedCheck where
  | block (block index : Nat) (text : String)
  | authorizer (index : Nat) (text : String)
  deriving Repr, DecidableEq

/-- The policy that decided. -/
inductive MatchedPolicy where
  | allow (index : Nat)
  | deny (index : Nat)
  deriving Repr, DecidableEq

def MatchedPolicy.label : MatchedPolicy → String
  | .allow i => "Allow(" ++ toString i ++ ")"
  | .deny i => "Deny(" ++ toString i ++ ")"

/-- A complete evaluation that does not allow the request, or a block that cannot be evaluated. -/
inductive Refusal where
  | invalidBlockRule (block : Nat) (rule : String)
  | unauthorized (policy : MatchedPolicy) (checks : List FailedCheck)
  | noMatchingPolicy (checks : List FailedCheck)
  deriving Repr, DecidableEq

def Refusal.message : Refusal → String
  | .invalidBlockRule block rule =>
    "block " ++ toString block ++ " contains an invalid rule: " ++ rule
  | .unauthorized policy checks =>
    "policy " ++ policy.label ++ " matched with " ++ toString checks.length ++ " failed checks"
  | .noMatchingPolicy checks =>
    "no matching policy, " ++ toString checks.length ++ " failed checks"

inductive AuthorizerError where
  | refused (refusal : Refusal)
  | evaluation (error : EvaluationError)
  | statement (error : StatementError)
  /-- Content that refers to nothing, or a block of an unknown version. -/
  | format (text : String)
  | notEmpty
  deriving Repr, DecidableEq

namespace AuthorizerError

def message : AuthorizerError → String
  | .refused refusal => "authorization failed: " ++ refusal.message
  | .evaluation e => e.message
  | .statement e => e.message
  | .format text => "format error: " ++ text
  | .notEmpty => "the authorizer already contains a token"

def ofTransfer : TransferError → AuthorizerError
  | .nonGroundFact fact => .statement (.invalidFact fact)
  | .invalidSet term => .statement (.invalidTerm term)
  | e => .format e.message

end AuthorizerError

/-- What is kept of a block besides its facts and rules. -/
structure LoadedBlock where
  trust : Trust
  checks : List (Check Nat Nat)
  deriving DecidableEq

structure Authorizer where
  limits : RunLimits := {}
  world : World := .empty
  symbols : Symbols := .empty
  /-- The blocks of the token, once there is one. -/
  blocks : Option (List LoadedBlock) := none
  owners : KeyOwners := {}
  scopes : List (Scope PublicKey) := []
  /-- Rules of the authorizer that are not yet in the world. -/
  pending : List (Rule String PublicKey) := []
  /-- Those that are. -/
  rules : List (Rule String PublicKey) := []
  checks : List (Check String PublicKey) := []
  policies : List (Policy String PublicKey) := []

/-- What a block becomes in the session's table: facts, rules with their trust, and the rest. -/
structure TransferredBlock where
  facts : List (Fact Nat)
  rules : List (Trust × Rule Nat Nat)
  loaded : LoadedBlock

/-- The work on a token: a table that grows, and an error that ends it. -/
abbrev Loading := ExceptT AuthorizerError (StateM Symbols)

namespace Loading

def ofTransfer {α : Type} (t : Transfer α) : Loading α :=
  ExceptT.mk (do return (← t.run).mapError .ofTransfer)

/-- Refuses a rule with variables that its body does not bind. -/
def checkRule (block : Nat) (r : Rule Nat Nat) : Loading Unit := do
  if !r.isWellFormed then
    throw (.refused (.invalidBlockRule block ((← getThe Symbols).renderRule r)))

/-- Takes in the key of every block that has one, and tells which blocks each key signed. -/
def owners : List Block → (index : Nat) → KeyOwners → Loading KeyOwners
  | [], _, found => return found
  | b :: rest, index, found => do
    match b.externalKey with
    | none => owners rest (index + 1) found
    | some key =>
      let id ← ExceptT.lift (Symbols.internKey key)
      owners rest (index + 1) (found.add id (.block index))

/-- Scopes first, then facts, rules and checks. -/
def block (owners : KeyOwners) (index : Nat) (b : Block) : Loading TransferredBlock := do
  let scopes ← ofTransfer (b.scopes.mapM (Scope.transfer b.symbols))
  let trust := Trust.ofScopes scopes .default (.block index) owners
  let facts ← ofTransfer (b.facts.mapM (Fact.transfer b.symbols))
  let rules ← b.rules.mapM fun r => do
    let r ← ofTransfer (r.transfer b.symbols)
    checkRule index r
    return (Trust.ofScopes r.scopes trust (.block index) owners, r)
  let checks ← ofTransfer (b.checks.mapM (Check.transfer b.symbols))
  (checks.flatMap Check.queries).forM (checkRule index)
  return { facts, rules, loaded := { trust, checks } }

def blocks (owners : KeyOwners) : List Block → (index : Nat) → Loading (List TransferredBlock)
  | [], _ => return []
  | b :: rest, index => do
    let first ← block owners index b
    let others ← blocks owners rest (index + 1)
    return first :: others

def token (t : Token) : Loading (KeyOwners × List TransferredBlock) := do
  let owners ← owners t.blocks 0 {}
  return (owners, ← blocks owners t.blocks 0)

end Loading

/-- The facts of a list of blocks, and then their rules, added to a world. -/
def World.addBlocks (w : World) (blocks : List TransferredBlock) : World :=
  let indexed := blocks.zipIdx
  let w := indexed.foldl (fun w (b, i) =>
    b.facts.foldl (fun w fact => w.addFact ⟨.singleton (.block i), fact⟩) w) w
  indexed.foldl (fun w (b, i) =>
    b.rules.foldl (fun w (trust, rule) => w.addRule { block := .block i, trust, rule }) w) w

namespace Authorizer

variable [Patterns]

/-- An empty authorizer. -/
def ofLimits (limits : RunLimits) : Authorizer := { limits }

/-- The first block of a version that cannot be evaluated. -/
def unsupported? (t : Token) : Option (Block × Nat) :=
  t.blocks.zipIdx.find? fun (b, _) =>
    !(Block.oldestVersion ≤ b.version && b.version ≤ Block.newestVersion)

/-- Takes in a token. -/
def addToken (a : Authorizer) (t : Token) : Except AuthorizerError Authorizer :=
  if a.blocks.isSome then .error .notEmpty
  else
    match unsupported? t with
    | some (b, i) =>
      .error (.format ("block " ++ toString i ++ " has unsupported version " ++ toString b.version))
    | none =>
      match (Loading.token t).run.run a.symbols with
      | (.error e, _) => .error e
      | (.ok (owners, blocks), symbols) =>
        .ok { a with
          symbols, owners
          blocks := some (blocks.map (·.loaded))
          world := a.world.addBlocks blocks }

def addFact (a : Authorizer) (f : Fact String) : Except AuthorizerError Authorizer := do
  (f.validateFact).mapError .statement
  let (fact, symbols) := f.intern.run a.symbols
  return { a with symbols, world := a.world.addFact ⟨.singleton .authorizer, fact⟩ }

def addRule (a : Authorizer) (r : Rule String PublicKey) : Except AuthorizerError Authorizer := do
  r.validate.mapError .statement
  return { a with pending := a.pending ++ [r] }

def addCheck (a : Authorizer) (c : Check String PublicKey) : Except AuthorizerError Authorizer := do
  c.validate.mapError .statement
  return { a with checks := a.checks ++ [c] }

def addPolicy (a : Authorizer) (p : Policy String PublicKey) :
    Except AuthorizerError Authorizer := do
  p.validate.mapError .statement
  return { a with policies := a.policies ++ [p] }

def addScope (a : Authorizer) (s : Scope PublicKey) : Authorizer :=
  { a with scopes := a.scopes ++ [s] }

/-- Adds a policy that always matches. -/
def addDecision (a : Authorizer) (kind : PolicyKind) : Authorizer :=
  { a with policies := a.policies ++ [.ofBody kind []] }

/-- States the time as a fact `time(now)`. -/
def setTime (a : Authorizer) (now : UInt64) : Authorizer :=
  let (name, symbols) := (Symbols.intern "time").run a.symbols
  { a with symbols, world := a.world.addFact ⟨.singleton .authorizer, ⟨name, [.date now]⟩⟩ }

def setLimits (a : Authorizer) (limits : RunLimits) : Authorizer := { a with limits }

/-- Takes something into the session's table. -/
def intern {α : Type} (a : Authorizer) (m : StateM Symbols α) : α × Authorizer :=
  let (x, symbols) := m.run a.symbols
  (x, { a with symbols })

/-- What statements of the authorizer rely on by default. -/
def defaultTrust (a : Authorizer) : Trust × Authorizer :=
  let (scopes, a) := a.intern (a.scopes.mapM Scope.intern)
  (.ofScopes scopes .default .authorizer a.owners, a)

/-- What a statement of the authorizer relies on. -/
def trustOf (a : Authorizer) (default : Trust) (r : Rule Nat Nat) : Trust :=
  .ofScopes r.scopes default .authorizer a.owners

/-- Moves one rule into the world. -/
def load (default : Trust) (a : Authorizer) (r : Rule String PublicKey) : Authorizer :=
  let (rule, a) := a.intern r.intern
  { a with
    world := a.world.addRule { block := .authorizer, trust := a.trustOf default rule, rule }
    rules := a.rules ++ [r] }

/-- Moves the pending rules into the world, gives every rule of the authorizer its present trust,
and lets the world run unless it has nothing left to add. -/
def saturate (a : Authorizer) (limits : RunLimits) :
    Except EvaluationError Unit × Authorizer :=
  let (trust, a) := a.defaultTrust
  let a := a.pending.foldl (load trust) { a with pending := [] }
  let world := a.world.updateTrust .authorizer (a.trustOf trust)
  if world.phase = .converged then (.ok (), { a with world })
  else
    let (result, world) := world.run a.symbols limits limits.deadline
    (result, { a with world })

/-- A check to be asked: what its queries rely on, and how to tell that it failed. -/
structure Question where
  check : Check Nat Nat
  trust : Rule Nat Nat → Trust
  failure : (text : String) → FailedCheck

/-- The checks of the blocks, block by block. -/
def blockQuestions (a : Authorizer) : List Question :=
  (a.blocks.getD []).zipIdx.flatMap fun (b, i) => b.checks.zipIdx.map fun (check, j) =>
    { check
      trust := fun q => .ofScopes q.scopes b.trust (.block i) a.owners
      failure := .block i j }

/-- The checks of the authorizer. -/
def ownQuestions (a : Authorizer) (trust : Trust) (checks : List (Check Nat Nat)) : List Question :=
  checks.zipIdx.map fun (check, i) => { check, trust := a.trustOf trust, failure := .authorizer i }

/-- The checks that do not pass, in order. -/
def failedChecks (a : Authorizer) (deadline : Deadline) :
    List Question → Except EvaluationError (List FailedCheck)
  | [] => .ok []
  | q :: rest => do
    let passed ← q.check.passes fun r => a.world.hasMatch r (q.trust r) a.symbols deadline
    let others ← failedChecks a deadline rest
    return if passed then others else q.failure (a.symbols.renderCheck q.check) :: others

/-- The first policy with a query that matches. -/
def firstPolicy (a : Authorizer) (deadline : Deadline) (trust : Trust) :
    List (Policy Nat Nat × Nat) → Except EvaluationError (Option MatchedPolicy)
  | [] => .ok none
  | (p, i) :: rest => do
    let matched ← Rule.firstKept
      (fun q => a.world.hasMatch q (a.trustOf trust q) a.symbols deadline) p.queries
    if matched then return some (match p.kind with | .allow => .allow i | .deny => .deny i)
    else firstPolicy a deadline trust rest

/-- What the checks that failed and the policy that matched come to. -/
def verdict (failed : List FailedCheck) : Option MatchedPolicy → Except Refusal Nat
  | some (.allow i) => if failed.isEmpty then .ok i else .error (.unauthorized (.allow i) failed)
  | some (.deny i) => .error (.unauthorized (.deny i) failed)
  | none => .error (.noMatchingPolicy failed)

/-- The decision over the world as it stands. -/
def conclude (a : Authorizer) (deadline : Deadline) (trust : Trust) (checks : List (Check Nat Nat))
    (policies : List (Policy Nat Nat)) : Except AuthorizerError Nat := do
  let questions := a.blockQuestions ++ a.ownQuestions trust checks
  let failed ← (a.failedChecks deadline questions).mapError .evaluation
  let matched ← (a.firstPolicy deadline trust policies.zipIdx).mapError .evaluation
  (verdict failed matched).mapError .refused

/-- Decides, and gives the index of the policy that allows. -/
def authorize (a : Authorizer) (limits : RunLimits) : Except AuthorizerError Nat × Authorizer :=
  let (result, a) := a.saturate limits
  match result with
  | .error e => (.error (.evaluation e), a)
  | .ok () =>
    let (trust, a) := a.defaultTrust
    let (checks, a) := a.intern (a.checks.mapM Check.intern)
    let (policies, a) := a.intern (a.policies.mapM Policy.intern)
    (a.conclude limits.deadline trust checks policies, a)

/-- What a rule derives, each fact once, in the order in which they are first derived. -/
def query (a : Authorizer) (r : Rule String PublicKey) (limits : RunLimits) :
    Except AuthorizerError (List (Fact String)) × Authorizer :=
  match r.validate with
  | .error e => (.error (.statement e), a)
  | .ok () =>
    let (result, a) := a.saturate limits
    match result with
    | .error e => (.error (.evaluation e), a)
    | .ok () =>
      let (rule, a) := a.intern r.intern
      let (trust, a) := a.defaultTrust
      let answer : Except AuthorizerError (List (Fact String)) := do
        let found ← (a.world.query rule .authorizer (a.trustOf trust rule) a.symbols
          limits.deadline).mapError .evaluation
        let facts := (found.toList.map (·.fact)).eraseDups
        (facts.mapM (Atom.resolve a.symbols)).mapError .ofTransfer
      (answer, a)

end Authorizer

end Warrant
