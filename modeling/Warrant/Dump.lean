import Warrant.Authorizer

/-! A picture of an authorizer as text: its facts and rules by origin, its checks and policies. -/

namespace Warrant

/-- Statements with the origin they have in common. -/
structure Group where
  origin : String
  statements : List String
  deriving Repr, DecidableEq

structure Dump where
  facts : List Group
  rules : List Group
  checks : List Group
  policies : List String
  /-- The passes of the last run. -/
  iterations : Nat
  deriving Repr, DecidableEq

namespace Group

/-- Adds a statement to the first group of its origin, or a new group at the end. -/
def add (origin statement : String) : List Group → List Group
  | [] => [⟨origin, [statement]⟩]
  | g :: rest =>
    if g.origin = origin then { g with statements := g.statements ++ [statement] } :: rest
    else g :: add origin statement rest

/-- Statements grouped by origin, the origins in the order in which they first come. -/
def collect (statements : List (String × String)) : List Group :=
  statements.foldl (fun groups (origin, statement) => add origin statement groups) []

def lines (g : Group) : List String :=
  ("    // origin: " ++ g.origin) :: g.statements.map ("    " ++ · ++ ";")

end Group

namespace Dump

def titled (title : String) (lines : List String) : List String :=
  ["  " ++ title ++ ": ["] ++ lines ++ ["  ]"]

/-- The dump for people to read. Origins without checks are left out. -/
def render (d : Dump) : String :=
  "\n".intercalate <|
    ["World \x7b"] ++ titled "facts" (d.facts.flatMap Group.lines) ++
    titled "rules" (d.rules.flatMap Group.lines) ++
    titled "checks" ((d.checks.filter (!·.statements.isEmpty)).flatMap Group.lines) ++
    titled "policies" (d.policies.map ("    " ++ · ++ ";")) ++ ["\x7d"]

end Dump

/-- The facts by origin, the rules in order with those of the authorizer that wait at the end, the
checks of every block and then of the authorizer, and the policies. The authorizer does not
change. -/
def Authorizer.dump (a : Authorizer) : Dump :=
  let renderOwn (c : Check String PublicKey) : StateM Symbols String := do
    let c ← c.intern
    return (← get).renderCheck c
  { facts := a.world.facts.groups.map fun (origin, facts) =>
      ⟨origin.label, facts.map a.symbols.renderAtom⟩
    rules := Group.collect <|
      a.world.rules.map (fun e => (e.block.label, a.symbols.renderRule e.rule)) ++
        a.pending.map fun r => (BlockId.authorizer.label, r.display)
    checks :=
      ((a.blocks.getD []).zipIdx.map fun (b, i) =>
        ⟨(BlockId.block i).label, b.checks.map a.symbols.renderCheck⟩) ++
        [⟨BlockId.authorizer.label, ((a.checks.mapM renderOwn).run a.symbols).1⟩]
    policies := a.policies.map Policy.display
    iterations := a.world.iterations }

end Warrant
