import Warrant.Sorted
import Warrant.Symbols

/-! Where facts come from, and what a rule may read.
An `Origin` is the set of blocks that a fact depends on. A `Trust` is the set of blocks that a
rule relies on: it reads the facts whose whole origin lies in it. Scopes say in words which blocks
those are; `Trust.ofScopes` makes the set. -/

namespace Warrant

/-- A block of a token by its place, or the authorizer, which comes after every block. -/
inductive BlockId where
  | block (index : Nat)
  | authorizer
  deriving Repr, DecidableEq

namespace BlockId

def cmp : BlockId → BlockId → Ordering
  | .block i, .block j => compare i j
  | .block _, .authorizer => .lt
  | .authorizer, .block _ => .gt
  | .authorizer, .authorizer => .eq

instance : Ord BlockId := ⟨cmp⟩

instance : Std.TransOrd BlockId where
  eq_swap {a b} := by
    cases a <;> cases b <;> first | rfl | exact Std.OrientedOrd.eq_swap (α := Nat)
  isLE_trans {a b c} h k := by
    cases a <;> cases b <;> cases c <;>
      first | rfl | exact Std.TransOrd.isLE_trans (α := Nat) h k | contradiction

instance : Std.LawfulEqOrd BlockId where
  eq_of_compare {a b} h := by
    cases a <;> cases b <;>
      first | rfl | exact congrArg _ (Std.LawfulEqOrd.eq_of_compare (α := Nat) h) | contradiction

def label : BlockId → String
  | .block i => toString i
  | .authorizer => "authorizer"

end BlockId

/-- The blocks that a fact depends on. -/
abbrev Origin := OrderedSet BlockId

namespace Origin

def label (o : Origin) : String := ", ".intercalate (o.toList.map BlockId.label)

end Origin

/-- What a rule or block says about the blocks it relies on; keys are named by `κ`. -/
inductive Scope (κ : Type) where
  /-- The first block. -/
  | authority
  /-- Every block up to its own. -/
  | previous
  /-- The blocks signed with a key. -/
  | key (key : κ)
  deriving Repr, DecidableEq

def Scope.mapM {κ μ : Type} {m : Type → Type} [Monad m] (key : κ → m μ) : Scope κ → m (Scope μ)
  | .authority => pure .authority
  | .previous => pure .previous
  | .key k => return .key (← key k)

/-- Which blocks are signed with each key of a table. -/
structure KeyOwners where
  entries : List (Nat × List BlockId) := []
  deriving Repr, DecidableEq

namespace KeyOwners

def get (owners : KeyOwners) (key : Nat) : List BlockId := (owners.entries.lookup key).getD []

/-- Adds a block to those of a key. -/
def add (owners : KeyOwners) (key : Nat) (block : BlockId) : KeyOwners :=
  ⟨(key, owners.get key ++ [block]) :: owners.entries.filter (·.1 != key)⟩

end KeyOwners

/-- The blocks that a rule relies on. -/
structure Trust where
  blocks : Origin
  deriving DecidableEq

namespace Trust

/-- What holds where nobody says otherwise: the first block and the authorizer. -/
def default : Trust := ⟨.ofList [.block 0, .authorizer]⟩

def reads (t : Trust) (o : Origin) : Bool := o.subset t.blocks

theorem reads_iff {t : Trust} {o : Origin} : t.reads o ↔ ∀ b ∈ o, b ∈ t.blocks :=
  OrderedSet.subset_iff

/-- The blocks that a scope adds for something declared in `current`. -/
def granted (owners : KeyOwners) (current : BlockId) : Scope Nat → List BlockId
  | .authority => [.block 0]
  | .previous =>
    match current with
    | .block i => (List.range (i + 1)).map .block
    | .authorizer => []
  | .key k => owners.get k

/-- What something declared in `current` relies on: itself and the authorizer in any case, and
then what its scopes grant, or without scopes what is there by default. -/
def ofScopes (scopes : List (Scope Nat)) (default : Trust) (current : BlockId)
    (owners : KeyOwners) : Trust :=
  let own : Origin := .ofList [current, .authorizer]
  if scopes.isEmpty then ⟨own.union default.blocks⟩
  else ⟨own.union (.ofList (scopes.flatMap (granted owners current)))⟩

end Trust

end Warrant
