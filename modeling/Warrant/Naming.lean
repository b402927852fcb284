import Warrant.Render

/-! Items carried from one naming to another.
`intern` takes an item with strings into a symbol table, `resolve` reads one back, and `transfer`
moves one from one table to another, as resolving and interning name by name. A table that takes
names in only grows; a transfer that fails leaves what it has added so far. -/

namespace Warrant

inductive TransferError where
  | unknownSymbol (id : Nat)
  | unknownKey (id : Nat)
  /-- With the text of a set that holds a variable or a set. -/
  | invalidSet (text : String)
  /-- With the text of a fact that holds a variable. -/
  | nonGroundFact (text : String)
  deriving Repr, DecidableEq

def TransferError.message : TransferError → String
  | .unknownSymbol id => "unknown symbol id " ++ toString id
  | .unknownKey id => "unknown public key id " ++ toString id
  | .invalidSet text => "invalid set term: " ++ text
  | .nonGroundFact text => "fact is not ground: " ++ text

/-- Ids of variables are below this. -/
def variableLimit : Nat := UInt32.size

/-- The id as that of a variable. -/
def variableId (id : Nat) : Except TransferError Nat :=
  if id < variableLimit then .ok id else .error (.unknownSymbol id)

/-! Interning. -/

/-- The id of a variable, of which only the low 32 bits are kept. -/
def Symbols.internVariable (name : String) : StateM Symbols Nat :=
  return (← Symbols.intern name) % variableLimit

def Term.intern : Term String → StateM Symbols (Term Nat) :=
  Term.mapM Symbols.internVariable Symbols.intern

def Atom.intern : Atom String → StateM Symbols (Atom Nat) := Atom.mapM Symbols.intern Term.intern

def Expression.intern : Expression String → StateM Symbols (Expression Nat) :=
  Expression.mapM Term.intern

def Scope.intern : Scope PublicKey → StateM Symbols (Scope Nat) := Scope.mapM Symbols.internKey

def Rule.intern : Rule String PublicKey → StateM Symbols (Rule Nat Nat) :=
  Rule.mapM Symbols.intern Term.intern Symbols.internKey

def Check.intern : Check String PublicKey → StateM Symbols (Check Nat Nat) :=
  Check.mapM Symbols.intern Term.intern Symbols.internKey

/-! Resolving. -/

/-- The string behind an id. -/
def Symbols.resolve (t : Symbols) (id : Nat) : Except TransferError String :=
  match t.text? id with
  | some s => .ok s
  | none => .error (.unknownSymbol id)

def Term.resolve (t : Symbols) : Term Nat → Except TransferError (Term String) :=
  Term.mapM t.resolve t.resolve

def Atom.resolve (t : Symbols) : Atom Nat → Except TransferError (Atom String) :=
  Atom.mapM t.resolve (Term.resolve t)

/-! Transferring. -/

/-- A computation on the table that is being moved to. -/
abbrev Transfer := ExceptT TransferError (StateM Symbols)

namespace Symbols

variable (source : Symbols)

def transferName (id : Nat) : Transfer Nat := do
  let s ← ExceptT.mk (pure (source.resolve id))
  ExceptT.lift (intern s)

def transferVariable (id : Nat) : Transfer Nat := do
  let moved ← source.transferName id
  ExceptT.mk (pure (variableId moved))

def transferKey (id : Nat) : Transfer Nat := do
  match source.keys[id]? with
  | some key => ExceptT.lift (internKey key)
  | none => throw (.unknownKey id)

end Symbols

def Term.transfer (source : Symbols) (t : Term Nat) : Transfer (Term Nat) :=
  if t.isWellFormed then t.mapM source.transferVariable source.transferName
  else throw (.invalidSet (source.renderTerm t))

def Atom.transfer (source : Symbols) : Atom Nat → Transfer (Atom Nat) :=
  Atom.mapM source.transferName (Term.transfer source)

def Fact.transfer (source : Symbols) (fact : Fact Nat) : Transfer (Fact Nat) := do
  let moved ← Atom.transfer source fact
  if moved.isGround then return moved else throw (.nonGroundFact (source.renderAtom fact))

def Expression.transfer (source : Symbols) : Expression Nat → Transfer (Expression Nat) :=
  Expression.mapM (Term.transfer source)

def Scope.transfer (source : Symbols) : Scope Nat → Transfer (Scope Nat) :=
  Scope.mapM source.transferKey

def Rule.transfer (source : Symbols) : Rule Nat Nat → Transfer (Rule Nat Nat) :=
  Rule.mapM source.transferName (Term.transfer source) source.transferKey

def Check.transfer (source : Symbols) : Check Nat Nat → Transfer (Check Nat Nat) :=
  Check.mapM source.transferName (Term.transfer source) source.transferKey

end Warrant
