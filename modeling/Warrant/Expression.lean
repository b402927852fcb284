import Warrant.Binding
import Warrant.Symbols
import Warrant.Text.Search

/-! Expressions: programs in postfix form on a stack of values.
Integers are 64 bits wide and wrap around. A string is only its id here: strings are equal when
their ids are, and an operation on their text looks them up. A string made by `+` goes to the
`Scratch` layer. Patterns are searched for as `Patterns` says, whatever that is. Of the errors only
`invalidStack` is a fault of the program; the others say that the values do not suit it. -/

namespace Warrant

inductive Unary where
  | negate
  | parens
  | length
  deriving Repr, DecidableEq

inductive Binary where
  | lessThan
  | greaterThan
  | lessOrEqual
  | greaterOrEqual
  | equal
  | notEqual
  | contains
  | startsWith
  | endsWith
  | regex
  | add
  | sub
  | mul
  | div
  | and
  | or
  | intersection
  | union
  | bitAnd
  | bitOr
  | bitXor
  deriving Repr, DecidableEq

inductive Op (σ : Type) where
  | value (term : Term σ)
  | unary (op : Unary)
  | binary (op : Binary)
  deriving Repr, DecidableEq

structure Expression (σ : Type) where
  ops : List (Op σ)
  deriving Repr, DecidableEq

inductive ExpressionError where
  | unknownSymbol (id : Nat)
  | unknownVariable (id : Nat)
  | invalidType
  | divideByZero
  | invalidRegex (reason : String)
  | invalidStack
  deriving Repr, DecidableEq

namespace ExpressionError

/-- Whether the error is a fault of the program and not of the values it was given. -/
def isFatal : ExpressionError → Bool
  | .invalidStack => true
  | _ => false

def message : ExpressionError → String
  | .unknownSymbol id => "unknown symbol " ++ toString id
  | .unknownVariable id => "unknown variable " ++ toString id
  | .invalidType => "invalid operand types"
  | .divideByZero => "division by zero"
  | .invalidRegex reason => "invalid regular expression: " ++ reason
  | .invalidStack => "invalid stack state"

end ExpressionError

namespace Unary

def render (op : Unary) (operand : String) : String :=
  match op with
  | .negate => "!" ++ operand
  | .parens => "(" ++ operand ++ ")"
  | .length => operand ++ ".length()"

/-- The length of a string is that of its UTF-8 form. -/
def apply (s : Scratch) : Unary → Term Nat → Except ExpressionError (Term Nat)
  | .negate, .bool b => .ok (.bool !b)
  | .parens, t => .ok t
  | .length, .str id =>
    match s.text? id with
    | some text => .ok (.int (.ofNat text.utf8ByteSize))
    | none => .error (.unknownSymbol id)
  | .length, .bytes data => .ok (.int (.ofNat data.length))
  | .length, .set elements => .ok (.int (.ofNat elements.length))
  | _, _ => .error .invalidType

end Unary

namespace Binary

def render (op : Binary) (left right : String) : String :=
  match op with
  | .lessThan => left ++ " < " ++ right
  | .greaterThan => left ++ " > " ++ right
  | .lessOrEqual => left ++ " <= " ++ right
  | .greaterOrEqual => left ++ " >= " ++ right
  | .equal => left ++ " == " ++ right
  | .notEqual => left ++ " != " ++ right
  | .contains => left ++ ".contains(" ++ right ++ ")"
  | .startsWith => left ++ ".starts_with(" ++ right ++ ")"
  | .endsWith => left ++ ".ends_with(" ++ right ++ ")"
  | .regex => left ++ ".matches(" ++ right ++ ")"
  | .add => left ++ " + " ++ right
  | .sub => left ++ " - " ++ right
  | .mul => left ++ " * " ++ right
  | .div => left ++ " / " ++ right
  | .and => left ++ " && " ++ right
  | .or => left ++ " || " ++ right
  | .intersection => left ++ ".intersection(" ++ right ++ ")"
  | .union => left ++ ".union(" ++ right ++ ")"
  | .bitAnd => left ++ " & " ++ right
  | .bitOr => left ++ " | " ++ right
  | .bitXor => left ++ " ^ " ++ right

variable {σ : Type}

def onIntegers (op : Binary) (i j : Int64) : Except ExpressionError (Term σ) :=
  match op with
  | .lessThan => .ok (.bool (i < j))
  | .greaterThan => .ok (.bool (i > j))
  | .lessOrEqual => .ok (.bool (i ≤ j))
  | .greaterOrEqual => .ok (.bool (i ≥ j))
  | .equal => .ok (.bool (i == j))
  | .notEqual => .ok (.bool (i != j))
  | .add => .ok (.int (i + j))
  | .sub => .ok (.int (i - j))
  | .mul => .ok (.int (i * j))
  | .div => if j = 0 then .error .divideByZero else .ok (.int (i / j))
  | .bitAnd => .ok (.int (i &&& j))
  | .bitOr => .ok (.int (i ||| j))
  | .bitXor => .ok (.int (i ^^^ j))
  | _ => .error .invalidType

def onDates (op : Binary) (i j : UInt64) : Except ExpressionError (Term σ) :=
  match op with
  | .lessThan => .ok (.bool (i < j))
  | .greaterThan => .ok (.bool (i > j))
  | .lessOrEqual => .ok (.bool (i ≤ j))
  | .greaterOrEqual => .ok (.bool (i ≥ j))
  | .equal => .ok (.bool (i == j))
  | .notEqual => .ok (.bool (i != j))
  | _ => .error .invalidType

def onBytes (op : Binary) (i j : List UInt8) : Except ExpressionError (Term σ) :=
  match op with
  | .equal => .ok (.bool (i == j))
  | .notEqual => .ok (.bool (i != j))
  | _ => .error .invalidType

def onBools (op : Binary) (i j : Bool) : Except ExpressionError (Term σ) :=
  match op with
  | .and => .ok (.bool (i && j))
  | .or => .ok (.bool (i || j))
  | .equal => .ok (.bool (i == j))
  | .notEqual => .ok (.bool (i != j))
  | _ => .error .invalidType

/-- One set contains another when it has all its elements. -/
def onSets [Ord σ] [DecidableEq σ] (op : Binary) (s t : List (Term σ)) :
    Except ExpressionError (Term σ) :=
  match op with
  | .equal => .ok (.bool (s == t))
  | .notEqual => .ok (.bool (s != t))
  | .intersection => .ok (.set (Sorted.inter s t))
  | .union => .ok (.set (Sorted.union s t))
  | .contains => .ok (.bool (Sorted.subset t s))
  | _ => .error .invalidType

end Binary

/-- A computation on the stack's values, which may add strings to the scratch layer. -/
abbrev Eval := StateT Scratch (Except ExpressionError)

namespace Eval

/-- The text behind an id. -/
def text (id : Nat) : Eval String := fun s =>
  match s.text? id with
  | some text => .ok (text, s)
  | none => .error (.unknownSymbol id)

def intern (text : String) : Eval Nat := fun s => .ok (s.intern text)

end Eval

variable [Patterns]

namespace Binary

def onTexts (op : Binary) (left right : String) : Eval (Term Nat) :=
  match op with
  | .startsWith => return .bool (right.toList.isPrefixOf left.toList)
  | .endsWith => return .bool (right.toList.isSuffixOf left.toList)
  | .contains => return .bool (occursIn right.toList left.toList)
  | .regex =>
    match Patterns.search right left with
    | .ok found => return .bool found
    | .error reason => throw (.invalidRegex reason)
  | .add => return .str (← Eval.intern (left ++ right))
  | _ => throw .invalidType

/-- Strings are equal when their ids are; the rest needs both texts, the left one first. -/
def onStrings (op : Binary) (i j : Nat) : Eval (Term Nat) :=
  match op with
  | .equal => return .bool (i == j)
  | .notEqual => return .bool (i != j)
  | .startsWith | .endsWith | .contains | .regex | .add => do
    let left ← Eval.text i
    let right ← Eval.text j
    onTexts op left right
  | _ => throw .invalidType

def apply (op : Binary) : Term Nat → Term Nat → Eval (Term Nat)
  | .int i, .int j => onIntegers op i j
  | .str i, .str j => onStrings op i j
  | .date i, .date j => onDates op i j
  | .bytes i, .bytes j => onBytes op i j
  | .bool i, .bool j => onBools op i j
  | .set s, .set t => onSets op s t
  | .set _, .var _ => throw .invalidType
  | .set s, element =>
    match op with
    | .contains => return .bool (Sorted.contains s element)
    | _ => throw .invalidType
  | _, _ => throw .invalidType

end Binary

namespace Op

variable {σ τ : Type}

def var? : Op σ → Option σ
  | .value t => t.var?
  | _ => none

def mapM {m : Type → Type} [Monad m] (term : Term σ → m (Term τ)) : Op σ → m (Op τ)
  | .value t => return .value (← term t)
  | .unary op => pure (.unary op)
  | .binary op => pure (.binary op)

/-- One step on the stack, whose top comes first. An operation takes all its operands off before
it looks at them. -/
def run (values : Binding) : Op Nat → List (Term Nat) → Eval (List (Term Nat))
  | .value (.var v), stack =>
    match values.get? v with
    | some t => return t :: stack
    | none => throw (.unknownVariable v)
  | .value t, stack => return t :: stack
  | .unary op, operand :: stack => return (← op.apply (← get) operand) :: stack
  | .binary op, right :: left :: stack => return (← op.apply left right) :: stack
  | _, _ => throw .invalidStack

/-- One step on a stack of rendered operands. -/
def render (term : Term σ → String) : Op σ → List String → Option (List String)
  | .value t, stack => some (term t :: stack)
  | .unary op, operand :: stack => some (op.render operand :: stack)
  | .binary op, right :: left :: stack => some (op.render left right :: stack)
  | _, _ => none

end Op

namespace Expression

variable {σ τ : Type}

/-- The variables of the expression, in order and with repetitions. -/
def vars (e : Expression σ) : List σ := e.ops.filterMap Op.var?

/-- The literals of the expression, in order. -/
def terms (e : Expression σ) : List (Term σ) :=
  e.ops.filterMap fun | .value t => some t | _ => none

def mapM {m : Type → Type} [Monad m] (term : Term σ → m (Term τ)) (e : Expression σ) :
    m (Expression τ) := return ⟨← e.ops.mapM (Op.mapM term)⟩

/-- The value that is left when all has run, which must be the only one. -/
def evaluate (e : Expression Nat) (values : Binding) : Eval (Term Nat) := do
  match ← e.ops.foldlM (fun stack op => op.run values stack) [] with
  | [result] => return result
  | _ => throw .invalidStack

/-- The expression between its operands, if its program is complete. -/
def render? (term : Term σ → String) (e : Expression σ) : Option String := do
  match ← e.ops.foldlM (fun stack op => op.render term stack) [] with
  | [text] => some text
  | _ => none

end Expression

/-- Whether every expression gives `true`, looked at in order until one does not. Errors that are
no fault of the program count as not true. All share one scratch layer. -/
def holdsAll (values : Binding) : List (Expression Nat) → Scratch → Except ExpressionError Bool
  | [], _ => .ok true
  | e :: rest, scratch =>
    match (e.evaluate values).run scratch with
    | .ok (.bool true, scratch) => holdsAll values rest scratch
    | .ok _ => .ok false
    | .error error => if error.isFatal then .error error else .ok false

/-- Whether a binding passes the expressions. -/
def keeps (symbols : Symbols) (expressions : List (Expression Nat)) (values : Binding) :
    Except ExpressionError Bool := holdsAll values expressions { base := symbols }

end Warrant
