import Warrant.Proofs.Matching
import Warrant.Proofs.Reading

/-! What statements mean, as people write them.
Here a string is a string and a set a set of terms; there are no ids and no tables, and a string
made by an expression is simply there. Everything that the engine does with interned items is
compared with this. -/

namespace Warrant

open Provenance

/-- Why an expression has no value. -/
inductive Fault where
  | unknownVariable (name : String)
  | invalidType
  | divideByZero
  | invalidRegex (reason : String)
  | invalidStack
  deriving Repr, DecidableEq

/-- The fault behind an error; an id that stands for nothing is no fault of what was written. -/
def ExpressionError.fault? (u : Symbols) : ExpressionError → Option Fault
  | .unknownSymbol _ => none
  | .unknownVariable v => some (.unknownVariable (u.textOf v))
  | .invalidType => some .invalidType
  | .divideByZero => some .divideByZero
  | .invalidRegex reason => some (.invalidRegex reason)
  | .invalidStack => some .invalidStack

/-- The fault of an operator that sees neither strings nor variables. -/
def Fault.ofOperator : ExpressionError → Fault
  | .divideByZero => .divideByZero
  | _ => .invalidType

def Unary.value : Unary → Term String → Except Fault (Term String)
  | .negate, .bool b => .ok (.bool !b)
  | .parens, t => .ok t
  | .length, .str text => .ok (.int (.ofNat text.utf8ByteSize))
  | .length, .bytes data => .ok (.int (.ofNat data.length))
  | .length, .set elements => .ok (.int (.ofNat elements.length))
  | _, _ => .error .invalidType

namespace Binary

def ofTexts [Patterns] (op : Binary) (left right : String) : Except Fault (Term String) :=
  match op with
  | .equal => .ok (.bool (left == right))
  | .notEqual => .ok (.bool (left != right))
  | .startsWith => .ok (.bool (right.toList.isPrefixOf left.toList))
  | .endsWith => .ok (.bool (right.toList.isSuffixOf left.toList))
  | .contains => .ok (.bool (occursIn right.toList left.toList))
  | .regex =>
    match Patterns.search right left with
    | .ok found => .ok (.bool found)
    | .error reason => .error (.invalidRegex reason)
  | .add => .ok (.str (left ++ right))
  | _ => .error .invalidType

def value [Patterns] (op : Binary) : Term String → Term String → Except Fault (Term String)
  | .int i, .int j => (onIntegers op i j).mapError .ofOperator
  | .str i, .str j => ofTexts op i j
  | .date i, .date j => (onDates op i j).mapError .ofOperator
  | .bytes i, .bytes j => (onBytes op i j).mapError .ofOperator
  | .bool i, .bool j => (onBools op i j).mapError .ofOperator
  | .set s, .set t => (onSets op s t).mapError .ofOperator
  | .set _, .var _ => .error .invalidType
  | .set s, element =>
    match op with
    | .contains => .ok (.bool (Sorted.contains s element))
    | _ => .error .invalidType
  | _, _ => .error .invalidType

end Binary

/-- One step on the stack, whose top comes first. -/
def Op.value? [Patterns] (values : String → Option (Term String)) :
    Op String → List (Term String) → Except Fault (List (Term String))
  | .value (.var v), stack =>
    match values v with
    | some t => .ok (t :: stack)
    | none => .error (.unknownVariable v)
  | .value t, stack => .ok (t :: stack)
  | .unary op, operand :: stack => return (← op.value operand) :: stack
  | .binary op, right :: left :: stack => return (← op.value left right) :: stack
  | _, _ => .error .invalidStack

def Expression.value [Patterns] (e : Expression String) (values : String → Option (Term String)) :
    Except Fault (Term String) := do
  match ← e.ops.foldlM (fun stack op => op.value? values stack) [] with
  | [result] => return result
  | _ => .error .invalidStack

/-- Whether all expressions are true, as far as they must be looked at to tell; a program that does
not come out right ends the matter. -/
def allTrue [Patterns] (values : String → Option (Term String)) :
    List (Expression String) → Except Fault Bool
  | [] => .ok true
  | e :: rest =>
    match e.value values with
    | .ok (.bool true) => allTrue values rest
    | .ok _ => .ok false
    | .error .invalidStack => .error .invalidStack
    | .error _ => .ok false

namespace Rule

variable {κ : Type}

/-- Whether the body matches the facts and every expression is true. -/
def Admits [Patterns] (r : Rule String κ) (facts : List (Fact String)) : Prop :=
  ∃ values, r.Binds values facts ∧ allTrue values r.expressions = .ok true

/-- Whether besides the head becomes `fact`. -/
def Derives [Patterns] (r : Rule String κ) (facts : List (Fact String)) (fact : Fact String) :
    Prop :=
  ∃ values, r.Binds values facts ∧ allTrue values r.expressions = .ok true ∧
    r.head.under values = some fact

/-- Whether the body matches the facts and an expression does not come out right. -/
def Breaks [Patterns] (r : Rule String κ) (facts : List (Fact String)) : Prop :=
  ∃ values, r.Binds values facts ∧ ∃ e, allTrue values r.expressions = .error e

end Rule

end Warrant
