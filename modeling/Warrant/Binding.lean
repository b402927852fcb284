import Warrant.Term

/-! What the variables of a rule stand for.
A `Binding` gives values to some variables; it is kept in the order of the variables, so that two
bindings with the same content are equal. An `Assignment` is a binding on its way: the variables
it has to bind are known from the start. `unify` extends one so that an atom becomes a fact. -/

namespace Warrant

/-- Variables by number, each with its value. -/
structure Binding where
  entries : List (Nat × Term Nat) := []
  deriving Repr, DecidableEq

namespace Binding

def empty : Binding := {}

def get? (b : Binding) (v : Nat) : Option (Term Nat) := b.entries.lookup v

/-- The variables that have a value, in increasing order. -/
def domain (b : Binding) : List Nat := b.entries.map (·.1)

/-- Puts an entry into its place, over one that is there. -/
def place (v : Nat) (value : Term Nat) : List (Nat × Term Nat) → List (Nat × Term Nat)
  | [] => [(v, value)]
  | (w, old) :: rest =>
    if v < w then (v, value) :: (w, old) :: rest
    else if v = w then (v, value) :: rest
    else (w, old) :: place v value rest

def set (b : Binding) (v : Nat) (value : Term Nat) : Binding := ⟨place v value b.entries⟩

/-- The binding of a list of entries; of two for one variable the later counts. -/
def ofList (entries : List (Nat × Term Nat)) : Binding :=
  entries.foldl (fun b (v, value) => b.set v value) empty

theorem lookup_place (v w : Nat) (value : Term Nat) (l : List (Nat × Term Nat)) :
    (place v value l).lookup w = if w = v then some value else l.lookup w := by
  have step (u : Nat) (x : Term Nat) (r : List (Nat × Term Nat)) :
      ((u, x) :: r).lookup w = if w = u then some x else r.lookup w := by
    by_cases h : w = u
    · simp [h]
    · simp [List.lookup_cons, beq_eq_false_iff_ne.2 h, h]
  induction l with
  | nil => rw [place, step]
  | cons e rest ih =>
    simp only [place]
    split
    · rw [step]
    split
    · subst v
      rw [step, step]
      split <;> rfl
    · rw [step, step, ih]
      grind

theorem get?_set (b : Binding) (v w : Nat) (value : Term Nat) :
    (b.set v value).get? w = if w = v then some value else b.get? w :=
  lookup_place ..

end Binding

/-- A binding and the variables it is to have before it counts. -/
structure Assignment where
  declared : List Nat
  bound : Binding := .empty
  deriving Repr, DecidableEq

namespace Assignment

def get? (a : Assignment) (v : Nat) : Option (Term Nat) := a.bound.get? v

/-- Binds a variable, unless it has another value. -/
def bind? (a : Assignment) (v : Nat) (value : Term Nat) : Option Assignment :=
  match a.get? v with
  | some old => if old = value then some a else none
  | none => some { a with bound := a.bound.set v value }

/-- The binding, once every declared variable has a value. -/
def complete? (a : Assignment) : Option Binding :=
  if a.declared.all fun v => (a.get? v).isSome then some a.bound else none

/-- Binds the variables among `terms` to the values opposite. -/
def bindAll? (a : Assignment) : List (Term Nat × Term Nat) → Option Assignment
  | [] => some a
  | (.var v, value) :: rest => (a.bind? v value).bind (bindAll? · rest)
  | _ :: rest => bindAll? a rest

end Assignment

/-- Extends an assignment so that `atom` becomes `fact`, if that can be done. -/
def unify (atom fact : Atom Nat) (a : Assignment) : Option Assignment :=
  if atom.fits fact then a.bindAll? (atom.terms.zip fact.terms) else none

end Warrant
