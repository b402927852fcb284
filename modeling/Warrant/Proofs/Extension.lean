import Warrant.Proofs.Numbering

/-! Unification finds the least way to make an atom a fact.
`Atom.fill` puts values for the variables of an atom wherever they stand, inside sets too. Of all
assignments that have what is bound and make the atom the fact, `unify` gives the one that lies
within every other, and it fails only if there is none. Which variables have been declared makes no
difference to it. -/

namespace Warrant

namespace Term

variable {σ : Type} [Ord σ]

mutual

/-- The term with values for all its variables. A set is put in the order of its new elements. -/
def fill (values : σ → Option (Term σ)) : Term σ → Option (Term σ)
  | .var v => values v
  | .set elements => (fillAll values elements).map fun filled => .set (Sorted.ofList filled)
  | .int i => some (.int i)
  | .str s => some (.str s)
  | .date d => some (.date d)
  | .bytes b => some (.bytes b)
  | .bool b => some (.bool b)

def fillAll (values : σ → Option (Term σ)) : List (Term σ) → Option (List (Term σ))
  | [] => some []
  | t :: rest => (fill values t).bind fun filled => (fillAll values rest).map (filled :: ·)

end

variable {values : σ → Option (Term σ)}

theorem fillAll_eq_self {l : List (Term σ)} (h : ∀ t ∈ l, t.fill values = some t) :
    fillAll values l = some l := by
  induction l with
  | nil => rfl
  | cons t rest ih =>
    obtain ⟨here, later⟩ := List.forall_mem_cons.1 h
    rw [fillAll, here, ih later]
    rfl

variable [Std.TransOrd σ] [Std.LawfulEqOrd σ]

/-- There is nothing to fill in a term without variables, and a set in order stays in order. -/
theorem Canonical.fill_of_isGround {t : Term σ} (canonical : t.Canonical) (ground : t.isGround) :
    t.fill values = some t := by
  induction canonical with
  | var => cases ground
  | @set l increasing _ ih =>
    have elements : fillAll values l = some l :=
      fillAll_eq_self fun t ht => ih t ht (allGround_iff.1 ground t ht)
    rw [fill, elements, Option.map_some, ofList_of_increasing increasing]
  | _ => rfl

end Term

namespace Atom

variable {σ : Type}

/-- No set of the atom holds a variable, and each is in order. -/
def SetsClosed [Ord σ] (a : Atom σ) : Prop :=
  ∀ l, .set l ∈ a.terms → Term.isGround (.set l) ∧ Term.Canonical (.set l)

def fill [Ord σ] (values : σ → Option (Term σ)) (a : Atom σ) : Option (Atom σ) :=
  (a.terms.mapM (Term.fill values)).map fun terms => ⟨a.name, terms⟩

/-- Only the terms that are variables are filled. -/
theorem SetsClosed.fill_eq_under [Ord σ] [Std.TransOrd σ] [Std.LawfulEqOrd σ]
    {values : σ → Option (Term σ)} {a : Atom σ} (closed : a.SetsClosed) :
    a.fill values = a.under values := by
  have terms : a.terms.mapM (Term.fill values) = a.terms.mapM (Term.under values) := by
    refine mapM_congr fun t ht => ?_
    cases t with
    | set l =>
      obtain ⟨ground, canonical⟩ := closed l ht
      exact canonical.fill_of_isGround ground
    | _ => rfl
  rw [fill, under, terms]

end Atom

/-- Every value that `a` has bound is one of `values`. -/
def Assignment.Within (a : Assignment) (values : Nat → Option (Term Nat)) : Prop :=
  ∀ v x, a.get? v = some x → values v = some x

/-- `b` has what `a` has bound and makes the atom the fact, and it lies within all that do so. -/
structure LeastExtension (atom fact : Atom Nat) (a b : Assignment) : Prop where
  extends_bound : a.Within b.get?
  fills : atom.fill b.get? = some fact
  least : ∀ values, a.Within values → atom.fill values = some fact → b.Within values

section Unify

variable {atom fact : Atom Nat} {a b : Assignment}

theorem leastExtension_of_unify (closed : atom.SetsClosed) (h : unify atom fact a = some b) :
    LeastExtension atom fact a b where
  extends_bound v x bound := (get?_unify h v x).2 (.inl bound)
  fills := closed.fill_eq_under.trans (under_unify h)
  least values extended filled := by
    obtain ⟨c, unified, within⟩ := exists_unify extended (closed.fill_eq_under.symm.trans filled)
    cases h.symm.trans unified
    exact within

theorem isSome_unify_iff (fact : Atom Nat) (a : Assignment) (closed : atom.SetsClosed) :
    (unify atom fact a).isSome ↔ ∃ values, a.Within values ∧ atom.fill values = some fact := by
  constructor
  · intro success
    obtain ⟨b, unified⟩ := Option.isSome_iff_exists.1 success
    have found := leastExtension_of_unify closed unified
    exact ⟨b.get?, found.extends_bound, found.fills⟩
  · rintro ⟨values, extended, filled⟩
    obtain ⟨b, unified, -⟩ := exists_unify extended (closed.fill_eq_under.symm.trans filled)
    exact Option.isSome_iff_exists.2 ⟨b, unified⟩

/-- Unification succeeds exactly if some assignment that has what is bound makes the atom the fact.
Then it gives the least such assignment, in which the variables of the atom have values besides
those that had one, whether they were declared or not. -/
theorem unify_finds_least (closed : atom.SetsClosed) :
    ((unify atom fact a).isSome ↔ ∃ values, a.Within values ∧ atom.fill values = some fact) ∧
    (unify atom fact a = none ↔ ∀ values, a.Within values → atom.fill values ≠ some fact) ∧
    ∀ b, unify atom fact a = some b → LeastExtension atom fact a b ∧
      (∀ v, (b.get? v).isSome ↔ (a.get? v).isSome ∨ v ∈ atom.vars) ∧
      b.declared = a.declared := by
  have success := isSome_unify_iff fact a closed
  refine ⟨success, ?_, fun b unified =>
    ⟨leastExtension_of_unify closed unified, isSome_get?_unify unified, unify_declared unified⟩⟩
  rw [← Option.not_isSome_iff_eq_none, success]
  push Not
  rfl

/-- A variable that comes twice and was not declared, one that was and is bound, one that was and
stays free, and a set. -/
theorem unify_finds_least_repeated :
    let atom : Atom Nat := ⟨6, [.var 0, .var 1, .set [.int 1, .int 2], .var 0]⟩
    let fact : Atom Nat := ⟨6, [.bool true, .str 1024, .set [.int 1, .int 2], .bool true]⟩
    let a : Assignment := { declared := [1, 5], bound := ⟨[(1, .str 1024), (9, .int 3)]⟩ }
    let b : Assignment := { a with bound := ⟨[(0, .bool true), (1, .str 1024), (9, .int 3)]⟩ }
    atom.SetsClosed ∧ unify atom fact a = some b ∧ LeastExtension atom fact a b := by
  intro atom fact a b
  have closed : atom.SetsClosed := by
    intro l mem
    obtain rfl : l = [.int 1, .int 2] := by simpa [atom] using mem
    refine ⟨rfl, .set (List.pairwise_pair.2 rfl) ?_⟩
    simp [Term.Canonical.int]
  have unified : unify atom fact a = some b := by decide
  exact ⟨closed, unified, ((unify_finds_least closed).2.2 b unified).1⟩

end Unify

end Warrant
