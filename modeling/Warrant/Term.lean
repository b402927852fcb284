import Warrant.Sorted

/-! Terms and atoms, over any kind of name.
A name is a `String` in what people write and a `Nat` once a symbol table has taken it in;
everything here holds for both. Terms are ordered by kind and then by value, which makes a set
of terms one `Sorted` list. A set that may be stored holds only plain values, neither variables
nor further sets (`isPlain`). `mapM` is the one walk that changes names, from left to right and
through a set in its order. -/

namespace Warrant

/-- A value or a variable, with strings and variable names drawn from `σ`. -/
inductive Term (σ : Type) where
  | var (name : σ)
  | int (value : Int64)
  | str (text : σ)
  /-- Seconds since the start of 1970. -/
  | date (seconds : UInt64)
  | bytes (data : List UInt8)
  | bool (value : Bool)
  | set (elements : List (Term σ))
  deriving Repr, Inhabited

namespace Term

variable {σ τ : Type}

mutual

def beq [DecidableEq σ] : Term σ → Term σ → Bool
  | .var a, .var b | .str a, .str b => a = b
  | .int a, .int b => a = b
  | .date a, .date b => a = b
  | .bytes a, .bytes b => a = b
  | .bool a, .bool b => a = b
  | .set as, .set bs => beqAll as bs
  | _, _ => false

def beqAll [DecidableEq σ] : List (Term σ) → List (Term σ) → Bool
  | [], [] => true
  | a :: as, b :: bs => beq a b && beqAll as bs
  | _, _ => false

end

mutual

theorem beq_iff [DecidableEq σ] : (a b : Term σ) → (beq a b ↔ a = b)
  | a, b => by
    cases a <;> cases b <;> simp [beq]
    case set.set as bs => exact beqAll_iff as bs

theorem beqAll_iff [DecidableEq σ] : (as bs : List (Term σ)) → (beqAll as bs ↔ as = bs)
  | [], [] | [], _ :: _ | _ :: _, [] => by simp [beqAll]
  | a :: as, b :: bs => by simp [beqAll, beq_iff a b, beqAll_iff as bs]

end

instance [DecidableEq σ] : DecidableEq (Term σ) := fun a b => decidable_of_iff _ (beq_iff a b)

/-- The place of a term's kind in the order of terms. -/
def kind : Term σ → Nat
  | .var _ => 0
  | .int _ => 1
  | .str _ => 2
  | .date _ => 3
  | .bytes _ => 4
  | .bool _ => 5
  | .set _ => 6

mutual

/-- Kinds first, then values; sets compare as their lists do, first difference first. -/
def cmp [Ord σ] : Term σ → Term σ → Ordering
  | .var a, .var b | .str a, .str b => compare a b
  | .int a, .int b => compare a b
  | .date a, .date b => compare a b
  | .bytes a, .bytes b => compare a b
  | .bool a, .bool b => compare a b
  | .set as, .set bs => cmpAll as bs
  | a, b => compare a.kind b.kind

def cmpAll [Ord σ] : List (Term σ) → List (Term σ) → Ordering
  | [], [] => .eq
  | [], _ :: _ => .lt
  | _ :: _, [] => .gt
  | a :: as, b :: bs => (cmp a b).then (cmpAll as bs)

end

instance [Ord σ] : Ord (Term σ) := ⟨cmp⟩

mutual

theorem eq_of_cmp [Ord σ] [Std.LawfulEqOrd σ] : (a b : Term σ) → cmp a b = .eq → a = b
  | a, b, h => by
    cases a <;> cases b <;> simp only [cmp, kind] at h
    case set.set as bs => exact congrArg _ (eq_of_cmpAll as bs h)
    all_goals first | (simp at h; done) | exact congrArg _ (Std.LawfulEqCmp.eq_of_compare h)

theorem eq_of_cmpAll [Ord σ] [Std.LawfulEqOrd σ] :
    (as bs : List (Term σ)) → cmpAll as bs = .eq → as = bs
  | [], [], _ => rfl
  | [], _ :: _, h | _ :: _, [], h => by simp [cmpAll] at h
  | a :: as, b :: bs, h => by
    simp only [cmpAll, Ordering.then_eq_eq] at h
    rw [eq_of_cmp a b h.1, eq_of_cmpAll as bs h.2]

end

mutual

theorem cmp_swap [Ord σ] [Std.OrientedOrd σ] : (a b : Term σ) → cmp a b = (cmp b a).swap
  | a, b => by
    cases a <;> cases b <;> simp only [cmp, kind] <;>
      first | rfl | exact Std.OrientedCmp.eq_swap | skip
    case set.set as bs => exact cmpAll_swap as bs

theorem cmpAll_swap [Ord σ] [Std.OrientedOrd σ] :
    (as bs : List (Term σ)) → cmpAll as bs = (cmpAll bs as).swap
  | [], [] | [], _ :: _ | _ :: _, [] => rfl
  | a :: as, b :: bs => by
    simp only [cmpAll, Ordering.swap_then]
    rw [cmp_swap a b, cmpAll_swap as bs]

end

theorem cmp_of_kind_lt [Ord σ] {a b : Term σ} (h : a.kind < b.kind) : cmp a b = .lt := by
  cases a <;> cases b <;> first | rfl | simp [kind] at h

theorem kind_le_of_cmp_lt [Ord σ] {a b : Term σ} (h : cmp a b = .lt) : a.kind ≤ b.kind := by
  cases a <;> cases b <;>
    first | simp [kind]; done | (simp only [cmp, kind] at h; exact absurd h (by decide))

mutual

theorem cmp_lt_trans [Ord σ] [Std.TransOrd σ] [Std.LawfulEqOrd σ] : (a b c : Term σ) →
    cmp a b = .lt → cmp b c = .lt → cmp a c = .lt
  | a, b, c, h, k => by
    rcases Nat.lt_or_eq_of_le (kind_le_of_cmp_lt h) with hab | hab
    · exact cmp_of_kind_lt (Nat.lt_of_lt_of_le hab (kind_le_of_cmp_lt k))
    rcases Nat.lt_or_eq_of_le (kind_le_of_cmp_lt k) with hbc | hbc
    · exact cmp_of_kind_lt (hab ▸ hbc)
    cases a <;> cases b <;> simp [kind] at hab <;>
      cases c <;> simp [kind] at hbc <;> simp only [cmp] at h k ⊢
    case set.set.set => exact cmpAll_lt_trans _ _ _ h k
    all_goals exact Std.TransCmp.lt_trans h k

theorem cmpAll_lt_trans [Ord σ] [Std.TransOrd σ] [Std.LawfulEqOrd σ] :
    (as bs cs : List (Term σ)) → cmpAll as bs = .lt → cmpAll bs cs = .lt → cmpAll as cs = .lt
  | [], _, [], h, k => by cases ‹List (Term σ)› <;> simp [cmpAll] at h k
  | [], _, _ :: _, _, _ => rfl
  | _ :: _, [], _, h, _ => by simp [cmpAll] at h
  | _ :: _, _ :: _, [], _, k => by simp [cmpAll] at k
  | a :: as, b :: bs, c :: cs, h, k => by
    simp only [cmpAll, Ordering.then_eq_lt] at h k ⊢
    rcases h with h | ⟨h, h'⟩ <;> rcases k with k | ⟨k, k'⟩
    · exact .inl (cmp_lt_trans a b c h k)
    · exact .inl (eq_of_cmp b c k ▸ h)
    · exact .inl (eq_of_cmp a b h ▸ k)
    · exact .inr ⟨eq_of_cmp a b h ▸ k, cmpAll_lt_trans as bs cs h' k'⟩

end

instance [Ord σ] [Std.OrientedOrd σ] : Std.OrientedOrd (Term σ) := ⟨cmp_swap _ _⟩

instance [Ord σ] [Std.TransOrd σ] [Std.LawfulEqOrd σ] : Std.LawfulEqOrd (Term σ) where
  eq_of_compare := eq_of_cmp _ _

instance [Ord σ] [Std.TransOrd σ] [Std.LawfulEqOrd σ] : Std.TransOrd (Term σ) where
  isLE_trans {a b c} h k := by
    change (cmp a b).isLE at h
    change (cmp b c).isLE at k
    change (cmp a c).isLE
    rcases hab : cmp a b with _ | _ | _
    · rcases hbc : cmp b c with _ | _ | _
      · rw [cmp_lt_trans a b c hab hbc]; rfl
      · rw [← eq_of_cmp b c hbc, hab]; rfl
      · rw [hbc] at k; contradiction
    · rwa [eq_of_cmp a b hab]
    · rw [hab] at h; contradiction

mutual

/-- Holds no variable. -/
def isGround : Term σ → Bool
  | .var _ => false
  | .set elements => allGround elements
  | _ => true

def allGround : List (Term σ) → Bool
  | [] => true
  | t :: rest => t.isGround && allGround rest

end

/-- Neither a variable nor a set: what a set that may be stored is made of. -/
def isPlain : Term σ → Bool
  | .var _ | .set _ => false
  | _ => true

/-- A set of anything but plain values is malformed; every other term is well formed. -/
def isWellFormed : Term σ → Bool
  | .set elements => elements.all isPlain
  | _ => true

def isVar : Term σ → Bool
  | .var _ => true
  | _ => false

def var? : Term σ → Option σ
  | .var name => some name
  | _ => none

mutual

/-- Renames variables by `v` and strings by `s`. A set is put in the order of the new names. -/
def mapM [Ord τ] {m : Type → Type} [Monad m] (v s : σ → m τ) : Term σ → m (Term τ)
  | .var name => return .var (← v name)
  | .int i => pure (.int i)
  | .str text => return .str (← s text)
  | .date d => pure (.date d)
  | .bytes b => pure (.bytes b)
  | .bool b => pure (.bool b)
  | .set elements => return .set (Sorted.ofList (← mapAllM v s elements))

def mapAllM [Ord τ] {m : Type → Type} [Monad m] (v s : σ → m τ) :
    List (Term σ) → m (List (Term τ))
  | [] => pure []
  | t :: rest => return (← mapM v s t) :: (← mapAllM v s rest)

end

end Term

/-- A name applied to terms. -/
structure Atom (σ : Type) where
  name : σ
  terms : List (Term σ)
  deriving Repr, Inhabited, DecidableEq

/-- By name and then by terms, first difference first. -/
instance {σ : Type} [Ord σ] : Ord (Atom σ) :=
  ⟨compareLex (compareOn Atom.name) (compareOn Atom.terms)⟩

instance {σ : Type} [Ord σ] [Std.TransOrd σ] [Std.LawfulEqOrd σ] : Std.TransOrd (Atom σ) :=
  inferInstanceAs (Std.TransCmp (compareLex (compareOn Atom.name) (compareOn Atom.terms)))

instance {σ : Type} [Ord σ] [Std.TransOrd σ] [Std.LawfulEqOrd σ] : Std.LawfulEqOrd (Atom σ) where
  eq_of_compare {a b} h := by
    change (compare a.name b.name).then (compare a.terms b.terms) = .eq at h
    rw [Ordering.then_eq_eq] at h
    obtain ⟨n, ts⟩ := a
    obtain ⟨m, us⟩ := b
    cases (Std.LawfulEqOrd.eq_of_compare h.1 : n = m)
    cases (Std.LawfulEqOrd.eq_of_compare h.2 : ts = us)
    rfl

/-- A fact is an atom that holds no variable. Whoever takes one in from outside checks that. -/
abbrev Fact := Atom

namespace Atom

variable {σ τ : Type}

def arity (a : Atom σ) : Nat := a.terms.length

def isGround (a : Atom σ) : Bool := a.terms.all Term.isGround

/-- The variables that stand as terms of the atom, in order and with repetitions. -/
def vars (a : Atom σ) : List σ := a.terms.filterMap Term.var?

/-- Whether `fact` has the same name and arity and agrees wherever `a` has no variable. -/
def fits [DecidableEq σ] (a fact : Atom σ) : Bool :=
  a.name = fact.name && a.arity = fact.arity &&
    (a.terms.zip fact.terms).all fun (t, f) => t.isVar || t = f

/-- The name first, then the terms in order. -/
def mapM {m : Type → Type} [Monad m] (name : σ → m τ) (term : Term σ → m (Term τ))
    (a : Atom σ) : m (Atom τ) := return ⟨← name a.name, ← a.terms.mapM term⟩

end Atom

end Warrant
