import Mathlib.Data.List.Forall2
import Warrant.Binding

/-! What terms and atoms become under an assignment, and what `unify` computes.
`Term.under` and `Atom.under` put values for variables; a set is left alone, as it holds none.
A successful `unify` binds the variables of the atom to the values opposite and nothing else
(`get?_unify`), and it succeeds whenever some assignment that agrees with what is bound makes the
atom the fact (`exists_unify`). -/

namespace Warrant

namespace Term

variable {σ : Type}

/-- What a term is when its variable, if it is one, has the value that `values` gives. -/
def under (values : σ → Option (Term σ)) : Term σ → Option (Term σ)
  | .var v => values v
  | t => some t

end Term

theorem mapM_congr {m : Type → Type} [Monad m] [LawfulMonad m] {α β : Type} {f g : α → m β}
    {l : List α} (same : ∀ a ∈ l, f a = g a) : l.mapM f = l.mapM g := by
  induction l with
  | nil => rfl
  | cons a rest ih =>
    rw [List.mapM_cons, List.mapM_cons, same a (List.mem_cons_self ..),
      ih fun b hb => same b (List.mem_cons_of_mem _ hb)]

/-- Going through a list succeeds when each element does. -/
theorem mapM_eq_some_iff {α β : Type} {f : α → Option β} {as : List α} {bs : List β} :
    as.mapM f = some bs ↔ List.Forall₂ (fun a b => f a = some b) as bs := by
  induction as generalizing bs with
  | nil => simp [eq_comm]
  | cons a rest ih =>
    rw [List.mapM_cons, List.forall₂_cons_left_iff]
    simp only [Option.bind_eq_bind, Option.bind_eq_some_iff, Option.pure_def, Option.some.injEq, ih]
    grind

namespace Atom

variable {σ : Type}

def under (values : σ → Option (Term σ)) (a : Atom σ) : Option (Atom σ) :=
  (a.terms.mapM (Term.under values)).map fun terms => ⟨a.name, terms⟩

theorem under_eq_some_iff {values : σ → Option (Term σ)} {a fact : Atom σ} :
    a.under values = some fact ↔ a.name = fact.name ∧
      List.Forall₂ (fun t x => t.under values = some x) a.terms fact.terms := by
  obtain ⟨n, terms⟩ := fact
  simp only [under, Option.map_eq_some_iff, mapM_eq_some_iff, mk.injEq]
  grind

theorem under_eq_some_iff_fits [DecidableEq σ] {values : σ → Option (Term σ)} {a fact : Atom σ} :
    a.under values = some fact ↔ a.fits fact ∧
      ∀ v x, (Term.var v, x) ∈ a.terms.zip fact.terms → values v = some x := by
  have one (t x : Term σ) : t.under values = some x ↔
      (t.isVar = true ∨ t = x) ∧ ∀ v, t = .var v → values v = some x := by
    cases t <;> simp [Term.under, Term.isVar]
  rw [under_eq_some_iff, List.forall₂_iff_zip]
  simp only [fits, one, Bool.and_eq_true, decide_eq_true_eq, List.all_eq_true,
    Bool.or_eq_true, Prod.forall]
  constructor
  · rintro ⟨name, length, all⟩
    exact ⟨⟨⟨name, length⟩, fun t x h => (all h).1⟩, fun v x h => (all h).2 v rfl⟩
  · rintro ⟨⟨⟨name, length⟩, fits⟩, values⟩
    refine ⟨name, length, fun {t x} h => ⟨fits t x h, ?_⟩⟩
    rintro v rfl
    exact values v x h

/-- What is known of an atom stays when more variables get values. -/
theorem under_mono [DecidableEq σ] {values more : σ → Option (Term σ)} {a fact : Atom σ}
    (h : ∀ v x, values v = some x → more v = some x) (made : a.under values = some fact) :
    a.under more = some fact := by
  rw [under_eq_some_iff_fits] at made ⊢
  exact ⟨made.1, fun v x mem => h v x (made.2 v x mem)⟩

theorem shape_of_fits {a fact : Atom Nat} (h : a.fits fact) : a.name = fact.name ∧
    a.terms.length = fact.terms.length := by
  simp only [fits, Bool.and_eq_true, decide_eq_true_eq] at h
  exact h.1

theorem mem_vars_iff {a : Atom σ} {v : σ} : v ∈ a.vars ↔ .var v ∈ a.terms := by
  simp only [vars, List.mem_filterMap]
  constructor
  · rintro ⟨t, ht, name⟩
    cases t <;> simp_all [Term.var?]
  · exact fun h => ⟨.var v, h, rfl⟩

/-- Opposite each variable of an atom stands a value. -/
theorem mem_vars_iff_zip {a fact : Atom σ} (h : a.terms.length = fact.terms.length) {v : σ} :
    v ∈ a.vars ↔ ∃ x, (Term.var v, x) ∈ a.terms.zip fact.terms := by
  rw [mem_vars_iff]
  constructor
  · intro mem
    rw [← List.map_fst_zip (Nat.le_of_eq h), List.mem_map] at mem
    obtain ⟨⟨t, x⟩, mem, rfl⟩ := mem
    exact ⟨x, mem⟩
  · exact fun ⟨x, mem⟩ => (List.of_mem_zip mem).1

end Atom

namespace Assignment

theorem get?_bind? {a b : Assignment} {v : Nat} {value : Term Nat} (h : a.bind? v value = some b)
    (w : Nat) (x : Term Nat) : b.get? w = some x ↔ a.get? w = some x ∨ w = v ∧ x = value := by
  unfold bind? at h
  split at h
  · rename_i old bound
    split at h
    · rename_i same
      cases h
      subst same
      grind
    · contradiction
  · rename_i free
    cases h
    have new := Binding.get?_set a.bound v w value
    change (a.bound.set v value).get? w = some x ↔ a.get? w = some x ∨ _
    grind [get?]

theorem bind?_declared {a b : Assignment} {v : Nat} {value : Term Nat}
    (h : a.bind? v value = some b) : b.declared = a.declared := by
  unfold bind? at h
  grind

/-- A value that some larger assignment gives can be bound. -/
theorem exists_bind? {a : Assignment} {values : Nat → Option (Term Nat)}
    (ha : ∀ w x, a.get? w = some x → values w = some x) {v : Nat} {value : Term Nat}
    (hv : values v = some value) : ∃ b, a.bind? v value = some b := by
  unfold bind?
  split
  · rename_i old bound
    have same := (ha v old bound).symm.trans hv
    simp_all
  · exact ⟨_, rfl⟩

/-- What one step of `bindAll?` does. -/
theorem bindAll?_cons (a : Assignment) (t value : Term Nat) (rest : List (Term Nat × Term Nat)) :
    (∃ v, t = .var v ∧ a.bindAll? ((t, value) :: rest) =
      (a.bind? v value).bind (bindAll? · rest)) ∨
    ((∀ v, t ≠ .var v) ∧ a.bindAll? ((t, value) :: rest) = a.bindAll? rest) := by
  cases t with
  | var v => exact .inl ⟨v, rfl, rfl⟩
  | _ => exact .inr ⟨by simp, rfl⟩

theorem get?_bindAll? {pairs : List (Term Nat × Term Nat)} {a b : Assignment}
    (h : a.bindAll? pairs = some b) (w : Nat) (x : Term Nat) :
    b.get? w = some x ↔ a.get? w = some x ∨ (.var w, x) ∈ pairs := by
  induction pairs generalizing a with
  | nil =>
    cases h
    simp
  | cons pair rest ih =>
    obtain ⟨t, value⟩ := pair
    rcases bindAll?_cons a t value rest with ⟨v, rfl, step⟩ | ⟨constant, step⟩
    · rw [step, Option.bind_eq_some_iff] at h
      obtain ⟨c, bound, h⟩ := h
      rw [ih h, get?_bind? bound]
      simp [or_assoc]
    · rw [step] at h
      have other : (Term.var w, x) ≠ (t, value) := fun same => constant w (congrArg (·.1) same).symm
      rw [ih h, List.mem_cons]
      simp [other]

theorem bindAll?_declared {pairs : List (Term Nat × Term Nat)} {a b : Assignment}
    (h : a.bindAll? pairs = some b) : b.declared = a.declared := by
  induction pairs generalizing a with
  | nil =>
    cases h
    rfl
  | cons pair rest ih =>
    obtain ⟨t, value⟩ := pair
    rcases bindAll?_cons a t value rest with ⟨v, rfl, step⟩ | ⟨constant, step⟩
    · rw [step, Option.bind_eq_some_iff] at h
      obtain ⟨c, bound, h⟩ := h
      exact (ih h).trans (bind?_declared bound)
    · exact ih (step ▸ h)

theorem exists_bindAll? {pairs : List (Term Nat × Term Nat)} {a : Assignment}
    {values : Nat → Option (Term Nat)} (ha : ∀ w x, a.get? w = some x → values w = some x)
    (h : ∀ w x, (.var w, x) ∈ pairs → values w = some x) : ∃ b, a.bindAll? pairs = some b := by
  induction pairs generalizing a with
  | nil => exact ⟨a, rfl⟩
  | cons pair rest ih =>
    obtain ⟨t, value⟩ := pair
    have later (w : Nat) (x : Term Nat) (mem : (.var w, x) ∈ rest) : values w = some x :=
      h w x (List.mem_cons_of_mem _ mem)
    rcases bindAll?_cons a t value rest with ⟨v, rfl, step⟩ | ⟨constant, step⟩
    · have here := h v value (List.mem_cons_self ..)
      obtain ⟨c, bound⟩ := exists_bind? ha here
      rw [step, bound]
      refine ih (fun w x found => ?_) later
      rcases (get?_bind? bound w x).1 found with old | ⟨rfl, rfl⟩
      · exact ha w x old
      · exact here
    · rw [step]
      exact ih ha later

end Assignment

section Unify

variable {atom fact : Atom Nat} {a b : Assignment}

theorem unify_eq_some_iff :
    unify atom fact a = some b ↔ atom.fits fact ∧
      a.bindAll? (atom.terms.zip fact.terms) = some b := by
  unfold unify
  split <;> simp [*]

theorem get?_unify (h : unify atom fact a = some b) (w : Nat) (x : Term Nat) :
    b.get? w = some x ↔ a.get? w = some x ∨ (.var w, x) ∈ atom.terms.zip fact.terms :=
  Assignment.get?_bindAll? (unify_eq_some_iff.1 h).2 w x

theorem unify_declared (h : unify atom fact a = some b) : b.declared = a.declared :=
  Assignment.bindAll?_declared (unify_eq_some_iff.1 h).2

theorem under_unify (h : unify atom fact a = some b) : atom.under b.get? = some fact :=
  Atom.under_eq_some_iff_fits.2
    ⟨(unify_eq_some_iff.1 h).1, fun v x mem => (get?_unify h v x).2 (.inr mem)⟩

/-- Exactly the variables of the atom are added. -/
theorem isSome_get?_unify (h : unify atom fact a = some b) (v : Nat) :
    (b.get? v).isSome ↔ (a.get? v).isSome ∨ v ∈ atom.vars := by
  rw [Atom.mem_vars_iff_zip (Atom.shape_of_fits (unify_eq_some_iff.1 h).1).2]
  simp only [Option.isSome_iff_exists, get?_unify h, exists_or]

theorem exists_unify {values : Nat → Option (Term Nat)}
    (ha : ∀ w x, a.get? w = some x → values w = some x) (h : atom.under values = some fact) :
    ∃ b, unify atom fact a = some b ∧ ∀ w x, b.get? w = some x → values w = some x := by
  obtain ⟨fits, opposite⟩ := Atom.under_eq_some_iff_fits.1 h
  obtain ⟨b, bound⟩ := Assignment.exists_bindAll? ha opposite
  have unified := unify_eq_some_iff.2 ⟨fits, bound⟩
  refine ⟨b, unified, fun w x found => ?_⟩
  rcases (get?_unify unified w x).1 found with old | mem
  · exact ha w x old
  · exact opposite w x mem

end Unify

end Warrant
