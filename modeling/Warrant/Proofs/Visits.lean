import Warrant.Proofs.Matching

/-! Matches shown one by one.
A walk that ends when enough has been seen does to each match what a pass over the list of all
matches does, up to the same one (`visit_eq_walk`). A deadline that has passed ends it before the
first match is there to be seen, so it makes no difference that the list is complete before anything
is done with it. Both are the same walk: what gathers all matches, and what stops at the first. -/

namespace Warrant

section AnyM

variable {m : Type → Type} [Monad m] [LawfulMonad m] {α β : Type} {p : β → m Bool}

theorem anyM_singleton (b : β) : [b].anyM p = p b := by
  refine Eq.trans (bind_congr fun found => ?_) (bind_pure (p b))
  cases found with
  | false => rfl
  | true => rfl

theorem anyM_append (l r : List β) :
    (l ++ r).anyM p = l.anyM p >>= fun found => if found then pure true else r.anyM p := by
  induction l with
  | nil => simp [List.anyM]
  | cons b rest ih =>
    simp only [List.cons_append, List.anyM, bind_assoc]
    refine bind_congr fun found => ?_
    cases found with
    | false => exact ih
    | true => simp

/-- A search in lists, one after the other, is a search in all of them. -/
theorem anyM_flatMap (f : α → List β) (l : List α) :
    (l.flatMap f).anyM p = l.anyM fun a => (f a).anyM p := by
  induction l with
  | nil => rfl
  | cons a rest ih =>
    rw [List.flatMap_cons, anyM_append, ih, List.anyM]
    refine bind_congr fun found => ?_
    cases found with
    | false => rfl
    | true => rfl

end AnyM

namespace Join

variable {m : Type → Type} [Monad m] [LawfulMonad m] {late : m Bool} (enough : Match → m Bool)
  (j : Join) (atoms : List (Atom Nat)) (a : Assignment) (origin : Origin) (used : Bool)

theorem visit_never (never : j.deadline = .never) : j.visit late enough atoms a origin used =
    (j.found atoms a origin used).anyM enough := by
  induction atoms generalizing a origin used with
  | nil =>
    rw [visit, found]
    split
    · rfl
    · cases a.complete? with
      | none => rfl
      | some binding => exact (anyM_singleton _).symm
  | cons atom rest ih =>
    rw [visit, found, anyM_flatMap]
    refine congrArg (List.anyM · _) (funext fun p => ?_)
    simp only [never]
    cases unify atom p.2.fact a with
    | none => rfl
    | some b => exact ih ..

/-- Whatever is done with the matches, a walk that shows them does it to the list of all, and ends
with it or at the deadline. -/
theorem visit_eq_walk (ends : ∀ next : Bool → m Bool, late >>= next = late) :
    j.visit late enough atoms a origin used =
      match j.walk atoms a origin used with
      | .ok found => found.anyM enough
      | .error _ => late := by
  cases deadline : j.deadline with
  | never => rw [visit_never enough j atoms a origin used deadline, walk_never deadline]
  | passed =>
    cases atoms with
    | nil =>
      -- without atoms nobody looks at the deadline
      have walked := walk_never (j := { j with deadline := .never }) rfl [] a origin used
      rw [show j.walk [] a origin used = .ok _ from walked]
      have visited : visit { j with deadline := .never } late enough [] a origin used = _ :=
        visit_never enough { j with deadline := .never } [] a origin used rfl
      exact visited
    | cons atom rest =>
      simp only [visit, walk, deadline]
      cases j.facts.candidates atom j.trust with
      | nil => rfl
      | cons first others => exact ends _

omit [LawfulMonad m] in
theorem walk_error {limit : RunLimit} (h : j.walk atoms a origin used = .error limit) :
    limit = .timeout := by
  cases deadline : j.deadline with
  | never =>
    rw [walk_never deadline] at h
    cases h
  | passed =>
    cases atoms with
    | nil =>
      rw [walk] at h
      split at h <;> cases h
    | cons atom rest =>
      simp only [walk, deadline] at h
      cases found : j.facts.candidates atom j.trust with
      | nil =>
        rw [found] at h
        cases h
      | cons first others =>
        rw [found] at h
        cases h
        rfl

end Join

namespace Join

variable (j : Join) (body : List (Atom Nat)) (declared : List Nat)

/-- A walk that puts every match aside is the list of all. -/
theorem matchesOf_eq_visit :
    StateT.run (j.visit (m := StateT (List Match) (Except RunLimit)) (throw .timeout)
      (fun found => do
        modify (· ++ [found])
        return false) body { declared } .empty false) [] =
      (j.matchesOf body declared).map fun found => (false, found) := by
  have gather (l seen : List Match) :
      StateT.run (l.anyM (m := StateT (List Match) (Except RunLimit)) fun found => do
        modify (· ++ [found])
        return false) seen = .ok (false, seen ++ l) := by
    induction l generalizing seen with
    | nil => simp [List.anyM]; rfl
    | cons a rest ih =>
      rw [List.append_cons, ← ih]
      rfl
  rw [visit_eq_walk _ _ _ _ _ _ fun _ => rfl, matchesOf]
  cases walk : j.walk body { declared } .empty false with
  | ok found => exact gather found []
  | error limit =>
    rw [walk_error j _ _ _ _ walk]
    rfl

/-- The first match tells whether there are any. -/
theorem finds_eq : j.finds body declared = (j.matchesOf body declared).map (!·.isEmpty) := by
  rw [finds, visit_eq_walk _ _ _ _ _ _ fun _ => rfl, matchesOf]
  cases walk : j.walk body { declared } .empty false with
  | ok found =>
    cases found with
    | nil => rfl
    | cons => rfl
  | error limit =>
    rw [walk_error j _ _ _ _ walk]
    rfl

end Join

end Warrant
