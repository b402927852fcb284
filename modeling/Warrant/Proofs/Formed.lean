import Warrant.Proofs.Loadable

/-! What is well formed stays so in a table.
The tests that statements pass before they are taken in do not look at names: a set of plain values
stays one under other names, and a body that binds the variables of a rule still does, as long as
different names get different ids. So what a table makes of a tested statement has only names that
the table knows, sets of plain values, and its variables bound; and a table that grows keeps all
that. -/

namespace Warrant

/-! Under other names. -/

section Rename

variable {σ : Type} {f : σ → String}

theorem Term.isPlain_rename (t : Term σ) : (t.rename f).isPlain = t.isPlain := by
  cases t with
  | set => rw [rename_set]; rfl
  | _ => rfl

theorem Term.isWellFormed_rename (t : Term σ) : (t.rename f).isWellFormed = t.isWellFormed := by
  cases t with
  | set l =>
    rw [rename_set, Bool.eq_iff_iff, isWellFormed, isWellFormed, List.all_eq_true, List.all_eq_true]
    simp only [Sorted.mem_ofList, List.forall_mem_map, isPlain_rename]
  | _ => rfl

end Rename

/-! What a table makes of statements. -/

section Names

variable {u source : Symbols} {σ κ : Type} {f : σ → String} {g : κ → PublicKey}

theorem Term.resolves_of_proper {t : Term Nat} (proper : t.Proper u) (formed : t.isWellFormed) :
    t.Resolves u := by
  cases proper with
  | var known => exact known
  | str known => exact known
  | set increasing elements =>
    intro x hx
    have plain := List.all_eq_true.1 formed x hx
    cases elements x hx with
    | str known => exact known
    | var => cases plain
    | set => cases plain
    | _ => exact plain
  | _ => exact trivial

theorem Term.resolves_of_names {t : Term Nat} {s : Term σ} (named : t.Names u (s.rename f))
    (formed : s.isWellFormed) : t.Resolves u := by
  obtain ⟨proper, same⟩ := named
  refine resolves_of_proper proper ?_
  rw [← isWellFormed_rename (f := u.textOf) t, ← read, same, isWellFormed_rename]
  exact formed

/-- Of what can be taken in every set holds plain values. -/
theorem Term.isWellFormed_of_resolves {t : Term Nat} (h : t.Resolves source) :
    t.isWellFormed := by
  cases t with
  | set l => exact List.all_eq_true.2 fun t ht => plain_of_resolved source (h t ht)
  | _ => rfl

theorem Term.isGround_of_names {t : Term Nat} {s : Term σ} (named : t.Names u (s.rename f)) :
    t.isGround = s.isGround := by
  rw [← isGround_rename (f := u.textOf) t, ← read, named.2, isGround_rename]

theorem Atom.resolves_of_names {a : Atom Nat} {b : Atom σ} (named : a.Names u (b.rename f))
    (formed : ∀ t ∈ b.terms, t.isWellFormed) : a.Resolves u := by
  refine ⟨Option.isSome_of_mem named.name, fun t ht => ?_⟩
  obtain ⟨s, hs, both⟩ := exists_of_forall₂ (List.forall₂_map_right_iff.1 named.terms) ht
  exact Term.resolves_of_names both (formed s hs)

theorem Expression.resolves_of_names {d : Expression Nat} {e : Expression σ}
    (named : d.Names u (e.rename f)) (formed : ∀ t ∈ e.terms, t.isWellFormed) :
    d.Resolves u := by
  intro t ht
  obtain ⟨op, hop, same⟩ := List.mem_filterMap.1 ht
  obtain ⟨op', hop', both⟩ := exists_of_forall₂ (List.forall₂_map_right_iff.1 named) hop
  cases op with
  | value x =>
    cases same
    cases op' with
    | value s =>
      exact Term.resolves_of_names both (formed s (List.mem_filterMap.2 ⟨_, hop', rfl⟩))
    | unary => cases both
    | binary => cases both
  | unary => cases same
  | binary => cases same

theorem Scope.resolves_of_names {s : Scope Nat} {c : Scope PublicKey} (named : s.Names u c) :
    s.Resolves u := by
  cases s with
  | key k =>
    cases c with
    | key owner => exact Option.isSome_of_mem named
    | authority => cases named
    | previous => cases named
  | _ => exact trivial

theorem Rule.resolves_of_names {q : Rule Nat Nat} {r : Rule σ κ} (named : q.Names u (r.rename f g))
    (formed : ∀ t ∈ r.terms, t.isWellFormed) : q.Resolves u := by
  have terms {l : List (Term σ)} (inside : l ⊆ r.terms) : ∀ t ∈ l, t.isWellFormed :=
    fun t ht => formed t (inside ht)
  refine ⟨Atom.resolves_of_names named.head ?_, fun a ha => ?_, fun e he => ?_, fun s hs => ?_⟩
  · exact fun t ht => formed t (by simp [Rule.terms, ht])
  · obtain ⟨b, hb, both⟩ := exists_of_forall₂ (List.forall₂_map_right_iff.1 named.body) ha
    refine Atom.resolves_of_names both fun t ht => formed t ?_
    simp only [Rule.terms, List.mem_append, List.mem_flatMap]
    exact .inl (.inr ⟨b, hb, ht⟩)
  · obtain ⟨d, hd, both⟩ := exists_of_forall₂ (List.forall₂_map_right_iff.1 named.expressions) he
    refine Expression.resolves_of_names both fun t ht => formed t ?_
    simp only [Rule.terms, List.mem_append, List.mem_flatMap]
    exact .inr ⟨d, hd, ht⟩
  · obtain ⟨c, -, both⟩ := exists_of_forall₂ named.scopes hs
    exact Scope.resolves_of_names both

/-- The rules of a block that can be taken in have sets of plain values only. -/
theorem Rule.isWellFormed_terms {r : Rule Nat Nat} (h : r.Resolves source) :
    ∀ t ∈ r.terms, t.isWellFormed := by
  intro t ht
  simp only [terms, List.mem_append, List.mem_flatMap] at ht
  rcases ht with (head | ⟨a, ha, body⟩) | ⟨e, he, expression⟩
  · exact Term.isWellFormed_of_resolves (h.head.2 t head)
  · exact Term.isWellFormed_of_resolves ((h.body a ha).2 t body)
  · exact Term.isWellFormed_of_resolves (h.expressions e he t expression)

/-- In a sound table variables are the same as their names. -/
theorem Rule.isWellFormed_iff_of_names (sound : u.Sound) {q : Rule Nat Nat}
    {s : Rule String PublicKey} (named : q.Names u s) : q.isWellFormed ↔ s.isWellFormed := by
  have body := vars_of_names named.body
  have wanted := List.rel_append named.head.vars
    (List.rel_flatMap named.expressions fun _ _ => Expression.Names.vars)
  rw [isWellFormed_iff, isWellFormed_iff]
  exact forall_iff_of_forall₂ wanted fun v name text => mem_iff_of_texts sound body text

theorem Rule.isWellFormed_rename_id {r : Rule String PublicKey} :
    (r.rename id id).isWellFormed ↔ r.isWellFormed := by
  rw [isWellFormed_iff, isWellFormed_iff]
  simp only [rename, List.flatMap_map, Atom.vars_rename, Expression.vars_rename, List.map_id]

end Names

/-! In a table that grows. -/

section Grows

variable {u w : Symbols} (later : u.Grows w)

include later

theorem Symbols.Grows.isSome_text? {i : Nat} (h : (u.text? i).isSome) : (w.text? i).isSome :=
  Option.isSome_of_mem (later.text? (text?_eq_some_textOf h))

theorem Term.Resolves.grows {t : Term Nat} (h : t.Resolves u) : t.Resolves w := by
  cases t with
  | var i => exact later.isSome_text? h
  | str i => exact later.isSome_text? h
  | set l =>
    intro x hx
    have plain := h x hx
    cases x with
    | str i => exact later.isSome_text? plain
    | _ => exact plain
  | _ => exact trivial

theorem Atom.Resolves.grows {a : Atom Nat} (h : a.Resolves u) : a.Resolves w :=
  ⟨later.isSome_text? h.1, fun t ht => (h.2 t ht).grows later⟩

theorem Scope.Resolves.grows {s : Scope Nat} (h : s.Resolves u) : s.Resolves w := by
  cases s with
  | key k =>
    obtain ⟨key, found⟩ := Option.isSome_iff_exists.1 h
    exact Option.isSome_of_mem (later.key? found)
  | _ => exact trivial

theorem Rule.Resolves.grows {r : Rule Nat Nat} (h : r.Resolves u) : r.Resolves w where
  head := h.head.grows later
  body a ha := (h.body a ha).grows later
  expressions e he t ht := (h.expressions e he t ht).grows later
  scopes s hs := (h.scopes s hs).grows later

end Grows

/-! Statements that pass their test. -/

section Valid

theorem forM_eq_ok_iff {α ε : Type} {f : α → Except ε PUnit} {l : List α} :
    l.forM f = .ok () ↔ ∀ a ∈ l, f a = .ok () := by
  induction l with
  | nil => exact iff_of_true rfl nofun
  | cons a rest ih =>
    rw [List.forall_mem_cons, ← ih]
    change (f a >>= fun _ => rest.forM f) = .ok () ↔ _
    cases f a with
    | error e => exact iff_of_false (by rintro ⟨⟩) (by rintro ⟨⟨⟩, -⟩)
    | ok => exact (and_iff_right rfl).symm

theorem Term.validate_eq_ok_iff {t : Term String} : t.validate = .ok () ↔ t.isWellFormed := by
  unfold validate
  split
  · rename_i formed
    exact iff_of_true rfl formed
  · rename_i malformed
    exact iff_of_false nofun malformed

theorem Rule.validate_eq_ok_iff {r : Rule String PublicKey} :
    r.validate = .ok () ↔ (∀ t ∈ r.terms, t.isWellFormed) ∧ r.isWellFormed := by
  have terms : r.terms.forM Term.validate = .ok () ↔ ∀ t ∈ r.terms, t.isWellFormed :=
    forM_eq_ok_iff.trans (forall₂_congr fun _ _ => Term.validate_eq_ok_iff)
  rw [← terms, validate]
  cases r.terms.forM Term.validate with
  | error e => exact iff_of_false (by rintro ⟨⟩) (by rintro ⟨⟨⟩, -⟩)
  | ok =>
    rw [and_iff_right rfl]
    change (if r.isWellFormed then _ else _) = _ ↔ _
    split
    · rename_i bound
      exact iff_of_true rfl bound
    · rename_i free
      exact iff_of_false (by rintro ⟨⟩) free

/-- A fact that passes its test holds no variable, and its sets are in order. -/
theorem Atom.validateFact_eq_ok_iff {a : Atom String} :
    a.validateFact = .ok () ↔ ∀ t ∈ a.terms, t.isVar = false ∧ t.isWellFormed := by
  refine forM_eq_ok_iff.trans (forall₂_congr fun t _ => ?_)
  cases t.isVar with
  | true => exact iff_of_false nofun nofun
  | false => exact Term.validate_eq_ok_iff.trans (and_iff_right rfl).symm

theorem Term.isGround_of_isWellFormed {σ : Type} {t : Term σ} (bare : t.isVar = false)
    (formed : t.isWellFormed) : t.isGround := by
  cases t with
  | var => cases bare
  | set l =>
    refine allGround_iff.2 fun x hx => ?_
    have plain := List.all_eq_true.1 formed x hx
    cases x with
    | var => cases plain
    | set => cases plain
    | _ => rfl
  | _ => rfl

end Valid

end Warrant
