import Warrant.Proofs.Orderly

/-! Statements read back from a table.
What stands in a table under the names of a statement is read as that statement again, by `rename`,
which needs no table to be complete, and by `resolve`, which looks each name up. A table puts sets
in order on their way; a statement whose sets are in order comes back as it was. -/

namespace Warrant

section Lists

variable {α β : Type} {R S : α → β → Prop} {l : List α} {r : List β}

theorem forall₂_imp_of_mem (h : List.Forall₂ R l r) (step : ∀ a, ∀ b ∈ r, R a b → S a b) :
    List.Forall₂ S l r := by
  induction h with
  | nil => exact .nil
  | cons first _ ih =>
    refine .cons (step _ _ (List.mem_cons_self ..) first) (ih fun a b hb => ?_)
    exact step a b (List.mem_cons_of_mem _ hb)

theorem map_eq_of_forall₂ {f : α → β} (h : List.Forall₂ (fun a b => f a = b) l r) :
    l.map f = r :=
  (map_eq_map_of_forall₂ h fun _ _ => id).trans (List.map_id r)

end Lists

section Terms

variable {σ κ : Type} {r : Rule σ κ} {t : Term σ}

theorem Rule.mem_terms_of_head (h : t ∈ r.head.terms) : t ∈ r.terms :=
  List.mem_append_left _ (List.mem_append_left _ h)

theorem Rule.mem_terms_of_body {a : Atom σ} (ha : a ∈ r.body) (h : t ∈ a.terms) : t ∈ r.terms :=
  List.mem_append_left _ (List.mem_append_right _ (List.mem_flatMap.2 ⟨a, ha, h⟩))

theorem Rule.mem_terms_of_expressions {e : Expression σ} (he : e ∈ r.expressions)
    (h : t ∈ e.terms) : t ∈ r.terms :=
  List.mem_append_right _ (List.mem_flatMap.2 ⟨e, he, h⟩)

end Terms

/-! Reading by name. -/

section Read

variable {u : Symbols}

theorem Expression.Names.rename_eq {e : Expression Nat} {s : Expression String}
    (h : e.Names u s) : e.rename u.textOf = s := by
  refine congrArg Expression.mk (map_eq_of_forall₂ (h.imp fun op op' named => ?_))
  cases op with
  | value t =>
    cases op' with
    | value s => exact congrArg Op.value named.2
    | _ => cases named
  | unary op =>
    cases op' with
    | unary _ => exact congrArg Op.unary named
    | _ => cases named
  | binary op =>
    cases op' with
    | binary _ => exact congrArg Op.binary named
    | _ => cases named

theorem Scope.Names.rename_eq {s : Scope Nat} {c : Scope PublicKey} (h : s.Names u c) :
    s.rename u.keyOf = c := by
  cases s with
  | key k =>
    cases c with
    | key owner =>
      have place : u.keys[k]? = some owner := h
      refine congrArg Scope.key ?_
      rw [Symbols.keyOf, place, Option.getD_some]
    | _ => cases h
  | authority =>
    cases c with
    | authority => rfl
    | _ => cases h
  | previous =>
    cases c with
    | previous => rfl
    | _ => cases h

theorem Rule.Names.rename_eq {r : Rule Nat Nat} {q : Rule String PublicKey} (h : r.Names u q) :
    r.rename u.textOf u.keyOf = q := by
  have body := map_eq_of_forall₂ (h.body.imp fun _ _ => Atom.Names.read_eq)
  have expressions := map_eq_of_forall₂ (h.expressions.imp fun _ _ => Expression.Names.rename_eq)
  have scopes := map_eq_of_forall₂ (h.scopes.imp fun _ _ => Scope.Names.rename_eq)
  obtain ⟨head, _, _, _⟩ := q
  cases (h.head.read_eq : r.head.rename u.textOf = head)
  cases body
  cases expressions
  cases scopes
  rfl

theorem Check.Names.rename_eq {c : Check Nat Nat} {d : Check String PublicKey} (h : c.Names u d) :
    c.rename u.textOf u.keyOf = d :=
  congrArg₂ Check.mk h.kind (map_eq_of_forall₂ (h.queries.imp fun _ _ => Rule.Names.rename_eq))

end Read

/-! Reading with a test. -/

section Resolve

variable {u : Symbols}

theorem Term.resolve_of_names {t : Term Nat} {s : Term String} (named : t.Names u s) :
    t.resolve u = pure s := by
  obtain ⟨proper, rfl⟩ := named
  induction proper with
  | var known => simp [resolve, mapM, read, Symbols.resolve_of_isSome known]
  | str known => simp [resolve, mapM, read, Symbols.resolve_of_isSome known]
  | set _ _ ih =>
    rw [read, rename_set]
    exact mapM_set_eq_pure (List.forall₂_map_right_iff.2 (List.forall₂_same.2 ih))
  | _ => rfl

theorem Atom.resolve_of_names {a : Atom Nat} {b : Atom String} (named : a.Names u b) :
    a.resolve u = pure b :=
  mapM_eq_pure (Symbols.resolve_eq_ok named.name)
    (named.terms.imp fun _ _ => Term.resolve_of_names)

theorem Expression.resolve_of_names {e : Expression Nat} {d : Expression String}
    (named : e.Names u d) : e.resolve u = pure d := by
  refine mapM_eq_pure (List.Forall₂.imp (fun op op' both => ?_) named)
  cases op with
  | value t =>
    cases op' with
    | value s => exact Op.mapM_value_eq_pure (Term.resolve_of_names both)
    | _ => cases both
  | unary op =>
    cases op' with
    | unary _ =>
      cases both
      rfl
    | _ => cases both
  | binary op =>
    cases op' with
    | binary _ =>
      cases both
      rfl
    | _ => cases both

theorem Scope.resolve_of_names {s : Scope Nat} {c : Scope PublicKey} (named : s.Names u c) :
    s.resolve u = pure c := by
  cases s with
  | key k =>
    cases c with
    | key owner => exact mapM_key_eq_pure (Symbols.resolveKey_eq_ok named)
    | _ => cases named
  | authority =>
    cases c with
    | authority => rfl
    | _ => cases named
  | previous =>
    cases c with
    | previous => rfl
    | _ => cases named

theorem Rule.resolve_of_names {r : Rule Nat Nat} {q : Rule String PublicKey}
    (named : r.Names u q) : r.resolve u = pure q := by
  refine mapM_eq_pure (Atom.resolve_of_names named.head) ?_ ?_ ?_
  · exact named.body.imp fun _ _ => Atom.resolve_of_names
  · exact named.expressions.imp fun _ _ => Expression.resolve_of_names
  · exact named.scopes.imp fun _ _ => Scope.resolve_of_names

theorem Check.resolve_of_names {c : Check Nat Nat} {d : Check String PublicKey}
    (named : c.Names u d) : c.resolve u = pure d := by
  obtain ⟨kind, queries⟩ := c
  obtain ⟨kind', queries'⟩ := d
  cases (named.kind : kind = kind')
  exact mapM_eq_pure (named.queries.imp fun _ _ => Rule.resolve_of_names)

end Resolve

/-! Sets in order. -/

/-- Whether a set is in order, as every set is that is not written down as a list. -/
def Term.InOrder : Term String → Prop
  | .set l => Sorted.Increasing l
  | _ => True

section InOrder

theorem map_eq_self {α : Type} {f : α → α} {l : List α} (h : ∀ a ∈ l, f a = a) : l.map f = l :=
  (List.map_congr_left h).trans (List.map_id l)

theorem Term.rename_id_of_plain {t : Term String} (plain : t.isPlain) : t.rename id = t := by
  cases t with
  | set => cases plain
  | _ => rfl

theorem Term.rename_id {t : Term String} (formed : t.isWellFormed) (inOrder : t.InOrder) :
    t.rename id = t := by
  cases t with
  | set l =>
    rw [rename_set, map_eq_self fun x hx => rename_id_of_plain (List.all_eq_true.1 formed x hx)]
    refine congrArg Term.set ?_
    exact Sorted.increasing_ext (Sorted.ofList_increasing l) inOrder fun _ => Sorted.mem_ofList
  | _ => rfl

theorem Atom.rename_id {a : Atom String}
    (h : ∀ t ∈ a.terms, t.isWellFormed ∧ t.InOrder) : a.rename id = a :=
  congrArg (Atom.mk a.name) (map_eq_self fun t ht => Term.rename_id (h t ht).1 (h t ht).2)

theorem Expression.rename_id {e : Expression String}
    (h : ∀ t ∈ e.terms, t.isWellFormed ∧ t.InOrder) : e.rename id = e := by
  refine congrArg Expression.mk (map_eq_self fun op hop => ?_)
  cases op with
  | value t =>
    have there : t ∈ e.terms := List.mem_filterMap.2 ⟨_, hop, rfl⟩
    exact congrArg Op.value (Term.rename_id (h t there).1 (h t there).2)
  | _ => rfl

theorem Scope.rename_id (s : Scope PublicKey) : s.rename id = s := by
  cases s with
  | _ => rfl

theorem Rule.rename_id {r : Rule String PublicKey}
    (h : ∀ t ∈ r.terms, t.isWellFormed ∧ t.InOrder) : r.rename id id = r := by
  have head : r.head.rename id = r.head :=
    Atom.rename_id fun t ht => h t (mem_terms_of_head ht)
  have body : r.body.map (Atom.rename id) = r.body :=
    map_eq_self fun a ha => Atom.rename_id fun t ht => h t (mem_terms_of_body ha ht)
  have expressions : r.expressions.map (Expression.rename id) = r.expressions :=
    map_eq_self fun e he => Expression.rename_id fun t ht => h t (mem_terms_of_expressions he ht)
  have scopes : r.scopes.map (Scope.rename id) = r.scopes := map_eq_self fun s _ => s.rename_id
  rw [rename, head, body, expressions, scopes]

theorem Check.rename_id {c : Check String PublicKey}
    (h : ∀ q ∈ c.queries, ∀ t ∈ q.terms, t.isWellFormed ∧ t.InOrder) : c.rename id id = c :=
  congrArg (Check.mk c.kind) (map_eq_self fun q hq => Rule.rename_id (h q hq))

end InOrder

end Warrant
