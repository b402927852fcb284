import Warrant.Proofs.Refinement

/-! Rules mean over ids what they mean as written.
Assignments over ids and over names correspond as long as their values stand in facts that a table
can read. So a rule accepts, concludes or fails on a list of facts exactly when the rule that it
reads as admits, derives or breaks on the facts that these read as. -/

namespace Warrant

variable {u : Symbols}

/-- A binding with given values for finitely many variables. -/
theorem Binding.exists_get?_eq (values : Nat → Option (Term Nat)) (declared : List Nat)
    (h : ∀ v, (values v).isSome → v ∈ declared) : ∃ b : Binding, b.get? = values := by
  have partly : ∀ vs : List Nat, ∃ b : Binding, ∀ v,
      b.get? v = if v ∈ vs then values v else none := by
    intro vs
    induction vs with
    | nil => exact ⟨.empty, fun v => by simp [Binding.get?, Binding.empty]⟩
    | cons w rest ih =>
      obtain ⟨b, same⟩ := ih
      cases value : values w with
      | none =>
        refine ⟨b, fun v => ?_⟩
        rw [same]
        grind
      | some x =>
        refine ⟨b.set w x, fun v => ?_⟩
        rw [Binding.get?_set, same]
        grind
  obtain ⟨b, same⟩ := partly declared
  refine ⟨b, funext fun v => ?_⟩
  rw [same]
  split
  · rfl
  · rename_i free
    cases value : values v with
    | none => rfl
    | some x => exact absurd (h v (by rw [value]; rfl)) free

section Vars

theorem Term.Names.var? {t : Term Nat} {s : Term String} (h : t.Names u s) :
    Option.Rel (fun v name => u.text? v = some name) t.var? s.var? := by
  obtain ⟨proper, rfl⟩ := h
  cases proper with
  | var known => exact .some (Symbols.text?_eq_some_textOf known)
  | set increasing elements =>
    rw [Term.read, Term.rename_set]
    exact .none
  | _ => exact .none

theorem Atom.Names.vars {a : Atom Nat} {b : Atom String} (h : a.Names u b) :
    List.Forall₂ (fun v name => u.text? v = some name) a.vars b.vars :=
  List.rel_filterMap (fun _ _ named => named.var?) h.terms

theorem Expression.Names.vars {e : Expression Nat} {d : Expression String} (h : e.Names u d) :
    List.Forall₂ (fun v name => u.text? v = some name) e.vars d.vars := by
  refine List.rel_filterMap (fun a b named => ?_) h
  cases a with
  | value t =>
    cases b with
    | value s => exact named.var?
    | _ => cases named
  | unary op =>
    cases b with
    | value s => cases named
    | _ => exact .none
  | binary op =>
    cases b with
    | value s => cases named
    | _ => exact .none

theorem vars_of_names {body : List (Atom Nat)} {written : List (Atom String)}
    (h : List.Forall₂ (Atom.Names u) body written) :
    List.Forall₂ (fun v name => u.text? v = some name) (body.flatMap Atom.vars)
      (written.flatMap Atom.vars) :=
  List.rel_flatMap h fun _ _ => Atom.Names.vars

theorem mem_iff_of_texts (sound : u.Sound) {vs : List Nat} {names : List String}
    (h : List.Forall₂ (fun v name => u.text? v = some name) vs names) {v : Nat} {name : String}
    (text : u.text? v = some name) : v ∈ vs ↔ name ∈ names := by
  have unique : Relator.BiUnique fun v name => u.text? v = some name :=
    ⟨fun _ _ _ h k => sound.text?_inj h k, fun _ _ _ h k => Option.some.inj (h.symm.trans k)⟩
  exact List.rel_mem unique text h

end Vars

theorem exists_of_forall₂ {α β : Type} {R : α → β → Prop} {l : List α} {r : List β}
    (h : List.Forall₂ R l r) {a : α} (ha : a ∈ l) : ∃ b ∈ r, R a b := by
  induction h with
  | nil => cases ha
  | cons first _ ih =>
    rcases List.mem_cons.1 ha with rfl | ha
    · exact ⟨_, List.mem_cons_self .., first⟩
    · obtain ⟨b, hb, related⟩ := ih ha
      exact ⟨b, List.mem_cons_of_mem _ hb, related⟩

theorem map_eq_map_of_forall₂ {α β γ : Type} {R : α → β → Prop} {l : List α} {r : List β}
    {f : α → γ} {g : β → γ} (h : List.Forall₂ R l r) (same : ∀ a b, R a b → f a = g b) :
    l.map f = r.map g := by
  induction h with
  | nil => rfl
  | cons first _ ih => rw [List.map_cons, List.map_cons, same _ _ first, ih]

/-- What is the same for related elements holds of all on either side. -/
theorem forall_iff_of_forall₂ {α β : Type} {R : α → β → Prop} {P : α → Prop} {Q : β → Prop}
    {l : List α} {r : List β} (h : List.Forall₂ R l r) (same : ∀ a b, R a b → (P a ↔ Q b)) :
    (∀ a ∈ l, P a) ↔ ∀ b ∈ r, Q b := by
  induction h with
  | nil => exact iff_of_true nofun nofun
  | cons first _ ih => rw [List.forall_mem_cons, List.forall_mem_cons, same _ _ first, ih]

/-- The values of a match stand in the facts. -/
theorem Rule.Binds.mem_terms {σ κ : Type} {r : Rule σ κ} {values : σ → Option (Term σ)}
    {facts : List (Fact σ)} (h : r.Binds values facts) {v : σ} {t : Term σ}
    (value : values v = some t) : ∃ fact ∈ facts, t ∈ fact.terms := by
  have bound := (h.domain v).1 (by rw [value]; rfl)
  obtain ⟨atom, ha, hv⟩ := List.mem_flatMap.1 bound
  obtain ⟨fact, hf, made⟩ := exists_of_forall₂ h.atoms ha
  have terms := (Atom.under_eq_some_iff.1 made).2
  obtain ⟨x, hx⟩ := (Atom.mem_vars_iff_zip terms.length_eq).1 hv
  have same : values v = some x := List.forall₂_zip terms hx
  cases same.symm.trans value
  exact ⟨fact, hf, (List.of_mem_zip hx).2⟩

theorem exists_of_rel_some {α β : Type} {R : α → β → Prop} {a : α} {y : Option β}
    (h : Option.Rel R (some a) y) : ∃ b, y = some b ∧ R a b := by
  cases h with
  | some related => exact ⟨_, rfl, related⟩

theorem exists_of_rel_of_some {α β : Type} {R : α → β → Prop} {x : Option α} {b : β}
    (h : Option.Rel R x (some b)) : ∃ a, x = some a ∧ R a b := by
  cases h with
  | some related => exact ⟨_, rfl, related⟩

section Under

variable {values : Nat → Option (Term Nat)} {texts : String → Option (Term String)}

theorem Term.Names.under (same : SameValues u values texts) {t : Term Nat} {s : Term String}
    (h : t.Names u s) : Option.Rel (Term.Names u) (t.under values) (s.under texts) := by
  cases t with
  | var v =>
    obtain ⟨proper, rfl⟩ := h
    cases proper with
    | var known => exact same v _ (Symbols.text?_eq_some_textOf known)
  | set l =>
    obtain ⟨L, rfl⟩ : ∃ L, s = .set L := ⟨_, h.2.symm.trans (Term.rename_set l)⟩
    exact .some h
  | _ =>
    obtain ⟨proper, rfl⟩ := h
    exact .some ⟨proper, rfl⟩

theorem rel_mapM {α β γ δ : Type} {R : α → β → Prop} {S : γ → δ → Prop} {f : α → Option γ}
    {g : β → Option δ} {l : List α} {r : List β} (h : List.Forall₂ R l r)
    (step : ∀ a b, R a b → Option.Rel S (f a) (g b)) :
    Option.Rel (List.Forall₂ S) (l.mapM f) (r.mapM g) := by
  induction h with
  | nil => exact .some .nil
  | @cons a b as bs first _ ih =>
    rw [List.mapM_cons, List.mapM_cons]
    have here := step a b first
    generalize f a = x at here ⊢
    generalize g b = y at here ⊢
    cases here with
    | none => exact .none
    | some value =>
      generalize as.mapM f = xs at ih ⊢
      generalize bs.mapM g = ys at ih ⊢
      cases ih with
      | none => exact .none
      | some values => exact .some (.cons value values)

theorem Atom.Names.under (same : SameValues u values texts) {a : Atom Nat} {b : Atom String}
    (h : a.Names u b) : Option.Rel (Atom.Names u) (a.under values) (b.under texts) := by
  have terms := rel_mapM h.terms fun _ _ => Term.Names.under same
  unfold Atom.under
  generalize a.terms.mapM (Term.under values) = x at terms ⊢
  generalize b.terms.mapM (Term.under texts) = y at terms ⊢
  cases terms with
  | none => exact .none
  | some named => exact .some ⟨h.name, named⟩

theorem Atom.Names.under_iff (sound : u.Sound) (same : SameValues u values texts)
    {a fact : Atom Nat} {b text : Atom String} (h : a.Names u b) (named : fact.Names u text) :
    a.under values = some fact ↔ b.under texts = some text := by
  have rel := h.under same
  constructor
  · intro made
    rw [made] at rel
    obtain ⟨other, written, there⟩ := exists_of_rel_some rel
    rw [written, ← there.read_eq, ← named.read_eq]
  · intro made
    rw [made] at rel
    obtain ⟨other, found, there⟩ := exists_of_rel_of_some rel
    rw [found, there.inj sound named]

theorem atoms_iff (sound : u.Sound) (same : SameValues u values texts) {body : List (Atom Nat)}
    {written : List (Atom String)} (named : List.Forall₂ (Atom.Names u) body written)
    {facts : List (Fact Nat)} {read : List (Fact String)}
    (given : List.Forall₂ (Atom.Names u) facts read) :
    List.Forall₂ (fun atom fact => atom.under values = some fact) body facts ↔
      List.Forall₂ (fun atom fact => atom.under texts = some fact) written read := by
  induction named generalizing facts read with
  | nil =>
    cases given with
    | nil => exact ⟨fun _ => .nil, fun _ => .nil⟩
    | cons => exact ⟨nofun, nofun⟩
  | cons first _ ih =>
    cases given with
    | nil => exact ⟨nofun, nofun⟩
    | cons fact rest =>
      rw [List.forall₂_cons, List.forall₂_cons, first.under_iff sound same fact, ih rest]

end Under

/-! Values over ids and over names. -/

/-- The values of a binding by the names of its variables, as a table reads them. -/
def Binding.written (u : Symbols) (b : Binding) (name : String) : Option (Term String) :=
  ((u.id? name).bind b.get?).map (Term.read u)

theorem Binding.written_eq (sound : u.Sound) (b : Binding) {v : Nat} {name : String}
    (text : u.text? v = some name) : b.written u name = (b.get? v).map (Term.read u) := by
  rw [written, sound.id?_eq_some_iff.2 text, Option.bind_some]

/-- A term that reads as the value of a variable by its name. -/
def Stands (u : Symbols) (values : String → Option (Term String)) (v : Nat) (t : Term Nat) :
    Prop :=
  ∃ name s, u.text? v = some name ∧ values name = some s ∧ t.Names u s

open Classical in
/-- Values by the ids of the variables, where there are terms that read as them. -/
noncomputable def idValues (u : Symbols) (values : String → Option (Term String)) (v : Nat) :
    Option (Term Nat) :=
  if h : ∃ t, Stands u values v t then some h.choose else none

theorem stands_of_isSome {values : String → Option (Term String)} {v : Nat}
    (bound : (idValues u values v).isSome) : ∃ t, Stands u values v t := by
  by_contra free
  rw [idValues, dif_neg free] at bound
  cases bound

theorem exists_idValues {values : String → Option (Term String)} {v : Nat} {t : Term Nat}
    (stands : Stands u values v t) :
    ∃ other, idValues u values v = some other ∧ Stands u values v other :=
  have some : ∃ t, Stands u values v t := ⟨t, stands⟩
  ⟨some.choose, dif_pos some, some.choose_spec⟩

theorem sameValues_idValues {values : String → Option (Term String)}
    (all : ∀ v name s, u.text? v = some name → values name = some s → ∃ t, Stands u values v t) :
    SameValues u (idValues u values) values := by
  intro v name text
  cases id : idValues u values v with
  | none =>
    cases value : values name with
    | none => exact .none
    | some s =>
      obtain ⟨t, there⟩ := all v name s text value
      obtain ⟨other, found, -⟩ := exists_idValues there
      cases id.symm.trans found
  | some t =>
    obtain ⟨other, there⟩ := stands_of_isSome (Option.isSome_of_mem id)
    obtain ⟨t', found, there⟩ := exists_idValues there
    cases id.symm.trans found
    obtain ⟨name', s, text', value, names⟩ := there
    cases text.symm.trans text'
    rw [value]
    exact .some names

theorem SameValues.isSome_iff {values : Nat → Option (Term Nat)}
    {read : String → Option (Term String)} (h : SameValues u values read) {v : Nat} {name : String}
    (text : u.text? v = some name) : (values v).isSome ↔ (read name).isSome := by
  have related := h v name text
  generalize values v = value at related
  generalize read name = other at related
  cases related with
  | none => exact Iff.rfl
  | some => exact Iff.rfl

section Rules

variable {r : Rule Nat Nat} {q : Rule String PublicKey} {facts : List (Fact Nat)}
  {texts : List (Fact String)} {values : String → Option (Term String)}

/-- The values of a binding as they read. -/
theorem Rule.Binds.written (sound : u.Sound) (named : r.Names u q)
    (given : List.Forall₂ (Atom.Names u) facts texts) {b : Binding} (h : r.Binds b.get? facts) :
    SameValues u b.get? (b.written u) ∧ q.Binds (b.written u) texts := by
  have same : SameValues u b.get? (b.written u) := by
    intro v name text
    rw [b.written_eq sound text]
    cases value : b.get? v with
    | none => exact .none
    | some t =>
      obtain ⟨fact, hf, ht⟩ := h.mem_terms value
      obtain ⟨read, -, terms⟩ := exists_of_forall₂ given hf
      exact .some ⟨(Term.names_all.1 terms.terms).1 t ht, rfl⟩
  have vars := vars_of_names named.body
  refine ⟨same, fun name => ?_, (atoms_iff sound same named.body given).1 h.atoms⟩
  constructor
  · intro bound
    cases id : u.id? name with
    | none => simp [Binding.written, id] at bound
    | some v =>
      have text := sound.id?_eq_some_iff.1 id
      rw [← mem_iff_of_texts sound vars text, ← h.domain v]
      exact (same.isSome_iff text).2 bound
  · intro mem
    obtain ⟨v, hv, text⟩ := exists_of_forall₂ vars.flip mem
    exact (same.isSome_iff text).1 ((h.domain v).2 hv)

theorem Rule.Binds.exists_stands (given : List.Forall₂ (Atom.Names u) facts texts)
    (h : q.Binds values texts) {v : Nat} {name : String} {s : Term String}
    (text : u.text? v = some name) (value : values name = some s) :
    ∃ t, Stands u values v t := by
  obtain ⟨read, hr, hs⟩ := h.mem_terms value
  obtain ⟨fact, -, named⟩ := exists_of_forall₂ given.flip hr
  obtain ⟨t, -, names⟩ := exists_of_forall₂ named.terms.flip hs
  exact ⟨t, name, s, text, value, names⟩

/-- Values that stand in facts as ids. -/
theorem Rule.Binds.interned (sound : u.Sound) (named : r.Names u q)
    (given : List.Forall₂ (Atom.Names u) facts texts) (h : q.Binds values texts) :
    ∃ b : Binding, SameValues u b.get? values ∧ r.Binds b.get? facts := by
  have vars := vars_of_names named.body
  have same : SameValues u (idValues u values) values :=
    sameValues_idValues fun _ _ _ text value => h.exists_stands given text value
  have domain (v : Nat) : (idValues u values v).isSome ↔ v ∈ r.body.flatMap Atom.vars := by
    constructor
    · intro bound
      obtain ⟨t, name, s, text, value, -⟩ := stands_of_isSome bound
      rw [mem_iff_of_texts sound vars text, ← h.domain, value]
      rfl
    · intro mem
      obtain ⟨name, hn, text⟩ := exists_of_forall₂ vars mem
      exact (same.isSome_iff text).2 ((h.domain name).2 hn)
  obtain ⟨b, get⟩ := Binding.exists_get?_eq (idValues u values) _ fun v bound => (domain v).1 bound
  refine ⟨b, get ▸ same, fun v => get ▸ domain v, ?_⟩
  rw [get]
  exact (atoms_iff sound same named.body given).2 h.atoms

variable [Patterns]

theorem Rule.accepts_iff (sound : u.Sound) (named : r.Names u q)
    (given : List.Forall₂ (Atom.Names u) facts texts) : r.Accepts u facts ↔ q.Admits texts := by
  constructor
  · rintro ⟨b, binds, keep⟩
    obtain ⟨same, binds⟩ := binds.written sound named given
    rw [keeps_eq sound same named.expressions, Rule.mapError_eq_ok_iff] at keep
    exact ⟨b.written u, binds, keep⟩
  · rintro ⟨values, binds, keep⟩
    obtain ⟨b, same, binds⟩ := binds.interned sound named given
    refine ⟨b, binds, ?_⟩
    rwa [keeps_eq sound same named.expressions, Rule.mapError_eq_ok_iff]

theorem Rule.fails_iff (sound : u.Sound) (named : r.Names u q)
    (given : List.Forall₂ (Atom.Names u) facts texts) : r.Fails u facts ↔ q.Breaks texts := by
  constructor
  · rintro ⟨b, binds, e, fault⟩
    obtain ⟨same, binds⟩ := binds.written sound named given
    rw [keeps_eq sound same named.expressions, Rule.mapError_eq_error_iff] at fault
    obtain ⟨f, broken, -⟩ := fault
    exact ⟨b.written u, binds, f, broken⟩
  · rintro ⟨values, binds, f, broken⟩
    obtain ⟨b, same, binds⟩ := binds.interned sound named given
    refine ⟨b, binds, .invalidStack, ?_⟩
    rw [keeps_eq sound same named.expressions, broken]
    rfl

theorem Rule.derives_of_concludes (sound : u.Sound) (named : r.Names u q)
    (given : List.Forall₂ (Atom.Names u) facts texts) {fact : Fact Nat}
    (h : r.Concludes u facts fact) : ∃ text, fact.Names u text ∧ q.Derives texts text := by
  obtain ⟨b, binds, keep, head⟩ := h
  obtain ⟨same, binds⟩ := binds.written sound named given
  rw [keeps_eq sound same named.expressions, Rule.mapError_eq_ok_iff] at keep
  have rel := named.head.under same
  rw [head] at rel
  obtain ⟨text, made, names⟩ := exists_of_rel_some rel
  exact ⟨text, names, b.written u, binds, keep, made⟩

theorem Rule.concludes_of_derives (sound : u.Sound) (named : r.Names u q)
    (given : List.Forall₂ (Atom.Names u) facts texts) {text : Fact String}
    (h : q.Derives texts text) : ∃ fact, fact.Names u text ∧ r.Concludes u facts fact := by
  obtain ⟨values, binds, keep, head⟩ := h
  obtain ⟨b, same, binds⟩ := binds.interned sound named given
  have rel := named.head.under same
  rw [head] at rel
  obtain ⟨fact, made, names⟩ := exists_of_rel_of_some rel
  refine ⟨fact, names, b, binds, ?_, made⟩
  rwa [keeps_eq sound same named.expressions, Rule.mapError_eq_ok_iff]

end Rules

end Warrant
