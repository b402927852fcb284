import Warrant.Proofs.Coverage
import Warrant.Proofs.Listing

/-! The text of a statement, whatever table it stands in.
A table gives names and keys their ids, and sets stand in the order of ids. So two tables that have
taken in the same statement may have its sets in another order, but not if no set holds two strings:
ids then decide nothing. Such a statement is written the same from every table that it has been
taken into, and that is how it is displayed. -/

namespace Warrant

/-! Sets put in order side by side. -/

namespace Sorted

variable {α β : Type} [Ord α] [Ord β] {R : α → β → Prop} {a : α} {b : β} {l : List α} {r : List β}
  (mono : ∀ {a a' b b'}, R a b → R a' b' → compare a a' = compare b b')

include mono

theorem forall₂_insert (first : R a b) (h : List.Forall₂ R l r) :
    List.Forall₂ R (insert a l) (insert b r) := by
  induction h with
  | nil => exact .cons first .nil
  | cons here later ih =>
    simp only [insert, mono first here]
    split
    · exact .cons first (.cons here later)
    · exact .cons here later
    · exact .cons here ih

/-- Where both orders agree, putting two lists in order keeps them together. -/
theorem forall₂_ofList_of_mono (h : List.Forall₂ R l r) :
    List.Forall₂ R (ofList l) (ofList r) := by
  induction h with
  | nil => exact .nil
  | cons first _ ih => exact forall₂_insert mono first ih

end Sorted

section Lists

variable {α β γ δ : Type} {P : γ → α → Prop} {Q : γ → β → Prop} {l : List γ} {as : List α}
  {bs : List β}

/-- Two lists that have come from the same one. -/
theorem forall₂_of_both {R : α → β → Prop} (h : List.Forall₂ P l as) (k : List.Forall₂ Q l bs)
    (step : ∀ c ∈ l, ∀ a b, P c a → Q c b → R a b) : List.Forall₂ R as bs := by
  induction h generalizing bs with
  | nil =>
    cases k
    exact .nil
  | cons first _ ih =>
    cases k with
    | cons first' later =>
      obtain ⟨here, others⟩ := List.forall_mem_cons.1 step
      exact .cons (here _ _ first first') (ih later others)

theorem map_eq_map_of_both {f : α → δ} {g : β → δ} (h : List.Forall₂ P l as)
    (k : List.Forall₂ Q l bs) (same : ∀ c ∈ l, ∀ a b, P c a → Q c b → f a = g b) :
    as.map f = bs.map g :=
  map_eq_map_of_forall₂ (forall₂_of_both h k same) fun _ _ => id

end Lists

/-! What a table makes of larger items. -/

section Number

variable {u : Symbols}

theorem Op.number?_cases {op : Op String} {op' : Op Nat}
    (h : op.mapM (Term.number? u) = some op') :
    (∃ t a, op = .value t ∧ op' = .value a ∧ t.number? u = some a) ∨
      (∃ f, op = .unary f ∧ op' = .unary f) ∨ ∃ f, op = .binary f ∧ op' = .binary f := by
  cases op with
  | value t =>
    obtain ⟨a, numbered, same⟩ := Option.bind_eq_some_iff.1 h
    exact .inl ⟨t, a, rfl, (Option.some.inj same).symm, numbered⟩
  | unary f => exact .inr (.inl ⟨f, rfl, (Option.some.inj h).symm⟩)
  | binary f => exact .inr (.inr ⟨f, rfl, (Option.some.inj h).symm⟩)

theorem Expression.number?_eq_some_iff {e : Expression String} {d : Expression Nat} :
    e.number? u = some d ↔
      List.Forall₂ (fun op op' => op.mapM (Term.number? u) = some op') e.ops d.ops := by
  obtain ⟨ops⟩ := d
  rw [← mapM_eq_some_iff]
  simp [number?, mapM, Option.bind_eq_some_iff]

theorem Rule.number?_eq_some_iff {r : Rule String PublicKey} {q : Rule Nat Nat} :
    r.number? u = some q ↔ r.head.number? u = some q.head ∧
      List.Forall₂ (fun a b => a.number? u = some b) r.body q.body ∧
      List.Forall₂ (fun e d => e.number? u = some d) r.expressions q.expressions ∧
      List.Forall₂ (fun s c => s.number? u = some c) r.scopes q.scopes := by
  obtain ⟨head, body, expressions, scopes⟩ := q
  simp only [← mapM_eq_some_iff]
  change (r.head.number? u >>= fun head => r.body.mapM (Atom.number? u) >>= fun body =>
    r.expressions.mapM (Expression.number? u) >>= fun expressions =>
      r.scopes.mapM (Scope.number? u) >>= fun scopes =>
        some (mk head body expressions scopes)) = _ ↔ _
  simp only [Option.bind_eq_bind, Option.bind_eq_some_iff, Option.some.injEq, mk.injEq]
  grind

theorem Check.number?_eq_some_iff {c : Check String PublicKey} {d : Check Nat Nat} :
    c.number? u = some d ↔ c.kind = d.kind ∧
      List.Forall₂ (fun r q => r.number? u = some q) c.queries d.queries := by
  obtain ⟨kind, queries⟩ := d
  rw [← mapM_eq_some_iff]
  change (c.queries.mapM (Rule.number? u) >>= fun queries => some (mk c.kind queries)) = _ ↔ _
  simp only [Option.bind_eq_bind, Option.bind_eq_some_iff, Option.some.injEq, mk.injEq]
  grind

end Number

/-! From two tables. -/

/-- A set, if it is one, holds neither variables nor sets and no two strings. -/
def Term.Tidy : Term String → Prop
  | .set l => (∀ t ∈ l, t.isPlain) ∧ ∀ s s', .str s ∈ l → .str s' ∈ l → s = s'
  | _ => True

section Render

variable {u w : Symbols}

namespace Term

theorem str_of_number? {s : String} {a : Term Nat} (h : (Term.str s).number? u = some a) :
    ∃ i, u.id? s = some i ∧ a = .str i :=
  have ⟨i, known, same⟩ := Option.map_eq_some_iff.1 (number?_str ▸ h)
  ⟨i, known, same.symm⟩

/-- Two elements of such a set compare in one table as they do in the other. -/
theorem compare_eq_of_tidy {l : List (Term String)} (tidy : (Term.set l).Tidy)
    {t t' : Term String} (ht : t ∈ l) (ht' : t' ∈ l) {a a' b b' : Term Nat}
    (ha : t.number? u = some a) (hb : t.number? w = some b) (ha' : t'.number? u = some a')
    (hb' : t'.number? w = some b') : compare a a' = compare b b' := by
  have plain := tidy.1 t ht
  have plain' := tidy.1 t' ht'
  cases t with
  | var | set => cases plain
  | str s =>
    obtain ⟨i, known, rfl⟩ := str_of_number? ha
    obtain ⟨j, numbered, rfl⟩ := str_of_number? hb
    cases t' with
    | var | set => cases plain'
    | str s' =>
      obtain rfl := tidy.2 s s' ht ht'
      cases ha.symm.trans ha'
      cases hb.symm.trans hb'
      rw [Std.ReflOrd.compare_self, Std.ReflOrd.compare_self]
    | _ =>
      cases ha'
      cases hb'
      rfl
  | _ =>
    cases ha
    cases hb
    cases t' with
    | var | set => cases plain'
    | str s' =>
      obtain ⟨i, -, rfl⟩ := str_of_number? ha'
      obtain ⟨j, -, rfl⟩ := str_of_number? hb'
      rfl
    | _ =>
      cases ha'
      cases hb'
      rfl

theorem textOf_of_id? {s : String} {i : Nat} (known : u.id? s = some i) : u.textOf i = s :=
  Symbols.textOf_eq (Symbols.text?_of_id? known)

theorem renderTerm_eq_of_plain {t : Term String} (plain : t.isPlain) {a b : Term Nat}
    (h : t.number? u = some a) (k : t.number? w = some b) : u.renderTerm a = w.renderTerm b := by
  cases t with
  | var | set => cases plain
  | str s =>
    obtain ⟨i, known, rfl⟩ := str_of_number? h
    obtain ⟨j, known', rfl⟩ := str_of_number? k
    rw [Symbols.renderTerm, Symbols.renderTerm, textOf_of_id? known, textOf_of_id? known']
  | _ =>
    cases h
    cases k
    rfl

theorem renderTerms_eq_map (u : Symbols) (l : List (Term Nat)) :
    u.renderTerms l = l.map u.renderTerm := by
  induction l with
  | nil => rfl
  | cons t rest ih => rw [Symbols.renderTerms, ih, List.map_cons]

theorem renderTerm_eq {t : Term String} (tidy : t.Tidy) {a b : Term Nat}
    (h : t.number? u = some a) (k : t.number? w = some b) : u.renderTerm a = w.renderTerm b := by
  cases t with
  | var n =>
    obtain ⟨i, known, rfl⟩ := Option.map_eq_some_iff.1 (number?_var ▸ h)
    obtain ⟨j, known', rfl⟩ := Option.map_eq_some_iff.1 (number?_var ▸ k)
    rw [Symbols.renderTerm, Symbols.renderTerm, textOf_of_id? known, textOf_of_id? known']
  | set l =>
    obtain ⟨as, left, rfl⟩ := number?_set_eq_some_iff.1 h
    obtain ⟨bs, right, rfl⟩ := number?_set_eq_some_iff.1 k
    have both : List.Forall₂ (fun a b => ∃ t ∈ l, t.number? u = some a ∧ t.number? w = some b)
        as bs := forall₂_of_both left right fun t ht a b ha hb => ⟨t, ht, ha, hb⟩
    have ordered := Sorted.forall₂_ofList_of_mono (fun ⟨t, ht, ha, hb⟩ ⟨t', ht', ha', hb'⟩ =>
      compare_eq_of_tidy tidy ht ht' ha hb ha' hb') both
    rw [Symbols.renderTerm, Symbols.renderTerm, renderTerms_eq_map, renderTerms_eq_map]
    rw [map_eq_map_of_forall₂ ordered fun a b ⟨t, ht, ha, hb⟩ =>
      renderTerm_eq_of_plain (tidy.1 t ht) ha hb]
  | _ => exact renderTerm_eq_of_plain rfl h k

end Term

theorem Atom.renderAtom_eq {f : Atom String} (tidy : ∀ t ∈ f.terms, t.Tidy) {a b : Atom Nat}
    (h : f.number? u = some a) (k : f.number? w = some b) : u.renderAtom a = w.renderAtom b := by
  obtain ⟨known, left⟩ := number?_eq_some_iff.1 h
  obtain ⟨known', right⟩ := number?_eq_some_iff.1 k
  have terms : a.terms.map u.renderTerm = b.terms.map w.renderTerm :=
    map_eq_map_of_both left right fun t ht _ _ => Term.renderTerm_eq (tidy t ht)
  rw [Symbols.renderAtom, Symbols.renderAtom, Term.renderTerms_eq_map, Term.renderTerms_eq_map,
    terms, Term.textOf_of_id? known, Term.textOf_of_id? known']

/-- One step on a stack of texts. -/
theorem Op.render_eq {op : Op String} (tidy : ∀ t, op = .value t → t.Tidy) {a b : Op Nat}
    (h : op.mapM (Term.number? u) = some a) (k : op.mapM (Term.number? w) = some b) :
    a.render u.renderTerm = b.render w.renderTerm := by
  rcases number?_cases h with ⟨t, x, rfl, rfl, left⟩ | ⟨f, rfl, rfl⟩ | ⟨f, rfl, rfl⟩
  · rcases number?_cases k with ⟨_, y, same, rfl, right⟩ | ⟨_, other, _⟩ | ⟨_, other, _⟩
    · cases same
      funext stack
      exact congrArg (fun text => some (text :: stack))
        (Term.renderTerm_eq (tidy t rfl) left right)
    · cases other
    · cases other
  · cases k
    funext stack
    rcases stack with _ | ⟨operand, rest⟩
    · rfl
    · rfl
  · cases k
    funext stack
    rcases stack with _ | ⟨right, _ | ⟨left, rest⟩⟩
    · rfl
    · rfl
    · rfl

theorem Expression.renderExpression_eq {e : Expression String} (tidy : ∀ t ∈ e.terms, t.Tidy)
    {c d : Expression Nat} (h : e.number? u = some c) (k : e.number? w = some d) :
    u.renderExpression c = w.renderExpression d := by
  have steps : c.ops.map (Op.render u.renderTerm) = d.ops.map (Op.render w.renderTerm) := by
    refine map_eq_map_of_both (number?_eq_some_iff.1 h) (number?_eq_some_iff.1 k)
      fun op hop _ _ => Op.render_eq fun t same => tidy t ?_
    exact List.mem_filterMap.2 ⟨op, hop, by rw [same]⟩
  have run (t : Symbols) (ops : List (Op Nat)) :
      ops.foldlM (fun stack op => op.render t.renderTerm stack) ([] : List String) =
        (ops.map (Op.render t.renderTerm)).foldlM (fun stack step => step stack) [] := by
    rw [List.foldlM_map]
  unfold Symbols.renderExpression Symbols.renderExpression? Expression.render?
  rw [run, run, steps]

theorem Scope.renderScope_eq {s : Scope PublicKey} {a b : Scope Nat}
    (h : s.number? u = some a) (k : s.number? w = some b) : u.renderScope a = w.renderScope b := by
  cases s with
  | key owner =>
    obtain ⟨i, known, same⟩ := Option.bind_eq_some_iff.1 h
    obtain ⟨j, known', same'⟩ := Option.bind_eq_some_iff.1 k
    cases same
    cases same'
    rw [Symbols.renderScope, Symbols.renderScope, Symbols.getElem?_of_idxOf? known,
      Symbols.getElem?_of_idxOf? known']
    rfl
  | _ =>
    cases h
    cases k
    rfl

/-- Every set in the rule is tidy. -/
def Rule.Tidy (r : Rule String PublicKey) : Prop := ∀ t ∈ r.terms, t.Tidy

def Check.Tidy (c : Check String PublicKey) : Prop := ∀ q ∈ c.queries, q.Tidy

theorem Rule.renderBody_eq {r : Rule String PublicKey} (tidy : r.Tidy) {p q : Rule Nat Nat}
    (h : r.number? u = some p) (k : r.number? w = some q) : u.renderBody p = w.renderBody q := by
  obtain ⟨-, body, expressions, scopes⟩ := number?_eq_some_iff.1 h
  obtain ⟨-, body', expressions', scopes'⟩ := number?_eq_some_iff.1 k
  have atoms : p.body.map u.renderAtom = q.body.map w.renderAtom :=
    map_eq_map_of_both body body' fun a ha _ _ =>
      Atom.renderAtom_eq fun t ht => tidy t (mem_terms_of_body ha ht)
  have tests : p.expressions.map u.renderExpression = q.expressions.map w.renderExpression :=
    map_eq_map_of_both expressions expressions' fun e he _ _ =>
      Expression.renderExpression_eq fun t ht => tidy t (mem_terms_of_expressions he ht)
  have trusts : p.scopes.map u.renderScope = q.scopes.map w.renderScope :=
    map_eq_map_of_both scopes scopes' fun _ _ _ _ => Scope.renderScope_eq
  have bare : p.scopes.isEmpty = q.scopes.isEmpty := by
    rw [← List.isEmpty_map (f := u.renderScope), trusts, List.isEmpty_map]
  rw [Symbols.renderBody, Symbols.renderBody, atoms, tests, trusts, bare]

theorem Rule.renderRule_eq {r : Rule String PublicKey} (tidy : r.Tidy) {p q : Rule Nat Nat}
    (h : r.number? u = some p) (k : r.number? w = some q) : u.renderRule p = w.renderRule q := by
  have head : u.renderAtom p.head = w.renderAtom q.head :=
    Atom.renderAtom_eq (fun t ht => tidy t (mem_terms_of_head ht)) (number?_eq_some_iff.1 h).1
      (number?_eq_some_iff.1 k).1
  rw [Symbols.renderRule, Symbols.renderRule, head, renderBody_eq tidy h k]

theorem Check.renderCheck_eq {c : Check String PublicKey} (tidy : c.Tidy) {d e : Check Nat Nat}
    (h : c.number? u = some d) (k : c.number? w = some e) : u.renderCheck d = w.renderCheck e := by
  obtain ⟨kind, queries⟩ := number?_eq_some_iff.1 h
  obtain ⟨kind', queries'⟩ := number?_eq_some_iff.1 k
  have bodies : d.queries.map u.renderBody = e.queries.map w.renderBody :=
    map_eq_map_of_both queries queries' fun q hq _ _ => Rule.renderBody_eq (tidy q hq)
  rw [Symbols.renderCheck, Symbols.renderCheck, bodies, ← kind, ← kind']

end Render

/-! A table of its own. -/

/-- Computations on tables that may hold anything, to be compared by the strings that they add. -/
def Adding (α : Type) : Type := StateM Symbols α

namespace Adding

instance : Monad Adding := inferInstanceAs (Monad (StateM Symbols))

instance : LawfulMonad Adding := inferInstanceAs (LawfulMonad (StateM Symbols))

open Covering

instance : Covering Adding where
  Covers {α β} (x : StateM Symbols α) (y : StateM Symbols β) :=
    ∀ t u : Symbols, t.strings ⊆ u.strings → (x t).2.strings ⊆ (y u).2.strings
  covers_pure _ _ _ _ fewer := fewer
  covers_bind hx hf t u fewer := hf _ _ _ _ (hx t u fewer)

theorem covers_intern (s : String) :
    Covers (m := Adding) (Symbols.intern s) (Symbols.intern s) := by
  intro t u fewer other h
  rw [Symbols.mem_strings_intern] at h ⊢
  exact h.imp_left (fewer ·)

theorem covers_internKey (key : PublicKey) :
    Covers (m := Adding) (Symbols.internKey key) (Symbols.internKey key) := by
  intro t u fewer
  rw [Symbols.strings_internKey, Symbols.strings_internKey]
  exact fewer

theorem covers_internTerm (t : Term String) : Covers (m := Adding) t.intern t.intern :=
  covers_term (m := Adding) (fun n => covers_bind (covers_intern n) fun _ _ => covers_pure _ _)
    covers_intern t

theorem covers_internRule (r : Rule String PublicKey) :
    Covers (m := Adding) r.intern r.intern :=
  covers_rule (m := Adding) covers_intern covers_internTerm covers_internKey r

theorem covers_internCheck (c : Check String PublicKey) :
    Covers (m := Adding) c.intern c.intern :=
  covers_check (m := Adding) covers_intern covers_internTerm covers_internKey c

/-- What fits into some table fits into an empty one. -/
theorem fits_empty {α : Type} {x : StateM Symbols α} {post : Symbols → α → Prop}
    (covers : Covers (m := Adding) x x) (ensures : Interning.Ensures x post) {t : Symbols}
    (fits : (x t).2.Fits) : (x .empty).2.Fits := by
  obtain ⟨sound, -, -⟩ := ensures .empty Symbols.sound_empty
  have inside : (x .empty).2.strings ⊆ (x t).2.strings := covers .empty t (List.nil_subset _)
  have shorter := (List.subperm_of_subset sound.strings inside).length_le
  unfold Symbols.Fits at fits ⊢
  omega

end Adding

section Display

variable {t u : Symbols}

/-- A rule that has been taken into a table is written as it is displayed. -/
theorem Rule.renderRule_taken {r : Rule String PublicKey} (tidy : r.Tidy)
    (fits : (r.intern.run t).2.Fits) (later : (r.intern.run t).2.Grows u) :
    u.renderRule (r.intern.run t).1 = r.display := by
  have alone := Adding.fits_empty (Adding.covers_internRule r) (Interning.ensures_internRule r) fits
  exact renderRule_eq tidy ((enters_rule r).numbered t fits u later)
    ((enters_rule r).numbered .empty alone _ (.refl _))

theorem Check.renderCheck_taken {c : Check String PublicKey} (tidy : c.Tidy)
    (fits : (c.intern.run t).2.Fits) (later : (c.intern.run t).2.Grows u) :
    u.renderCheck (c.intern.run t).1 = c.display := by
  have alone := Adding.fits_empty (Adding.covers_internCheck c) (Interning.ensures_internCheck c)
    fits
  exact renderCheck_eq tidy ((enters_check c).numbered t fits u later)
    ((enters_check c).numbered .empty alone _ (.refl _))

end Display

/-! In what an authorizer says. -/

namespace Authorizer

variable {a : Authorizer} {limits : RunLimits}

/-- The checks of the authorizer as `authorize` takes them in. -/
theorem taken_heard (b : Authorizer) : List.Forall₂
    (fun q (c : Check String PublicKey) => Taken c.intern b.heard.2.symbols q)
    b.heard.1.checks b.checks := by
  obtain ⟨-, checks⟩ := forall₂_mapM_run _ (fun (c : Check String PublicKey) t =>
    (enters_check c).grows t) b.checks b.defaultTrust.2.symbols
  have policies := (forall₂_mapM_run Policy.intern
    (fun p t => (enters_mapM enters_rule p.queries).grows t) b.policies
    (b.defaultTrust.2.intern (b.checks.mapM Check.intern)).2.symbols).1
  exact checks.imp fun q c ⟨t, _, before, same⟩ => ⟨t, before.trans policies, same⟩

theorem checks_saturate [Patterns] (a : Authorizer) (limits : RunLimits) :
    (a.saturate limits).2.checks = a.checks := by
  rw [saturate_state]
  exact a.ready_checks

/-- A check of the authorizer that is reported is one of its checks, in the table of the answer. -/
theorem exists_taken_of_failed [Patterns] {policy : Option MatchedPolicy}
    {failed : List FailedCheck}
    {i : Nat} {text : String} (decided : decided? (a.authorize limits).1 = some (policy, failed))
    (h : .authorizer i text ∈ failed) : ∃ c q, a.checks[i]? = some c ∧
      Taken c.intern (a.authorize limits).2.symbols q ∧
      text = (a.authorize limits).2.symbols.renderCheck q := by
  have checks := a.checks_saturate limits
  rw [authorize_eq_evaluate] at decided ⊢
  unfold evaluate at decided ⊢
  generalize a.saturate limits = ended at checks decided ⊢
  obtain ⟨result, b⟩ := ended
  cases result with
  | error e => cases decided
  | ok =>
    change decided? (b.heard.2.conclude limits.deadline b.heard.1.trust b.heard.1.checks
      b.heard.1.policies) = _ at decided
    change ∃ c q, a.checks[i]? = some c ∧ Taken c.intern b.heard.2.symbols q ∧
      text = b.heard.2.symbols.renderCheck q
    rw [conclude_eq] at decided
    generalize ruled : Hearing.ruling _ _ = ruling at decided
    cases ruling with
    | error e => cases decided
    | ok r =>
      change decided? (r.result b.heard.2.symbols) = _ at decided
      rw [decided?_result] at decided
      cases decided
      obtain ⟨asked, kept, told⟩ := List.mem_map.1 h
      have listed := ((Rule.mem_allKept (Hearing.ruling_eq_ok_iff.1 ruled).1).1 kept).1
      rcases List.mem_append.1 listed with foreign | own
      · obtain ⟨⟨block, j⟩, -, hb⟩ := List.mem_flatMap.1 foreign
        obtain ⟨⟨check, k⟩, -, rfl⟩ := List.mem_map.1 hb
        cases told
      · obtain ⟨⟨q, k⟩, place, rfl⟩ := List.mem_map.1 own
        cases told
        obtain ⟨⟨c, k'⟩, there, taken, rfl⟩ :=
          exists_of_forall₂ (forall₂_zipIdx b.taken_heard 0) place
        refine ⟨c, q, ?_, taken, rfl⟩
        rw [← checks]
        exact List.mem_zipIdx_iff_getElem?.1 there

/-- What stands under the name of the authorizer: its rules in the world, and then those that
wait. -/
theorem dump_own (a : Authorizer) :
    (a.dump.rules.filter (·.origin = BlockId.authorizer.label)).flatMap Group.statements =
      (a.world.rules.filter (·.block = .authorizer)).map (fun e => a.symbols.renderRule e.rule) ++
        a.pending.map Rule.display := by
  have named : ((fun g : Group => decide (g.origin = BlockId.authorizer.label)) ∘ fun b =>
      ⟨BlockId.label b, (a.world.rules.filter (·.block = b)).map
        (fun e => a.symbols.renderRule e.rule) ++
          if b = .authorizer then a.pending.map Rule.display else []⟩) =
      fun b => decide (b = BlockId.authorizer) :=
    funext fun b => decide_eq_decide.2 BlockId.label_injective.eq_iff
  have nodup : a.declarers.Nodup := nodup_eraseDups _
  rw [dump_rules, List.filter_map, named, List.flatMap_map, List.filter_eq, nodup.count]
  by_cases there : BlockId.authorizer ∈ a.declarers
  · rw [if_pos there]
    simp
  · have absent := mt List.mem_eraseDups.2 there
    rw [List.mem_append, not_or] at absent
    have rules : a.world.rules.filter (·.block = .authorizer) = [] :=
      List.filter_eq_nil_iff.2 fun e he own =>
        absent.1 (List.mem_map.2 ⟨e, he, of_decide_eq_true own⟩)
    have pending : a.pending = [] :=
      List.eq_nil_iff_forall_not_mem.2 fun r hr => absent.2 (List.mem_map.2 ⟨r, hr, rfl⟩)
    rw [if_neg there, rules, pending]
    rfl

theorem Recorded.dump_own_displayed {told : List Call} (h : a.Recorded told)
    (fits : a.symbols.Fits) :
    List.Forall₂ (fun line (r : Rule String PublicKey) => r.Tidy → line = r.display)
      ((a.dump.rules.filter (·.origin = BlockId.authorizer.label)).flatMap Group.statements)
      (told.filterMap Call.rule?) := by
  rw [dump_own, h.rules]
  refine List.rel_append ?_ ?_
  · rw [List.forall₂_map_left_iff]
    refine h.own.imp fun e r taken tidy => ?_
    obtain ⟨t, later, same⟩ := taken
    rw [← same]
    exact Rule.renderRule_taken tidy (later.fits fits) later
  · exact List.forall₂_map_left_iff.2 (List.forall₂_same.2 fun r _ _ => rfl)

/-- A rule or check whose sets hold plain values and at most one string each is written the same
from whatever table it has been taken into, and from every later one: as it is displayed. So a dump
shows the accepted rules of an authorizer as they are displayed, those in the world like those that
wait, and a check of the authorizer that fails is reported as it is displayed. Tables must stay
below the limit for variables. -/
theorem rendered_as_displayed [Patterns] :
    (∀ (t : Symbols) (r : Rule String PublicKey), r.Tidy → (r.intern.run t).2.Fits →
      ∀ u, (r.intern.run t).2.Grows u → u.renderRule (r.intern.run t).1 = r.display) ∧
    (∀ (t : Symbols) (c : Check String PublicKey), c.Tidy → (c.intern.run t).2.Fits →
      ∀ u, (c.intern.run t).2.Grows u → u.renderCheck (c.intern.run t).1 = c.display) ∧
    (∀ (limits : RunLimits) (xs : List Step),
      let a := (ofLimits limits).steps xs
      a.symbols.Fits → List.Forall₂ (fun line (r : Rule String PublicKey) => r.Tidy →
          line = r.display)
        ((a.dump.rules.filter (·.origin = BlockId.authorizer.label)).flatMap Group.statements)
        (((ofLimits limits).acceptedCalls xs).filterMap Call.rule?)) ∧
    ∀ (a : Authorizer) (limits : RunLimits) (policy : Option MatchedPolicy)
      (failed : List FailedCheck) (i : Nat) (text : String),
      (a.authorize limits).2.symbols.Fits →
      decided? (a.authorize limits).1 = some (policy, failed) → .authorizer i text ∈ failed →
      ∃ c, a.checks[i]? = some c ∧ (c.Tidy → text = c.display) := by
  refine ⟨fun t r tidy fits u later => Rule.renderRule_taken tidy fits later,
    fun t c tidy fits u later => Check.renderCheck_taken tidy fits later, ?_, ?_⟩
  · intro limits xs a fits
    exact ((Recorded.initial limits).steps Symbols.sound_empty xs).dump_own_displayed fits
  · intro a limits policy failed i text fits decided reported
    obtain ⟨c, q, there, ⟨t, later, same⟩, written⟩ := exists_taken_of_failed decided reported
    refine ⟨c, there, fun tidy => ?_⟩
    rw [written, ← same]
    exact Check.renderCheck_taken tidy (later.fits fits) later

/-- A rule and a check with sets of a number and a string, told to an authorizer whose table has
another name first; the rule waits, and is then in the world. -/
theorem rendered_as_displayed_request :
    let pair : Term String := .set [.int 2, .str "disk"]
    let r : Rule String PublicKey :=
      { head := ⟨"ok", [.var "n"]⟩, body := [⟨"use", [.var "n"]⟩]
        expressions := [⟨[.value pair, .value (.var "n"), .binary .contains]⟩]
        scopes := [.key ⟨.ed25519, [7]⟩] }
    let c : Check String PublicKey := .ofBody .one [⟨"use", [pair]⟩]
    let waiting : List Step :=
      [.act (.call (.fact ⟨"use", [.str "net"]⟩)), .act (.call (.rule r)), .act (.call (.check c))]
    let moved : List Step := waiting ++ [.act (.authorize {})]
    let lines (xs : List Step) : List String :=
      (((ofLimits {}).steps xs).dump.rules.filter (·.origin = BlockId.authorizer.label)).flatMap
        Group.statements
    lines waiting = [r.display] ∧ lines moved = [r.display] ∧
      ((ofLimits {}).steps moved).world.rules.length = 1 ∧
      decided? (((ofLimits {}).steps waiting).authorize {}).1 =
        some (none, [.authorizer 0 c.display]) := by
  intro pair r c waiting moved lines
  have tidy : pair.Tidy := by
    refine ⟨by decide, fun s s' h h' => ?_⟩
    simp only [List.mem_cons, List.not_mem_nil, or_false, reduceCtorEq, false_or,
      Term.str.injEq] at h h'
    rw [h, h']
  have ruleTidy : r.Tidy := by
    intro t ht
    have all : r.terms = [.var "n", .var "n", pair, .var "n"] := rfl
    simp only [all, List.mem_cons, List.not_mem_nil, or_false] at ht
    rcases ht with rfl | rfl | rfl | rfl
    · exact trivial
    · exact trivial
    · exact tidy
    · exact trivial
  have checkTidy : c.Tidy := by
    intro q hq t ht
    obtain rfl := List.mem_singleton.1 hq
    obtain rfl := List.mem_singleton.1 ht
    exact tidy
  obtain ⟨-, -, dumped, reported⟩ := rendered_as_displayed
  have line (xs : List Step) (fits : ((ofLimits {}).steps xs).symbols.Fits)
      (accepted : ((ofLimits {}).acceptedCalls xs).filterMap Call.rule? = [r]) :
      lines xs = [r.display] := by
    have both := dumped {} xs fits
    rw [accepted] at both
    obtain ⟨written, rest, here, none, same⟩ := List.forall₂_cons_right_iff.1 both
    rw [show lines xs = _ from same, here ruleTidy, List.forall₂_nil_right_iff.1 none]
  refine ⟨line waiting (by decide +kernel) (by decide +kernel),
    line moved (by decide +kernel) (by decide +kernel), by decide +kernel, ?_⟩
  have outline : outlined (((ofLimits {}).steps waiting).authorize {}).1 =
      some (none, [(.authorizer, 0)]) := by decide +kernel
  obtain ⟨⟨policy, failed⟩, decided, same⟩ := Option.map_eq_some_iff.1 outline
  obtain ⟨rfl, sites⟩ := Prod.mk.inj same
  obtain ⟨_ | ⟨i, text⟩, rfl, site⟩ := List.map_eq_singleton_iff.1 sites
  · cases site
  · cases site
    obtain ⟨d, there, written⟩ := reported _ {} _ _ 0 text (by decide +kernel) decided
      (List.mem_singleton.2 rfl)
    cases (Option.some.inj there : c = d)
    rw [decided, written checkTidy]

end Authorizer

end Warrant
