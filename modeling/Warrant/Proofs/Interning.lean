import Warrant.Authorizer
import Warrant.Proofs.Reading

/-! What is taken into a table reads as it did before.
`Ensures x post` says of a computation on a sound table that it leaves the table sound and only
adds to it, and that its result, if it gives one, satisfies `post` in the table it leaves and in
whatever sound table that grows into, as long as the ids of variables fit. It is passed on through
sequences of steps, so one argument over terms, atoms and rules covers interning as well as
transferring from another table. -/

namespace Warrant

/-- Computations on a table for which one can say what they ensure. -/
class Interning (m : Type → Type) [Monad m] where
  Ensures {α : Type} : m α → (Symbols → α → Prop) → Prop
  ensures_pure {α : Type} {a : α} {post : Symbols → α → Prop} :
    (∀ u, u.Sound → u.Fits → post u a) → Ensures (pure a) post
  ensures_bind {α β : Type} {x : m α} {f : α → m β} {mid : Symbols → α → Prop}
    {post : Symbols → β → Prop} : Ensures x mid →
    (∀ a, Ensures (f a) fun u b => mid u a → post u b) → Ensures (x >>= f) post

namespace Interning

/-- What holds of a result in every table to come. -/
def Lasting {α : Type} (t : Symbols) (post : Symbols → α → Prop) (a : α) : Prop :=
  ∀ u, u.Sound → u.Fits → t.Grows u → post u a

instance : Interning (StateM Symbols) where
  Ensures x post := ∀ t, t.Sound →
    (x t).2.Sound ∧ t.Grows (x t).2 ∧ Lasting (x t).2 post (x t).1
  ensures_pure h t sound := ⟨sound, .refl t, fun u su fits _ => h u su fits⟩
  ensures_bind {_ _ x f _ _} hx hf t sound := by
    obtain ⟨sound, grows, mid⟩ := hx t sound
    obtain ⟨sound', grows', post⟩ := hf (x t).1 (x t).2 sound
    refine ⟨sound', grows.trans grows', fun u su fits later => ?_⟩
    exact post u su fits later (mid u su fits (grows'.trans later))

instance (ε : Type) : Interning (ExceptT ε (StateM Symbols)) where
  Ensures x post := ∀ t, t.Sound → (x.run t).2.Sound ∧ t.Grows (x.run t).2 ∧
    ∀ a, (x.run t).1 = .ok a → Lasting (x.run t).2 post a
  ensures_pure {α a post} h t sound := by
    refine ⟨sound, .refl t, fun b same u su fits _ => ?_⟩
    cases same
    exact h u su fits
  ensures_bind {α β x f mid post} hx hf t sound := by
    obtain ⟨sound, grows, first⟩ := hx t sound
    rw [Symbols.run_bind_eq]
    cases result : (x.run t).1 with
    | error e => exact ⟨sound, grows, nofun⟩
    | ok a =>
      obtain ⟨sound', grows', second⟩ := hf a (x.run t).2 sound
      refine ⟨sound', grows.trans grows', fun b same u su fits later => ?_⟩
      exact second b same u su fits later (first a result u su fits (grows'.trans later))

/-! Walks over lists and items. -/

section Walks

variable {m : Type → Type} [Monad m] [LawfulMonad m] [Interning m] {α β : Type}

theorem ensures_mono {x : m α} {mid post : Symbols → α → Prop} (h : Ensures x mid)
    (weaken : ∀ u, u.Sound → u.Fits → ∀ a, mid u a → post u a) : Ensures x post := by
  rw [← bind_pure x]
  exact ensures_bind h fun a => ensures_pure fun u sound fits mid => weaken u sound fits a mid

theorem ensures_mapM {f : α → m β} {R : Symbols → β → α → Prop} {l : List α}
    (h : ∀ a ∈ l, Ensures (f a) fun u b => R u b a) :
    Ensures (l.mapM f) fun u out => List.Forall₂ (R u) out l := by
  induction l with
  | nil => exact ensures_pure fun _ _ _ => .nil
  | cons a rest ih =>
    rw [List.mapM_cons]
    refine ensures_bind (h a (List.mem_cons_self ..)) fun b => ?_
    refine ensures_bind (ih fun c hc => h c (List.mem_cons_of_mem _ hc)) fun out => ?_
    exact ensures_pure fun _ _ _ others first => .cons first others

variable {σ κ : Type} {v name : σ → m Nat} {term : Term σ → m (Term Nat)} {key : κ → m Nat}
  {f : σ → String} {g : κ → PublicKey}

omit [LawfulMonad m] in
mutual

theorem ensures_term (known : ∀ n, Ensures (v n) fun u i => u.text? i = some (f n))
    (names : ∀ n, Ensures (name n) fun u i => u.text? i = some (f n)) :
    (t : Term σ) → Ensures (t.mapM v name) fun u a => a.Names u (t.rename f)
  | .var n => ensures_bind (known n) fun _ => ensures_pure fun _ _ _ found =>
      ⟨.var (Option.isSome_of_mem found), congrArg _ (Symbols.textOf_eq found)⟩
  | .str n => ensures_bind (names n) fun _ => ensures_pure fun _ _ _ found =>
      ⟨.str (Option.isSome_of_mem found), congrArg _ (Symbols.textOf_eq found)⟩
  | .int i => ensures_pure fun _ _ _ => ⟨.int i, rfl⟩
  | .date d => ensures_pure fun _ _ _ => ⟨.date d, rfl⟩
  | .bytes b => ensures_pure fun _ _ _ => ⟨.bytes b, rfl⟩
  | .bool b => ensures_pure fun _ _ _ => ⟨.bool b, rfl⟩
  | .set elements => by
    rw [Term.rename_set]
    exact ensures_bind (ensures_terms known names elements) fun _ =>
      ensures_pure fun _ _ _ named => .set named

theorem ensures_terms (known : ∀ n, Ensures (v n) fun u i => u.text? i = some (f n))
    (names : ∀ n, Ensures (name n) fun u i => u.text? i = some (f n)) :
    (l : List (Term σ)) → Ensures (Term.mapAllM v name l) fun u out =>
      List.Forall₂ (Term.Names u) out (l.map (Term.rename f))
  | [] => ensures_pure fun _ _ _ => .nil
  | t :: rest => ensures_bind (ensures_term known names t) fun _ =>
    ensures_bind (ensures_terms known names rest) fun _ =>
      ensures_pure fun _ _ _ others first => .cons first others

end

/-- A list of items is taken in item by item. -/
theorem ensures_all {τ : Type} {walk : α → m β} {R : Symbols → β → τ → Prop} {reading : α → τ}
    (h : ∀ a, Ensures (walk a) fun u b => R u b (reading a)) (l : List α) :
    Ensures (l.mapM walk) fun u out => List.Forall₂ (R u) out (l.map reading) := by
  refine ensures_mono (ensures_mapM fun a _ => h a) fun u _ _ out named => ?_
  exact List.forall₂_map_right_iff.2 named

section Items

variable (names : ∀ n, Ensures (name n) fun u i => u.text? i = some (f n))
  (terms : ∀ t, Ensures (term t) fun u a => a.Names u (t.rename f))
  (keys : ∀ k, Ensures (key k) fun u i => u.keys[i]? = some (g k))

include terms

omit [LawfulMonad m] in
theorem ensures_op (op : Op σ) : Ensures (op.mapM term) fun u o => o.Names u (op.rename f) := by
  cases op with
  | value t => exact ensures_bind (terms t) fun _ => ensures_pure fun _ _ _ named => named
  | unary op => exact ensures_pure fun _ _ _ => rfl
  | binary op => exact ensures_pure fun _ _ _ => rfl

theorem ensures_expression (e : Expression σ) :
    Ensures (e.mapM term) fun u d => d.Names u (e.rename f) :=
  ensures_bind (ensures_all (ensures_op terms) e.ops) fun _ => ensures_pure fun _ _ _ named => named

include names

theorem ensures_atom (a : Atom σ) :
    Ensures (a.mapM name term) fun u b => b.Names u (a.rename f) :=
  ensures_bind (names a.name) fun _ => ensures_bind (ensures_all terms a.terms) fun _ =>
    ensures_pure fun _ _ _ named found => ⟨found, named⟩

omit names terms

include keys

omit [LawfulMonad m] in
theorem ensures_scope (s : Scope κ) : Ensures (s.mapM key) fun u c => c.Names u (s.rename g) := by
  cases s with
  | authority => exact ensures_pure fun _ _ _ => trivial
  | previous => exact ensures_pure fun _ _ _ => trivial
  | key k => exact ensures_bind (keys k) fun _ => ensures_pure fun _ _ _ found => found

include names terms

theorem ensures_rule (r : Rule σ κ) :
    Ensures (r.mapM name term key) fun u q => q.Names u (r.rename f g) :=
  ensures_bind (ensures_atom names terms r.head) fun _ =>
    ensures_bind (ensures_all (ensures_atom names terms) r.body) fun _ =>
      ensures_bind (ensures_all (ensures_expression terms) r.expressions) fun _ =>
        ensures_bind (ensures_all (ensures_scope keys) r.scopes) fun _ =>
          ensures_pure fun _ _ _ scopes expressions body head => ⟨head, body, expressions, scopes⟩

theorem ensures_check (c : Check σ κ) :
    Ensures (c.mapM name term key) fun u d => d.Names u (c.rename f g) :=
  ensures_bind (ensures_all (ensures_rule names terms keys) c.queries) fun _ =>
    ensures_pure fun _ _ _ named => ⟨rfl, named⟩

end Items

end Walks

/-! Into the table of a session. -/

section Intern

theorem ensures_intern (s : String) : Ensures (Symbols.intern s) fun u i => u.text? i = some s := by
  intro t sound
  obtain ⟨sound, grows, found⟩ := sound.intern s
  exact ⟨sound, grows, fun u _ _ later => later.text? found⟩

theorem ensures_internKey (key : PublicKey) :
    Ensures (Symbols.internKey key) fun u i => u.keys[i]? = some key := by
  intro t sound
  obtain ⟨sound, grows, found⟩ := sound.internKey key
  exact ⟨sound, grows, fun u _ _ later => later.key? found⟩

theorem ensures_internVariable (s : String) :
    Ensures (Symbols.internVariable s) fun u i => u.text? i = some s := by
  refine ensures_bind (ensures_intern s) fun i => ensures_pure fun u _ fits found => ?_
  have bound : i < variableLimit := Nat.lt_of_lt_of_le (Symbols.lt_of_text? found) fits
  rwa [Nat.mod_eq_of_lt bound]

theorem ensures_internTerm (t : Term String) :
    Ensures t.intern fun u a => a.Names u (t.rename id) :=
  ensures_term ensures_internVariable ensures_intern t

theorem ensures_internAtom (a : Atom String) :
    Ensures a.intern fun u b => b.Names u (a.rename id) :=
  ensures_atom ensures_intern ensures_internTerm a

theorem ensures_internScope (s : Scope PublicKey) :
    Ensures s.intern fun u c => c.Names u (s.rename id) :=
  ensures_scope ensures_internKey s

theorem ensures_internRule (r : Rule String PublicKey) :
    Ensures r.intern fun u q => q.Names u (r.rename id id) :=
  ensures_rule ensures_intern ensures_internTerm ensures_internKey r

theorem ensures_internCheck (c : Check String PublicKey) :
    Ensures c.intern fun u d => d.Names u (c.rename id id) :=
  ensures_check ensures_intern ensures_internTerm ensures_internKey c

theorem ensures_internPolicy (p : Policy String PublicKey) :
    Ensures p.intern fun u q => q.Names u (p.rename id id) :=
  ensures_bind (ensures_all ensures_internRule p.queries) fun _ =>
    ensures_pure fun _ _ _ named => ⟨rfl, named⟩

end Intern

/-! From the table of a block. -/

section Transfer

variable {ε : Type}

theorem ensures_throw {α : Type} {e : ε} {post : Symbols → α → Prop} :
    Ensures (throw e : ExceptT ε (StateM Symbols) α) post :=
  fun t sound => ⟨sound, .refl t, nofun⟩

theorem ensures_lift {α : Type} {x : StateM Symbols α} {post : Symbols → α → Prop}
    (h : Ensures x post) : Ensures (ExceptT.lift x : ExceptT ε (StateM Symbols) α) post := by
  intro t sound
  obtain ⟨sound, grows, holds⟩ := h t sound
  refine ⟨sound, grows, fun a same => ?_⟩
  cases same
  exact holds

/-- A step that leaves the table alone. -/
theorem ensures_except {α : Type} {x : Except ε α} {post : Symbols → α → Prop}
    (h : ∀ a, x = .ok a → ∀ u, u.Sound → u.Fits → post u a) :
    Ensures (ExceptT.mk (pure x) : ExceptT ε (StateM Symbols) α) post :=
  fun t sound => ⟨sound, .refl t, fun a same u su fits _ => h a same u su fits⟩

variable (source : Symbols)

theorem ensures_transferName (n : Nat) :
    Ensures (source.transferName n) fun u i => u.text? i = some (source.textOf n) := by
  have resolved : Ensures (ExceptT.mk (pure (source.resolve n)) : Transfer String)
      fun _ s => source.textOf n = s := by
    refine ensures_except fun s same _ _ _ => ?_
    unfold Symbols.resolve at same
    cases found : source.text? n with
    | none =>
      rw [found] at same
      cases same
    | some x =>
      rw [found] at same
      cases same
      exact Symbols.textOf_eq found
  refine ensures_bind resolved fun s => ?_
  refine ensures_mono (ensures_lift (ensures_intern s)) fun u _ _ i found same => ?_
  rw [same]
  exact found

theorem ensures_transferVariable (n : Nat) :
    Ensures (source.transferVariable n) fun u i => u.text? i = some (source.textOf n) := by
  refine ensures_bind (ensures_transferName source n) fun i => ensures_except ?_
  intro j same u _ _ found
  unfold variableId at same
  split at same
  · cases same
    exact found
  · cases same

theorem ensures_transferKey (n : Nat) :
    Ensures (source.transferKey n) fun u i => u.keys[i]? = some (source.keyOf n) := by
  unfold Symbols.transferKey
  cases found : source.keys[n]? with
  | none => exact ensures_throw
  | some key =>
    have same : source.keyOf n = key := by rw [Symbols.keyOf, found, Option.getD_some]
    rw [same]
    exact ensures_lift (ensures_internKey key)

theorem ensures_transferTerm (t : Term Nat) :
    Ensures (t.transfer source) fun u a => a.Names u (t.rename source.textOf) := by
  unfold Term.transfer
  split
  · exact ensures_term (ensures_transferVariable source) (ensures_transferName source) t
  · exact ensures_throw

theorem ensures_transferFact (a : Fact Nat) :
    Ensures (Fact.transfer source a) fun u b => b.Names u (a.rename source.textOf) := by
  refine ensures_bind (ensures_atom (ensures_transferName source) (ensures_transferTerm source) a)
    fun b => ?_
  split
  · exact ensures_pure fun _ _ _ named => named
  · exact ensures_throw

theorem ensures_transferScope (s : Scope Nat) :
    Ensures (s.transfer source) fun u c => c.Names u (s.rename source.keyOf) :=
  ensures_scope (ensures_transferKey source) s

theorem ensures_transferRule (r : Rule Nat Nat) :
    Ensures (r.transfer source) fun u q => q.Names u (r.rename source.textOf source.keyOf) :=
  ensures_rule (ensures_transferName source) (ensures_transferTerm source)
    (ensures_transferKey source) r

theorem ensures_transferCheck (c : Check Nat Nat) :
    Ensures (c.transfer source) fun u d => d.Names u (c.rename source.textOf source.keyOf) :=
  ensures_check (ensures_transferName source) (ensures_transferTerm source)
    (ensures_transferKey source) c

end Transfer

end Interning

end Warrant
