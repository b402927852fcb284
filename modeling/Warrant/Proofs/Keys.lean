import Warrant.Proofs.Session

/-! Keys on their way from table to table.
A scope names a key by its id in the table of a block or in full, and ends up with an id in the
table of the session. `Marks` says of a computation what its result says about keys, in the table
that it leaves and in every later one. Unlike what is said of names it needs no bound on the table,
since the ids of keys are never cut. -/

namespace Warrant

open Interning

/-- The second scope names, in its own way, the key that the first names by its id. -/
def Scope.Marked {κ : Type} (named : κ → Option PublicKey) (u : Symbols) :
    Scope Nat → Scope κ → Prop
  | .authority, .authority => True
  | .previous, .previous => True
  | .key i, .key k => ∃ owner, named k = some owner ∧ u.keys[i]? = some owner
  | _, _ => False

/-- Computations on a table for which one can say what they do to keys. -/
class Keyed (m : Type → Type) [Monad m] extends Interning m where
  Marks {α : Type} : m α → (Symbols → α → Prop) → Prop
  marks_pure {α : Type} {a : α} {post : Symbols → α → Prop} :
    (∀ u, u.Sound → post u a) → Marks (pure a) post
  marks_bind {α β : Type} {x : m α} {f : α → m β} {mid : Symbols → α → Prop}
    {post : Symbols → β → Prop} : Marks x mid →
    (∀ a, Marks (f a) fun u b => mid u a → post u b) → Marks (x >>= f) post
  marks_of_ensures {α : Type} {x : m α} {post : Symbols → α → Prop} :
    Ensures x post → Marks x fun _ _ => True

namespace Keyed

instance : Keyed (StateM Symbols) where
  Marks x post := ∀ t, t.Sound →
    (x t).2.Sound ∧ t.Grows (x t).2 ∧ ∀ u, u.Sound → (x t).2.Grows u → post u (x t).1
  marks_pure h t sound := ⟨sound, .refl t, fun u su _ => h u su⟩
  marks_bind {_ _ x f _ _} hx hf t sound := by
    obtain ⟨sound, grows, mid⟩ := hx t sound
    obtain ⟨sound', grows', post⟩ := hf (x t).1 (x t).2 sound
    refine ⟨sound', grows.trans grows', fun u su later => ?_⟩
    exact post u su later (mid u su (grows'.trans later))
  marks_of_ensures h t sound :=
    ⟨(h t sound).1, (h t sound).2.1, fun _ _ _ => trivial⟩

instance (ε : Type) : Keyed (ExceptT ε (StateM Symbols)) where
  Marks x post := ∀ t, t.Sound → (x.run t).2.Sound ∧ t.Grows (x.run t).2 ∧
    ∀ a, (x.run t).1 = .ok a → ∀ u, u.Sound → (x.run t).2.Grows u → post u a
  marks_pure {α a post} h t sound := by
    refine ⟨sound, .refl t, fun b same u su _ => ?_⟩
    cases same
    exact h u su
  marks_bind {α β x f mid post} hx hf t sound := by
    obtain ⟨sound, grows, first⟩ := hx t sound
    rw [Symbols.run_bind_eq]
    cases result : (x.run t).1 with
    | error e => exact ⟨sound, grows, nofun⟩
    | ok a =>
      obtain ⟨sound', grows', second⟩ := hf a (x.run t).2 sound
      refine ⟨sound', grows.trans grows', fun b same u su later => ?_⟩
      exact second b same u su later (first a result u su (grows'.trans later))
  marks_of_ensures h t sound :=
    ⟨(h t sound).1, (h t sound).2.1, fun _ _ _ _ _ => trivial⟩

/-! Walks over lists and items. -/

section Walks

variable {m : Type → Type} [Monad m] [LawfulMonad m] [Keyed m] {α β σ κ : Type}

theorem marks_mono {x : m α} {mid post : Symbols → α → Prop} (h : Marks x mid)
    (weaken : ∀ u, u.Sound → ∀ a, mid u a → post u a) : Marks x post := by
  rw [← bind_pure x]
  exact marks_bind h fun a => marks_pure fun u sound mid => weaken u sound a mid

theorem marks_mapM {f : α → m β} {R : Symbols → β → α → Prop} {l : List α}
    (h : ∀ a ∈ l, Marks (f a) fun u b => R u b a) :
    Marks (l.mapM f) fun u out => List.Forall₂ (R u) out l := by
  induction l with
  | nil => exact marks_pure fun _ _ => .nil
  | cons a rest ih =>
    rw [List.mapM_cons]
    refine marks_bind (h a (List.mem_cons_self ..)) fun b => ?_
    refine marks_bind (ih fun c hc => h c (List.mem_cons_of_mem _ hc)) fun out => ?_
    exact marks_pure fun _ _ others first => .cons first others

variable {name : σ → m Nat} {term : Term σ → m (Term Nat)} {key : κ → m Nat}
  {named : κ → Option PublicKey}
  (atoms : ∀ a : Atom σ, Marks (a.mapM name term) fun _ _ => True)
  (expressions : ∀ e : Expression σ, Marks (e.mapM term) fun _ _ => True)
  (keys : ∀ k, Marks (key k) fun u i => ∃ owner, named k = some owner ∧ u.keys[i]? = some owner)

include keys

omit [LawfulMonad m] in
theorem marks_scope (s : Scope κ) : Marks (s.mapM key) fun u c => c.Marked named u s := by
  cases s with
  | authority => exact marks_pure fun _ _ => trivial
  | previous => exact marks_pure fun _ _ => trivial
  | key k => exact marks_bind (keys k) fun _ => marks_pure fun _ _ found => found

include atoms expressions

theorem marks_rule (r : Rule σ κ) : Marks (r.mapM name term key) fun u q =>
    List.Forall₂ (Scope.Marked named u) q.scopes r.scopes :=
  marks_bind (atoms r.head) fun _ =>
    marks_bind (marks_mapM fun a _ => atoms a) fun _ =>
      marks_bind (marks_mapM fun e _ => expressions e) fun _ =>
        marks_bind (marks_mapM fun s _ => marks_scope keys s) fun _ =>
          marks_pure fun _ _ scopes _ _ _ => scopes

theorem marks_check (c : Check σ κ) : Marks (c.mapM name term key) fun u d =>
    List.Forall₂ (fun q r => List.Forall₂ (Scope.Marked named u) q.scopes r.scopes)
      d.queries c.queries :=
  marks_bind (marks_mapM fun r _ => marks_rule atoms expressions keys r) fun _ =>
    marks_pure fun _ _ queries => queries

end Walks

/-! Into the table of a session. -/

section Intern

theorem marks_internKey (key : PublicKey) : Marks (Symbols.internKey key) fun u i =>
    ∃ owner, some key = some owner ∧ u.keys[i]? = some owner := by
  intro t sound
  obtain ⟨sound, grows, found⟩ := sound.internKey key
  exact ⟨sound, grows, fun u _ later => ⟨key, rfl, later.key? found⟩⟩

theorem marks_internScope (s : Scope PublicKey) :
    Marks s.intern fun u c => c.Marked some u s :=
  marks_scope marks_internKey s

theorem marks_internRule (r : Rule String PublicKey) : Marks r.intern fun u q =>
    List.Forall₂ (Scope.Marked some u) q.scopes r.scopes :=
  marks_rule (fun a => marks_of_ensures (ensures_internAtom a))
    (fun e => marks_of_ensures (ensures_expression ensures_internTerm e)) marks_internKey r

theorem marks_internScopes (l : List (Scope PublicKey)) :
    Marks (l.mapM Scope.intern) fun u out => List.Forall₂ (Scope.Marked some u) out l :=
  marks_mapM fun s _ => marks_internScope s

theorem marks_internRules (l : List (Rule String PublicKey)) :
    Marks (l.mapM Rule.intern) fun u out =>
      List.Forall₂ (fun q r => List.Forall₂ (Scope.Marked some u) q.scopes r.scopes) out l :=
  marks_mapM fun r _ => marks_internRule r

theorem marks_internCheck (c : Check String PublicKey) : Marks c.intern fun u d =>
    List.Forall₂ (fun q r => List.Forall₂ (Scope.Marked some u) q.scopes r.scopes)
      d.queries c.queries :=
  marks_check (fun a => marks_of_ensures (ensures_internAtom a))
    (fun e => marks_of_ensures (ensures_expression ensures_internTerm e)) marks_internKey c

theorem marks_internPolicy (p : Policy String PublicKey) : Marks p.intern fun u d =>
    List.Forall₂ (fun q r => List.Forall₂ (Scope.Marked some u) q.scopes r.scopes)
      d.queries p.queries :=
  marks_bind (marks_mapM fun r _ => marks_internRule r) fun _ =>
    marks_pure fun _ _ queries => queries

end Intern

/-! From the table of a block. -/

section Transfer

variable (source : Symbols)

theorem marks_transferKey (n : Nat) : Marks (source.transferKey n) fun u i =>
    ∃ owner, source.keys[n]? = some owner ∧ u.keys[i]? = some owner := by
  unfold Symbols.transferKey
  cases found : source.keys[n]? with
  | none => exact fun t sound => ⟨sound, .refl t, nofun⟩
  | some key =>
    intro t sound
    obtain ⟨sound, grows, there⟩ := sound.internKey key
    refine ⟨sound, grows, fun i same u _ later => ⟨key, rfl, later.key? ?_⟩⟩
    cases same
    exact there

theorem marks_transferScope (s : Scope Nat) :
    Marks (s.transfer source) fun u c => c.Marked (source.keys[·]?) u s :=
  marks_scope (marks_transferKey source) s

theorem marks_transferRule (r : Rule Nat Nat) : Marks (r.transfer source) fun u q =>
    List.Forall₂ (Scope.Marked (source.keys[·]?) u) q.scopes r.scopes :=
  marks_rule (fun a => marks_of_ensures
      (ensures_atom (ensures_transferName source) (ensures_transferTerm source) a))
    (fun e => marks_of_ensures (ensures_expression (ensures_transferTerm source) e))
    (marks_transferKey source) r

theorem marks_transferCheck (c : Check Nat Nat) : Marks (c.transfer source) fun u d =>
    List.Forall₂ (fun q r => List.Forall₂ (Scope.Marked (source.keys[·]?) u) q.scopes r.scopes)
      d.queries c.queries :=
  marks_check (fun a => marks_of_ensures
      (ensures_atom (ensures_transferName source) (ensures_transferTerm source) a))
    (fun e => marks_of_ensures (ensures_expression (ensures_transferTerm source) e))
    (marks_transferKey source) c

theorem marks_ofTransfer {α : Type} {x : Transfer α} {post : Symbols → α → Prop}
    (h : Marks x post) : Marks (Loading.ofTransfer x) post := by
  intro t sound
  obtain ⟨sound, grows, holds⟩ := h t sound
  exact ⟨sound, grows, fun a same => holds a (Rule.mapError_eq_ok_iff.1 same)⟩

end Transfer

end Keyed

end Warrant
