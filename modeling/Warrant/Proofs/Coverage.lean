import Mathlib.Data.List.Perm.Subperm
import Warrant.Proofs.Session

/-! Which of two tables holds more.
What a computation adds to a table does not depend on the ids that it gets, only on the strings that
it takes in. So a table that has all strings of another one, apart from some, still has them after
both have taken in the same items. Where it lacks none it is then at least as long, since no table
holds a string twice. -/

namespace Warrant

namespace Symbols

/-- The second table has no string twice and all strings of the first but some others. -/
structure CoveredBy (others : List String) (t u : Symbols) : Prop where
  sound : u.Sound
  strings : t.strings ⊆ u.strings ++ others

variable {t u v : Symbols} {others : List String}

namespace CoveredBy

theorem of_grows (h : CoveredBy others t u) (sound : v.Sound) (grows : u.Grows v) :
    CoveredBy others t v :=
  ⟨sound, fun _ known => List.mem_append.2
    ((List.mem_append.1 (h.strings known)).imp_left (grows.strings.subset ·))⟩

theorem fits (h : CoveredBy [] t u) (sound : t.Sound) (fits : u.Fits) : t.Fits := by
  have inside := h.strings
  rw [List.append_nil] at inside
  have shorter := (List.subperm_of_subset sound.strings inside).length_le
  unfold Fits at fits ⊢
  omega

end CoveredBy

theorem mem_strings_intern {s other : String} :
    other ∈ (intern s t).2.strings ↔ other ∈ t.strings ∨ other = s ∧ s ∉ builtins := by
  unfold intern id?
  cases builtin : builtins.idxOf? s with
  | some i =>
    have known : s ∈ builtins := by
      by_contra foreign
      rw [List.idxOf?_eq_none_iff.2 foreign] at builtin
      cases builtin
    exact ⟨.inl, fun h => h.resolve_right fun new => new.2 known⟩
  | none =>
    have foreign : s ∉ builtins := List.idxOf?_eq_none_iff.1 builtin
    cases place : t.strings.idxOf? s with
    | some i =>
      have known : s ∈ t.strings := by
        by_contra new
        rw [List.idxOf?_eq_none_iff.2 new] at place
        cases place
      refine ⟨.inl, fun h => h.elim id fun same => ?_⟩
      rw [same.1]
      exact known
    | none =>
      change other ∈ t.strings ++ [s] ↔ _
      rw [List.mem_append, List.mem_singleton, and_iff_left foreign]

theorem strings_internKey (key : PublicKey) : (internKey key t).2.strings = t.strings := by
  unfold internKey
  split
  · rfl
  · rfl

end Symbols

/-- Pairs of computations on tables of which the second adds all that the first adds. -/
class Covering (m : Type → Type) [Monad m] where
  Covers {α β : Type} : m α → m β → Prop
  covers_pure {α β : Type} (a : α) (b : β) : Covers (pure a) (pure b)
  covers_bind {α β γ δ : Type} {x : m α} {y : m β} {f : α → m γ} {g : β → m δ} :
    Covers x y → (∀ a b, Covers (f a) (g b)) → Covers (x >>= f) (y >>= g)

namespace Covering

instance : Covering (StateM Symbols) where
  Covers x y := ∀ (others : List String) (t u : Symbols), Symbols.CoveredBy others t u →
    Symbols.CoveredBy others (x t).2 (y u).2
  covers_pure _ _ _ _ _ covered := covered
  covers_bind hx hf others t u covered := hf _ _ _ _ _ (hx others t u covered)

/-- With errors, computations are compared only where both come to an end. -/
instance (ε : Type) : Covering (ExceptT ε (StateM Symbols)) where
  Covers x y := ∀ (others : List String) (t u : Symbols), Symbols.CoveredBy others t u →
    ∀ a b, (x.run t).1 = .ok a → (y.run u).1 = .ok b →
      Symbols.CoveredBy others (x.run t).2 (y.run u).2
  covers_pure _ _ _ _ _ covered _ _ _ _ := covered
  covers_bind {_ _ _ _ x y f g} hx hf others t u covered c d first second := by
    rw [Symbols.run_bind_eq] at first second ⊢
    rw [Symbols.run_bind_eq]
    cases done : (x.run t).1 with
    | error e =>
      rw [done] at first
      cases first
    | ok a =>
      cases done' : (y.run u).1 with
      | error e =>
        rw [done'] at second
        cases second
      | ok b =>
        rw [done] at first
        rw [done'] at second
        exact hf a b _ _ _ (hx others t u covered a b done done') c d first second

/-! Walks over lists and items. -/

section Walks

variable {m : Type → Type} [Monad m] [Covering m] {α β σ κ : Type}

theorem covers_mapM [LawfulMonad m] {f g : α → m β} (h : ∀ a, Covers (f a) (g a)) (l : List α) :
    Covers (l.mapM f) (l.mapM g) := by
  induction l with
  | nil => exact covers_pure _ _
  | cons a rest ih =>
    rw [List.mapM_cons, List.mapM_cons]
    exact covers_bind (h a) fun _ _ => covers_bind ih fun _ _ => covers_pure _ _

variable {v name : σ → m Nat} {term : Term σ → m (Term Nat)} {key : κ → m Nat}

mutual

theorem covers_term (known : ∀ n, Covers (v n) (v n)) (names : ∀ n, Covers (name n) (name n)) :
    (t : Term σ) → Covers (t.mapM v name) (t.mapM v name)
  | .var n => covers_bind (known n) fun _ _ => covers_pure _ _
  | .str n => covers_bind (names n) fun _ _ => covers_pure _ _
  | .int _ => covers_pure _ _
  | .date _ => covers_pure _ _
  | .bytes _ => covers_pure _ _
  | .bool _ => covers_pure _ _
  | .set elements =>
    covers_bind (covers_terms known names elements) fun _ _ => covers_pure _ _

theorem covers_terms (known : ∀ n, Covers (v n) (v n)) (names : ∀ n, Covers (name n) (name n)) :
    (l : List (Term σ)) → Covers (Term.mapAllM v name l) (Term.mapAllM v name l)
  | [] => covers_pure _ _
  | t :: rest => covers_bind (covers_term known names t) fun _ _ =>
    covers_bind (covers_terms known names rest) fun _ _ => covers_pure _ _

end

variable [LawfulMonad m] (names : ∀ n, Covers (name n) (name n))
  (terms : ∀ t, Covers (term t) (term t)) (keys : ∀ k, Covers (key k) (key k))

include terms

omit [LawfulMonad m] in
theorem covers_op (op : Op σ) : Covers (op.mapM term) (op.mapM term) := by
  cases op with
  | value t => exact covers_bind (terms t) fun _ _ => covers_pure _ _
  | unary op => exact covers_pure _ _
  | binary op => exact covers_pure _ _

theorem covers_expression (e : Expression σ) : Covers (e.mapM term) (e.mapM term) :=
  covers_bind (covers_mapM (covers_op terms) e.ops) fun _ _ => covers_pure _ _

include names

theorem covers_atom (a : Atom σ) : Covers (a.mapM name term) (a.mapM name term) :=
  covers_bind (names a.name) fun _ _ =>
    covers_bind (covers_mapM terms a.terms) fun _ _ => covers_pure _ _

omit names terms

include keys

omit [LawfulMonad m] in
theorem covers_scope (s : Scope κ) : Covers (s.mapM key) (s.mapM key) := by
  cases s with
  | authority => exact covers_pure _ _
  | previous => exact covers_pure _ _
  | key k => exact covers_bind (keys k) fun _ _ => covers_pure _ _

include names terms

theorem covers_rule (r : Rule σ κ) : Covers (r.mapM name term key) (r.mapM name term key) :=
  covers_bind (covers_atom names terms r.head) fun _ _ =>
    covers_bind (covers_mapM (covers_atom names terms) r.body) fun _ _ =>
      covers_bind (covers_mapM (covers_expression terms) r.expressions) fun _ _ =>
        covers_bind (covers_mapM (covers_scope keys) r.scopes) fun _ _ => covers_pure _ _

theorem covers_check (c : Check σ κ) : Covers (c.mapM name term key) (c.mapM name term key) :=
  covers_bind (covers_mapM (covers_rule names terms keys) c.queries) fun _ _ => covers_pure _ _

end Walks

/-! Into the table of a session. -/

section Intern

theorem covers_intern (s : String) : Covers (Symbols.intern s) (Symbols.intern s) := by
  intro others t u covered
  refine ⟨(covered.sound.intern s).1, fun other h => ?_⟩
  rw [List.mem_append, Symbols.mem_strings_intern]
  rw [Symbols.mem_strings_intern] at h
  rcases h with old | new
  · exact (List.mem_append.1 (covered.strings old)).imp_left .inl
  · exact .inl (.inr new)

theorem covers_internKey (key key' : PublicKey) :
    Covers (Symbols.internKey key) (Symbols.internKey key') := by
  intro others t u covered
  refine ⟨(covered.sound.internKey key').1, ?_⟩
  rw [Symbols.strings_internKey, Symbols.strings_internKey]
  exact covered.strings

theorem covers_internTerm (t : Term String) : Covers t.intern t.intern :=
  covers_term (fun n => covers_bind (covers_intern n) fun _ _ => covers_pure _ _) covers_intern t

theorem covers_internAtom (a : Atom String) : Covers a.intern a.intern :=
  covers_atom covers_intern covers_internTerm a

theorem covers_internScope (s : Scope PublicKey) : Covers s.intern s.intern :=
  covers_scope (fun key => covers_internKey key key) s

theorem covers_internRule (r : Rule String PublicKey) : Covers r.intern r.intern :=
  covers_rule covers_intern covers_internTerm (fun key => covers_internKey key key) r

theorem covers_internCheck (c : Check String PublicKey) : Covers c.intern c.intern :=
  covers_check covers_intern covers_internTerm (fun key => covers_internKey key key) c

theorem covers_internPolicy (p : Policy String PublicKey) : Covers p.intern p.intern :=
  covers_bind (covers_mapM covers_internRule p.queries) fun _ _ => covers_pure _ _

end Intern

/-! From the table of a block. -/

section Transfer

variable {ε : Type}

theorem covers_throw {α β : Type} {e : ε} {y : ExceptT ε (StateM Symbols) β} :
    Covers (throw e : ExceptT ε (StateM Symbols) α) y :=
  fun _ _ _ _ _ _ failed => nomatch failed

theorem covers_lift {α β : Type} {x : StateM Symbols α} {y : StateM Symbols β}
    (h : Covers x y) : Covers (ExceptT.lift x : ExceptT ε (StateM Symbols) α) (ExceptT.lift y) :=
  fun others t u covered _ _ _ _ => h others t u covered

/-- Steps that leave the tables alone. -/
theorem covers_still {α β : Type} {x : ExceptT ε (StateM Symbols) α}
    {y : ExceptT ε (StateM Symbols) β} (first : ∀ t, (x.run t).2 = t)
    (second : ∀ u, (y.run u).2 = u) : Covers x y := by
  intro others t u covered _ _ _ _
  rw [first, second]
  exact covered

variable (source : Symbols)

theorem covers_transferName (n : Nat) :
    Covers (source.transferName n) (source.transferName n) := by
  cases known : source.resolve n with
  | error e =>
    unfold Symbols.transferName
    rw [known]
    exact covers_throw
  | ok s =>
    unfold Symbols.transferName
    rw [known]
    exact covers_lift (covers_intern s)

theorem covers_transferVariable (n : Nat) :
    Covers (source.transferVariable n) (source.transferVariable n) :=
  covers_bind (covers_transferName source n) fun _ _ => covers_still (fun _ => rfl) fun _ => rfl

theorem covers_transferKey (n : Nat) :
    Covers (source.transferKey n) (source.transferKey n) := by
  unfold Symbols.transferKey
  split
  · exact covers_lift (covers_internKey _ _)
  · exact covers_throw

theorem covers_transferTerm (t : Term Nat) : Covers (t.transfer source) (t.transfer source) := by
  unfold Term.transfer
  split
  · exact covers_term (covers_transferVariable source) (covers_transferName source) t
  · exact covers_throw

theorem covers_transferFact (a : Fact Nat) :
    Covers (Fact.transfer source a) (Fact.transfer source a) := by
  refine covers_bind (covers_atom (covers_transferName source) (covers_transferTerm source) a)
    fun _ _ => covers_still (fun t => ?_) fun u => ?_
  · split
    · rfl
    · rfl
  · split
    · rfl
    · rfl

theorem covers_transferScope (s : Scope Nat) : Covers (s.transfer source) (s.transfer source) :=
  covers_scope (covers_transferKey source) s

theorem covers_transferRule (r : Rule Nat Nat) : Covers (r.transfer source) (r.transfer source) :=
  covers_rule (covers_transferName source) (covers_transferTerm source) (covers_transferKey source)
    r

theorem covers_transferCheck (c : Check Nat Nat) :
    Covers (c.transfer source) (c.transfer source) :=
  covers_check (covers_transferName source) (covers_transferTerm source)
    (covers_transferKey source) c

/-! The blocks of a token, and more blocks. -/

/-- What only the second computation does adds to its table alone. -/
theorem covers_of_ensures {α β : Type} {y : ExceptT ε (StateM Symbols) β}
    {post : Symbols → β → Prop} (h : Interning.Ensures y post) (a : α) :
    Covers (pure a : ExceptT ε (StateM Symbols) α) y := by
  intro others t u covered _ _ _ _
  obtain ⟨sound, grows, -⟩ := h u covered.sound
  exact covered.of_grows sound grows

theorem covers_ofTransfer {α β : Type} {x : Transfer α} {y : Transfer β} (h : Covers x y) :
    Covers (Loading.ofTransfer x) (Loading.ofTransfer y) :=
  fun others t u covered a b first second =>
    h others t u covered a b (Rule.mapError_eq_ok_iff.1 first) (Rule.mapError_eq_ok_iff.1 second)

open Loading

theorem covers_owners (l more : List Block) (index : Nat) (found found' : KeyOwners) :
    Covers (owners l index found) (owners (l ++ more) index found') := by
  induction l generalizing index found found' with
  | nil => exact covers_of_ensures (ensures_owners more index found') _
  | cons b rest ih =>
    rw [List.cons_append, owners, owners]
    split
    · exact ih (index + 1) found found'
    · exact covers_bind (covers_lift (covers_internKey _ _)) fun _ _ => ih (index + 1) _ _

theorem covers_block (owners owners' : KeyOwners) (index : Nat) (b : Block) :
    Covers (block owners index b) (block owners' index b) := by
  unfold block
  refine covers_bind (covers_ofTransfer (covers_mapM (covers_transferScope b.symbols) b.scopes))
    fun _ _ => ?_
  refine covers_bind (covers_ofTransfer (covers_mapM (covers_transferFact b.symbols) b.facts))
    fun _ _ => ?_
  refine covers_bind (covers_mapM (fun r => ?_) b.rules) fun _ _ => ?_
  · refine covers_bind (covers_ofTransfer (covers_transferRule b.symbols r)) fun q q' => ?_
    exact covers_bind (covers_still (checkRule_still index q) (checkRule_still index q'))
      fun _ _ => covers_pure _ _
  refine covers_bind (covers_ofTransfer (covers_mapM (covers_transferCheck b.symbols) b.checks))
    fun _ _ => ?_
  exact covers_bind (covers_still (checkRules_still index _) (checkRules_still index _))
    fun _ _ => covers_pure _ _

theorem covers_blocks (owners owners' : KeyOwners) (l more : List Block) (index : Nat) :
    Covers (blocks owners l index) (blocks owners' (l ++ more) index) := by
  induction l generalizing index with
  | nil => exact covers_of_ensures (ensures_blocks (fun _ => []) owners' more index) _
  | cons b rest ih =>
    exact covers_bind (covers_block owners owners' index b) fun _ _ =>
      covers_bind (ih (index + 1)) fun _ _ => covers_pure _ _

theorem covers_token (l more : List Block) : Covers (token ⟨l⟩) (token ⟨l ++ more⟩) :=
  covers_bind (covers_owners l more 0 {} {}) fun _ _ =>
    covers_bind (covers_blocks _ _ l more 0) fun _ _ => covers_pure _ _

end Transfer

end Covering

namespace Authorizer

open Covering

/-- The rules of an authorizer are taken in after its scopes. -/
theorem ready_symbols_eq (a : Authorizer) : a.ready.symbols =
    ((a.pending.mapM Rule.intern) ((a.scopes.mapM Scope.intern) a.symbols).2).2 :=
  a.ready_symbols

/-- And then its scopes once more, its checks and its policies. -/
theorem table_eq (a : Authorizer) : a.table = ((a.policies.mapM Policy.intern)
    ((a.checks.mapM Check.intern) ((a.scopes.mapM Scope.intern) a.ready.symbols).2).2).2 := by
  rw [← a.ready_policies, ← a.ready_checks, ← a.ready_scopes]
  rfl

/-- Two authorizers with the same statements, of which the second has the larger table. -/
structure CoveredBy (a c : Authorizer) : Prop where
  symbols : Symbols.CoveredBy [] a.symbols c.symbols
  scopes : a.scopes = c.scopes
  pending : a.pending = c.pending
  checks : a.checks = c.checks
  policies : a.policies = c.policies

namespace CoveredBy

variable {a c : Authorizer}

theorem addToken {start : Authorizer} (sound : start.symbols.Sound) {t : Token} {b : Block}
    (taken : start.addToken t = .ok a) (taken' : start.addToken (t.append b) = .ok c) :
    a.CoveredBy c := by
  obtain ⟨-, -, owners, blocks, symbols, run, rfl⟩ := addToken_eq_ok taken
  obtain ⟨-, -, owners', blocks', symbols', run', rfl⟩ := addToken_eq_ok taken'
  have covered := covers_token t.blocks [b] [] start.symbols start.symbols ⟨sound, by simp⟩
  rw [show (Loading.token t).run start.symbols = _ from run,
    show (Loading.token ⟨t.blocks ++ [b]⟩).run start.symbols = _ from run'] at covered
  exact ⟨covered _ _ rfl rfl, rfl, rfl, rfl, rfl⟩

theorem add (h : a.CoveredBy c) (k : Call) : (a.add k).CoveredBy (c.add k) := by
  obtain ⟨symbols, scopes, pending, checks, policies⟩ := h
  cases k with
  | token t => exact ⟨symbols, scopes, pending, checks, policies⟩
  | fact f => exact ⟨covers_internAtom f _ _ _ symbols, scopes, pending, checks, policies⟩
  | rule r => exact ⟨symbols, scopes, congrArg (· ++ [r]) pending, checks, policies⟩
  | check k => exact ⟨symbols, scopes, pending, congrArg (· ++ [k]) checks, policies⟩
  | policy p => exact ⟨symbols, scopes, pending, checks, congrArg (· ++ [p]) policies⟩
  | scope s => exact ⟨symbols, congrArg (· ++ [s]) scopes, pending, checks, policies⟩

theorem calls (h : a.CoveredBy c) (loaded : a.blocks.isSome) (loaded' : c.blocks.isSome)
    (cs : List Call) : (a.calls cs).CoveredBy (c.calls cs) := by
  rw [calls_of_loaded loaded, calls_of_loaded loaded']
  induction cs generalizing a c with
  | nil => exact h
  | cons k rest ih =>
    rw [List.foldl_cons, List.foldl_cons]
    by_cases valid : k.Valid
    · rw [if_pos valid, if_pos valid]
      exact ih (h.add k) ((congrArg Option.isSome blocks_add).trans loaded)
        ((congrArg Option.isSome blocks_add).trans loaded')
    · rw [if_neg valid, if_neg valid]
      exact ih h loaded loaded'

theorem ready (h : a.CoveredBy c) : Symbols.CoveredBy [] a.ready.symbols c.ready.symbols := by
  have scopes := covers_mapM covers_internScope a.scopes _ _ _ h.symbols
  have rules := covers_mapM covers_internRule a.pending _ _ _ scopes
  rw [ready_symbols_eq, ready_symbols_eq, ← h.scopes, ← h.pending]
  exact rules

/-- The tables that the first evaluation asks with are covered in the same way. -/
theorem table (h : a.CoveredBy c) : Symbols.CoveredBy [] a.table c.table := by
  have scopes := covers_mapM covers_internScope a.scopes _ _ _ h.ready
  have checks := covers_mapM covers_internCheck a.checks _ _ _ scopes
  have policies := covers_mapM covers_internPolicy a.policies _ _ _ checks
  rw [table_eq, table_eq, ← h.scopes, ← h.checks, ← h.policies]
  exact policies

end CoveredBy

end Authorizer

end Warrant
