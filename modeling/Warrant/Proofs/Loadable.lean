import Warrant.Proofs.Session

/-! Which tokens can be taken in.
Whether a token is taken in is told by the token: every id in it must stand for something in the
table of its block, sets must hold plain values, facts no variable, and the body of a rule must bind
the names of all its variables. The table of the session has no say in it as long as the ids of
variables fit, so that a token that one session takes in is taken in by every other. -/

namespace Warrant

open Interning

/-! What can be taken in. -/

/-- Neither a variable nor a set, and a string of the table if a string. -/
def Term.Plain (source : Symbols) : Term Nat → Prop
  | .str i => (source.text? i).isSome
  | t => t.isPlain

/-- Whatever the term names is in the table, and a set holds plain values. -/
def Term.Resolves (source : Symbols) : Term Nat → Prop
  | .var i => (source.text? i).isSome
  | .str i => (source.text? i).isSome
  | .set elements => ∀ t ∈ elements, t.Plain source
  | _ => True

def Atom.Resolves (source : Symbols) (a : Atom Nat) : Prop :=
  (source.text? a.name).isSome ∧ ∀ t ∈ a.terms, t.Resolves source

def Expression.Resolves (source : Symbols) (e : Expression Nat) : Prop :=
  ∀ t ∈ e.terms, t.Resolves source

def Scope.Resolves (source : Symbols) : Scope Nat → Prop
  | .key k => (source.keys[k]?).isSome
  | _ => True

structure Rule.Resolves (source : Symbols) (r : Rule Nat Nat) : Prop where
  head : r.head.Resolves source
  body : ∀ a ∈ r.body, a.Resolves source
  expressions : ∀ e ∈ r.expressions, e.Resolves source
  scopes : ∀ s ∈ r.scopes, s.Resolves source

/-- The body has a variable of the same name for every variable of the rule. -/
def Rule.Bound (source : Symbols) (r : Rule Nat Nat) : Prop :=
  ∀ v ∈ r.head.vars ++ r.expressions.flatMap Expression.vars,
    ∃ w ∈ r.body.flatMap Atom.vars, source.textOf w = source.textOf v

structure Block.Loadable (b : Block) : Prop where
  scopes : ∀ s ∈ b.scopes, s.Resolves b.symbols
  facts : ∀ f ∈ b.facts, Atom.Resolves b.symbols f ∧ f.vars = []
  rules : ∀ r ∈ b.rules, r.Resolves b.symbols ∧ r.Bound b.symbols
  checks : ∀ c ∈ b.checks, ∀ q ∈ c.queries, q.Resolves b.symbols ∧ q.Bound b.symbols

def Token.Loadable (t : Token) : Prop := ∀ b ∈ t.blocks, b.Loadable

/-! Computations that come to a result on a condition. -/

/-- The table stays sound and only grows, and if what it comes to fits, there is a result exactly
on the condition. -/
def Settles {ε α : Type} (x : ExceptT ε (StateM Symbols) α) (condition : Prop) : Prop :=
  ∀ t, t.Sound → (x.run t).2.Sound ∧ t.Grows (x.run t).2 ∧
    ((x.run t).2.Fits → ((∃ a, (x.run t).1 = .ok a) ↔ condition))

section Settles

variable {ε α β : Type} {x : ExceptT ε (StateM Symbols) α} {P Q : Prop}

theorem Settles.ensures (h : Settles x P) : Ensures x fun _ _ => True :=
  fun t sound => ⟨(h t sound).1, (h t sound).2.1, fun _ _ _ _ _ _ => trivial⟩

theorem Settles.congr (h : Settles x P) (same : P ↔ Q) : Settles x Q := by
  intro t sound
  rw [← same]
  exact h t sound

theorem settles_pure (a : α) : Settles (pure a : ExceptT ε (StateM Symbols) α) True :=
  fun t sound => ⟨sound, .refl t, fun _ => ⟨fun _ => trivial, fun _ => ⟨a, rfl⟩⟩⟩

theorem settles_throw (e : ε) : Settles (throw e : ExceptT ε (StateM Symbols) α) False :=
  fun t sound => ⟨sound, .refl t, fun _ => ⟨nofun, nofun⟩⟩

/-- A test leaves the table alone. -/
theorem settles_except {result : Except ε α} :
    Settles (ExceptT.mk (pure result) : ExceptT ε (StateM Symbols) α) (∃ a, result = .ok a) :=
  fun t sound => ⟨sound, .refl t, fun _ => Iff.rfl⟩

theorem settles_lift {y : StateM Symbols α} {post : Symbols → α → Prop} (h : Ensures y post) :
    Settles (ExceptT.lift y : ExceptT ε (StateM Symbols) α) True := by
  intro t sound
  obtain ⟨sound, grows, -⟩ := h t sound
  exact ⟨sound, grows, fun _ => ⟨fun _ => trivial, fun _ => ⟨_, rfl⟩⟩⟩

/-- What follows may depend on a result, as long as the condition for it can be told beforehand. -/
theorem settles_bind {f : α → ExceptT ε (StateM Symbols) β} {mid : Symbols → α → Prop}
    {R : α → Prop} (first : Settles x P) (result : Ensures x mid) (next : ∀ a, Settles (f a) (R a))
    (same : P → ∀ u : Symbols, u.Sound → u.Fits → ∀ a, mid u a → (R a ↔ Q)) :
    Settles (x >>= f) (P ∧ Q) := by
  intro t sound
  obtain ⟨-, -, holds⟩ := result t sound
  obtain ⟨sound, grows, settled⟩ := first t sound
  rw [Symbols.run_bind_eq]
  cases run : (x.run t).1 with
  | error e =>
    rw [run] at settled
    refine ⟨sound, grows, fun fits => ⟨nofun, fun both => ?_⟩⟩
    obtain ⟨a, failed⟩ := (settled fits).2 both.1
    cases failed
  | ok a =>
    obtain ⟨sound', grows', later⟩ := next a _ sound
    refine ⟨sound', grows.trans grows', fun fits => (later fits).trans ?_⟩
    have fits := grows'.fits fits
    have reached : P := (settled fits).1 ⟨a, run⟩
    rw [same reached _ sound fits a (holds a run _ sound fits (.refl _))]
    exact (and_iff_right reached).symm

theorem settles_seq {f : α → ExceptT ε (StateM Symbols) β} (first : Settles x P)
    (next : ∀ a, Settles (f a) Q) : Settles (x >>= f) (P ∧ Q) :=
  settles_bind first first.ensures next fun _ _ _ _ _ _ => Iff.rfl

/-- The last step only puts the result together. -/
theorem settles_map (f : α → β) (first : Settles x P) :
    Settles (x >>= fun a => pure (f a)) P :=
  (settles_seq first fun a => settles_pure (f a)).congr (and_iff_left trivial)

theorem settles_mapM {f : α → ExceptT ε (StateM Symbols) β} {R : α → Prop} {l : List α}
    (h : ∀ a ∈ l, Settles (f a) (R a)) : Settles (l.mapM f) (∀ a ∈ l, R a) := by
  induction l with
  | nil => exact (settles_pure _).congr (by simp)
  | cons a rest ih =>
    rw [List.mapM_cons]
    have later := ih fun b hb => h b (List.mem_cons_of_mem _ hb)
    refine (settles_seq (h a (List.mem_cons_self ..)) fun b => ?_).congr List.forall_mem_cons.symm
    exact settles_map _ later

theorem settles_forM {f : α → ExceptT ε (StateM Symbols) PUnit} {R : α → Prop} {l : List α}
    (h : ∀ a ∈ l, Settles (f a) (R a)) : Settles (l.forM f) (∀ a ∈ l, R a) := by
  induction l with
  | nil => exact (settles_pure _).congr (by simp)
  | cons a rest ih =>
    have later := ih fun b hb => h b (List.mem_cons_of_mem _ hb)
    exact (settles_seq (h a (List.mem_cons_self ..)) fun _ => later).congr
      List.forall_mem_cons.symm

end Settles

/-! Items on their way from the table of a block. -/

section Transfer

variable (source : Symbols)

theorem settles_transferName (n : Nat) :
    Settles (source.transferName n) (source.text? n).isSome := by
  have resolved : Settles (ExceptT.mk (pure (source.resolve n)) : Transfer String)
      (source.text? n).isSome := by
    refine settles_except.congr ?_
    unfold Symbols.resolve
    cases source.text? n with
    | none => simp
    | some s => simp
  exact (settles_seq resolved fun s => settles_lift (ensures_intern s)).congr
    (and_iff_left trivial)

theorem settles_transferVariable (n : Nat) :
    Settles (source.transferVariable n) (source.text? n).isSome := by
  refine (settles_bind (Q := True) (settles_transferName source n)
    (ensures_transferName source n) (fun _ => settles_except) ?_).congr (and_iff_left trivial)
  intro _ u _ fits i found
  have bound : i < variableLimit := Nat.lt_of_lt_of_le (Symbols.lt_of_text? found) fits
  exact iff_true_intro ⟨i, if_pos bound⟩

theorem settles_transferKey (n : Nat) :
    Settles (source.transferKey n) (source.keys[n]?).isSome := by
  unfold Symbols.transferKey
  cases source.keys[n]? with
  | none => exact (settles_throw _).congr (by simp)
  | some key => exact (settles_lift (ensures_internKey key)).congr (by simp)

theorem settles_plain {t : Term Nat} (plain : t.isPlain) :
    Settles (t.mapM source.transferVariable source.transferName) (t.Plain source) := by
  cases t with
  | var => cases plain
  | set => cases plain
  | str i => exact settles_map _ (settles_transferName source i)
  | _ => exact (settles_pure _).congr (by simp [Term.Plain, Term.isPlain])

theorem settles_plains {l : List (Term Nat)} (plain : l.all Term.isPlain) :
    Settles (Term.mapAllM source.transferVariable source.transferName l)
      (∀ t ∈ l, t.Plain source) := by
  induction l with
  | nil => exact (settles_pure _).congr (by simp)
  | cons t rest ih =>
    rw [List.all_cons, Bool.and_eq_true] at plain
    refine (settles_seq (settles_plain source plain.1) fun _ => ?_).congr List.forall_mem_cons.symm
    exact settles_map _ (ih plain.2)

theorem Term.plain_of_resolved {t : Term Nat} (h : t.Plain source) : t.isPlain := by
  cases t with
  | str => rfl
  | _ => exact h

theorem settles_transferTerm (t : Term Nat) : Settles (t.transfer source) (t.Resolves source) := by
  unfold Term.transfer
  split
  · rename_i formed
    cases t with
    | var i => exact settles_map _ (settles_transferVariable source i)
    | str i => exact settles_map _ (settles_transferName source i)
    | set l => exact settles_map _ (settles_plains source formed)
    | _ => exact settles_pure _
  · rename_i malformed
    refine (settles_throw _).congr (iff_of_false id fun resolves => malformed ?_)
    cases t with
    | set l => exact List.all_eq_true.2 fun t ht => Term.plain_of_resolved source (resolves t ht)
    | _ => rfl

theorem settles_transferAtom (a : Atom Nat) :
    Settles (a.transfer source) (a.Resolves source) :=
  settles_seq (settles_transferName source a.name) fun _ =>
    settles_map _ (settles_mapM fun t _ => settles_transferTerm source t)

theorem settles_transferExpression (e : Expression Nat) :
    Settles (e.transfer source) (e.Resolves source) := by
  have op (o : Op Nat) : Settles (o.mapM (Term.transfer source))
      (∀ t, o = .value t → t.Resolves source) := by
    cases o with
    | value t => exact (settles_map _ (settles_transferTerm source t)).congr (by simp)
    | unary => exact (settles_pure _).congr (by simp)
    | binary => exact (settles_pure _).congr (by simp)
  refine (settles_map _ (settles_mapM fun o _ => op o)).congr ?_
  simp only [Expression.Resolves, Expression.terms, List.mem_filterMap]
  constructor
  · rintro h t ⟨o, ho, same⟩
    cases o with
    | value => exact h _ ho t (congrArg _ (Option.some.inj same))
    | unary => cases same
    | binary => cases same
  · rintro h o ho t rfl
    exact h t ⟨_, ho, rfl⟩

theorem settles_transferScope (s : Scope Nat) :
    Settles (s.transfer source) (s.Resolves source) := by
  cases s with
  | key k => exact settles_map _ (settles_transferKey source k)
  | _ => exact settles_pure _

theorem settles_transferRule (r : Rule Nat Nat) :
    Settles (r.transfer source) (r.Resolves source) := by
  have head := settles_transferAtom source r.head
  have body := settles_mapM fun a (_ : a ∈ r.body) => settles_transferAtom source a
  have expressions := settles_mapM
    fun e (_ : e ∈ r.expressions) => settles_transferExpression source e
  have scopes := settles_mapM fun s (_ : s ∈ r.scopes) => settles_transferScope source s
  refine (settles_seq head fun _ => settles_seq body fun _ => settles_seq expressions fun _ =>
    settles_map _ scopes).congr ?_
  exact ⟨fun h => ⟨h.1, h.2.1, h.2.2.1, h.2.2.2⟩,
    fun h => ⟨h.head, h.body, h.expressions, h.scopes⟩⟩

theorem settles_transferCheck (c : Check Nat Nat) :
    Settles (c.transfer source) (∀ q ∈ c.queries, q.Resolves source) :=
  settles_map _ (settles_mapM fun q _ => settles_transferRule source q)

end Transfer

/-! Facts without variables, and rules whose variables are bound. -/

theorem Term.allGround_iff {σ : Type} {l : List (Term σ)} :
    allGround l ↔ ∀ t ∈ l, t.isGround := by
  induction l with
  | nil => simp [allGround]
  | cons t rest ih => rw [allGround, Bool.and_eq_true, ih, List.forall_mem_cons]

mutual

theorem Term.isGround_rename {σ : Type} {f : σ → String} :
    (t : Term σ) → (t.rename f).isGround = t.isGround
  | .set l => by
    rw [rename_set, isGround, isGround, Bool.eq_iff_iff, allGround_iff, allGround_iff,
      ← allGround_rename (f := f) l]
    simp only [Sorted.mem_ofList, List.forall_mem_map]
  | .var _ | .int _ | .str _ | .date _ | .bytes _ | .bool _ => rfl

theorem Term.allGround_rename {σ : Type} {f : σ → String} :
    (l : List (Term σ)) → (∀ t ∈ l, (t.rename f).isGround) ↔ ∀ t ∈ l, t.isGround
  | [] => by simp
  | t :: rest => by
    rw [List.forall_mem_cons, List.forall_mem_cons, isGround_rename t, allGround_rename rest]

end

section Vars

variable {u source : Symbols}

/-- A plain value holds no variable. -/
theorem Term.isGround_of_plain {t : Term Nat} (h : t.Plain source) : t.isGround := by
  cases t with
  | var => cases h
  | set => cases h
  | _ => rfl

/-- Of the terms that can be taken in only the variables hold variables. -/
theorem Term.isGround_iff {t : Term Nat} (h : t.Resolves source) :
    t.isGround ↔ t.var? = none := by
  cases t with
  | var i => exact iff_of_false nofun nofun
  | set l => exact iff_of_true (allGround_iff.2 fun t ht => isGround_of_plain (h t ht)) rfl
  | _ => exact iff_of_true rfl rfl

/-- A fact is taken in when it can be and has no variable. -/
theorem isGround_of_names {a b : Fact Nat} (h : Atom.Resolves source a)
    (named : b.Names u (a.rename source.textOf)) : b.isGround ↔ a.vars = [] := by
  have same : (∀ t ∈ b.terms, t.isGround) ↔ ∀ t ∈ a.terms, t.isGround := by
    refine forall_iff_of_forall₂ (List.forall₂_map_right_iff.1 named.terms) fun t s both => ?_
    rw [← Term.isGround_rename (f := source.textOf) s, ← both.2, Term.read, Term.isGround_rename]
  rw [Atom.isGround, List.all_eq_true, same, Atom.vars, List.filterMap_eq_nil_iff]
  exact forall₂_congr fun t ht => Term.isGround_iff (h.2 t ht)

theorem Term.var?_rename {σ : Type} {f : σ → String} (t : Term σ) :
    (t.rename f).var? = t.var?.map f := by
  cases t with
  | set => rw [rename_set]; rfl
  | _ => rfl

theorem Atom.vars_rename {σ : Type} {f : σ → String} (a : Atom σ) :
    (a.rename f).vars = a.vars.map f := by
  unfold vars rename
  rw [List.filterMap_map, List.map_filterMap]
  exact congrArg (List.filterMap · _) (funext Term.var?_rename)

theorem Expression.vars_rename {σ : Type} {f : σ → String} (e : Expression σ) :
    (e.rename f).vars = e.vars.map f := by
  unfold vars rename
  rw [List.filterMap_map, List.map_filterMap]
  refine congrArg (List.filterMap · _) (funext fun op => ?_)
  cases op with
  | value t => exact Term.var?_rename t
  | _ => rfl

theorem Rule.isWellFormed_iff {σ κ : Type} [Ord σ] [DecidableEq σ] [Std.LawfulEqOrd σ]
    {r : Rule σ κ} : r.isWellFormed ↔
      ∀ v ∈ r.head.vars ++ r.expressions.flatMap Expression.vars, v ∈ r.body.flatMap Atom.vars := by
  rw [isWellFormed, freeVars, List.isEmpty_iff, List.eq_nil_iff_forall_not_mem]
  refine forall_congr' fun v => ?_
  simp only [Sorted.mem_ofList, List.mem_filter, Bool.not_eq_true', List.contains_eq_mem,
    decide_eq_false_iff_not, not_and, not_not]

/-- Bound are the names of the variables, whatever ids they have got. -/
theorem Rule.isWellFormed_of_names (sound : u.Sound) {r q : Rule Nat Nat}
    (named : q.Names u (r.rename source.textOf source.keyOf)) :
    q.isWellFormed ↔ r.Bound source := by
  have body := vars_of_names named.body
  have wanted := List.rel_append named.head.vars
    (List.rel_flatMap named.expressions fun _ _ => Expression.Names.vars)
  have bound {v : Nat} {name : String} (text : u.text? v = some name) :
      v ∈ q.body.flatMap Atom.vars ↔
        ∃ w ∈ r.body.flatMap Atom.vars, source.textOf w = name := by
    rw [mem_iff_of_texts sound body text]
    simp [rename, List.flatMap_map, Atom.vars_rename, ← List.map_flatMap]
  rw [isWellFormed_iff]
  simp only [rename, List.flatMap_map, Atom.vars_rename, Expression.vars_rename,
    ← List.map_flatMap, ← List.map_append, List.forall₂_map_right_iff] at wanted
  exact forall_iff_of_forall₂ wanted fun v w text => bound text

end Vars

/-! A token on its way into a session. -/

section Tokens

theorem settles_transferFact (source : Symbols) (f : Fact Nat) :
    Settles (Fact.transfer source f) (Atom.Resolves source f ∧ f.vars = []) := by
  refine settles_bind (R := fun moved => moved.isGround) (settles_transferAtom source f)
    (ensures_atom (ensures_transferName source) (ensures_transferTerm source) f) (fun moved => ?_)
    fun resolves u _ _ moved named => isGround_of_names resolves named
  split
  · rename_i ground
    exact (settles_pure _).congr (iff_of_true trivial ground)
  · rename_i bare
    exact (settles_throw _).congr (iff_of_false id bare)

theorem settles_ofTransfer {α : Type} {x : Transfer α} {P : Prop} (h : Settles x P) :
    Settles (Loading.ofTransfer x) P := by
  intro t sound
  obtain ⟨sound, grows, settled⟩ := h t sound
  refine ⟨sound, grows, fun fits => (exists_congr fun a => ?_).trans (settled fits)⟩
  exact Rule.mapError_eq_ok_iff

namespace Loading

theorem settles_checkRule (index : Nat) (r : Rule Nat Nat) :
    Settles (checkRule index r) r.isWellFormed := by
  intro t sound
  unfold checkRule
  cases formed : r.isWellFormed with
  | false => exact ⟨sound, .refl t, fun _ => iff_of_false nofun nofun⟩
  | true => exact ⟨sound, .refl t, fun _ => iff_of_true ⟨_, rfl⟩ rfl⟩

theorem settles_owners (blocks : List Block) (index : Nat) (found : KeyOwners) :
    Settles (owners blocks index found) True := by
  induction blocks generalizing index found with
  | nil => exact settles_pure _
  | cons b rest ih =>
    unfold owners
    split
    · exact ih (index + 1) found
    · exact (settles_seq (settles_lift (ensures_internKey _)) fun _ => ih (index + 1) _).congr
        (and_iff_left trivial)

theorem settles_blockRule (owners : KeyOwners) (index : Nat) (trust : Trust) (source : Symbols)
    (r : Rule Nat Nat) :
    Settles (do
      let r ← ofTransfer (r.transfer source)
      checkRule index r
      return (Trust.ofScopes r.scopes trust (.block index) owners, r) : Loading _)
      (r.Resolves source ∧ r.Bound source) :=
  settles_bind (settles_ofTransfer (settles_transferRule source r))
    (ensures_ofTransfer (ensures_transferRule source r))
    (fun q => settles_map _ (settles_checkRule index q))
    fun _ _ sound _ _ named => Rule.isWellFormed_of_names sound named

theorem settles_checks (index : Nat) (b : Block) {α : Type} (put : List (Check Nat Nat) → α) :
    Settles (do
      let checks ← ofTransfer (b.checks.mapM (Check.transfer b.symbols))
      (checks.flatMap Check.queries).forM (checkRule index)
      return put checks : Loading α)
      (∀ c ∈ b.checks, ∀ q ∈ c.queries, q.Resolves b.symbols ∧ q.Bound b.symbols) := by
  have moved := settles_mapM fun c (_ : c ∈ b.checks) => settles_transferCheck b.symbols c
  have tested (checks : List (Check Nat Nat)) := settles_forM
    fun q (_ : q ∈ checks.flatMap Check.queries) => settles_checkRule index q
  refine (settles_bind (Q := ∀ c ∈ b.checks, ∀ q ∈ c.queries, q.Bound b.symbols)
    (settles_ofTransfer moved)
    (ensures_ofTransfer (ensures_all (ensures_transferCheck b.symbols) b.checks))
    (fun checks => settles_map (fun _ => put checks) (tested checks)) ?_).congr ?_
  · intro _ u sound _ checks named
    have queries : List.Forall₂ (Rule.Names u) (checks.flatMap Check.queries)
        ((b.checks.flatMap Check.queries).map (Rule.rename b.symbols.textOf b.symbols.keyOf)) := by
      rw [List.map_flatMap]
      refine List.rel_flatMap (List.forall₂_map_right_iff.1 named) fun c d both => ?_
      exact both.queries
    rw [← List.forall_mem_flatMap]
    exact forall_iff_of_forall₂ (List.forall₂_map_right_iff.1 queries)
      fun q r named => Rule.isWellFormed_of_names sound named
  · simp only [forall_and]

/-- A block is taken in when all that stands in it can be. -/
theorem settles_block (owners : KeyOwners) (index : Nat) (b : Block) :
    Settles (block owners index b) b.Loadable := by
  have scopes := settles_mapM fun s (_ : s ∈ b.scopes) => settles_transferScope b.symbols s
  have facts := settles_mapM fun f (_ : f ∈ b.facts) => settles_transferFact b.symbols f
  have rules (trust : Trust) := settles_mapM fun r (_ : r ∈ b.rules) =>
    settles_blockRule owners index trust b.symbols r
  refine (settles_seq (settles_ofTransfer scopes) fun _ => settles_seq (settles_ofTransfer facts)
    fun _ => settles_seq (rules _) fun _ => settles_checks index b _).congr ?_
  exact ⟨fun h => ⟨h.1, h.2.1, h.2.2.1, h.2.2.2⟩,
    fun h => ⟨h.scopes, h.facts, h.rules, h.checks⟩⟩

theorem settles_blocks (owners : KeyOwners) (blocks : List Block) (index : Nat) :
    Settles (Loading.blocks owners blocks index) (∀ b ∈ blocks, b.Loadable) := by
  induction blocks generalizing index with
  | nil => exact (settles_pure _).congr (by simp)
  | cons b rest ih =>
    refine (settles_seq (settles_block owners index b) fun _ => ?_).congr List.forall_mem_cons.symm
    exact settles_map _ (ih (index + 1))

/-- Whether a token comes to something is told by the token, whatever the session has taken in. -/
theorem settles_token (t : Token) : Settles (Loading.token t) t.Loadable :=
  (settles_seq (settles_owners t.blocks 0 {}) fun owners =>
    settles_map _ (settles_blocks owners t.blocks 0)).congr (and_iff_right trivial)

end Loading

namespace Authorizer

variable {a : Authorizer} {t : Token}

/-- A token is accepted where there is none, if its versions are known and all in it can be taken
in, provided that the ids of variables fit while that is done. -/
theorem addToken_isOk_iff (sound : a.symbols.Sound)
    (fits : a.blocks = none → unsupported? t = none →
      ((Loading.token t).run.run a.symbols).2.Fits) :
    (∃ b, a.addToken t = .ok b) ↔ a.blocks = none ∧ unsupported? t = none ∧ t.Loadable := by
  have settled := fun free supported =>
    (Loading.settles_token t a.symbols sound).2.2 (fits free supported)
  constructor
  · rintro ⟨b, accepted⟩
    obtain ⟨free, supported, owners, blocks, symbols, run, -⟩ := addToken_eq_ok accepted
    exact ⟨free, supported, (settled free supported).1 ⟨_, congrArg Prod.fst run⟩⟩
  · rintro ⟨free, supported, loadable⟩
    obtain ⟨out, done⟩ := (settled free supported).2 loadable
    have run : (Loading.token t).run.run a.symbols =
      (.ok out, ((Loading.token t).run.run a.symbols).2) := Prod.ext done rfl
    unfold addToken
    rw [if_neg (by simp [free]), supported, run]
    exact ⟨_, rfl⟩

end Authorizer

end Tokens

end Warrant
