import Warrant.Proofs.Translation

/-! Items moved from one table to another mean what they meant.
`resolve` reads an item in full by a table, and `number?` goes the other way: what a table makes of
an item of strings if it knows all its names. An item that is moved and what it is read as in the
table it comes from determine each other by the table it ends up in, and by every later one. So
items that come from several tables are the same in the end when they say the same.
Nothing is asked of the tables. A string may stand in them several times or be one that every table
knows: what is moved gets the first id of its string, which stays the first as a table grows. -/

namespace Warrant

namespace Symbols

variable {t u : Symbols} {s : String} {i : Nat}

theorem idxOf?_of_prefix {α : Type} [DecidableEq α] {l r : List α} {a : α} (h : l <+: r)
    (k : l.idxOf? a = some i) : r.idxOf? a = some i := by
  obtain ⟨more, rfl⟩ := h
  rw [List.idxOf?_eq_some_iff] at k ⊢
  obtain ⟨bound, here, first⟩ := k
  refine ⟨by rw [List.length_append]; omega, ?_, fun j before => ?_⟩
  · rwa [List.getElem_append_left bound]
  · rw [List.getElem_append_left (Nat.lt_trans before bound)]
    exact first j before

theorem getElem?_of_idxOf? {α : Type} [DecidableEq α] {l : List α} {a : α}
    (h : l.idxOf? a = some i) : l[i]? = some a := by
  obtain ⟨bound, here, -⟩ := List.idxOf?_eq_some_iff.1 h
  rw [List.getElem?_eq_getElem bound, here]

theorem idxOf?_concat {α : Type} [DecidableEq α] {l : List α} {a : α}
    (new : l.idxOf? a = none) : (l ++ [a]).idxOf? a = some l.length := by
  have absent : a ∉ l := List.idxOf?_eq_none_iff.1 new
  refine List.idxOf?_eq_some_iff.2 ⟨by simp, by simp, fun j before same => absent ?_⟩
  rw [List.getElem_append_left before] at same
  exact same ▸ List.getElem_mem before

theorem Grows.id? (h : t.Grows u) (k : t.id? s = some i) : u.id? s = some i := by
  unfold Symbols.id? at k ⊢
  cases known : builtins.idxOf? s with
  | some j =>
    rw [known] at k
    exact k
  | none =>
    rw [known] at k
    obtain ⟨j, place, rfl⟩ := Option.map_eq_some_iff.1 k
    exact Option.map_eq_some_iff.2 ⟨j, idxOf?_of_prefix h.strings place, rfl⟩

theorem text?_of_id? (h : t.id? s = some i) : t.text? i = some s := by
  unfold id? at h
  cases known : builtins.idxOf? s with
  | some j =>
    rw [known] at h
    cases h
    have place := getElem?_of_idxOf? known
    have bound := (List.getElem?_eq_some_iff.1 place).1
    rwa [text?, if_pos (Nat.lt_trans bound length_builtins_lt)]
  | none =>
    rw [known] at h
    obtain ⟨j, place, rfl⟩ := Option.map_eq_some_iff.1 h
    rw [text?_local]
    exact getElem?_of_idxOf? place

/-- A string that has been taken in has an id, and the table has only been added to. -/
theorem intern_id? (s : String) (t : Symbols) :
    t.Grows (intern s t).2 ∧ (intern s t).2.id? s = some (intern s t).1 := by
  unfold intern
  cases known : t.id? s with
  | some i => exact ⟨.refl t, known⟩
  | none =>
    obtain ⟨foreign, new⟩ : builtins.idxOf? s = none ∧ t.strings.idxOf? s = none := by
      simpa [id?] using known
    refine ⟨⟨List.prefix_append .., List.prefix_rfl⟩, ?_⟩
    simp [id?, foreign, idxOf?_concat new]

theorem internKey_idxOf? (key : PublicKey) (t : Symbols) : t.Grows (internKey key t).2 ∧
    (internKey key t).2.keys.idxOf? key = some (internKey key t).1 := by
  unfold internKey
  cases known : t.keys.idxOf? key with
  | some i => exact ⟨.refl t, known⟩
  | none =>
    exact ⟨⟨List.prefix_rfl, List.prefix_append ..⟩, idxOf?_concat known⟩

/-- The key behind an id. -/
def resolveKey (t : Symbols) (id : Nat) : Except TransferError PublicKey :=
  match t.keys[id]? with
  | some key => .ok key
  | none => .error (.unknownKey id)

theorem resolve_eq_ok (h : t.text? i = some s) : t.resolve i = .ok s := by rw [resolve, h]

theorem resolveKey_eq_ok {key : PublicKey} (h : t.keys[i]? = some key) :
    t.resolveKey i = .ok key := by
  rw [resolveKey, h]

end Symbols

/-! Reading in full, and numbering. -/

def Expression.resolve (t : Symbols) :
    Expression Nat → Except TransferError (Expression String) := Expression.mapM (Term.resolve t)

def Scope.resolve (t : Symbols) : Scope Nat → Except TransferError (Scope PublicKey) :=
  Scope.mapM t.resolveKey

def Rule.resolve (t : Symbols) : Rule Nat Nat → Except TransferError (Rule String PublicKey) :=
  Rule.mapM t.resolve (Term.resolve t) t.resolveKey

def Check.resolve (t : Symbols) : Check Nat Nat → Except TransferError (Check String PublicKey) :=
  Check.mapM t.resolve (Term.resolve t) t.resolveKey

/-- The term with the first ids of its names. -/
def Term.number? (t : Symbols) : Term String → Option (Term Nat) := Term.mapM t.id? t.id?

def Atom.number? (t : Symbols) : Atom String → Option (Atom Nat) :=
  Atom.mapM t.id? (Term.number? t)

def Expression.number? (t : Symbols) : Expression String → Option (Expression Nat) :=
  Expression.mapM (Term.number? t)

def Scope.number? (t : Symbols) : Scope PublicKey → Option (Scope Nat) :=
  Scope.mapM (t.keys.idxOf? ·)

def Rule.number? (t : Symbols) : Rule String PublicKey → Option (Rule Nat Nat) :=
  Rule.mapM t.id? (Term.number? t) (t.keys.idxOf? ·)

def Check.number? (t : Symbols) : Check String PublicKey → Option (Check Nat Nat) :=
  Check.mapM t.id? (Term.number? t) (t.keys.idxOf? ·)

/-! Walks that come to a result. -/

section Walks

variable {m : Type → Type} [Monad m] [LawfulMonad m] {α β σ τ κ μ : Type}

theorem mapM_eq_pure {f : α → m β} {l : List α} {r : List β}
    (h : List.Forall₂ (fun a b => f a = pure b) l r) : l.mapM f = pure r := by
  induction h with
  | nil => simp
  | cons first _ rest => simp [first, rest]

theorem Term.mapAllM_eq_mapM [Ord τ] {v s : σ → m τ} (l : List (Term σ)) :
    mapAllM v s l = l.mapM (Term.mapM v s) := by
  induction l with
  | nil => rw [List.mapM_nil]; rfl
  | cons t rest ih => rw [List.mapM_cons, ← ih]; rfl

theorem Term.mapM_set_eq_pure [Ord τ] {v s : σ → m τ} {l : List (Term σ)} {r : List (Term τ)}
    (h : List.Forall₂ (fun t s' => t.mapM v s = pure s') l r) :
    (Term.set l).mapM v s = pure (.set (Sorted.ofList r)) := by
  simp [Term.mapM, mapAllM_eq_mapM, mapM_eq_pure h]

variable {name : σ → m τ} {term : Term σ → m (Term τ)} {key : κ → m μ}

theorem Op.mapM_value_eq_pure {t : Term σ} {s : Term τ} (h : term t = pure s) :
    (Op.value t).mapM term = pure (.value s) := by
  simp [Op.mapM, h]

theorem Scope.mapM_key_eq_pure {k : κ} {i : μ} (h : key k = pure i) :
    (Scope.key k).mapM key = pure (.key i) := by
  simp [Scope.mapM, h]

theorem Atom.mapM_eq_pure {n : σ} {n' : τ} {terms : List (Term σ)} {terms' : List (Term τ)}
    (hn : name n = pure n') (ht : List.Forall₂ (fun t s => term t = pure s) terms terms') :
    Atom.mapM name term ⟨n, terms⟩ = pure ⟨n', terms'⟩ := by
  simp [Atom.mapM, hn, Warrant.mapM_eq_pure ht]

theorem Expression.mapM_eq_pure {ops : List (Op σ)} {ops' : List (Op τ)}
    (h : List.Forall₂ (fun op op' => op.mapM term = pure op') ops ops') :
    Expression.mapM term ⟨ops⟩ = pure ⟨ops'⟩ := by
  simp [Expression.mapM, Warrant.mapM_eq_pure h]

theorem Rule.mapM_eq_pure {r : Rule σ κ} {q : Rule τ μ}
    (head : r.head.mapM name term = pure q.head)
    (body : List.Forall₂ (fun a b => a.mapM name term = pure b) r.body q.body)
    (expressions : List.Forall₂ (fun d e => d.mapM term = pure e) r.expressions q.expressions)
    (scopes : List.Forall₂ (fun s t => s.mapM key = pure t) r.scopes q.scopes) :
    r.mapM name term key = pure q := by
  simp [Rule.mapM, head, Warrant.mapM_eq_pure body, Warrant.mapM_eq_pure expressions,
    Warrant.mapM_eq_pure scopes]

theorem Check.mapM_eq_pure {kind : CheckKind} {queries : List (Rule σ κ)}
    {queries' : List (Rule τ μ)}
    (h : List.Forall₂ (fun r q => r.mapM name term key = pure q) queries queries') :
    Check.mapM name term key ⟨kind, queries⟩ = pure ⟨kind, queries'⟩ := by
  simp [Check.mapM, Warrant.mapM_eq_pure h]

end Walks

/-! Pairs of which each determines the other. -/

/-- `number` makes `a` of `b`, and `resolve` makes `b` of `a`. -/
structure Matched {α β ε : Type} (number : β → Option α) (resolve : α → Except ε β) (b : β)
    (a : α) : Prop where
  numbered : number b = pure a
  resolved : resolve a = pure b

namespace Matched

variable {α β ε : Type} {number : β → Option α} {resolve : α → Except ε β}

theorem rightUnique : Relator.RightUnique (Matched number resolve) :=
  fun _ _ _ h k => Option.some.inj (h.numbered.symm.trans k.numbered)

theorem leftUnique : Relator.LeftUnique (Matched number resolve) :=
  fun _ _ _ h k => Except.ok.inj (h.resolved.symm.trans k.resolved)

end Matched

namespace Sorted

theorem exists_forall₂ {α β : Type} {R : α → β → Prop} {l : List α} (h : ∀ a ∈ l, ∃ b, R a b) :
    ∃ r, List.Forall₂ R l r := by
  induction l with
  | nil => exact ⟨[], .nil⟩
  | cons a rest ih =>
    obtain ⟨⟨b, related⟩, later⟩ := List.forall_mem_cons.1 h
    obtain ⟨r, others⟩ := ih later
    exact ⟨b :: r, .cons related others⟩

/-- Of two lists that match item by item, the one may be put in order as well as the other. -/
theorem forall₂_ofList {α β : Type} [Ord α] [Ord β] [Std.TransOrd α] [Std.LawfulEqOrd α]
    [Std.TransOrd β] [Std.LawfulEqOrd β] {R : α → β → Prop} (unique : Relator.BiUnique R)
    {l : List α} {r : List β} (h : List.Forall₂ R l r) :
    ∃ out, List.Forall₂ R (ofList l) out ∧ ofList out = ofList r := by
  have image (a) (ha : a ∈ ofList l) : ∃ b, R a b :=
    have ⟨b, _, related⟩ := exists_of_forall₂ h (mem_ofList.1 ha)
    ⟨b, related⟩
  obtain ⟨out, related⟩ := exists_forall₂ image
  refine ⟨out, related, ofList_congr fun b => ⟨fun hb => ?_, fun hb => ?_⟩⟩
  · obtain ⟨a, ha, same⟩ := exists_of_forall₂ related.flip hb
    exact (List.rel_mem unique same h).1 (mem_ofList.1 ha)
  · obtain ⟨a, ha, same⟩ := exists_of_forall₂ h.flip hb
    exact (List.rel_mem unique same related).1 (mem_ofList.2 ha)

end Sorted

/-- What puts items together does so on both sides. -/
theorem Matched.forall₂ {α β ε : Type} {number : β → Option α} {resolve : α → Except ε β}
    {bs : List β} {as : List α} (h : List.Forall₂ (Matched number resolve) bs as) :
    List.Forall₂ (fun b a => number b = pure a) bs as ∧
      List.Forall₂ (fun a b => resolve a = pure b) as bs :=
  ⟨h.imp fun _ _ both => both.numbered, h.flip.imp fun _ _ both => both.resolved⟩

theorem Matched.set {u : Symbols} {bs : List (Term String)} {as : List (Term Nat)}
    (h : List.Forall₂ (Matched (Term.number? u) (Term.resolve u)) bs as) :
    Matched (Term.number? u) (Term.resolve u) (.set (Sorted.ofList bs)) (.set (Sorted.ofList as))
    where
  numbered := by
    obtain ⟨out, related, same⟩ := Sorted.forall₂_ofList ⟨leftUnique, rightUnique⟩ h
    rw [← same]
    exact Term.mapM_set_eq_pure (forall₂ related).1
  resolved := by
    have back : Relator.BiUnique (flip (Matched (Term.number? u) (Term.resolve u))) :=
      ⟨fun _ _ _ h k => rightUnique h k, fun _ _ _ h k => leftUnique h k⟩
    obtain ⟨out, related, same⟩ := Sorted.forall₂_ofList back h.flip
    rw [← same]
    exact Term.mapM_set_eq_pure (forall₂ related.flip).2

/-! Moving beside reading. -/

/-- The table that `x` runs on only grows, and what `x` comes to belongs to what `r` comes to, in
the table that it leaves and in every later one. -/
def Moves {α β : Type} (x : Transfer α) (r : Except TransferError β)
    (R : Symbols → β → α → Prop) : Prop :=
  ∀ t, t.Grows (x.run t).2 ∧
    ∀ a, (x.run t).1 = .ok a → ∃ b, r = .ok b ∧ ∀ u, (x.run t).2.Grows u → R u b a

section Moves

variable {α β γ δ : Type} {x : Transfer α} {r : Except TransferError β}
  {R : Symbols → β → α → Prop}

theorem moves_pure {a : α} {b : β} (h : ∀ u, R u b a) : Moves (pure a) (pure b) R := by
  refine fun t => ⟨.refl t, fun a' same => ⟨b, rfl, fun u _ => ?_⟩⟩
  cases same
  exact h u

theorem moves_bind {f : α → Transfer γ} {g : β → Except TransferError δ}
    {S : Symbols → δ → γ → Prop} (hx : Moves x r R)
    (hf : ∀ b a, Moves (f a) (g b) fun u d c => R u b a → S u d c) :
    Moves (x >>= f) (r >>= g) S := by
  intro t
  obtain ⟨grows, first⟩ := hx t
  rw [Symbols.run_bind_eq]
  cases run : (x.run t).1 with
  | error e => exact ⟨grows, nofun⟩
  | ok a =>
    obtain ⟨b, rfl, belongs⟩ := first a run
    obtain ⟨grows', second⟩ := hf b a (x.run t).2
    refine ⟨grows.trans grows', fun c same => ?_⟩
    obtain ⟨d, reads, belongs'⟩ := second c same
    exact ⟨d, reads, fun u later => belongs' u later (belongs u (grows'.trans later))⟩

/-- The last step only puts the results together. -/
theorem moves_map {F : α → γ} {G : β → δ} {S : Symbols → δ → γ → Prop} (hx : Moves x r R)
    (put : ∀ {u b a}, R u b a → S u (G b) (F a)) :
    Moves (x >>= fun a => pure (F a)) (r >>= fun b => pure (G b)) S :=
  moves_bind hx fun _ _ => moves_pure fun _ => put

theorem moves_throw (e : TransferError) : Moves (throw e) r R := fun t => ⟨.refl t, nofun⟩

/-- A test of the result leaves the table alone. -/
theorem moves_test {test : α → Except TransferError α} (hx : Moves x r R)
    (h : ∀ {a c}, test a = .ok c → c = a) :
    Moves (x >>= fun a => ExceptT.mk (pure (test a))) r R := by
  rw [← bind_pure r]
  refine moves_bind hx fun b a t => ⟨.refl t, fun c same => ⟨b, rfl, fun u _ belongs => ?_⟩⟩
  rw [h same]
  exact belongs

theorem moves_mapM {walk : γ → Transfer α} {reading : γ → Except TransferError β} {l : List γ}
    (h : ∀ c, Moves (walk c) (reading c) R) :
    Moves (l.mapM walk) (l.mapM reading) fun u => List.Forall₂ (R u) := by
  induction l with
  | nil => exact moves_pure fun _ => .nil
  | cons c rest ih =>
    rw [List.mapM_cons, List.mapM_cons]
    exact moves_bind (h c) fun _ _ => moves_bind ih fun _ _ =>
      moves_pure fun _ others first => .cons first others

end Moves

section Items

variable (source : Symbols)

theorem moves_transferName (i : Nat) : Moves (source.transferName i) (source.resolve i)
    fun u => Matched u.id? u.resolve := by
  unfold Symbols.transferName
  cases source.resolve i with
  | error e => exact moves_throw e
  | ok s =>
    intro t
    obtain ⟨grows, known⟩ := Symbols.intern_id? s t
    refine ⟨grows, fun j same => ⟨s, rfl, fun u later => ?_⟩⟩
    cases same
    have id := later.id? known
    exact ⟨id, Symbols.resolve_eq_ok (Symbols.text?_of_id? id)⟩

theorem moves_transferVariable (i : Nat) : Moves (source.transferVariable i) (source.resolve i)
    fun u => Matched u.id? u.resolve := by
  refine moves_test (moves_transferName source i) fun {a c} same => ?_
  unfold variableId at same
  split at same
  · exact (Except.ok.inj same).symm
  · cases same

theorem moves_transferKey (i : Nat) : Moves (source.transferKey i) (source.resolveKey i)
    fun u => Matched (u.keys.idxOf? ·) u.resolveKey := by
  unfold Symbols.transferKey Symbols.resolveKey
  cases source.keys[i]? with
  | none => exact moves_throw _
  | some key =>
    intro t
    obtain ⟨grows, known⟩ := Symbols.internKey_idxOf? key t
    refine ⟨grows, fun j same => ⟨key, rfl, fun u later => ?_⟩⟩
    cases same
    have place := Symbols.idxOf?_of_prefix later.keys known
    exact ⟨place, Symbols.resolveKey_eq_ok (Symbols.getElem?_of_idxOf? place)⟩

mutual

theorem moves_term : (t : Term Nat) →
    Moves (t.mapM source.transferVariable source.transferName) (t.resolve source)
      fun u => Matched (Term.number? u) (Term.resolve u)
  | .var i => moves_map (moves_transferVariable source i) fun both =>
      ⟨by simp [Term.number?, Term.mapM, both.numbered],
        by simp [Term.resolve, Term.mapM, both.resolved]⟩
  | .str i => moves_map (moves_transferName source i) fun both =>
      ⟨by simp [Term.number?, Term.mapM, both.numbered],
        by simp [Term.resolve, Term.mapM, both.resolved]⟩
  | .int _ | .date _ | .bytes _ | .bool _ => moves_pure fun _ => ⟨rfl, rfl⟩
  | .set l => moves_map (moves_terms l) .set

theorem moves_terms : (l : List (Term Nat)) →
    Moves (Term.mapAllM source.transferVariable source.transferName l)
      (Term.mapAllM source.resolve source.resolve l)
      fun u => List.Forall₂ (Matched (Term.number? u) (Term.resolve u))
  | [] => moves_pure fun _ => .nil
  | t :: rest => moves_bind (moves_term t) fun _ _ => moves_bind (moves_terms rest) fun _ _ =>
      moves_pure fun _ others first => .cons first others

end

theorem moves_transferTerm (t : Term Nat) : Moves (t.transfer source) (t.resolve source)
    fun u => Matched (Term.number? u) (Term.resolve u) := by
  unfold Term.transfer
  split
  · exact moves_term source t
  · exact moves_throw _

theorem moves_transferAtom (a : Atom Nat) : Moves (a.transfer source) (a.resolve source)
    fun u => Matched (Atom.number? u) (Atom.resolve u) :=
  moves_bind (moves_transferName source a.name) fun _ _ =>
    moves_bind (moves_mapM (moves_transferTerm source)) fun _ _ =>
      moves_pure fun _ terms name =>
        have ⟨numbered, resolved⟩ := Matched.forall₂ terms
        ⟨Atom.mapM_eq_pure name.numbered numbered, Atom.mapM_eq_pure name.resolved resolved⟩

theorem moves_transferFact (f : Fact Nat) : Moves (Fact.transfer source f) (Atom.resolve source f)
    fun u => Matched (Atom.number? u) (Atom.resolve u) := by
  have tested : Fact.transfer source f = Atom.transfer source f >>= fun moved =>
      ExceptT.mk (pure (if moved.isGround then .ok moved
        else .error (.nonGroundFact (source.renderAtom f)))) := by
    unfold Fact.transfer
    refine congrArg _ (funext fun moved => ?_)
    split
    · rfl
    · rfl
  rw [tested]
  refine moves_test (moves_transferAtom source f) fun {a c} same => ?_
  split at same
  · exact (Except.ok.inj same).symm
  · cases same

theorem moves_transferOp (op : Op Nat) :
    Moves (op.mapM (Term.transfer source)) (op.mapM (Term.resolve source))
      fun u => Matched (Op.mapM (Term.number? u)) (Op.mapM (Term.resolve u)) := by
  cases op with
  | value t => exact moves_map (moves_transferTerm source t) fun both =>
      ⟨Op.mapM_value_eq_pure both.numbered, Op.mapM_value_eq_pure both.resolved⟩
  | unary op => exact moves_pure fun _ => ⟨rfl, rfl⟩
  | binary op => exact moves_pure fun _ => ⟨rfl, rfl⟩

theorem moves_transferExpression (e : Expression Nat) :
    Moves (e.transfer source) (e.resolve source)
      fun u => Matched (Expression.number? u) (Expression.resolve u) :=
  moves_map (moves_mapM (moves_transferOp source)) fun ops =>
    have ⟨numbered, resolved⟩ := Matched.forall₂ ops
    ⟨Expression.mapM_eq_pure numbered, Expression.mapM_eq_pure resolved⟩

theorem moves_transferScope (s : Scope Nat) : Moves (s.transfer source) (s.resolve source)
    fun u => Matched (Scope.number? u) (Scope.resolve u) := by
  cases s with
  | authority => exact moves_pure fun _ => ⟨rfl, rfl⟩
  | previous => exact moves_pure fun _ => ⟨rfl, rfl⟩
  | key k => exact moves_map (moves_transferKey source k) fun both =>
      ⟨Scope.mapM_key_eq_pure both.numbered, Scope.mapM_key_eq_pure both.resolved⟩

theorem moves_transferRule (r : Rule Nat Nat) : Moves (r.transfer source) (r.resolve source)
    fun u => Matched (Rule.number? u) (Rule.resolve u) :=
  moves_bind (moves_transferAtom source r.head) fun _ _ =>
    moves_bind (moves_mapM (moves_transferAtom source)) fun _ _ =>
      moves_bind (moves_mapM (moves_transferExpression source)) fun _ _ =>
        moves_bind (moves_mapM (moves_transferScope source)) fun _ _ =>
          moves_pure fun _ scopes expressions body head =>
            have ⟨bodies, bodies'⟩ := Matched.forall₂ body
            have ⟨tests, tests'⟩ := Matched.forall₂ expressions
            have ⟨trusts, trusts'⟩ := Matched.forall₂ scopes
            ⟨Rule.mapM_eq_pure head.numbered bodies tests trusts,
              Rule.mapM_eq_pure head.resolved bodies' tests' trusts'⟩

theorem moves_transferCheck (c : Check Nat Nat) : Moves (c.transfer source) (c.resolve source)
    fun u => Matched (Check.number? u) (Check.resolve u) :=
  moves_map (moves_mapM (moves_transferRule source)) fun queries =>
    have ⟨numbered, resolved⟩ := Matched.forall₂ queries
    ⟨Check.mapM_eq_pure numbered, Check.mapM_eq_pure resolved⟩

end Items

/-! Whatever is moved. -/

/-- What can be moved from one table to another by itself. -/
inductive Item (σ κ : Type) where
  | term (t : Term σ)
  | predicate (a : Atom σ)
  | fact (f : Fact σ)
  | expression (e : Expression σ)
  | rule (r : Rule σ κ)
  | check (c : Check σ κ)
  deriving Repr, DecidableEq

namespace Item

def transfer (source : Symbols) : Item Nat Nat → Transfer (Item Nat Nat)
  | .term t => return .term (← t.transfer source)
  | .predicate a => return .predicate (← a.transfer source)
  | .fact f => return .fact (← Fact.transfer source f)
  | .expression e => return .expression (← e.transfer source)
  | .rule r => return .rule (← r.transfer source)
  | .check c => return .check (← c.transfer source)

def resolve (t : Symbols) : Item Nat Nat → Except TransferError (Item String PublicKey)
  | .term a => return .term (← a.resolve t)
  | .predicate a => return .predicate (← a.resolve t)
  | .fact f => return .fact (← Atom.resolve t f)
  | .expression e => return .expression (← e.resolve t)
  | .rule r => return .rule (← r.resolve t)
  | .check c => return .check (← c.resolve t)

def number? (t : Symbols) : Item String PublicKey → Option (Item Nat Nat)
  | .term a => return .term (← a.number? t)
  | .predicate a => return .predicate (← a.number? t)
  | .fact f => return .fact (← Atom.number? t f)
  | .expression e => return .expression (← e.number? t)
  | .rule r => return .rule (← r.number? t)
  | .check c => return .check (← c.number? t)

theorem moves_transfer (source : Symbols) (x : Item Nat Nat) :
    Moves (x.transfer source) (x.resolve source) fun u => Matched (number? u) (resolve u) := by
  cases x with
  | term t => exact moves_map (moves_transferTerm source t) fun both =>
      ⟨by simp [number?, both.numbered], by simp [resolve, both.resolved]⟩
  | predicate a => exact moves_map (moves_transferAtom source a) fun both =>
      ⟨by simp [number?, both.numbered], by simp [resolve, both.resolved]⟩
  | fact f => exact moves_map (moves_transferFact source f) fun both =>
      ⟨by simp [number?, both.numbered], by simp [resolve, both.resolved]⟩
  | expression e => exact moves_map (moves_transferExpression source e) fun both =>
      ⟨by simp [number?, both.numbered], by simp [resolve, both.resolved]⟩
  | rule r => exact moves_map (moves_transferRule source r) fun both =>
      ⟨by simp [number?, both.numbered], by simp [resolve, both.resolved]⟩
  | check c => exact moves_map (moves_transferCheck source c) fun both =>
      ⟨by simp [number?, both.numbered], by simp [resolve, both.resolved]⟩

variable {source source' t u v w : Symbols} {x x' y y' : Item Nat Nat}

theorem grows_of_transfer (moved : (x.transfer source).run.run t = (.ok x', u)) : t.Grows u := by
  have grows := (moves_transfer source x t).1
  rwa [show ((x.transfer source).run t).2 = u from congrArg Prod.snd moved] at grows

/-- An item that has been moved and what it reads as where it comes from determine each other. -/
theorem matched_of_transfer (moved : (x.transfer source).run.run t = (.ok x', u)) :
    ∃ item, x.resolve source = .ok item ∧
      ∀ w, u.Grows w → Matched (number? w) (resolve w) item x' := by
  have belongs := (moves_transfer source x t).2 x' (congrArg Prod.fst moved)
  rwa [show ((x.transfer source).run t).2 = u from congrArg Prod.snd moved] at belongs

/-- Items that come into one table one after the other are the same if they read as the same. -/
theorem transfer_inj (moved : (x.transfer source).run.run t = (.ok x', u)) (later : u.Grows v)
    (moved' : (y.transfer source').run.run v = (.ok y', w)) :
    x' = y' ↔ x.resolve source = y.resolve source' := by
  obtain ⟨item, reads, matched⟩ := matched_of_transfer moved
  obtain ⟨item', reads', matched'⟩ := matched_of_transfer moved'
  have here := matched w (later.trans (grows_of_transfer moved'))
  have here' := matched' w (.refl w)
  rw [reads, reads', Except.ok.injEq]
  constructor
  · rintro rfl
    exact Matched.leftUnique here here'
  · rintro rfl
    exact Matched.rightUnique here here'

/-- A move keeps what the item says, adds to the table at its end at most, and identifies the items
that say the same and no others, whatever tables they come from. -/
theorem transfer_faithful (moved : (x.transfer source).run.run t = (.ok x', u)) :
    (∃ item, x.resolve source = .ok item ∧ x'.resolve u = .ok item) ∧
    t.Grows u ∧ (∀ i s, t.text? i = some s → u.text? i = some s) ∧
    (∀ (i : Nat) (key : PublicKey), t.keys[i]? = some key → u.keys[i]? = some key) ∧
    ∀ source' y y' v w, u.Grows v → (transfer source' y).run.run v = (.ok y', w) →
      (x' = y' ↔ x.resolve source = y.resolve source') := by
  have grows := grows_of_transfer moved
  obtain ⟨item, reads, matched⟩ := matched_of_transfer moved
  refine ⟨⟨item, reads, (matched u (.refl u)).resolved⟩, grows, fun i s => grows.text?,
    fun i key => grows.key?, ?_⟩
  intro source' y y' v w later moved'
  exact transfer_inj moved later moved'

/-- A table with a string that every table knows, a string that stands twice and a key that does. -/
def doubled : Symbols :=
  { strings := ["read", "x", "x"], keys := [⟨.ed25519, [1]⟩, ⟨.ed25519, [1]⟩] }

/-- `read($x) <- read($x, {"read"}), $x trusting` a key, with every id that `doubled` has for the
same name. -/
def mixed : Item Nat Nat :=
  .rule {
    head := ⟨2, [.var 1025]⟩
    body := [⟨1024, [.var 1026, .set [.str 2, .str 1024]]⟩]
    expressions := [⟨[.value (.var 1025)]⟩]
    scopes := [.key 1] }

/-- The same rule with the first ids. -/
def plain : Item Nat Nat :=
  .rule {
    head := ⟨2, [.var 1024]⟩
    body := [⟨2, [.var 1024, .set [.str 2]]⟩]
    expressions := [⟨[.value (.var 1024)]⟩]
    scopes := [.key 0] }

theorem transfer_faithful_mixed :
    (mixed.transfer doubled).run.run { strings := ["x", "x"] } =
      (.ok plain, { strings := ["x", "x"], keys := [⟨.ed25519, [1]⟩] }) ∧
    mixed.resolve doubled = plain.resolve { doubled with strings := ["x"] } := by
  have moved : (mixed.transfer doubled).run.run { strings := ["x", "x"] } =
      (.ok plain, { strings := ["x", "x"], keys := [⟨.ed25519, [1]⟩] }) := rfl
  obtain ⟨-, -, -, -, same⟩ := transfer_faithful moved
  exact ⟨moved, (same _ plain plain _ _ (.refl _) rfl).1 rfl⟩

end Item

end Warrant
