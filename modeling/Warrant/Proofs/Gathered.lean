import Warrant.Proofs.Brought
import Warrant.Proofs.Coverage
import Warrant.Proofs.Outcome

/-! Names taken in by the same calls in another order.
A computation adds to any table only what it adds to any other one. So where every call and every
statement of one authorizer is also taken in by another, whenever that was, the table that the first
one asks with holds no string that is not in the table of the second. -/

namespace Warrant

open Interning Covering

section Walks

variable {α β τ : Type} {t u : Symbols} {names : List String}

/-- Whether a computation takes in none but these names, as told by what it does on some table. -/
def Within (x : StateM Symbols β) (names : List String) : Prop :=
  ∃ u : Symbols, u.Sound ∧ (x u).2.strings ⊆ names

theorem Within.subset {x : StateM Symbols β} (within : Within x names) (covers : Covers x x)
    (known : t.strings ⊆ names) : (x t).2.strings ⊆ names := by
  obtain ⟨u, sound, added⟩ := within
  have covered := (covers t.strings t u ⟨sound, by simp⟩).strings
  exact List.Subset.trans covered (List.append_subset.2 ⟨added, known⟩)

theorem mapM_subset {f : α → StateM Symbols β} {l : List α} (covers : ∀ a, Covers (f a) (f a))
    (within : ∀ a ∈ l, Within (f a) names) (known : t.strings ⊆ names) :
    ((l.mapM f) t).2.strings ⊆ names := by
  induction l generalizing t with
  | nil => exact known
  | cons a rest ih =>
    have first := (within a (List.mem_cons_self ..)).subset (covers a) known
    rw [List.mapM_cons]
    exact ih (fun b hb => within b (List.mem_cons_of_mem _ hb)) first

theorem within_of_mapM {f : α → StateM Symbols β} {R : Symbols → β → τ → Prop} {reading : α → τ}
    {l : List α} (ensures : ∀ a, Ensures (f a) fun u b => R u b (reading a)) (sound : t.Sound)
    (inside : ((l.mapM f) t).2.strings ⊆ names) : ∀ a ∈ l, Within (f a) names := by
  induction l generalizing t with
  | nil => exact nofun
  | cons a rest ih =>
    rw [List.mapM_cons] at inside
    have inside : ((rest.mapM f) (f a t).2).2.strings ⊆ names := inside
    obtain ⟨later, -, -⟩ := ensures a t sound
    obtain ⟨-, grows, -⟩ := ensures_all ensures rest (f a t).2 later
    have first : (f a t).2.strings ⊆ names := List.Subset.trans grows.strings.subset inside
    exact List.forall_mem_cons.2 ⟨⟨t, sound, first⟩, ih later inside⟩

end Walks

namespace Authorizer

variable {a b : Authorizer} {c : Call} {cs : List Call} {names : List String}

/-! Calls. -/

/-- Whether an accepted call takes in none but these names, as told by what it does once. -/
def CallWithin (c : Call) (names : List String) : Prop :=
  ∃ b d : Authorizer, b.symbols.Sound ∧ b.call c = .ok d ∧ d.symbols.strings ⊆ names

theorem CallWithin.subset (within : CallWithin c names) (accepted : a.call c = .ok b)
    (known : a.symbols.strings ⊆ names) : b.symbols.strings ⊆ names := by
  obtain ⟨e, d, sound, other, added⟩ := within
  by_cases token : ∃ t, c = .token t
  · obtain ⟨t, rfl⟩ := token
    obtain ⟨-, -, owners, blocks, symbols, run, rfl⟩ := addToken_eq_ok accepted
    obtain ⟨-, -, owners', blocks', symbols', run', rfl⟩ := addToken_eq_ok other
    have covers : Covers (Loading.token t) (Loading.token t) := by
      have covers := covers_token t.blocks []
      rwa [List.append_nil] at covers
    have covered := covers a.symbols.strings a.symbols e.symbols ⟨sound, by simp⟩
    rw [show (Loading.token t).run a.symbols = _ from run,
      show (Loading.token t).run e.symbols = _ from run'] at covered
    exact List.Subset.trans (covered _ _ rfl rfl).strings (List.append_subset.2 ⟨added, known⟩)
  · have statement : ∀ t, c ≠ .token t := fun t same => token ⟨t, same⟩
    rw [((call_eq_ok_iff statement).1 other).2] at added
    rw [((call_eq_ok_iff statement).1 accepted).2]
    cases c with
    | token t => exact absurd rfl (statement t)
    | fact f =>
      have within : Within f.intern names := ⟨e.symbols, sound, added⟩
      exact within.subset (covers_internAtom f) known
    | _ => exact known

theorem after_of_call (accepted : a.call c = .ok b) : a.after c = b := by
  unfold after
  rw [accepted]

theorem calls_table (sound : a.symbols.Sound) (cs : List Call) :
    (a.calls cs).symbols.Sound ∧ a.symbols.Grows (a.calls cs).symbols := by
  induction cs generalizing a with
  | nil => exact ⟨sound, .refl _⟩
  | cons c rest ih =>
    obtain ⟨facts, rules, brings⟩ := exists_brought sound c
    obtain ⟨sound, grows⟩ := ih brings.sound
    exact ⟨sound, brings.grows.trans grows⟩

theorem strings_calls_subset (accepted : a.accepts cs) (within : ∀ c ∈ cs, CallWithin c names)
    (known : a.symbols.strings ⊆ names) : (a.calls cs).symbols.strings ⊆ names := by
  induction cs generalizing a with
  | nil => exact known
  | cons c rest ih =>
    obtain ⟨b, taken, later⟩ := accepts_cons.1 accepted
    have first := (within c (List.mem_cons_self ..)).subset taken known
    rw [calls, List.foldl_cons, after_of_call taken]
    exact ih later (fun d hd => within d (List.mem_cons_of_mem _ hd)) first

theorem within_of_calls (sound : a.symbols.Sound) (accepted : a.accepts cs)
    (inside : (a.calls cs).symbols.strings ⊆ names) : ∀ c ∈ cs, CallWithin c names := by
  induction cs generalizing a with
  | nil => exact nofun
  | cons c rest ih =>
    obtain ⟨b, taken, later⟩ := accepts_cons.1 accepted
    rw [calls, List.foldl_cons, after_of_call taken] at inside
    have sound' : b.symbols.Sound := by
      obtain ⟨facts, rules, brings⟩ := exists_brought sound c
      exact after_of_call taken ▸ brings.sound
    have grows := (calls_table sound' rest).2
    have first : b.symbols.strings ⊆ names := List.Subset.trans grows.strings.subset inside
    exact List.forall_mem_cons.2 ⟨⟨a, b, sound, taken, first⟩, ih sound' later inside⟩

/-! What is taken in last. -/

/-- Accepted calls leave nothing out that is taken in later. -/
theorem statements_of_accepts (accepted : a.accepts cs) :
    (a.calls cs).scopes = a.scopes ++ cs.filterMap Call.scope? ∧
      (a.calls cs).pending = a.pending ++ cs.filterMap Call.rule? ∧
      (a.calls cs).checks = a.checks ++ cs.filterMap Call.check? ∧
      (a.calls cs).policies = a.policies ++ cs.filterMap Call.policy? := by
  induction cs generalizing a with
  | nil => simp [calls]
  | cons c rest ih =>
    obtain ⟨b, taken, later⟩ := accepts_cons.1 accepted
    rw [calls, List.foldl_cons, after_of_call taken, ← calls]
    obtain ⟨scopes, pending, checks, policies⟩ := ih later
    rw [scopes, pending, checks, policies]
    by_cases token : ∃ t, c = .token t
    · obtain ⟨t, rfl⟩ := token
      obtain ⟨-, -, owners, blocks, symbols, -, rfl⟩ := addToken_eq_ok taken
      exact ⟨rfl, rfl, rfl, rfl⟩
    · have statement : ∀ t, c ≠ .token t := fun t same => token ⟨t, same⟩
      rw [((call_eq_ok_iff statement).1 taken).2]
      cases c with
      | token t => exact absurd rfl (statement t)
      | _ => simp [Authorizer.add, List.filterMap_cons, Call.scope?, Call.rule?, Call.check?,
          Call.policy?]

/-- What is taken in after the calls is all in the table that the first evaluation asks with. -/
theorem within_table (sound : b.symbols.Sound) :
    b.symbols.Grows b.table ∧
      (∀ s ∈ b.scopes, Within s.intern b.table.strings) ∧
      (∀ r ∈ b.pending, Within r.intern b.table.strings) ∧
      (∀ k ∈ b.checks, Within k.intern b.table.strings) ∧
      ∀ p ∈ b.policies, Within p.intern b.table.strings := by
  obtain ⟨sound₁, grows₁, -⟩ := ensures_all ensures_internScope b.scopes b.symbols sound
  obtain ⟨sound₂, grows₂, -⟩ := ensures_all ensures_internRule b.pending _ sound₁
  rw [table_eq, ready_symbols_eq]
  obtain ⟨sound₃, grows₃, -⟩ := ensures_all ensures_internScope b.scopes _ sound₂
  obtain ⟨sound₄, grows₄, -⟩ := ensures_all ensures_internCheck b.checks _ sound₃
  obtain ⟨sound₅, grows₅, -⟩ := ensures_all ensures_internPolicy b.policies _ sound₄
  have last := grows₃.trans (grows₄.trans grows₅)
  have after := grows₂.trans last
  refine ⟨grows₁.trans after, ?_, ?_, ?_, ?_⟩
  · exact within_of_mapM ensures_internScope sound after.strings.subset
  · exact within_of_mapM ensures_internRule sound₁ last.strings.subset
  · exact within_of_mapM ensures_internCheck sound₃ grows₅.strings.subset
  · exact within_of_mapM ensures_internPolicy sound₄ (List.Subset.refl _)

/-- Where the second authorizer has all statements of the first and all names that this has taken
in so far, it asks with a table that has all names of the first one's. -/
theorem strings_table_subset (sound : b.symbols.Sound) (known : a.symbols.strings ⊆ b.table.strings)
    (scopes : a.scopes ⊆ b.scopes) (pending : a.pending ⊆ b.pending) (checks : a.checks ⊆ b.checks)
    (policies : a.policies ⊆ b.policies) : a.table.strings ⊆ b.table.strings := by
  obtain ⟨-, scopes', pending', checks', policies'⟩ := within_table sound
  have first := mapM_subset covers_internScope (fun s hs => scopes' s (scopes hs)) known
  have second := mapM_subset covers_internRule (fun r hr => pending' r (pending hr)) first
  have third := mapM_subset covers_internScope (fun s hs => scopes' s (scopes hs)) second
  have fourth := mapM_subset covers_internCheck (fun k hk => checks' k (checks hk)) third
  have fifth := mapM_subset covers_internPolicy (fun p hp => policies' p (policies hp)) fourth
  rw [table_eq a, ready_symbols_eq]
  exact fifth

/-- Two new authorizers that accept the same calls in two orders ask with tables of the same
names, so that either table fits if the other one does. -/
theorem fits_of_perm {initial other : RunLimits} {cs ds : List Call}
    (accepted : (ofLimits initial).accepts cs) (accepted' : (ofLimits other).accepts ds)
    (perm : cs.Perm ds) (fits : ((ofLimits initial).calls cs).table.Fits) :
    ((ofLimits other).calls ds).table.Fits := by
  have start (limits : RunLimits) : (ofLimits limits).symbols.Sound := Symbols.sound_empty
  have sound := (calls_table (start initial) cs).1
  have names : ((ofLimits other).calls ds).table.strings ⊆
      ((ofLimits initial).calls cs).table.strings := by
    have calls := within_of_calls (start initial) accepted
      (within_table sound).1.strings.subset
    have known := strings_calls_subset accepted' (fun c hc => calls c (perm.mem_iff.2 hc))
      (List.nil_subset _)
    obtain ⟨scopes, pending, checks, policies⟩ := statements_of_accepts accepted
    obtain ⟨scopes', pending', checks', policies'⟩ := statements_of_accepts accepted'
    have same {α : Type} (l : List α) (f : Call → Option α) :
        l ++ ds.filterMap f ⊆ l ++ cs.filterMap f :=
      ((perm.symm.filterMap f).append_left l).subset
    refine strings_table_subset sound known ?_ ?_ ?_ ?_
    · rw [scopes, scopes']
      exact same [] _
    · rw [pending, pending']
      exact same [] _
    · rw [checks, checks']
      exact same [] _
    · rw [policies, policies']
      exact same [] _
  have table := ((Holds.initial other).calls ds).hearing.1
  have shorter := (List.subperm_of_subset table.strings names).length_le
  unfold Symbols.Fits at fits ⊢
  omega

end Authorizer

end Warrant
