import Warrant.Regex.Pattern
import Warrant.Proofs.Brought

/-! An authorizer over many evaluations.
Calls and evaluations may follow each other in any order, and an evaluation may end in any way. The
store only grows: an evaluation takes what earlier ones have left and adds what the rules derive
from it under the trust that they have now. So after a complete evaluation the store is closed under
the present rules, and it is the least such set over all that has been asserted as long as no rule
has ever relied on more than it does now. What a rule derived under a wider trust is not taken
back. -/

namespace Warrant

open Provenance Interning

/-- A call or an evaluation. -/
inductive Action where
  | call (c : Call)
  | authorize (limits : RunLimits)
  | query (r : Rule String PublicKey) (limits : RunLimits)

namespace Authorizer

/-- The authorizer after an action, whatever comes of it. -/
def act [Patterns] (a : Authorizer) : Action → Authorizer
  | .call c => a.after c
  | .authorize limits => (a.authorize limits).2
  | .query r limits => (a.query r limits).2

def acts [Patterns] (a : Authorizer) (xs : List Action) : Authorizer := xs.foldl act a

/-- What an action asserts: the facts that it states, if it is a call. -/
def asserts (a : Authorizer) : Action → Set (Origin × Fact String)
  | .call c => a.stated c
  | .authorize _ => ∅
  | .query .. => ∅

/-- What a list of actions asserts. -/
def asserted [Patterns] (a : Authorizer) : List Action → Set (Origin × Fact String)
  | [] => ∅
  | x :: rest => a.asserts x ∪ (a.act x).asserted rest

/-- Whether an action is an evaluation that no limit and no fault ends. -/
def Completes [Patterns] (a : Authorizer) : Action → Prop
  | .call _ => False
  | .authorize limits => ∀ e, (a.authorize limits).1 ≠ .error (.evaluation e)
  | .query r limits => r.validate = .ok () ∧ ∀ e, (a.query r limits).1 ≠ .error (.evaluation e)

theorem acts_concat [Patterns] (a : Authorizer) (xs : List Action) (x : Action) :
    a.acts (xs ++ [x]) = (a.acts xs).act x := List.foldl_concat ..

theorem asserted_concat [Patterns] (a : Authorizer) (xs : List Action) (x : Action) :
    a.asserted (xs ++ [x]) = a.asserted xs ∪ (a.acts xs).asserts x := by
  induction xs generalizing a with
  | nil => simp [asserted, acts]
  | cons y rest ih =>
    rw [List.cons_append, asserted, asserted, ih, Set.union_assoc]
    rfl

end Authorizer

/-- The entries that stand for facts in a table. -/
def Symbols.entriesOf (u : Symbols) (facts : Set (Origin × Fact String)) :
    Set (Origin × Fact Nat) :=
  {p | ∃ q ∈ facts, SamePair (Atom.Names u) p q}

theorem Symbols.entriesOf_mono {u : Symbols} {facts more : Set (Origin × Fact String)}
    (h : facts ⊆ more) : u.entriesOf facts ⊆ u.entriesOf more := by
  rintro p ⟨q, hq, same⟩
  exact ⟨q, h hq, same⟩

/-- What corresponds to facts is what stands for them. -/
theorem Provenance.Corresponds.eq_entriesOf {u : Symbols} (sound : u.Sound)
    {known : Set (Origin × Fact Nat)} {facts : Set (Origin × Fact String)}
    (h : Corresponds (Atom.Names u) known facts) : known = u.entriesOf facts := by
  have unique := samePair_biUnique (names_biUnique sound)
  refine Set.Subset.antisymm h.forth ?_
  rintro p ⟨q, hq, same⟩
  obtain ⟨p', hp, same'⟩ := h.back q hq
  rwa [unique.1 same same']

theorem Provenance.Corresponds.legible {u : Symbols} {known : Set (Origin × Fact Nat)}
    {facts : Set (Origin × Fact String)} (h : Corresponds (Atom.Names u) known facts) :
    LegibleFacts u known := by
  intro p hp
  obtain ⟨q, -, same⟩ := h.forth p hp
  exact ⟨q.2, same.2⟩

/-! What is kept from one action to the next. -/

/-- An entry is another one, but for a new trust if the rule is one of the authorizer. -/
structure RuleEntry.Renews (d e : RuleEntry) : Prop where
  block : d.block = e.block
  rule : d.rule = e.rule
  trust : e.block ≠ .authorizer → d.trust = e.trust

theorem RuleEntry.Renews.refl (e : RuleEntry) : e.Renews e := ⟨rfl, rfl, fun _ => rfl⟩

theorem RuleEntry.Renews.trans {c d e : RuleEntry} (h : c.Renews d) (k : d.Renews e) :
    c.Renews e := by
  refine ⟨h.block.trans k.block, h.rule.trans k.rule, fun other => ?_⟩
  exact (h.trust (k.block ▸ other)).trans (k.trust other)

/-- What can be said of an authorizer at any time, of the facts asserted so far and of the rules
that have ever been in its world, with every trust they had. -/
structure Authorizer.Traced [Patterns] (a : Authorizer) (told : Set (Origin × Fact Nat))
    (ever : Set RuleEntry) : Prop where
  sound : a.symbols.Sound
  present : ∀ e ∈ a.world.rules, e ∈ ever
  kept : ∀ e ∈ ever, ∃ d ∈ a.world.rules, d.Renews e
  holds : told ⊆ a.world.facts.pairs
  facts : ∀ u : Symbols, u.Sound → u.Fits → a.symbols.Grows u → LegibleFacts u told
  rules : ∀ u : Symbols, u.Sound → u.Fits → a.symbols.Grows u → LegibleRules u ever
  derived : ∀ u : Symbols, u.Sound → u.Fits → a.symbols.Grows u →
    a.world.facts.pairs ⊆ least (clausesOf u ever) told
  closed : a.world.phase = .converged → ∀ u : Symbols, u.Sound → u.Fits → a.symbols.Grows u →
    consequences (a.world.clauses u) a.world.facts.pairs ⊆ a.world.facts.pairs

namespace Authorizer.Traced

variable [Patterns] {a b : Authorizer} {told : Set (Origin × Fact Nat)} {ever : Set RuleEntry}
  {u : Symbols}

theorem initial (limits : RunLimits) : (ofLimits limits).Traced ∅ ∅ where
  sound := Symbols.sound_empty
  present := nofun
  kept := nofun
  holds := Set.empty_subset _
  facts _ _ _ _ := nofun
  rules _ _ _ _ := nofun
  derived _ _ _ _ := nofun
  closed := nofun

/-- The table may grow, and more may change that the world does not see. -/
theorem of_world (h : a.Traced told ever) (world : b.world = a.world) (sound : b.symbols.Sound)
    (grows : a.symbols.Grows b.symbols) : b.Traced told ever := by
  refine ⟨sound, ?_, ?_, ?_, fun u su fits later => ?_, fun u su fits later => ?_,
    fun u su fits later => ?_, fun converged u su fits later => ?_⟩
  · rw [world]
    exact h.present
  · rw [world]
    exact h.kept
  · rw [world]
    exact h.holds
  · exact h.facts u su fits (grows.trans later)
  · exact h.rules u su fits (grows.trans later)
  · rw [world]
    exact h.derived u su fits (grows.trans later)
  · rw [world] at converged ⊢
    exact h.closed converged u su fits (grows.trans later)

/-- What is stored is legible. -/
theorem stored (h : a.Traced told ever) (sound : u.Sound) (fits : u.Fits)
    (later : a.symbols.Grows u) : LegibleFacts u a.world.facts.pairs := by
  intro p hp
  have facts := h.facts u sound fits later
  have rules := h.rules u sound fits later
  exact legible_least sound rules facts p (h.derived u sound fits later hp)

/-- New facts and rules, which can be read. -/
theorem extend (h : a.Traced told ever) {more : Set (Origin × Fact Nat)}
    {others : List RuleEntry} (sound : b.symbols.Sound) (grows : a.symbols.Grows b.symbols)
    (pairs : b.world.facts.pairs = a.world.facts.pairs ∪ more)
    (rules : b.world.rules = a.world.rules ++ others)
    (idle : b.world.phase = .converged → b.world = a.world)
    (legible : ∀ u : Symbols, u.Sound → u.Fits → b.symbols.Grows u →
      LegibleFacts u more ∧ LegibleRules u {e | e ∈ others}) :
    b.Traced (told ∪ more) (ever ∪ {e | e ∈ b.world.rules}) := by
  refine ⟨sound, fun e he => .inr he, ?_, ?_, fun u su fits later => ?_,
    fun u su fits later => ?_, fun u su fits later => ?_, fun converged u su fits later => ?_⟩
  · rintro e (old | here)
    · obtain ⟨d, hd, renews⟩ := h.kept e old
      exact ⟨d, rules ▸ List.mem_append_left _ hd, renews⟩
    · exact ⟨e, here, .refl e⟩
  · rw [pairs]
    exact Set.union_subset_union_left _ h.holds
  · exact (h.facts u su fits (grows.trans later)).union (legible u su fits later).1
  · have before := h.rules u su fits (grows.trans later)
    refine before.union fun e he => ?_
    rcases List.mem_append.1 (rules ▸ he) with old | new
    · exact before e (h.present e old)
    · exact (legible u su fits later).2 e new
  · have old := h.derived u su fits (grows.trans later)
    rw [pairs]
    refine Set.union_subset (old.trans ?_) (Set.subset_union_right.trans asserted_subset_least)
    exact least_mono Set.subset_union_left (consequences_of_mono Set.subset_union_left)
  · have same := idle converged
    rw [same] at converged ⊢
    exact h.closed converged u su fits (grows.trans later)

end Authorizer.Traced

/-! Calls. -/

namespace Authorizer

variable {a : Authorizer} {told : Set (Origin × Fact Nat)} {ever : Set RuleEntry}

/-- A call adds entries that stand for what it asserts. -/
theorem Traced.call [Patterns] (h : a.Traced told ever) (c : Call) :
    ∃ more, (a.after c).Traced (told ∪ more) (ever ∪ {e | e ∈ (a.after c).world.rules}) ∧
      ∀ u : Symbols, u.Sound → u.Fits → (a.after c).symbols.Grows u →
        Corresponds (Atom.Names u) more (a.asserts (.call c)) := by
  obtain ⟨facts, rules, brings⟩ := exists_brought h.sound c
  have pairs : (rules.foldl World.addRule (facts.foldl World.addFact a.world)).facts.pairs =
      a.world.facts.pairs ∪ {p | p ∈ facts.map Entry.pair} := by
    rw [(World.foldl_addRule rules _).2.2, (World.foldl_addFact facts _).2.2,
      FactSet.pairs_insertAll]
    exact congrArg _ (Set.ext fun p => List.mem_map.symm)
  have world := brings.world a.world
  refine ⟨_, h.extend brings.sound brings.grows ?_ ?_ (fun converged => ?_)
    fun u su fits later => ⟨(brings.facts u su fits later).legible, brings.rules u su fits later⟩,
    brings.facts⟩
  · exact (congrArg (·.facts.pairs) world).trans pairs
  · rw [world, (World.foldl_addRule rules _).1, (World.foldl_addFact facts _).1]
  · rw [world] at converged ⊢
    exact World.eq_of_converged converged

/-! Evaluations. -/

/-- The rules that an evaluation moves into the world can be read with the table it leaves. -/
theorem ready_table (sound : a.symbols.Sound) :
    a.ready.symbols.Sound ∧ a.symbols.Grows a.ready.symbols ∧
      ∀ u : Symbols, u.Sound → u.Fits → a.ready.symbols.Grows u →
        LegibleRules u {e | e ∈ a.ownEntries} := by
  obtain ⟨sound, grows, -⟩ := ensures_all ensures_internScope a.scopes a.symbols sound
  obtain ⟨sound', grows', rules⟩ := ensures_all ensures_internRule a.pending _ sound
  rw [ready_symbols]
  refine ⟨sound', grows.trans grows', fun u su fits later e he => ?_⟩
  obtain ⟨r, hr, rfl⟩ := List.mem_map.1 he
  obtain ⟨q, -, named⟩ := exists_of_forall₂ (rules u su fits later) hr
  exact ⟨q, named⟩

/-- When an evaluation begins, every rule of the authorizer has the trust that its scopes and
those of the authorizer give it now. -/
theorem begun_trust : ∀ e ∈ a.begun.rules, e.block = .authorizer →
    e.trust = a.trustOf a.defaultTrust.1 e.rule := by
  intro e he own
  have owners : a.ready.trustOf a.defaultTrust.1 = a.trustOf a.defaultTrust.1 := by
    unfold trustOf
    rw [ready_owners]
  obtain ⟨d, -, same⟩ := List.mem_map.1 he
  split at same
  · rw [← same, owners]
  · rename_i other
    rw [same] at other
    exact absurd own other

theorem begun_of_ready : ∀ e ∈ a.begun.rules, ∃ d ∈ a.ready.world.rules, e.Renews d := by
  intro e he
  obtain ⟨d, hd, same⟩ := List.mem_map.1 he
  refine ⟨d, hd, ?_⟩
  split at same
  · rename_i own
    rw [← same]
    exact ⟨rfl, rfl, fun other => absurd own other⟩
  · rw [same]
    exact .refl e

theorem begun_of_world : ∀ d ∈ a.world.rules, ∃ e ∈ a.begun.rules, e.Renews d := by
  intro d hd
  have there : d ∈ a.ready.world.rules := by
    rw [ready_rules]
    exact List.mem_append_left _ hd
  refine ⟨_, List.mem_map_of_mem there, ?_⟩
  split
  · rename_i own
    exact ⟨rfl, rfl, fun other => absurd own other⟩
  · exact .refl d

variable [Patterns]

theorem Traced.begun (h : a.Traced told ever) :
    ({ a.ready with world := a.begun } : Authorizer).Traced told
      (ever ∪ {e | e ∈ a.begun.rules}) := by
  obtain ⟨sound, grows, legible⟩ := ready_table h.sound
  refine ⟨sound, fun e he => .inr he, ?_, ?_, fun u su fits later => ?_,
    fun u su fits later => ?_, fun u su fits later => ?_, fun converged u su fits later => ?_⟩
  · rintro e (old | here)
    · obtain ⟨d, hd, renews⟩ := h.kept e old
      obtain ⟨c, hc, again⟩ := begun_of_world d hd
      exact ⟨c, hc, again.trans renews⟩
    · exact ⟨e, here, .refl e⟩
  · rw [begun_facts]
    exact h.holds
  · exact h.facts u su fits (grows.trans later)
  · have before := h.rules u su fits (grows.trans later)
    refine before.union fun e he => ?_
    obtain ⟨d, hd, renews⟩ := begun_of_ready e he
    rw [ready_rules] at hd
    rw [renews.rule]
    rcases List.mem_append.1 hd with old | new
    · exact before d (h.present d old)
    · exact legible u su fits later d new
  · rw [begun_facts]
    refine (h.derived u su fits (grows.trans later)).trans ?_
    exact least_mono Set.Subset.rfl (consequences_of_mono Set.subset_union_left)
  · obtain ⟨-, same⟩ := begun_of_converged converged
    simp only [same] at converged ⊢
    exact h.closed converged u su fits (grows.trans later)

/-- What the rules derive, they derive in every later table. -/
theorem Traced.least_grows (h : a.Traced told ever) {u : Symbols} (sound : u.Sound) (fits : u.Fits)
    (later : a.symbols.Grows u) :
    a.world.least a.symbols = least (a.world.clauses u) a.world.facts.pairs := by
  have fits := later.fits fits
  have rules : LegibleRules a.symbols {e | e ∈ a.world.rules} := fun e he =>
    h.rules a.symbols h.sound fits (.refl _) e (h.present e he)
  exact Warrant.least_grows h.sound rules sound later (h.stored h.sound fits (.refl _))

/-- A run keeps what is known, however it ends. -/
theorem Traced.run (h : a.Traced told ever) (limits : RunLimits) (deadline : Deadline) :
    ({ a with world := (a.world.run a.symbols limits deadline).2 } : Authorizer).Traced told
      ever := by
  have ends := World.run_ends a.world a.symbols limits deadline
  generalize a.world.run a.symbols limits deadline = ended at ends
  obtain ⟨result, final⟩ := ended
  have clauses (u : Symbols) : final.clauses u = a.world.clauses u := World.clauses_congr ends.rules
  refine ⟨h.sound, ?_, ?_, h.holds.trans ends.facts_subset, h.facts, h.rules,
    fun u su fits later => ?_, fun converged u su fits later => ?_⟩
  · change ∀ e ∈ final.rules, _
    rw [ends.rules]
    exact h.present
  · change ∀ e ∈ ever, ∃ d ∈ final.rules, _
    rw [ends.rules]
    exact h.kept
  · refine ends.subset_least.trans ?_
    rw [h.least_grows su fits later]
    refine fun p hp => mem_least.1 hp _ (h.derived u su fits later) ?_
    exact (consequences_of_mono h.present _).trans least_closed
  · change consequences (final.clauses u) final.facts.pairs ⊆ final.facts.pairs
    rw [clauses, ends.eq_least converged, h.least_grows su fits later]
    exact least_closed

theorem Traced.saturate (h : a.Traced told ever) (limits : RunLimits) :
    (a.saturate limits).2.Traced told (ever ∪ {e | e ∈ (a.saturate limits).2.world.rules}) := by
  rw [saturate_rules, saturate_eq_begun]
  split
  · exact h.begun
  · exact h.begun.run limits limits.deadline

/-- After a complete run nothing is missing that the rules derive now from what was there, and
nothing else has been added. -/
theorem Traced.facts_of_saturate (h : a.Traced told ever) {limits : RunLimits}
    (complete : (a.saturate limits).1 = .ok ()) {u : Symbols} (sound : u.Sound) (fits : u.Fits)
    (later : a.ready.symbols.Grows u) :
    (a.saturate limits).2.world.facts.pairs =
      least ((a.saturate limits).2.world.clauses u) a.world.facts.pairs := by
  rw [World.clauses_congr (saturate_rules a limits), ← begun_facts a]
  have started := h.begun
  rcases a.saturate_cases limits with ⟨converged, -, still⟩ | ends
  · rw [still]
    exact (least_of_closed (started.closed converged u sound fits later)).symm
  · rw [complete] at ends
    exact (ends.eq_least ends.phase_of_ok).trans (started.least_grows sound fits later)

/-- Where what is asked only adds to the table, so does the evaluation. -/
theorem Traced.evaluate {α : Type} (h : a.Traced told ever) (limits : RunLimits)
    {ask : Authorizer → Except AuthorizerError α × Authorizer}
    (still : ∀ b, (ask b).2.world = b.world)
    (table : ∀ b, b.symbols.Sound →
      (ask b).2.symbols.Sound ∧ b.symbols.Grows (ask b).2.symbols) :
    (a.saturate limits).2.symbols.Grows (a.evaluate limits ask).2.symbols ∧
      (a.evaluate limits ask).2.Traced told
        (ever ∪ {e | e ∈ (a.evaluate limits ask).2.world.rules}) := by
  have saturated := h.saturate limits
  have world : (a.evaluate limits ask).2.world = (a.saturate limits).2.world := evaluate_world still
  have grown : (a.evaluate limits ask).2.symbols.Sound ∧
      (a.saturate limits).2.symbols.Grows (a.evaluate limits ask).2.symbols := by
    have sound := saturated.sound
    unfold Authorizer.evaluate
    generalize a.saturate limits = ended at sound
    obtain ⟨result, b⟩ := ended
    cases result with
    | error e => exact ⟨sound, .refl _⟩
    | ok => exact table b sound
  rw [world]
  exact ⟨grown.2, saturated.of_world world grown.1 grown.2⟩

theorem concluded_table (limits : RunLimits) (b : Authorizer) (sound : b.symbols.Sound) :
    (concluded limits b).2.symbols.Sound ∧ b.symbols.Grows (concluded limits b).2.symbols := by
  obtain ⟨sound₁, grows₁, -⟩ := ensures_all ensures_internScope b.scopes b.symbols sound
  obtain ⟨sound₂, grows₂, -⟩ := ensures_all ensures_internCheck b.checks _ sound₁
  obtain ⟨sound₃, grows₃, -⟩ := ensures_all ensures_internPolicy b.policies _ sound₂
  exact ⟨sound₃, grows₁.trans (grows₂.trans grows₃)⟩

theorem answered_table (r : Rule String PublicKey) (limits : RunLimits) (b : Authorizer)
    (sound : b.symbols.Sound) :
    (answered r limits b).2.symbols.Sound ∧ b.symbols.Grows (answered r limits b).2.symbols := by
  obtain ⟨sound₁, grows₁, -⟩ := ensures_internRule r b.symbols sound
  obtain ⟨sound₂, grows₂, -⟩ := ensures_all ensures_internScope b.scopes _ sound₁
  exact ⟨sound₂, grows₁.trans grows₂⟩

theorem Traced.authorize (h : a.Traced told ever) (limits : RunLimits) :
    (a.saturate limits).2.symbols.Grows (a.authorize limits).2.symbols ∧
      (a.authorize limits).2.Traced told (ever ∪ {e | e ∈ (a.authorize limits).2.world.rules}) := by
  rw [authorize_eq_evaluate]
  exact h.evaluate limits (fun _ => rfl) (concluded_table limits)

theorem Traced.query (h : a.Traced told ever) {r : Rule String PublicKey}
    (valid : r.validate = .ok ()) (limits : RunLimits) :
    (a.saturate limits).2.symbols.Grows (a.query r limits).2.symbols ∧
      (a.query r limits).2.Traced told (ever ∪ {e | e ∈ (a.query r limits).2.world.rules}) := by
  rw [query_eq_evaluate a valid]
  exact h.evaluate limits (fun _ => rfl) (answered_table r limits)

/-! Actions. -/

/-- An evaluation, or a query that is refused, adds to nothing that has been told. -/
theorem Traced.act_of_evaluation (h : a.Traced told ever) {x : Action} (other : ∀ c, x ≠ .call c) :
    (a.act x).Traced told (ever ∪ {e | e ∈ (a.act x).world.rules}) := by
  cases x with
  | call c => exact absurd rfl (other c)
  | authorize limits => exact (h.authorize limits).2
  | query r limits =>
    by_cases valid : r.validate = .ok ()
    · exact (h.query valid limits).2
    · have none : ever ∪ {e | e ∈ a.world.rules} = ever := Set.union_eq_left.2 h.present
      rw [Authorizer.act, query_of_invalid valid, none]
      exact h

theorem Traced.act_grows (h : a.Traced told ever) (x : Action) :
    a.symbols.Grows (a.act x).symbols := by
  have ready := (ready_table h.sound).2.1
  cases x with
  | call c =>
    obtain ⟨facts, rules, brings⟩ := exists_brought h.sound c
    exact brings.grows
  | authorize limits =>
    have later := (h.authorize limits).1
    rw [saturate_symbols] at later
    exact ready.trans later
  | query r limits =>
    by_cases valid : r.validate = .ok ()
    · have later := (h.query valid limits).1
      rw [saturate_symbols] at later
      exact ready.trans later
    · rw [Authorizer.act, query_of_invalid valid]
      exact .refl _

/-- What is kept by every action. -/
theorem Traced.act (h : a.Traced told ever) (x : Action) :
    ∃ more, (a.act x).Traced (told ∪ more) (ever ∪ {e | e ∈ (a.act x).world.rules}) ∧
      ∀ u : Symbols, u.Sound → u.Fits → (a.act x).symbols.Grows u →
        Corresponds (Atom.Names u) more (a.asserts x) := by
  cases x with
  | call c => exact h.call c
  | authorize | query =>
    refine ⟨∅, ?_, fun _ _ _ _ => ⟨nofun, nofun⟩⟩
    rw [Set.union_empty]
    exact h.act_of_evaluation nofun

/-- The rules that have been in the world at any time, with the trust that they had then. -/
def heldRules (a : Authorizer) (xs : List Action) : Set RuleEntry :=
  {e | ∃ ys, ys <+: xs ∧ e ∈ (a.acts ys).world.rules}

theorem heldRules_concat (a : Authorizer) (xs : List Action) (x : Action) :
    a.heldRules (xs ++ [x]) = a.heldRules xs ∪ {e | e ∈ (a.acts (xs ++ [x])).world.rules} := by
  ext e
  simp only [heldRules, List.prefix_concat_iff, Set.mem_ofPred_eq, Set.mem_union]
  constructor
  · rintro ⟨ys, rfl | before, he⟩
    · exact .inr he
    · exact .inl ⟨ys, before, he⟩
  · rintro (⟨ys, before, he⟩ | he)
    · exact ⟨ys, .inr before, he⟩
    · exact ⟨_, .inl rfl, he⟩

theorem Traced.acts (h : a.Traced told ever) (xs : List Action) :
    ∃ more, (a.acts xs).Traced (told ∪ more) (ever ∪ a.heldRules xs) ∧
      ∀ u : Symbols, u.Sound → u.Fits → (a.acts xs).symbols.Grows u →
        Corresponds (Atom.Names u) more (a.asserted xs) := by
  induction xs using List.reverseRecOn with
  | nil =>
    have none : a.heldRules [] ⊆ ever := by
      rintro e ⟨ys, before, he⟩
      rw [List.prefix_nil.1 before] at he
      exact h.present e he
    refine ⟨∅, ?_, fun _ _ _ _ => ⟨nofun, nofun⟩⟩
    rw [Set.union_empty, Set.union_eq_left.2 none]
    exact h
  | append_singleton xs x ih =>
    obtain ⟨before, traced, stand⟩ := ih
    obtain ⟨more, next, others⟩ := traced.act x
    rw [Set.union_assoc, Set.union_assoc, ← acts_concat, ← heldRules_concat] at next
    refine ⟨before ∪ more, next, fun u su fits later => ?_⟩
    rw [acts_concat] at later
    rw [asserted_concat]
    have grows := (traced.act_grows x).trans later
    exact (stand u su fits grows).union (others u su fits later)

/-- A complete evaluation is one run to its end, after which only the table may grow. -/
theorem Traced.saturate_of_completes (h : a.Traced told ever) {x : Action}
    (complete : a.Completes x) : ∃ limits, (a.saturate limits).1 = .ok () ∧
      (a.act x).world = (a.saturate limits).2.world ∧
      (a.saturate limits).2.symbols.Grows (a.act x).symbols := by
  cases x with
  | call c => exact complete.elim
  | authorize limits =>
    rw [Completes, authorize_eq_evaluate] at complete
    exact ⟨limits, saturate_of_evaluate complete, authorize_world a limits, (h.authorize limits).1⟩
  | query r limits =>
    obtain ⟨valid, complete⟩ := complete
    have world : (a.query r limits).2.world = (a.saturate limits).2.world := by
      rw [query_eq_evaluate a valid]
      exact evaluate_world fun _ => rfl
    rw [query_eq_evaluate a valid] at complete
    exact ⟨limits, saturate_of_evaluate complete, world, (h.query valid limits).1⟩

/-- What rules conclude, they conclude as well where every one of them relies on no less. -/
theorem consequences_wider {u : Symbols} {w : World} {known : Set (Origin × Fact Nat)}
    (wider : ∀ e ∈ ever, ∃ d ∈ w.rules, d.Renews e ∧ ∀ b ∈ e.trust.blocks, b ∈ d.trust.blocks) :
    consequences (clausesOf u ever) known ⊆ consequences (w.clauses u) known := by
  intro p hp
  obtain ⟨e, he, used, may, concludes, tag⟩ := mem_consequences_of.1 hp
  obtain ⟨d, hd, renews, more⟩ := wider e he
  refine World.mem_consequences.2 ⟨d, hd, used, fun q hq => ⟨(may q hq).1, ?_⟩, ?_, ?_⟩
  · exact Trust.reads_iff.2 fun b hb => more b (Trust.reads_iff.1 (may q hq).2 b hb)
  · rw [renews.rule]
    exact concludes
  · rw [tag]
    simp only [RuleEntry.clause, Clause.tag, renews.block]

end Authorizer

/-! Stores that are not what the rules derive from the facts asserted. -/

namespace World

variable {w : World} {symbols : Symbols} {known : Set (Origin × Fact Nat)}

/-- A store that a run would add to is no least set. -/
theorem ne_least_of_run [Patterns] (limits : RunLimits)
    (ran : (w.run symbols limits .never).1 = .ok ())
    (more : w.facts.size < (w.run symbols limits .never).2.facts.size) :
    w.facts.pairs ≠ Provenance.least (w.clauses symbols) known := by
  intro same
  have closed : consequences (w.clauses symbols) w.facts.pairs ⊆ w.facts.pairs := by
    rw [same]
    exact least_closed
  have ended : (w.run symbols limits .never).2.facts.pairs = w.facts.pairs :=
    (facts_of_run ran).trans (least_of_closed closed)
  rw [← FactSet.ncard_pairs, ← FactSet.ncard_pairs, ended] at more
  omega

/-- A store that holds more than a run over the facts alone comes to is not their least set. -/
theorem ne_least_of_rerun [Patterns] (limits : RunLimits) {told : FactSet}
    (all : known ⊆ told.pairs)
    (ran : (({ w with facts := told } : World).run symbols limits .never).1 = .ok ())
    (less : (({ w with facts := told } : World).run symbols limits .never).2.facts.size <
      w.facts.size) :
    w.facts.pairs ≠ Provenance.least (w.clauses symbols) known := by
  intro same
  have found : w.facts.pairs ⊆
      (({ w with facts := told } : World).run symbols limits .never).2.facts.pairs := by
    rw [facts_of_run ran, same]
    exact least_mono all fun _ => Set.Subset.rfl
  have counted := Set.ncard_le_ncard found (FactSet.pairs_finite _)
  rw [FactSet.ncard_pairs, FactSet.ncard_pairs] at counted
  omega

end World

namespace Authorizer

/-- After an evaluation that has completed, every rule of the authorizer has the trust that the
token and the scopes give it now. Every fact asserted has been given an entry, and the store holds
all of these. It is what the rules derive from what was stored before, and each entry follows from
the facts asserted by the rules with some trust that they have had. As long as no rule of the
authorizer has ever relied on more than now, the store is the least set that holds the facts
asserted and is closed under the rules. -/
theorem facts_of_evaluation [Patterns] (initial : RunLimits) (xs : List Action) (x : Action) :
    let start := ofLimits initial
    let a := start.acts xs
    let b := a.act x
    let told := b.symbols.entriesOf (start.asserted xs)
    a.Completes x → b.symbols.Fits →
      (∀ e ∈ b.world.rules, e.block = .authorizer →
        e.trust = a.trustOf a.defaultTrust.1 e.rule) ∧
      Corresponds (Atom.Names b.symbols) told (start.asserted xs) ∧
      told ⊆ a.world.facts.pairs ∧
      b.world.facts.pairs = least (b.world.clauses b.symbols) a.world.facts.pairs ∧
      b.world.facts.pairs ⊆
        least (clausesOf b.symbols (start.heldRules (xs ++ [x]))) told ∧
      ((∀ e ∈ start.heldRules xs, e.block = .authorizer →
          ∀ i ∈ e.trust.blocks, i ∈ (a.trustOf a.defaultTrust.1 e.rule).blocks) →
        b.world.facts.pairs = least (b.world.clauses b.symbols) told) := by
  intro start a b told complete fits
  obtain ⟨known, before, stand⟩ := (Traced.initial initial).acts xs
  rw [Set.empty_union, Set.empty_union] at before
  have evaluation : ∀ c, x ≠ .call c := by
    rintro c rfl
    exact complete
  have after : b.Traced known (start.heldRules (xs ++ [x])) := by
    rw [heldRules_concat, acts_concat]
    exact before.act_of_evaluation evaluation
  -- what stands for the facts asserted when they come in stands for them in every later table
  have stands := stand b.symbols after.sound fits (before.act_grows x)
  obtain rfl : known = told := stands.eq_entriesOf after.sound
  obtain ⟨limits, saturated, world, later⟩ := before.saturate_of_completes complete
  rw [saturate_symbols] at later
  have trusts : ∀ e ∈ b.world.rules, e.block = .authorizer →
      e.trust = a.trustOf a.defaultTrust.1 e.rule := by
    rw [world, saturate_rules]
    exact begun_trust
  have facts : b.world.facts.pairs = least (b.world.clauses b.symbols) a.world.facts.pairs := by
    rw [world]
    exact before.facts_of_saturate saturated after.sound fits later
  have derived := after.derived b.symbols after.sound fits (.refl _)
  refine ⟨trusts, stands, before.holds, facts, derived, fun less => ?_⟩
  refine Set.Subset.antisymm (derived.trans (least_mono Set.Subset.rfl fun known => ?_)) ?_
  · refine consequences_wider fun e he => ?_
    obtain ⟨d, hd, renews⟩ := after.kept e he
    by_cases own : e.block = .authorizer
    · rw [heldRules_concat, acts_concat] at he
      rcases he with old | here
      · refine ⟨d, hd, renews, ?_⟩
        rw [trusts d hd (renews.block.trans own), renews.rule]
        exact less e old own
      · exact ⟨e, here, .refl e, fun _ hb => hb⟩
    · refine ⟨d, hd, renews, ?_⟩
      rw [renews.trust own]
      exact fun _ hb => hb
  · rw [facts]
    exact least_mono before.holds fun _ => Set.Subset.rfl

/-- A token, a rule that copies what the issuer says, and a scope that comes after the first
evaluation and grants nothing new. -/
theorem facts_of_evaluation_request :
    let right (file : String) : Fact String := ⟨"right", [.str file]⟩
    let issuer : BlockDraft := { facts := [right "one"] }
    let copy (head body : String) : Rule String PublicKey :=
      { head := ⟨head, [.var "f"]⟩, body := [⟨body, [.var "f"]⟩], expressions := [], scopes := [] }
    let xs : List Action := [.call (.rule (copy "member" "right")),
      .call (.token ⟨[issuer.build none]⟩), .authorize {}, .call (.scope .authority),
      .call (.fact (right "two"))]
    let a := (ofLimits {}).acts xs
    let b := a.act (.query (copy "found" "member") {})
    (.singleton (.block 0), right "one") ∈ (ofLimits {}).asserted xs ∧
      (.singleton .authorizer, right "two") ∈ (ofLimits {}).asserted xs ∧
      b.world.facts.size = 4 ∧
      b.world.facts.pairs =
        least (b.world.clauses b.symbols) (b.symbols.entriesOf ((ofLimits {}).asserted xs)) := by
  intro right issuer copy xs
  have answer : (((ofLimits {}).acts xs).query (copy "found" "member") {}).1 =
      .ok [⟨"found", [.str "one"]⟩, ⟨"found", [.str "two"]⟩] := by
    decide +kernel
  have complete : ((ofLimits {}).acts xs).Completes (.query (copy "found" "member") {}) := by
    refine ⟨by decide +kernel, fun e failed => ?_⟩
    rw [answer] at failed
    exact nomatch failed
  have less : ∀ ys ∈ xs.inits, ∀ e ∈ ((ofLimits {}).acts ys).world.rules, e.block = .authorizer →
      e.trust.blocks.subset (((ofLimits {}).acts xs).trustOf
        ((ofLimits {}).acts xs).defaultTrust.1 e.rule).blocks := by
    decide +kernel
  dsimp only
  refine ⟨.inr (.inl ⟨by decide +kernel, by decide +kernel⟩),
    .inr (.inr (.inr (.inr (.inl ⟨by decide +kernel, by decide +kernel⟩)))), by decide +kernel, ?_⟩
  obtain ⟨-, -, -, -, -, never⟩ := facts_of_evaluation {} xs _ complete (by decide +kernel)
  refine never fun e held own => ?_
  obtain ⟨ys, before, he⟩ := held
  exact OrderedSet.subset_iff.1 (less ys ((List.mem_inits _ _).2 before) e he own)

/-- A member that a rule of the authorizer derives while it relies on the issuer stays stored, and
is found, when the first scope has put a key in the place of the issuer; it no longer follows from
what was asserted. A query that is refused evaluates nothing, so that a member is missing. -/
theorem facts_of_narrowed_evaluation :
    let issuer : BlockDraft := { facts := [⟨"right", [.str "one"]⟩] }
    let copy (head body : String) : Rule String PublicKey :=
      { head := ⟨head, [.var "f"]⟩, body := [⟨body, [.var "f"]⟩], expressions := [], scopes := [] }
    let found := { copy "found" "member" with scopes := [.authority] }
    let unbound := { copy "found" "member" with head := ⟨"found", [.var "g"]⟩ }
    let xs : List Action := [.call (.token ⟨[issuer.build none]⟩),
      .call (.rule (copy "member" "right")), .authorize {},
      .call (.scope (.key ⟨.ed25519, [7]⟩))]
    let a := (ofLimits {}).acts xs
    let b := a.act (.query found {})
    let ys := xs ++ [.call (.scope .authority), .call (.fact ⟨"right", [.str "two"]⟩)]
    let c := (ofLimits {}).acts ys
    let d := c.act (.query unbound {})
    (a.query found {}).1 = .ok [⟨"found", [.str "one"]⟩] ∧
      b.world.facts.pairs ≠
        least (b.world.clauses b.symbols) (b.symbols.entriesOf ((ofLimits {}).asserted xs)) ∧
      (c.query unbound {}).1 = .error (.statement (.invalidRule unbound.display ["$g"])) ∧
      d.world.facts.pairs ≠
        least (d.world.clauses d.symbols) (d.symbols.entriesOf ((ofLimits {}).asserted ys)) := by
  intro issuer copy found unbound xs
  let told : List Entry := [⟨.singleton (.block 0), ⟨6, [.str 1024]⟩⟩]
  let texts : List (Origin × Fact String) := [(.singleton (.block 0), ⟨"right", [.str "one"]⟩)]
  have asserted : (ofLimits {}).asserted xs ⊆ {q | q ∈ texts} := by
    have only {a : Authorizer} {c : Call} (h : ∀ q ∈ (({} : Session).add c).entries, q ∈ texts) :
        a.stated c ⊆ {q | q ∈ texts} := fun q hq => h q hq.2
    simp only [xs, Authorizer.asserted, asserts, Set.union_subset_iff, Set.empty_subset, true_and,
      and_true]
    refine ⟨only ?_, only ?_, only ?_⟩
    · decide +kernel
    · decide +kernel
    · decide +kernel
  have all : (((ofLimits {}).acts xs).act (.query found {})).symbols.entriesOf
      ((ofLimits {}).asserted xs) ⊆ (FactSet.ofList told).pairs := by
    obtain ⟨_, traced, _⟩ := (Traced.initial {}).acts (xs ++ [.query found {}])
    rw [acts_concat] at traced
    have stands : Corresponds
        (Atom.Names (((ofLimits {}).acts xs).act (.query found {})).symbols)
        {p | p ∈ told.map Entry.pair} {q | q ∈ texts} := by
      refine .of_forall₂ (.cons ⟨rfl, ?_, .cons ⟨.str ?_, ?_⟩ .nil⟩ .nil)
      all_goals decide +kernel
    refine (Symbols.entriesOf_mono asserted).trans ?_
    rw [← stands.eq_entriesOf traced.sound]
    have stored : ∀ e ∈ told, e ∈ (FactSet.ofList told).toList := by decide +kernel
    intro p hp
    obtain ⟨e, he, rfl⟩ := List.mem_map.1 hp
    exact stored e he
  dsimp only
  refine ⟨by decide +kernel, ?_, by decide +kernel, ?_⟩
  · exact World.ne_least_of_rerun {} all (by decide +kernel) (by decide +kernel)
  · exact World.ne_least_of_run {} (by decide +kernel) (by decide +kernel)

end Authorizer

end Warrant
