import Warrant.Proofs.Formed
import Warrant.Proofs.Interruption
import Warrant.Proofs.Steps
import Warrant.Proofs.Transfers

/-! What an authorizer holds at any time.
Whatever has been done with an authorizer, and however that ended, what it holds is in order: stored
facts have no variables and depend on blocks that are there, rules and checks bind their variables,
and all of it can be read with the table. One step keeps that. What rules derive is covered, since
a head takes its terms from stored facts or from the rule itself: the strings that an expression
makes stay in its scratch layer. So what a query finds can always be read back. -/

namespace Warrant

open Interning Provenance

/-- Without variables, with sets of plain values, and with names that the table has. -/
structure Atom.Storable (u : Symbols) (f : Fact Nat) : Prop where
  ground : f.isGround
  resolves : Atom.Resolves u f

theorem Atom.Storable.grows {u w : Symbols} (later : u.Grows w) {f : Fact Nat}
    (h : Atom.Storable u f) : Atom.Storable w f :=
  ⟨h.ground, h.resolves.grows later⟩

/-! What rules derive. -/

/-- What is concluded from such facts by a rule that can be read is such a fact. -/
theorem Rule.Concludes.storable [Patterns] {u table : Symbols} {r : Rule Nat Nat}
    {facts : List (Fact Nat)}
    {fact : Fact Nat} (h : r.Concludes table facts fact) (resolves : r.Resolves u)
    (given : ∀ f ∈ facts, Atom.Storable u f) : Atom.Storable u fact := by
  obtain ⟨b, binds, -, made⟩ := h
  obtain ⟨name, terms⟩ := Atom.under_eq_some_iff.1 made
  have term : ∀ x ∈ fact.terms, x.isGround ∧ x.Resolves u := by
    intro x hx
    obtain ⟨t, ht, under⟩ := exists_of_forall₂ terms.flip hx
    cases t with
    | var v =>
      obtain ⟨f, hf, stands⟩ := binds.mem_terms under
      exact ⟨List.all_eq_true.1 (given f hf).ground x stands, (given f hf).resolves.2 x stands⟩
    | _ =>
      cases under
      have resolved := resolves.head.2 _ ht
      exact ⟨(Term.isGround_iff resolved).2 rfl, resolved⟩
  refine ⟨List.all_eq_true.2 fun x hx => (term x hx).1, ?_, fun x hx => (term x hx).2⟩
  rw [← name]
  exact resolves.head.1

/-! What is stored can be read back. -/

theorem Symbols.resolve_of_isSome {u : Symbols} {i : Nat} (h : (u.text? i).isSome) :
    u.resolve i = pure (u.textOf i) :=
  resolve_eq_ok (text?_eq_some_textOf h)

theorem Term.resolve_of_plain {u : Symbols} {t : Term Nat} (h : t.Plain u) :
    t.resolve u = pure (t.read u) := by
  cases t with
  | str i => simp [resolve, mapM, read, Symbols.resolve_of_isSome h]
  | var => cases h
  | set => cases h
  | _ => rfl

theorem Term.resolve_eq_read {u : Symbols} {t : Term Nat} (h : t.Resolves u) :
    t.resolve u = pure (t.read u) := by
  cases t with
  | var i => simp [resolve, mapM, read, Symbols.resolve_of_isSome h]
  | str i => simp [resolve, mapM, read, Symbols.resolve_of_isSome h]
  | set l =>
    rw [read, rename_set]
    refine mapM_set_eq_pure (List.forall₂_map_right_iff.2 (List.forall₂_same.2 fun x hx => ?_))
    exact resolve_of_plain (h x hx)
  | _ => rfl

theorem Atom.resolve_eq_read {u : Symbols} {a : Atom Nat} (h : a.Resolves u) :
    a.resolve u = pure (a.read u) := by
  refine mapM_eq_pure (Symbols.resolve_of_isSome h.1) ?_
  refine List.forall₂_map_right_iff.2 (List.forall₂_same.2 fun t ht => ?_)
  exact Term.resolve_eq_read (h.2 t ht)

/-! What may be held. -/

/-- One of so many blocks, or the authorizer. -/
def BlockId.Among (n : Nat) (block : BlockId) : Prop :=
  block = .authorizer ∨ ∃ i < n, block = .block i

/-- Whether a fact may be stored with an origin, if there are so many blocks. -/
structure Admissible (u : Symbols) (n : Nat) (p : Origin × Fact Nat) : Prop where
  fact : Atom.Storable u p.2
  nonempty : ∃ block, block ∈ p.1
  among : ∀ block ∈ p.1, block.Among n

/-- A rule that binds its variables and can be read. -/
structure Rule.Usable (u : Symbols) (r : Rule Nat Nat) : Prop where
  bound : r.isWellFormed
  resolves : r.Resolves u

section Held

variable {u w : Symbols} {m n : Nat}

theorem BlockId.Among.mono (more : m ≤ n) {block : BlockId} (h : block.Among m) : block.Among n :=
  h.imp_right fun ⟨i, bound, same⟩ => ⟨i, Nat.lt_of_lt_of_le bound more, same⟩

theorem Admissible.mono (later : u.Grows w) (more : m ≤ n) {p : Origin × Fact Nat}
    (h : Admissible u m p) : Admissible w n p :=
  ⟨h.fact.grows later, h.nonempty, fun block hb => (h.among block hb).mono more⟩

theorem Admissible.of_singleton {block : BlockId} {f : Fact Nat} (fact : Atom.Storable u f)
    (among : block.Among n) : Admissible u n (.singleton block, f) where
  fact := fact
  nonempty := ⟨block, OrderedSet.mem_singleton.2 rfl⟩
  among _ hb := OrderedSet.mem_singleton.1 hb ▸ among

theorem Rule.Usable.grows (later : u.Grows w) {r : Rule Nat Nat} (h : r.Usable u) : r.Usable w :=
  ⟨h.bound, h.resolves.grows later⟩

/-- A tested rule is usable once it has been taken in. -/
theorem Rule.usable_of_validate (sound : u.Sound) {q : Rule Nat Nat} {r : Rule String PublicKey}
    (named : q.Names u (r.rename id id)) (valid : r.validate = .ok ()) : q.Usable u := by
  obtain ⟨terms, bound⟩ := validate_eq_ok_iff.1 valid
  refine ⟨?_, resolves_of_names named terms⟩
  rw [isWellFormed_iff_of_names sound named, isWellFormed_rename_id]
  exact bound

/-- So is a rule of a block that can be taken in. -/
theorem Rule.usable_of_loadable (sound : u.Sound) {source : Symbols} {q r : Rule Nat Nat}
    (named : q.Names u (r.rename source.textOf source.keyOf))
    (loadable : r.Resolves source ∧ r.Bound source) : q.Usable u :=
  ⟨(isWellFormed_of_names sound named).2 loadable.2,
    resolves_of_names named (isWellFormed_terms loadable.1)⟩

theorem Atom.storable_of_validate {f : Fact Nat} {s : Fact String} (named : f.Names u (s.rename id))
    (valid : s.validateFact = .ok ()) : Atom.Storable u f := by
  have tested := validateFact_eq_ok_iff.1 valid
  refine ⟨List.all_eq_true.2 fun t ht => ?_, resolves_of_names named fun t ht => (tested t ht).2⟩
  obtain ⟨x, hx, both⟩ := exists_of_forall₂ (List.forall₂_map_right_iff.1 named.terms) ht
  rw [Term.isGround_of_names both]
  exact Term.isGround_of_isWellFormed (tested x hx).1 (tested x hx).2

theorem Atom.storable_of_loadable {source : Symbols} {f g : Fact Nat}
    (named : f.Names u (g.rename source.textOf))
    (loadable : Atom.Resolves source g ∧ g.vars = []) : Atom.Storable u f :=
  ⟨(isGround_of_names loadable.1 named).2 loadable.2,
    resolves_of_names named fun t ht => Term.isWellFormed_of_resolves (loadable.1.2 t ht)⟩

end Held

/-! What a token brings. -/

section Token

variable {t : Token} {u : Symbols} {signed : PublicKey → List BlockId}
  {blocks : List TransferredBlock}

/-- A text of a token with its place is that of one of its blocks. -/
theorem Token.exists_block {p : BlockText × Nat} (h : p ∈ (t.blocks.map Block.text).zipIdx) :
    ∃ b ∈ t.blocks, b.text = p.1 ∧ p.2 < t.blocks.length := by
  have place := List.mem_zipIdx_iff_getElem?.1 h
  rw [List.getElem?_map, Option.map_eq_some_iff] at place
  obtain ⟨b, there, same⟩ := place
  exact ⟨b, List.mem_of_getElem? there, same, (List.getElem?_eq_some_iff.1 there).1⟩

variable (named : List.Forall₂ (TransferredBlock.Names u signed) blocks
  (t.blocks.map Block.text).zipIdx) (loadable : t.Loadable)

include named loadable

theorem World.admissible_blockFacts :
    ∀ p ∈ (blockFacts blocks).map Entry.pair, Admissible u t.blocks.length p := by
  rintro ⟨origin, fact⟩ hp
  obtain ⟨q, hq, same, names⟩ := exists_of_forall₂ (samePair_blockFacts named) hp
  obtain ⟨⟨text, i⟩, place, written⟩ := List.mem_flatMap.1 hq
  obtain ⟨s, hs, rfl⟩ := List.mem_map.1 written
  obtain ⟨b, hb, rfl, bound⟩ := Token.exists_block place
  obtain ⟨f, hf, rfl⟩ := List.mem_map.1 hs
  cases same
  have storable := Atom.storable_of_loadable names ((loadable b hb).facts f hf)
  exact .of_singleton storable (.inr ⟨i, bound, rfl⟩)

theorem World.usable_blockRules (sound : u.Sound) :
    ∀ e ∈ blockRules blocks, e.rule.Usable u ∧ e.block.Among t.blocks.length := by
  intro e he
  obtain ⟨d, hd, names⟩ := exists_of_forall₂ (names_blockRules named) he
  obtain ⟨⟨text, i⟩, place, written⟩ := List.mem_flatMap.1 hd
  obtain ⟨s, hs, rfl⟩ := List.mem_map.1 written
  obtain ⟨b, hb, rfl, bound⟩ := Token.exists_block place
  obtain ⟨r, hr, rfl⟩ := List.mem_map.1 hs
  exact ⟨Rule.usable_of_loadable sound names.rule ((loadable b hb).rules r hr),
    .inr ⟨i, bound, names.block⟩⟩

theorem TransferredBlock.usable_checks (sound : u.Sound) :
    ∀ b ∈ blocks, ∀ c ∈ b.loaded.checks, ∀ q ∈ c.queries, q.Usable u := by
  intro b hb c hc q hq
  obtain ⟨p, place, names⟩ := exists_of_forall₂ named hb
  obtain ⟨source, hs, same, -⟩ := Token.exists_block place
  have checks := names.checks
  rw [← same] at checks
  obtain ⟨d, hd, both⟩ := exists_of_forall₂ (List.forall₂_map_right_iff.1 checks) hc
  obtain ⟨r, hr, queries⟩ := exists_of_forall₂ (List.forall₂_map_right_iff.1 both.queries) hq
  exact Rule.usable_of_loadable sound queries ((loadable source hs).checks d hd r hr)

end Token

namespace Authorizer

variable {a b : Authorizer}

/-- The rules that waited, in the table that an evaluation begins with. -/
theorem names_takenRules (sound : a.symbols.Sound)
    (fits : a.ready.symbols.Fits) :
    List.Forall₂ (fun q r => q.Names a.ready.symbols (r.rename id id)) a.takenRules.1
      a.pending := by
  rw [ready_symbols] at fits ⊢
  obtain ⟨sound, -, -⟩ := ensures_all ensures_internScope a.scopes a.symbols sound
  obtain ⟨sound, -, lasting⟩ := ensures_all ensures_internRule a.pending _ sound
  exact List.forall₂_map_right_iff.1 (lasting _ sound fits (.refl _))

/-- How many blocks there are. -/
def count (a : Authorizer) : Nat := (a.blocks.getD []).length

/-- What an authorizer holds is in order. -/
structure Orderly (a : Authorizer) : Prop where
  table : a.symbols.Sound
  facts : ∀ p ∈ a.world.facts.pairs, Admissible a.symbols a.count p
  rules : ∀ e ∈ a.world.rules, e.rule.Usable a.symbols ∧ e.block.Among a.count
  checks : ∀ b ∈ a.blocks.getD [], ∀ c ∈ b.checks, ∀ q ∈ c.queries, q.Usable a.symbols
  own : List.Forall₂ (fun (e : RuleEntry) r => e.rule.Names a.symbols (r.rename id id))
    (a.world.rules.filter (·.block = .authorizer)) a.rules
  pending : ∀ r ∈ a.pending, r.validate = .ok ()

namespace Orderly

theorem initial (limits : RunLimits) : (ofLimits limits).Orderly where
  table := Symbols.sound_empty
  facts := nofun
  rules := nofun
  checks := nofun
  own := .nil
  pending := nofun

/-- The table may grow, and rules may come that wait. -/
theorem of_world (h : a.Orderly) (world : b.world = a.world) (blocks : b.blocks = a.blocks)
    (rules : b.rules = a.rules) (pending : ∀ r ∈ b.pending, r.validate = .ok ())
    (sound : b.symbols.Sound) (grows : a.symbols.Grows b.symbols) : b.Orderly := by
  have count : b.count = a.count := by rw [Authorizer.count, blocks, Authorizer.count]
  refine ⟨sound, ?_, ?_, ?_, ?_, pending⟩
  · rw [world, count]
    exact fun p hp => (h.facts p hp).mono grows le_rfl
  · rw [world, count]
    exact fun e he => ⟨(h.rules e he).1.grows grows, (h.rules e he).2⟩
  · rw [blocks]
    exact fun b hb c hc q hq => (h.checks b hb c hc q hq).grows grows
  · rw [world, rules]
    exact h.own.imp fun _ _ named => named.grows grows

/-! Statements and tokens. -/

theorem addFact (h : a.Orderly) {f : Fact String} (valid : f.validateFact = .ok ())
    (fits : (a.add (.fact f)).symbols.Fits) : (a.add (.fact f)).Orderly := by
  obtain ⟨sound, grows, lasting⟩ := ensures_internAtom f a.symbols h.table
  have named := lasting _ sound fits (.refl _)
  have grown := h.of_world (b := { a with symbols := (f.intern.run a.symbols).2 }) rfl rfl rfl
    h.pending sound grows
  refine ⟨sound, fun p hp => ?_, grown.rules, grown.checks, grown.own, h.pending⟩
  rcases FactSet.mem_pairs_insert.1 hp with old | rfl
  · exact grown.facts p old
  · exact .of_singleton (Atom.storable_of_validate named valid) (.inl rfl)

theorem add (h : a.Orderly) {c : Call} (valid : c.Valid) (fits : (a.add c).symbols.Fits) :
    (a.add c).Orderly := by
  cases c with
  | token t => exact valid.elim
  | fact f => exact h.addFact valid fits
  | rule r =>
    refine h.of_world rfl rfl rfl (fun q hq => ?_) h.table (.refl _)
    rcases List.mem_append.1 hq with old | new
    · exact h.pending q old
    · rw [List.mem_singleton.1 new]
      exact valid
  | _ => exact h.of_world rfl rfl rfl h.pending h.table (.refl _)

theorem token (h : a.Orderly) {t : Token} {owners : KeyOwners} {blocks : List TransferredBlock}
    {symbols : Symbols} (free : a.blocks = none)
    (run : (Loading.token t).run.run a.symbols = (.ok (owners, blocks), symbols))
    (fits : symbols.Fits) :
    ({ a with
      symbols, owners
      blocks := some (blocks.map (·.loaded))
      world := a.world.addBlocks blocks } : Authorizer).Orderly := by
  obtain ⟨sound, grows, settled⟩ := Loading.settles_token t a.symbols h.table
  obtain ⟨-, -, lasting⟩ := Loading.ensures_token t a.symbols h.table
  rw [show (Loading.token t).run a.symbols = _ from run] at sound grows settled lasting
  have loadable : t.Loadable := (settled fits).1 ⟨_, rfl⟩
  have named := (lasting _ rfl symbols sound fits (.refl _)).2
  have count : (blocks.map (·.loaded)).length = t.blocks.length := by
    rw [List.length_map, named.length_eq, List.length_zipIdx, List.length_map]
  have more : a.count ≤ (blocks.map (·.loaded)).length := by simp [Authorizer.count, free]
  obtain ⟨rules, -, -⟩ := World.addBlocks_eq a.world blocks
  refine ⟨sound, fun p hp => ?_, fun e he => ?_, fun b hb => ?_, ?_, h.pending⟩
  · rcases World.pairs_addBlocks a.world blocks ▸ hp with old | new
    · exact (h.facts p old).mono grows more
    · exact (World.admissible_blockFacts named loadable p new).mono (.refl _) count.ge
  · rcases List.mem_append.1 (rules ▸ he) with old | new
    · exact ⟨(h.rules e old).1.grows grows, (h.rules e old).2.mono more⟩
    · obtain ⟨usable, among⟩ := World.usable_blockRules named loadable sound e new
      exact ⟨usable, among.mono count.ge⟩
  · obtain ⟨block, hblock, rfl⟩ := List.mem_map.1 hb
    exact TransferredBlock.usable_checks named loadable sound block hblock
  · change List.Forall₂ _ ((a.world.addBlocks blocks).rules.filter _) a.rules
    rw [World.filter_own_addBlocks]
    exact h.own.imp fun _ _ named => named.grows grows

/-! Evaluations. -/

/-- The rules of the authorizer come into the world. -/
theorem begun (h : a.Orderly) (fits : a.ready.symbols.Fits) :
    ({ a.ready with world := a.begun } : Authorizer).Orderly := by
  obtain ⟨sound, grows, -⟩ := ready_table h.table
  have taken := names_takenRules h.table fits
  have count : a.ready.count = a.count := by rw [Authorizer.count, ready_blocks, Authorizer.count]
  have pending : a.ready.pending = [] := by rw [ready_eq]
  have rules : a.ready.rules = a.rules ++ a.pending := by rw [ready_eq]
  refine ⟨sound, ?_, fun e he => ?_, ?_, ?_, ?_⟩
  · change ∀ p ∈ a.begun.facts.pairs, Admissible a.ready.symbols a.ready.count p
    rw [begun_facts, count]
    exact fun p hp => (h.facts p hp).mono grows le_rfl
  · change e.rule.Usable a.ready.symbols ∧ e.block.Among a.ready.count
    obtain ⟨d, hd, renews⟩ := begun_of_ready e he
    rw [renews.rule, renews.block, count]
    rcases List.mem_append.1 (a.ready_rules ▸ hd) with old | new
    · exact ⟨(h.rules d old).1.grows grows, (h.rules d old).2⟩
    · obtain ⟨q, hq, rfl⟩ := List.mem_map.1 new
      obtain ⟨r, hr, named⟩ := exists_of_forall₂ taken hq
      exact ⟨Rule.usable_of_validate sound named (h.pending r hr), .inl rfl⟩
  · change ∀ b ∈ a.ready.blocks.getD [], _
    rw [ready_blocks]
    exact fun b hb c hc q hq => (h.checks b hb c hc q hq).grows grows
  · change List.Forall₂ _ (a.begun.rules.filter _) a.ready.rules
    rw [begun_own, rules, List.forall₂_map_left_iff]
    refine List.rel_append (h.own.imp fun _ _ named => named.grows grows) ?_
    exact List.forall₂_map_left_iff.2 taken
  · change ∀ r ∈ a.ready.pending, _
    rw [pending]
    exact nofun

variable [Patterns]

/-- A run derives nothing else, wherever it ends. -/
theorem run (h : a.Orderly) {limits : RunLimits} {deadline : Deadline}
    {result : Except EvaluationError Unit} {w : World}
    (ends : a.world.Ends a.symbols limits deadline (result, w)) :
    ({ a with world := w } : Authorizer).Orderly := by
  have derived : w.facts.pairs ⊆ {p | Admissible a.symbols a.count p} := by
    refine ends.subset_least.trans fun p hp => mem_least.1 hp _ h.facts ?_
    rintro q hq
    obtain ⟨e, he, used, may, concludes, tag⟩ := World.mem_consequences.1 hq
    obtain ⟨usable, among⟩ := h.rules e he
    refine ⟨concludes.storable usable.resolves fun f hf => ?_, ⟨e.block, ?_⟩, fun block hb => ?_⟩
    · obtain ⟨p, hp, rfl⟩ := List.mem_map.1 hf
      exact (may p hp).1.fact
    · rw [tag, mem_tag]
      exact .inl rfl
    · rw [tag, mem_tag] at hb
      rcases hb with rfl | ⟨p, hp, hb⟩
      · exact among
      · exact (may p hp).1.among block hb
  refine ⟨h.table, fun p hp => derived hp, ?_, h.checks, ?_, h.pending⟩
  · exact ends.rules ▸ h.rules
  · exact ends.rules ▸ h.own

theorem saturate (h : a.Orderly) (limits : RunLimits) (fits : a.ready.symbols.Fits) :
    (a.saturate limits).2.Orderly := by
  have started := h.begun fits
  rw [saturate_state]
  rcases a.saturate_cases limits with ⟨-, -, still⟩ | ends
  · rw [still]
    exact started
  · exact started.run ends

/-! Any steps. -/

theorem moved (h : a.Orderly) {c : Option Call} (moved : a.Moved c b) (fits : b.symbols.Fits) :
    b.Orderly := by
  cases moved with
  | still limits => exact h.of_world rfl rfl rfl h.pending h.table (.refl _)
  | statement valid => exact h.add valid fits
  | token free run => exact h.token free run fits
  | evaluated limits sound grows =>
    have saturated := h.saturate limits (grows.fits fits)
    refine saturated.of_world rfl rfl rfl saturated.pending sound ?_
    rw [saturate_symbols]
    exact grows

theorem step (h : a.Orderly) (x : Step) (fits : (a.step x).symbols.Fits) : (a.step x).Orderly := by
  rcases moved_step h.table x with moved | ⟨c, e, -, -, same⟩
  · exact h.moved moved fits
  · rw [same]
    exact h

theorem steps (h : a.Orderly) (xs : List Step) (fits : (a.steps xs).symbols.Fits) :
    (a.steps xs).Orderly := by
  induction xs generalizing a with
  | nil => exact h
  | cons x rest ih =>
    have here := (steps_table (step_table h.table x).1 rest).2.fits fits
    exact ih (h.step x here) fits

end Orderly

/-! Queries. -/

/-- What a query finds is what the rule concludes from stored facts that it may read. -/
theorem mem_query [Patterns] {w : World} {r : Rule Nat Nat} {block : BlockId} {trust : Trust}
    {symbols : Symbols} {deadline : Deadline} {found : FactSet}
    (h : w.query r block trust symbols deadline = .ok found) {f : Fact Nat} :
    f ∈ found.toList.map (·.fact) ↔
      ∃ used, MayUse trust w.facts.pairs used ∧ r.Concludes symbols (used.map (·.2)) f := by
  rcases w.query_cuts r trust symbols block deadline with ⟨limit, limited⟩ | same
  · cases h.symm.trans limited
  · rw [same] at h
    unfold World.query at h
    cases run : r.apply block symbols { facts := w.facts, trust, deadline := .never } with
    | error e =>
      rw [run] at h
      cases h
    | ok derived =>
      rw [run] at h
      cases h
      have stored (e : Entry) : e ∈ (FactSet.ofList derived).toList ↔
          ∃ d ∈ derived, d.pair = e.pair := by
        rw [← FactSet.mem_pairs, FactSet.ofList, FactSet.pairs_insertAll]
        exact or_iff_right nofun
      rw [List.mem_map]
      constructor
      · rintro ⟨e, he, rfl⟩
        obtain ⟨d, hd, same⟩ := (stored e).1 he
        obtain ⟨taken, takes, -, concludes, -⟩ := (Rule.mem_apply rfl run).1 hd
        refine ⟨_, Join.mayUse_of_takes takes, ?_⟩
        rwa [show e.fact = d.fact from (congrArg Prod.snd same).symm]
      · rintro ⟨used, may, concludes⟩
        obtain ⟨taken, takes, rfl⟩ := Join.exists_takes (j := { facts := w.facts, trust }) may
        let e : Entry := ⟨(Join.origins .empty taken).insert block, f⟩
        have derives : e ∈ derived :=
          (Rule.mem_apply rfl run).2 ⟨taken, takes, .inl rfl, concludes, rfl⟩
        exact ⟨e, (stored e).2 ⟨e, derives, rfl⟩, rfl⟩

/-- Whatever is found can be read back, so that only the evaluation itself can fail. -/
theorem Orderly.answered [Patterns] (h : a.Orderly) {r : Rule String PublicKey}
    (valid : r.validate = .ok ())
    {limits : RunLimits} (fits : (answered r limits a).2.symbols.Fits) {e : AuthorizerError}
    (failed : (answered r limits a).1 = .error e) : ∃ fault, e = .evaluation fault := by
  obtain ⟨sound₁, grows₁, lasting⟩ := ensures_internRule r a.symbols h.table
  obtain ⟨sound₂, grows₂, -⟩ := ensures_all ensures_internScope a.scopes _ sound₁
  set u := (Authorizer.answered r limits a).2.symbols
  have usable := Rule.usable_of_validate sound₂ (lasting u sound₂ fits grows₂) valid
  have stored : ∀ p ∈ a.world.facts.pairs, Atom.Storable u p.2 :=
    fun p hp => (h.facts p hp).fact.grows (grows₁.trans grows₂)
  obtain ⟨trust, asked⟩ : ∃ trust, (Authorizer.answered r limits a).1 =
      ((a.world.query (r.intern.run a.symbols).1 .authorizer trust u limits.deadline).mapError
        .evaluation >>= fun found =>
          ((found.toList.map (·.fact)).eraseDups.mapM (Atom.resolve u)).mapError .ofTransfer) :=
    ⟨_, rfl⟩
  rw [asked] at failed
  cases query : a.world.query (r.intern.run a.symbols).1 .authorizer trust u limits.deadline with
  | error fault =>
    rw [query] at failed
    exact ⟨fault, (Except.error.inj failed).symm⟩
  | ok found =>
    have read : (found.toList.map (·.fact)).eraseDups.mapM (Atom.resolve u) =
        pure ((found.toList.map (·.fact)).eraseDups.map (Atom.read u)) := by
      refine mapM_eq_pure (List.forall₂_map_right_iff.2 (List.forall₂_same.2 fun f hf => ?_))
      obtain ⟨used, may, concludes⟩ := (mem_query query).1 (List.mem_eraseDups.1 hf)
      refine Atom.resolve_eq_read (concludes.storable usable.resolves fun f hf => ?_).resolves
      obtain ⟨p, hp, rfl⟩ := List.mem_map.1 hf
      exact stored p (may p hp).1
    rw [query] at failed
    change ((found.toList.map (·.fact)).eraseDups.mapM (Atom.resolve u)).mapError _ = _ at failed
    rw [read] at failed
    cases failed

theorem Orderly.query [Patterns] (h : a.Orderly) {r : Rule String PublicKey}
    (valid : r.validate = .ok ())
    {limits : RunLimits} (fits : (a.query r limits).2.symbols.Fits) {e : AuthorizerError}
    (failed : (a.query r limits).1 = .error e) : ∃ fault, e = .evaluation fault := by
  have table := saturate_symbols a limits
  have orderly := h.saturate limits
  rw [query_eq_evaluate a valid] at fits failed
  unfold evaluate at fits failed
  generalize a.saturate limits = ended at table orderly fits failed
  obtain ⟨result, b⟩ := ended
  cases result with
  | error fault => exact ⟨fault, (Except.error.inj failed).symm⟩
  | ok =>
    have sound : b.symbols.Sound := table ▸ (ready_table h.table).1
    have ready : a.ready.symbols.Fits := table ▸ (answered_table r limits b sound).2.fits fits
    exact (orderly ready).answered valid fits failed

/-! The rules that have been accepted. -/

/-- The rule that a step adds, if it adds one and is not refused. -/
def added? (a : Authorizer) (x : Step) : Option (Rule String PublicKey) :=
  x.call?.bind fun c => if (a.call c).isOk then c.rule? else none

/-- The rules that steps add, in their order. -/
def addedRules [Patterns] (a : Authorizer) : List Step → List (Rule String PublicKey)
  | [] => []
  | x :: rest => (a.added? x).toList ++ (a.step x).addedRules rest

theorem rules_step [Patterns] (sound : a.symbols.Sound) (x : Step) :
    (a.step x).rules ++ (a.step x).pending = a.rules ++ a.pending ++ (a.added? x).toList := by
  unfold added?
  rcases moved_step sound x with moved | ⟨c, e, call, refused, same⟩
  · generalize x.call? = call at moved ⊢
    generalize a.step x = b at moved ⊢
    cases moved with
    | still => simp
    | @statement c valid =>
      have accepted : (a.call c).isOk := by
        rw [(call_eq_ok_iff valid.ne_token).2 ⟨valid, rfl⟩]
        rfl
      rw [Option.bind_some, if_pos accepted]
      cases c with
      | token t => exact valid.elim
      | rule r => simp [Authorizer.add, Call.rule?]
      | _ => simp [Authorizer.add, Call.rule?]
    | token => simp [Call.rule?]
    | evaluated limits =>
      rw [saturate_state, ready_eq]
      simp
  · rw [call, same, Option.bind_some, refused]
    exact (List.append_nil _).symm

theorem rules_steps [Patterns] (sound : a.symbols.Sound) (xs : List Step) :
    (a.steps xs).rules ++ (a.steps xs).pending = a.rules ++ a.pending ++ a.addedRules xs := by
  induction xs generalizing a with
  | nil => exact (List.append_nil _).symm
  | cons x rest ih =>
    have later := ih (step_table sound x).1
    rw [rules_step sound x, List.append_assoc] at later
    exact later

/-! What an authorizer holds. -/

/-- After any steps, refused and interrupted ones included, stored facts have no variables and no
names that the table lacks, and depend on the authorizer or on blocks that are there; rules and the
checks of blocks bind their variables and can be read; nothing stands in the table twice; and the
rules that were accepted are, in their order, those that are in the world and then those that wait.
So a query with a tested rule fails only as an evaluation does. The table must stay below the limit
for variables. -/
theorem orderly_at_any_time [Patterns] {limits : RunLimits} {xs : List Step}
    (fits : ((ofLimits limits).steps xs).symbols.Fits) :
    let a := (ofLimits limits).steps xs
    (∀ e ∈ a.world.facts.toList, e.fact.isGround ∧ Atom.Resolves a.symbols e.fact) ∧
    (∀ e ∈ a.world.facts.toList, (∃ b, b ∈ e.origin) ∧
      ∀ b ∈ e.origin, b = .authorizer ∨ ∃ i < (a.blocks.getD []).length, b = .block i) ∧
    (∀ e ∈ a.world.rules, e.rule.isWellFormed ∧ e.rule.Resolves a.symbols) ∧
    (∀ b ∈ a.blocks.getD [], ∀ c ∈ b.checks, ∀ q ∈ c.queries,
      q.isWellFormed ∧ q.Resolves a.symbols) ∧
    a.symbols.strings.Nodup ∧ (∀ s ∈ a.symbols.strings, s ∉ Symbols.builtins) ∧
    a.symbols.keys.Nodup ∧
    (∃ loaded, (ofLimits limits).addedRules xs = loaded ++ a.pending ∧
      List.Forall₂ (fun (e : RuleEntry) r => e.rule.Names a.symbols (r.rename id id))
        (a.world.rules.filter (·.block = .authorizer)) loaded) ∧
    ∀ r more, r.validate = .ok () → (a.query r more).2.symbols.Fits →
      ∀ e, (a.query r more).1 = .error e → ∃ fault, e = .evaluation fault := by
  intro a
  have h : a.Orderly := (Orderly.initial limits).steps xs fits
  refine ⟨fun e he => ?_, fun e he => ?_, fun e he => ?_, fun b hb c hc q hq => ?_,
    h.table.strings, h.table.foreign, h.table.keys, ⟨a.rules, ?_, h.own⟩, ?_⟩
  · exact ⟨(h.facts e.pair he).fact.ground, (h.facts e.pair he).fact.resolves⟩
  · exact ⟨(h.facts e.pair he).nonempty, (h.facts e.pair he).among⟩
  · exact ⟨(h.rules e he).1.bound, (h.rules e he).1.resolves⟩
  · exact ⟨(h.checks b hb c hc q hq).bound, (h.checks b hb c hc q hq).resolves⟩
  · exact (rules_steps (a := ofLimits limits) Symbols.sound_empty xs).symm
  · intro r more valid fits e failed
    exact h.query valid fits failed

/-- A token with a third party, a second one and a fact that are refused, an evaluation that has no
time and a query that stops at a limit, and a rule that waits. -/
theorem orderly_at_any_time_request :
    let copy (head body : String) : Rule String PublicKey :=
      { head := ⟨head, [.var "f"]⟩, body := [⟨body, [.var "f"]⟩], expressions := [], scopes := [] }
    let issuer : BlockDraft := { facts := [⟨"right", [.str "one"]⟩, ⟨"right", [.str "two"]⟩] }
    let party : BlockDraft :=
      { rules := [copy "member" "right"], checks := [.ofBody .one [⟨"right", [.str "one"]⟩]] }
    let token : Token := ⟨[issuer.build none, party.build (some ⟨.ed25519, [1]⟩)]⟩
    let xs : List Step := [.act (.call (.rule (copy "owner" "right"))), .act (.call (.token token)),
      .act (.call (.token token)), .act (.call (.fact ⟨"right", [.var "f"]⟩)),
      .act (.authorize { maxTime := ⟨0, 0⟩ }),
      .act (.query (copy "found" "owner") { maxFacts := 3 }),
      .act (.call (.rule (copy "friend" "owner")))]
    let a := (ofLimits {}).steps xs
    a.symbols.Fits ∧ a.world.facts.size = 6 ∧ a.world.rules.length = 2 ∧
      (∀ e ∈ a.world.facts.toList, e.fact.isGround ∧ Atom.Resolves a.symbols e.fact) ∧
      (ofLimits {}).addedRules xs = [copy "owner" "right", copy "friend" "owner"] := by
  intro copy issuer party token xs a
  have fits : a.symbols.Fits := by decide +kernel
  refine ⟨fits, by decide +kernel, by decide +kernel, (orderly_at_any_time fits).1, ?_⟩
  decide +kernel

end Authorizer

end Warrant
