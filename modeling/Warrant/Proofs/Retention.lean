import Warrant.Proofs.Loadable
import Warrant.Proofs.Steps

/-! What an authorizer keeps of what it was told.
Which calls are accepted is told by the calls alone, so that the session can be followed beside the
authorizer. Evaluations may come at any time and end in any way, as long as no scope is added after
the first: then whatever a rule relies on only grows, when the token comes, and all that was derived
before can be derived later as well. So the store lies at all times between the facts of the session
and what can be derived from it, and a world that says that it has come to its end has done so for
every later table. -/

namespace Warrant

open Provenance Interning

/-! What an authorizer has been told. -/

/-- Whether there is a token yet, and the session as far as it was accepted. -/
structure Told where
  loaded : Bool := false
  session : Session := {}

/-- Whether a call is accepted. Only a token depends on what came before. -/
def Call.Accepted (loaded : Bool) : Call → Prop
  | .token t => loaded = false ∧ Authorizer.unsupported? t = none ∧ t.Loadable
  | c => c.Valid

open Classical in
/-- A call that is refused tells nothing. -/
noncomputable def Told.hear (k : Told) (c : Call) : Told :=
  if c.Accepted k.loaded then
    { loaded := k.loaded || c.token?.isSome, session := k.session.add c }
  else k

/-- Whether a step lets the world run. -/
def Step.Evaluates : Step → Prop
  | .act (.authorize _) => True
  | .act (.query r _) => r.validate = .ok ()
  | _ => False

instance : DecidablePred Step.Evaluates
  | .act (.authorize _) => inferInstanceAs (Decidable True)
  | .act (.query r _) => inferInstanceAs (Decidable (r.validate = .ok ()))
  | .act (.call _) => inferInstanceAs (Decidable False)
  | .decide _ => inferInstanceAs (Decidable False)
  | .clock _ => inferInstanceAs (Decidable False)
  | .limit _ => inferInstanceAs (Decidable False)

/-- The scope that a step adds, if it adds one. -/
def Step.scope? (x : Step) : Option (Scope PublicKey) := x.call?.bind Call.scope?

/-- No scope is added after the first evaluation. -/
def ScopesFirst (xs : List Step) : Prop :=
  xs.Pairwise fun x y => x.Evaluates → y.scope? = none

instance (xs : List Step) : Decidable (ScopesFirst xs) :=
  inferInstanceAs (Decidable (xs.Pairwise fun x y => x.Evaluates → y.scope? = none))

namespace Authorizer

/-- The table that a step works with. That of a token which turns out not to be loadable half way
is given up. -/
def worked [Patterns] (a : Authorizer) : Step → Symbols
  | .act (.call (.token t)) =>
    if a.blocks.isSome || (unsupported? t).isSome then a.symbols
    else ((Loading.token t).run.run a.symbols).2
  | x => (a.step x).symbols

/-- The tables that the steps work with, one by one. -/
def tables [Patterns] (a : Authorizer) : List Step → List Symbols
  | [] => []
  | x :: rest => a.worked x :: (a.step x).tables rest

variable {a b : Authorizer} {k : Told} {s : Session} {u : Symbols} {c : Call}

theorem worked_of_call [Patterns] {x : Step} (h : x.call? = some c) :
    a.worked x = a.worked (.act (.call c)) := by
  cases x with
  | act y =>
    cases y with
    | call d =>
      cases h
      rfl
    | authorize => cases h
    | query => cases h
  | decide kind =>
    cases h
    rfl
  | clock now =>
    cases h
    exact congrArg symbols (a.setTime_eq now)
  | limit => cases h

/-- As long as the ids of variables fit, what has been told decides whether a call is accepted. -/
theorem call_isOk_iff [Patterns] (sound : a.symbols.Sound) (loaded : a.blocks.isSome = k.loaded)
    (fits : (a.worked (.act (.call c))).Fits) : (∃ b, a.call c = .ok b) ↔ c.Accepted k.loaded := by
  by_cases token : ∃ t, c = .token t
  · obtain ⟨t, rfl⟩ := token
    have free : a.blocks = none ↔ k.loaded = false := by
      rw [← loaded]
      cases a.blocks with
      | none => simp
      | some => simp
    refine (addToken_isOk_iff sound fun none supported => ?_).trans (and_congr_left fun _ => free)
    simpa [worked, none, supported] using fits
  · have statement : ∀ t, c ≠ .token t := fun t same => token ⟨t, same⟩
    have accepted : c.Accepted k.loaded ↔ c.Valid := by
      cases c with
      | token t => exact absurd rfl (statement t)
      | _ => exact Iff.rfl
    rw [accepted]
    exact ⟨fun ⟨b, called⟩ => ((call_eq_ok_iff statement).1 called).1,
      fun valid => ⟨_, (call_eq_ok_iff statement).2 ⟨valid, rfl⟩⟩⟩

end Authorizer

/-! Sessions that grow. -/

theorem Trust.mem_written {signed : PublicKey → List BlockId} {scopes : List (Scope PublicKey)}
    {default : Trust} {current b : BlockId} : b ∈ (written signed scopes default current).blocks ↔
      b = current ∨ b = .authorizer ∨
        if scopes = [] then b ∈ default.blocks
        else ∃ scope ∈ scopes, b ∈ grantedBy signed current scope := by
  unfold written
  cases scopes with
  | nil => simp [or_assoc]
  | cons => simp [or_assoc]

/-- Whoever relies on keys relies on no less when more blocks are signed. -/
theorem Trust.written_subset {signed more : PublicKey → List BlockId}
    {scopes : List (Scope PublicKey)} {default wider : Trust} {current : BlockId}
    (keys : ∀ key, signed key ⊆ more key) (inside : ∀ b ∈ default.blocks, b ∈ wider.blocks) :
    ∀ b ∈ (written signed scopes default current).blocks,
      b ∈ (written more scopes wider current).blocks := by
  intro b
  rw [mem_written, mem_written]
  refine Or.imp_right (Or.imp_right ?_)
  split
  · exact inside b
  · rintro ⟨scope, there, granted⟩
    refine ⟨scope, there, ?_⟩
    cases scope with
    | key k => exact keys k granted
    | _ => exact granted

namespace Session

variable {s : Session} {c : Call}

/-- What was stated remains stated. -/
theorem entries_subset_add (free : ∀ t, c = .token t → s.blocks = []) :
    {p | p ∈ s.entries} ⊆ {p | p ∈ (s.add c).entries} := by
  cases c with
  | token t =>
    rw [entries_addToken (free t rfl)]
    exact Set.subset_union_left
  | fact f =>
    rw [entries_addFact]
    exact Set.subset_union_left
  | _ => exact fun _ hp => hp

variable [Patterns]

theorem entries_subset_least (s : Session) : {p | p ∈ s.entries} ⊆ s.program.least :=
  asserted_subset_least

/-- What is known between what is stated and what can be derived may take in what else is stated. -/
theorem known_between {r : Session} {known more : Set (Origin × Fact String)}
    (stated : {p | p ∈ r.entries} = {p | p ∈ s.entries} ∪ more)
    (holds : {p | p ∈ s.entries} ⊆ known) (less : known ⊆ r.program.least) :
    {p | p ∈ r.entries} ⊆ known ∪ more ∧ known ∪ more ⊆ r.program.least := by
  have all := r.entries_subset_least
  rw [stated] at all ⊢
  exact ⟨Set.union_subset_union_left _ holds,
    Set.union_subset less (Set.subset_union_right.trans all)⟩

/-- Scopes apart, a call takes nothing away from what can be derived. -/
theorem least_subset_add (free : ∀ t, c = .token t → s.blocks = []) (scope : c.scope? = none) :
    s.program.least ⊆ (s.add c).program.least := by
  refine Program.least_subset (entries_subset_add free) fun d hd => ?_
  have same (h : d ∈ (s.add c).blockRules ++ (s.add c).ownRules) : ∃ e ∈ (s.add c).program.rules,
      e.block = d.block ∧ e.rule = d.rule ∧ ∀ b ∈ d.trust.blocks, b ∈ e.trust.blocks :=
    ⟨d, h, rfl, rfl, fun _ hb => hb⟩
  change d ∈ s.blockRules ++ s.ownRules at hd
  cases c with
  | token t =>
    have empty := free t rfl
    have none (key : PublicKey) : s.signed key = [] := by
      rw [signed, empty]
      rfl
    rw [blockRules, empty] at hd
    obtain ⟨rule, hr, rfl⟩ := List.mem_map.1 hd
    refine ⟨_, List.mem_append_right _ (List.mem_map_of_mem hr), rfl, rfl, ?_⟩
    have keys (key : PublicKey) : s.signed key ⊆ (s.add (.token t)).signed key := by
      rw [none key]
      exact List.nil_subset _
    exact Trust.written_subset keys (Trust.written_subset keys fun _ hb => hb)
  | rule r =>
    refine same ?_
    simp only [ownRules, Session.add, List.map_append, ← List.append_assoc]
    exact List.mem_append_left _ hd
  | scope => cases scope
  | _ => exact same hd

end Session

/-! An authorizer and what it was told. -/

/-- What an authorizer holds of a session at any time, as a later table reads it. Rules of its own
may still have a trust that they were given before. -/
structure Authorizer.Recalls [Patterns] (u : Symbols) (a : Authorizer) (s : Session) : Prop where
  facts : ∃ known, Corresponds (Atom.Names u) a.world.facts.pairs known ∧
    {p | p ∈ s.entries} ⊆ known ∧ known ⊆ s.program.least
  blockRules : List.Forall₂ (RuleEntry.Names u) (a.world.rules.filter (·.block ≠ .authorizer))
    s.blockRules
  ownRules : List.Forall₂ (fun e r => e.rule.Names u (r.rename id id))
    (a.world.rules.filter (·.block = .authorizer)) a.rules
  blocks : List.Forall₂ (LoadedBlock.Names u s.signed) (a.blocks.getD []) s.blocks.zipIdx
  owners : a.owners.Signs u s.signed
  ended : a.world.phase = .converged → a.world.Complete u

structure Authorizer.Keeps [Patterns] (a : Authorizer) (k : Told) : Prop where
  sound : a.symbols.Sound
  loaded : a.blocks.isSome = k.loaded
  free : a.blocks = none → k.session.blocks = []
  recalls : ∀ u : Symbols, u.Sound → u.Fits → a.symbols.Grows u → a.Recalls u k.session
  rules : (a.rules ++ a.pending).map (Rule.rename id id) = k.session.rules
  checks : a.checks.map (Check.rename id id) = k.session.checks
  policies : a.policies.map (Policy.rename id id) = k.session.policies
  scopes : a.scopes.map (Scope.rename id) = k.session.scopes

/-- An authorizer before its first evaluation. -/
structure Authorizer.Starts (a : Authorizer) (k : Told) : Prop where
  holds : a.Holds k.session
  fresh : a.Unevaluated
  loaded : a.blocks.isSome = k.loaded

namespace Authorizer

variable {a b : Authorizer} {k : Told} {s r : Session} {u : Symbols} {c : Call}

/-- Before the first evaluation the store holds the facts of the session and nothing else. -/
theorem Starts.keeps [Patterns] (h : a.Starts k) : a.Keeps k := by
  have foreign : a.world.rules.filter (·.block ≠ .authorizer) = a.world.rules :=
    List.filter_eq_self.2 fun e he => by simp [h.fresh.blocks e he]
  have own : a.world.rules.filter (·.block = .authorizer) = [] :=
    List.filter_eq_nil_iff.2 fun e he => by simp [h.fresh.blocks e he]
  refine ⟨h.holds.sound, h.loaded, h.holds.free, fun u su fits later => ?_, ?_, h.holds.checks,
    h.holds.policies, h.holds.scopes⟩
  · have reads := h.holds.reads u su fits later
    refine ⟨⟨_, reads.facts, Set.Subset.rfl, asserted_subset_least⟩, ?_, ?_, reads.blocks,
      reads.owners, fun converged => ?_⟩
    · rw [foreign]
      exact reads.rules
    · rw [own, h.fresh.loaded]
      exact .nil
    · rw [h.fresh.idle] at converged
      cases converged
  · rw [h.fresh.loaded]
    exact h.holds.pending

/-! Calls. -/

theorem hear_of_valid (valid : c.Valid) :
    k.hear c = { k with session := k.session.add c } := by
  cases c with
  | token => cases valid
  | _ => simp [Told.hear, Call.Accepted, valid, Call.token?]

theorem foldl_hear_cons (k : Told) (x : Step) (rest : List Step) :
    ((x :: rest).filterMap Step.call?).foldl Told.hear k =
      (rest.filterMap Step.call?).foldl Told.hear (x.call?.elim k k.hear) := by
  rw [List.filterMap_cons]
  cases x.call? with
  | none => rfl
  | some c => rfl

theorem hear_of_refused (h : ¬ c.Accepted k.loaded) : k.hear c = k := if_neg h

/-- A call is accepted for what has been told, and then tells more: a token, or a statement. -/
theorem after_cases [Patterns] (sound : a.symbols.Sound) (loaded : a.blocks.isSome = k.loaded)
    (fits : (a.worked (.act (.call c))).Fits) :
    (a.after c = a ∧ k.hear c = k) ∨
    (∃ t, c = .token t ∧ a.addToken t = .ok (a.after c) ∧
      k.hear c = { loaded := true, session := k.session.add c }) ∨
    (c.Valid ∧ a.after c = a.add c ∧ k.hear c = { k with session := k.session.add c }) := by
  have accepted := call_isOk_iff sound loaded fits
  unfold Authorizer.after
  cases called : a.call c with
  | error e =>
    rw [called] at accepted
    exact .inl ⟨rfl, hear_of_refused fun yes => nomatch accepted.2 yes⟩
  | ok b =>
    right
    by_cases token : ∃ t, c = .token t
    · obtain ⟨t, rfl⟩ := token
      refine .inl ⟨t, rfl, called, ?_⟩
      rw [Told.hear, if_pos (accepted.1 ⟨b, called⟩)]
      simp [Call.token?]
    · have statement : ∀ t, c ≠ .token t := fun t same => token ⟨t, same⟩
      obtain ⟨valid, rfl⟩ := (call_eq_ok_iff statement).1 called
      exact .inr ⟨valid, rfl, hear_of_valid valid⟩

/-- Statements do not change what has been taken in, apart from facts. -/
theorem Recalls.statement [Patterns] (h : a.Recalls u s) (world : b.world = a.world)
    (blocks : b.blocks = a.blocks) (owners : b.owners = a.owners) (rules : b.rules = a.rules)
    (texts : r.blocks = s.blocks) (facts : r.facts = s.facts)
    (least : s.program.least ⊆ r.program.least) : b.Recalls u r := by
  obtain ⟨known, stored, more, less⟩ := h.facts
  have less := less.trans least
  obtain ⟨_, _, _, _, _, _⟩ := r
  cases texts
  cases facts
  refine ⟨⟨known, ?_, more, less⟩, ?_, ?_, ?_, ?_, ?_⟩
  · rw [world]
    exact stored
  · rw [world]
    exact h.blockRules
  · rw [world, rules]
    exact h.ownRules
  · rw [blocks]
    exact h.blocks
  · rw [owners]
    exact h.owners
  · rw [world]
    exact h.ended

namespace Keeps

variable [Patterns]

theorem addFact (h : a.Keeps k) (f : Fact String) :
    (a.add (.fact f)).Keeps { k with session := k.session.add (.fact f) } := by
  obtain ⟨sound, grows, named⟩ := ensures_internAtom f a.symbols h.sound
  refine ⟨sound, h.loaded, h.free, fun u su fits later => ?_, h.rules, h.checks, h.policies,
    h.scopes⟩
  have recalls := h.recalls u su fits (grows.trans later)
  obtain ⟨known, stored, more, less⟩ := recalls.facts
  have grown : k.session.program.least ⊆ (k.session.add (.fact f)).program.least :=
    Session.least_subset_add nofun rfl
  have between := Session.known_between (k.session.entries_addFact f) more (less.trans grown)
  refine ⟨⟨_, ?_, between⟩, recalls.blockRules, recalls.ownRules, recalls.blocks, recalls.owners,
    nofun⟩
  change Corresponds _ (a.world.addFact _).facts.pairs _
  rw [World.pairs_addFact]
  exact stored.union (.of_forall₂ (.cons ⟨rfl, named u su fits later⟩ .nil))

theorem add (h : a.Keeps k) (valid : c.Valid) (scope : c.scope? = none) :
    (a.add c).Keeps { k with session := k.session.add c } := by
  have least : k.session.program.least ⊆ (k.session.add c).program.least :=
    Session.least_subset_add (fun t same => absurd same (valid.ne_token t)) scope
  cases c with
  | token t => exact valid.elim
  | scope => cases scope
  | fact f => exact h.addFact f
  | rule r =>
    refine ⟨h.sound, h.loaded, h.free, fun u su fits later => ?_, ?_, h.checks, h.policies,
      h.scopes⟩
    · exact (h.recalls u su fits later).statement rfl rfl rfl rfl rfl rfl least
    · simp only [Authorizer.add, Session.add, ← h.rules, ← List.append_assoc, List.map_append,
        List.map_cons, List.map_nil]
  | check d =>
    refine ⟨h.sound, h.loaded, h.free, fun u su fits later => ?_, h.rules, ?_, h.policies,
      h.scopes⟩
    · exact (h.recalls u su fits later).statement rfl rfl rfl rfl rfl rfl least
    · simp [Authorizer.add, Session.add, h.checks]
  | policy p =>
    refine ⟨h.sound, h.loaded, h.free, fun u su fits later => ?_, h.rules, h.checks, ?_,
      h.scopes⟩
    · exact (h.recalls u su fits later).statement rfl rfl rfl rfl rfl rfl least
    · simp [Authorizer.add, Session.add, h.policies]

/-- The token widens what rules rely on that have been there before. -/
theorem addToken (h : a.Keeps k) {t : Token} (accepted : a.addToken t = .ok b) :
    b.Keeps { loaded := true, session := k.session.add (.token t) } := by
  obtain ⟨free, -, owners, blocks, symbols, run, rfl⟩ := addToken_eq_ok accepted
  obtain ⟨sound, grows, named⟩ := Loading.ensures_token t a.symbols h.sound
  rw [show (Loading.token t).run a.symbols = _ from run] at sound grows named
  have empty := h.free free
  refine ⟨sound, rfl, nofun, fun u su fits later => ?_, h.rules, h.checks, h.policies, h.scopes⟩
  obtain ⟨signs, names⟩ := named _ rfl u su fits later
  have recalls := h.recalls u su fits (grows.trans later)
  obtain ⟨known, stored, more, less⟩ := recalls.facts
  have grown : k.session.program.least ⊆ (k.session.add (.token t)).program.least :=
    Session.least_subset_add (fun _ _ => empty) rfl
  have between := Session.known_between (Session.entries_addToken empty t) more (less.trans grown)
  refine ⟨⟨_, ?_, between⟩, ?_, ?_, ?_, signs, fun converged => ?_⟩
  · change Corresponds _ (a.world.addBlocks blocks).facts.pairs _
    rw [World.pairs_addBlocks]
    exact stored.union (.of_forall₂ (samePair_blockFacts names))
  · have none : a.world.rules.filter (·.block ≠ .authorizer) = [] := by
      have same := recalls.blockRules
      rw [Session.blockRules, empty] at same
      exact List.forall₂_nil_right_iff.1 same
    change List.Forall₂ _ ((a.world.addBlocks blocks).rules.filter _) _
    rw [World.filter_foreign_addBlocks, none]
    exact names_blockRules names
  · change List.Forall₂ _ ((a.world.addBlocks blocks).rules.filter _) _
    rw [World.filter_own_addBlocks]
    exact recalls.ownRules
  · exact List.forall₂_map_left_iff.2 (names.imp fun _ _ h => ⟨h.trust, h.checks⟩)
  · have same : a.world.addBlocks blocks = a.world := by
      rw [World.addBlocks_eq_foldl] at converged ⊢
      exact World.eq_of_converged converged
    change (a.world.addBlocks blocks).Complete u
    change (a.world.addBlocks blocks).phase = _ at converged
    rw [same] at converged ⊢
    exact recalls.ended converged

/-! Evaluations. -/

/-- When an evaluation begins, the rules of the authorizer are those of the session, with the trust
that this gives them. -/
theorem begun_ownRules (h : a.Keeps k) (sound : u.Sound) (fits : u.Fits)
    (later : a.ready.symbols.Grows u) : List.Forall₂ (RuleEntry.Names u)
      (a.begun.rules.filter (·.block = .authorizer)) k.session.ownRules := by
  obtain ⟨sound₁, grows₁, scopes⟩ :=
    ensures_all ensures_internScope a.scopes a.symbols h.sound
  obtain ⟨-, grows₂, pending⟩ := ensures_all ensures_internRule a.pending _ sound₁
  rw [ready_symbols] at later
  have recalls := h.recalls u sound fits ((grows₁.trans grows₂).trans later)
  have scopes := scopes u sound fits (grows₂.trans later)
  have pending := pending u sound fits later
  rw [h.scopes] at scopes
  have own : a.defaultTrust.1 = k.session.ownTrust :=
    Trust.ofScopes_eq_written recalls.owners scopes _ _
  have moved : List.Forall₂ (fun e r => e.rule.Names u (r.rename id id)) a.ownEntries a.pending :=
    List.forall₂_map_left_iff.2 (List.forall₂_map_right_iff.1 pending)
  have mine : ∀ e ∈ a.world.rules.filter (·.block = .authorizer) ++ a.ownEntries,
      e.block = .authorizer := by
    intro e he
    rcases List.mem_append.1 he with old | new
    · simpa using (List.mem_filter.1 old).2
    · exact ownEntries_own e new
  have named := (List.forall₂_and_left _ _).2 ⟨mine, List.rel_append recalls.ownRules moved⟩
  rw [begun_own, Session.ownRules, ← h.rules]
  simp only [List.forall₂_map_left_iff, List.forall₂_map_right_iff]
  refine named.imp fun e r both => ⟨both.1, ?_, both.2⟩
  rw [← own]
  exact Trust.ofScopes_eq_written recalls.owners both.2.scopes _ _

theorem begun_reads (h : a.Keeps k) (sound : u.Sound) (fits : u.Fits)
    (later : a.ready.symbols.Grows u) : ∃ known,
      a.begun.Reads u { k.session.program with facts := known } ∧
        {p | p ∈ k.session.entries} ⊆ known ∧ known ⊆ k.session.program.least := by
  have recalls := h.recalls u sound fits ((ready_grows h.sound).2.trans later)
  obtain ⟨known, stored, more, less⟩ := recalls.facts
  have own := h.begun_ownRules sound fits later
  have foreign := recalls.blockRules
  rw [← begun_foreign] at foreign
  refine ⟨known, ⟨?_, fun e he => ?_, fun d hd => ?_⟩, more, less⟩
  · rw [begun_facts]
    exact stored
  · by_cases mine : e.block = .authorizer
    · obtain ⟨d, hd, names⟩ := exists_of_forall₂ own (List.mem_filter.2 ⟨he, by simpa using mine⟩)
      exact ⟨d, List.mem_append_right _ hd, names⟩
    · obtain ⟨d, hd, names⟩ :=
        exists_of_forall₂ foreign (List.mem_filter.2 ⟨he, by simpa using mine⟩)
      exact ⟨d, List.mem_append_left _ hd, names⟩
  · rcases List.mem_append.1 hd with block | mine
    · obtain ⟨e, he, names⟩ := exists_of_forall₂ foreign.flip block
      exact ⟨e, (List.mem_filter.1 he).1, names⟩
    · obtain ⟨e, he, names⟩ := exists_of_forall₂ own.flip mine
      exact ⟨e, (List.mem_filter.1 he).1, names⟩

/-- What an evaluation leaves, however it ends. -/
theorem saturate_world (h : a.Keeps k) (limits : RunLimits) (sound : u.Sound) (fits : u.Fits)
    (later : a.ready.symbols.Grows u) :
    (∃ known, (a.saturate limits).2.world.Reads u { k.session.program with facts := known } ∧
      {p | p ∈ k.session.entries} ⊆ known ∧ known ⊆ k.session.program.least) ∧
    ((a.saturate limits).2.world.phase = .converged →
      (a.saturate limits).2.world.Complete u) := by
  obtain ⟨readied, grows⟩ := ready_grows h.sound
  rcases a.saturate_cases limits with ⟨idle, -, still⟩ | ends
  · rw [still]
    refine ⟨h.begun_reads sound fits later, fun converged => ?_⟩
    rw [(begun_of_converged idle).2] at converged ⊢
    exact (h.recalls u sound fits (grows.trans later)).ended converged
  · obtain ⟨known, reads, more, less⟩ := h.begun_reads readied (later.fits fits) (.refl _)
    obtain ⟨n, left⟩ := ends.reads reads readied
    have within : ({ k.session.program with facts := known } : Program).stage n ⊆ _ :=
      Program.stage_subset_least n
    rw [Program.least_of_known more less] at within
    refine ⟨⟨_, left.grows later, more.trans (stage_mono (Nat.zero_le n)), within⟩,
      fun converged => ?_⟩
    rw [(left.grows later).complete_iff sound, ← left.complete_iff readied]
    exact ends.complete converged

theorem evaluated (h : a.Keeps k) (limits : RunLimits) {symbols : Symbols}
    (sound : symbols.Sound) (grows : a.ready.symbols.Grows symbols) :
    ({ (a.saturate limits).2 with symbols } : Authorizer).Keeps k := by
  have older := (ready_grows h.sound).2
  have rules := a.saturate_rules limits
  have world (u : Symbols) (su : u.Sound) (fits : u.Fits) (later : symbols.Grows u) :=
    h.saturate_world limits su fits (grows.trans later)
  rw [saturate_state, ready_eq]
  generalize (a.saturate limits).2.world = w at rules world
  refine ⟨sound, h.loaded, h.free, fun u su fits later => ?_, ?_, h.checks, h.policies, h.scopes⟩
  · have later' := grows.trans later
    have recalls := h.recalls u su fits (older.trans later')
    obtain ⟨⟨known, reads, between⟩, ended⟩ := world u su fits later
    refine ⟨⟨known, reads.facts, between⟩, ?_, ?_, recalls.blocks, recalls.owners, ended⟩
    · rw [rules, begun_foreign]
      exact recalls.blockRules
    · have own := h.begun_ownRules su fits later'
      rw [Session.ownRules, ← h.rules] at own
      simp only [List.forall₂_map_right_iff] at own
      rw [rules]
      exact own.imp fun _ _ named => named.rule
  · rw [← h.rules]
    exact congrArg _ (List.append_nil _)

theorem limits (h : a.Keeps k) (limits : RunLimits) :
    ({ a with limits } : Authorizer).Keeps k := by
  refine ⟨h.sound, h.loaded, h.free, fun u su fits later => ?_, h.rules, h.checks, h.policies,
    h.scopes⟩
  exact (h.recalls u su fits later).statement rfl rfl rfl rfl rfl rfl Set.Subset.rfl

/-! Steps. -/

theorem after (h : a.Keeps k) (scope : c.scope? = none)
    (fits : (a.worked (.act (.call c))).Fits) : (a.after c).Keeps (k.hear c) := by
  rcases after_cases h.sound h.loaded fits with
    ⟨same, refused⟩ | ⟨t, rfl, accepted, heard⟩ | ⟨valid, same, heard⟩
  · rw [same, refused]
    exact h
  · rw [heard]
    exact h.addToken accepted
  · rw [same, heard]
    exact h.add valid scope

theorem step (h : a.Keeps k) {x : Step} (scope : x.scope? = none) (fits : (a.worked x).Fits) :
    (a.step x).Keeps (x.call?.elim k k.hear) := by
  cases call : x.call? with
  | some c =>
    rw [Step.scope?, call] at scope
    rw [worked_of_call call] at fits
    rw [step_of_call call]
    exact h.after scope fits
  | none =>
    rcases moved_step h.sound x with moved | ⟨c, e, some, -, -⟩
    · rw [call] at moved
      generalize a.step x = b at moved
      cases moved with
      | still limits => exact h.limits limits
      | evaluated limits sound grows => exact h.evaluated limits sound grows
    · cases call.symm.trans some

theorem steps (h : a.Keeps k) {xs : List Step} (scopes : ∀ x ∈ xs, x.scope? = none)
    (fits : ∀ u ∈ a.tables xs, u.Fits) :
    (a.steps xs).Keeps ((xs.filterMap Step.call?).foldl Told.hear k) := by
  induction xs generalizing a k with
  | nil => exact h
  | cons x rest ih =>
    obtain ⟨first, others⟩ := List.forall_mem_cons.1 scopes
    obtain ⟨here, later⟩ := List.forall_mem_cons.1 fits
    rw [foldl_hear_cons]
    exact ih (h.step first here) others later

end Keeps

namespace Starts

theorem initial (limits : RunLimits) : (ofLimits limits).Starts {} :=
  ⟨.initial limits, unevaluated_ofLimits limits, rfl⟩

theorem after [Patterns] (h : a.Starts k) (fits : (a.worked (.act (.call c))).Fits) :
    (a.after c).Starts (k.hear c) := by
  have fresh := h.fresh.after c
  rcases after_cases h.holds.sound h.loaded fits with
    ⟨same, refused⟩ | ⟨t, rfl, accepted, heard⟩ | ⟨valid, same, heard⟩
  · rw [same, refused]
    exact h
  · obtain ⟨-, -, _, _, _, -, loaded⟩ := addToken_eq_ok accepted
    rw [heard]
    refine ⟨h.holds.addToken accepted, fresh, ?_⟩
    rw [loaded]
    rfl
  · rw [heard]
    rw [same] at fresh ⊢
    exact ⟨h.holds.add valid.ne_token, fresh, by rw [blocks_add, h.loaded]⟩

theorem limits (h : a.Starts k) (limits : RunLimits) :
    ({ a with limits } : Authorizer).Starts k := by
  refine ⟨?_, ⟨h.fresh.idle, h.fresh.loaded, h.fresh.blocks⟩, h.loaded⟩
  refine ⟨h.holds.sound, h.holds.free, fun u su fits later => ?_, h.holds.pending, h.holds.checks,
    h.holds.policies, h.holds.scopes⟩
  exact Holds.reads_statement (h.holds.reads u su fits later) rfl rfl rfl rfl rfl

theorem step [Patterns] (h : a.Starts k) {x : Step} (still : ¬ x.Evaluates)
    (fits : (a.worked x).Fits) :
    (a.step x).Starts (x.call?.elim k k.hear) := by
  cases call : x.call? with
  | some c =>
    rw [worked_of_call call] at fits
    rw [step_of_call call]
    exact h.after fits
  | none =>
    cases x with
    | act y =>
      cases y with
      | call c => cases call
      | authorize => exact absurd trivial still
      | query r limits =>
        change (a.query r limits).2.Starts k
        rw [query_of_invalid still]
        exact h
    | decide => cases call
    | clock => cases call
    | limit limits => exact h.limits limits

/-- The induction is on the steps that are left; the first evaluation among them is the place from
which on no scope is added. -/
theorem steps [Patterns] (h : a.Starts k) {xs : List Step} (first : ScopesFirst xs)
    (fits : ∀ u ∈ a.tables xs, u.Fits) :
    (a.steps xs).Keeps ((xs.filterMap Step.call?).foldl Told.hear k) := by
  induction xs generalizing a k with
  | nil => exact h.keeps
  | cons x rest ih =>
    obtain ⟨scopes, others⟩ := List.pairwise_cons.1 first
    by_cases evaluates : x.Evaluates
    · have none : x.scope? = none := by
        cases x with
        | act y =>
          cases y with
          | call => exact evaluates.elim
          | _ => rfl
        | _ => exact evaluates.elim
      exact h.keeps.steps (List.forall_mem_cons.2 ⟨none, fun y hy => scopes y hy evaluates⟩) fits
    · obtain ⟨here, later⟩ := List.forall_mem_cons.1 fits
      rw [foldl_hear_cons]
      exact ih (h.step evaluates here) others later

end Starts

end Authorizer

end Warrant
