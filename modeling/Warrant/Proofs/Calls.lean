import Warrant.Authorizer
import Warrant.Proofs.Saturation

/-! An authorizer from its first call to its first evaluation.
Until something is evaluated no rule of the authorizer is in the world, and the world has never
run. The first evaluation therefore moves every rule there, with the trust it has by then, and
runs (`saturate_eq`); what comes of a token is told by `World.addBlocks` alone. -/

namespace Warrant

/-- A call that adds to an authorizer. -/
inductive Call where
  | token (t : Token)
  | fact (f : Fact String)
  | rule (r : Rule String PublicKey)
  | check (c : Check String PublicKey)
  | policy (p : Policy String PublicKey)
  | scope (s : Scope PublicKey)

namespace Call

def token? : Call → Option Token
  | .token t => some t
  | _ => none

def fact? : Call → Option (Fact String)
  | .fact f => some f
  | _ => none

def rule? : Call → Option (Rule String PublicKey)
  | .rule r => some r
  | _ => none

def check? : Call → Option (Check String PublicKey)
  | .check c => some c
  | _ => none

def policy? : Call → Option (Policy String PublicKey)
  | .policy p => some p
  | _ => none

def scope? : Call → Option (Scope PublicKey)
  | .scope s => some s
  | _ => none

end Call

/-- Whether a statement passes its test; a token has none of its own. -/
def Call.Valid : Call → Prop
  | .token _ => False
  | .fact f => f.validateFact = .ok ()
  | .rule r => r.validate = .ok ()
  | .check c => c.validate = .ok ()
  | .policy p => p.validate = .ok ()
  | .scope _ => True

theorem Call.Valid.ne_token {c : Call} (h : c.Valid) (t : Token) : c ≠ .token t := by
  rintro rfl
  exact h

namespace Authorizer

def call (a : Authorizer) : Call → Except AuthorizerError Authorizer
  | .token t => a.addToken t
  | .fact f => a.addFact f
  | .rule r => a.addRule r
  | .check c => a.addCheck c
  | .policy p => a.addPolicy p
  | .scope s => .ok (a.addScope s)

/-- The authorizer after a call, which is the one before if the call is refused. -/
def after (a : Authorizer) (c : Call) : Authorizer :=
  match a.call c with
  | .ok b => b
  | .error _ => a

def calls (a : Authorizer) (cs : List Call) : Authorizer := cs.foldl after a

/-- Whether none of the calls is refused. -/
def accepts (a : Authorizer) : List Call → Bool
  | [] => true
  | c :: rest =>
    match a.call c with
    | .ok b => b.accepts rest
    | .error _ => false

end Authorizer

/-! What the blocks of a token add to a world. -/

namespace World

variable {w : World}

/-- The entries of the facts of blocks, block by block. -/
def blockFacts (blocks : List TransferredBlock) : List Entry :=
  blocks.zipIdx.flatMap fun (b, i) => b.facts.map fun fact => ⟨.singleton (.block i), fact⟩

/-- The entries of the rules of blocks, block by block. -/
def blockRules (blocks : List TransferredBlock) : List RuleEntry :=
  blocks.zipIdx.flatMap fun (b, i) =>
    b.rules.map fun (trust, rule) => { block := .block i, trust, rule }

theorem foldl_addFact (entries : List Entry) (w : World) :
    let v := entries.foldl addFact w
    v.rules = w.rules ∧ (w.phase = .idle → v.phase = .idle) ∧
      v.facts = w.facts.insertAll entries := by
  induction entries generalizing w with
  | nil => exact ⟨rfl, id, rfl⟩
  | cons e rest ih =>
    obtain ⟨rules, phase, facts⟩ := ih (w.addFact e)
    exact ⟨rules, fun _ => phase rfl, facts⟩

theorem foldl_addRule (entries : List RuleEntry) (w : World) :
    let v := entries.foldl addRule w
    v.rules = w.rules ++ entries ∧ (w.phase = .idle → v.phase = .idle) ∧ v.facts = w.facts := by
  induction entries generalizing w with
  | nil => exact ⟨(List.append_nil _).symm, id, rfl⟩
  | cons e rest ih =>
    obtain ⟨rules, phase, facts⟩ := ih (w.addRule e)
    refine ⟨rules.trans ?_, fun _ => phase rfl, facts⟩
    change (w.rules ++ [e]) ++ rest = _
    rw [List.append_assoc, List.singleton_append]

theorem addBlocks_eq_foldl (w : World) (blocks : List TransferredBlock) :
    w.addBlocks blocks =
      (blockRules blocks).foldl addRule ((blockFacts blocks).foldl addFact w) := by
  rw [blockRules, blockFacts, List.foldl_flatMap, List.foldl_flatMap]
  simp only [List.foldl_map]
  rfl

theorem addBlocks_eq (w : World) (blocks : List TransferredBlock) :
    (w.addBlocks blocks).rules = w.rules ++ blockRules blocks ∧
      (w.phase = .idle → (w.addBlocks blocks).phase = .idle) ∧
      (w.addBlocks blocks).facts = w.facts.insertAll (blockFacts blocks) := by
  obtain ⟨rules, phase, facts⟩ := foldl_addFact (blockFacts blocks) w
  obtain ⟨rules', phase', facts'⟩ := foldl_addRule (blockRules blocks)
    ((blockFacts blocks).foldl addFact w)
  rw [addBlocks_eq_foldl]
  exact ⟨rules'.trans (congrArg (· ++ _) rules), fun idle => phase' (phase idle),
    facts'.trans facts⟩

theorem block_of_blockRules {blocks : List TransferredBlock} :
    ∀ e ∈ blockRules blocks, e.block ≠ .authorizer := by
  intro e he
  obtain ⟨⟨block, i⟩, -, mem⟩ := List.mem_flatMap.1 he
  obtain ⟨r, -, rfl⟩ := List.mem_map.1 mem
  exact nofun

theorem filter_own_addBlocks (w : World) (blocks : List TransferredBlock) :
    (w.addBlocks blocks).rules.filter (·.block = .authorizer) =
      w.rules.filter (·.block = .authorizer) := by
  have none : (blockRules blocks).filter (·.block = .authorizer) = [] :=
    List.filter_eq_nil_iff.2 fun e he => by simp [block_of_blockRules e he]
  rw [(addBlocks_eq w blocks).1, List.filter_append, none, List.append_nil]

theorem filter_foreign_addBlocks (w : World) (blocks : List TransferredBlock) :
    (w.addBlocks blocks).rules.filter (·.block ≠ .authorizer) =
      w.rules.filter (·.block ≠ .authorizer) ++ blockRules blocks := by
  have all : (blockRules blocks).filter (·.block ≠ .authorizer) = blockRules blocks :=
    List.filter_eq_self.2 fun e he => by simp [block_of_blockRules e he]
  rw [(addBlocks_eq w blocks).1, List.filter_append, all]

/-- Where nothing has been left to do, nothing has been added. -/
theorem eq_of_converged {facts : List Entry} {rules : List RuleEntry}
    (h : (rules.foldl addRule (facts.foldl addFact w)).phase = .converged) :
    rules.foldl addRule (facts.foldl addFact w) = w := by
  cases rules with
  | cons e rest =>
    have idle := (foldl_addRule rest ((facts.foldl addFact w).addRule e)).2.1 rfl
    cases h.symm.trans idle
  | nil =>
    cases facts with
    | cons e rest =>
      have idle := (foldl_addFact rest (w.addFact e)).2.1 rfl
      cases h.symm.trans idle
    | nil => rfl

/-- Where a new trust leaves nothing to do, it is the old one. -/
theorem updateTrust_of_converged {block : BlockId} {trust : Rule Nat Nat → Trust}
    (h : (w.updateTrust block trust).phase = .converged) : w.updateTrust block trust = w := by
  simp only [updateTrust] at h ⊢
  split at h
  · rename_i same
    simp only [same, if_true]
  · cases h

theorem updateTrust_of_same {block : BlockId} {trust : Rule Nat Nat → Trust}
    (same : ∀ e ∈ w.rules, e.block = block → e.trust = trust e.rule) :
    w.updateTrust block trust = w := by
  have rules : (w.rules.map fun e =>
      if e.block = block then { e with trust := trust e.rule } else e) = w.rules := by
    refine (List.map_congr_left fun e he => ?_).trans (List.map_id _)
    split
    · rename_i own
      exact congrArg (fun trust => { e with trust }) (same e he own).symm
    · rfl
  simp only [updateTrust, rules, if_true]

theorem filter_updateTrust {block : BlockId} {trust : Rule Nat Nat → Trust} :
    (w.updateTrust block trust).rules.filter (·.block = block) =
      (w.rules.filter (·.block = block)).map fun e => { e with trust := trust e.rule } := by
  change (w.rules.map _).filter _ = _
  induction w.rules with
  | nil => rfl
  | cons e rest ih =>
    by_cases own : e.block = block
    · simp [own, ih]
    · simp [own, ih]

theorem filter_updateTrust_of_ne {block : BlockId} {trust : Rule Nat Nat → Trust}
    {p : RuleEntry → Bool} (others : ∀ e, e.block = block → p e = false) :
    (w.updateTrust block trust).rules.filter p = w.rules.filter p := by
  change (w.rules.map _).filter _ = _
  induction w.rules with
  | nil => rfl
  | cons e rest ih =>
    by_cases own : e.block = block
    · simp [own, others, ih]
    · simp [own, ih, List.filter_cons]

end World

namespace Authorizer

/-- Nothing has been evaluated yet. -/
structure Unevaluated (a : Authorizer) : Prop where
  idle : a.world.phase = .idle
  loaded : a.rules = []
  blocks : ∀ e ∈ a.world.rules, e.block ≠ .authorizer

variable {a b : Authorizer}

theorem accepts_cons {c : Call} {cs : List Call} :
    a.accepts (c :: cs) ↔ ∃ b, a.call c = .ok b ∧ b.accepts cs := by
  rw [accepts]
  cases a.call c with
  | error e => simp
  | ok b => simp

theorem unevaluated_ofLimits (limits : RunLimits) : (ofLimits limits).Unevaluated :=
  ⟨rfl, rfl, nofun⟩

/-- What an accepted token does to an authorizer. -/
theorem addToken_eq_ok {t : Token} (h : a.addToken t = .ok b) :
    a.blocks = none ∧ unsupported? t = none ∧ ∃ owners blocks symbols,
      (Loading.token t).run.run a.symbols = (.ok (owners, blocks), symbols) ∧
      b = { a with
        symbols, owners
        blocks := some (blocks.map (·.loaded))
        world := a.world.addBlocks blocks } := by
  unfold addToken at h
  split at h
  · cases h
  · rename_i free
    cases supported : unsupported? t with
    | some p =>
      rw [supported] at h
      cases h
    | none =>
      rw [supported] at h
      refine ⟨by simpa using free, rfl, ?_⟩
      cases run : (Loading.token t).run.run a.symbols with
      | mk result symbols =>
        rw [run] at h
        cases result with
        | error e => cases h
        | ok out =>
          cases h
          exact ⟨out.1, out.2, symbols, rfl, rfl⟩

/-- What a valid statement does to an authorizer. -/
def add (a : Authorizer) : Call → Authorizer
  | .token _ => a
  | .fact f =>
    { a with
      symbols := (f.intern.run a.symbols).2
      world := a.world.addFact ⟨.singleton .authorizer, (f.intern.run a.symbols).1⟩ }
  | .rule r => { a with pending := a.pending ++ [r] }
  | .check c => { a with checks := a.checks ++ [c] }
  | .policy p => { a with policies := a.policies ++ [p] }
  | .scope s => { a with scopes := a.scopes ++ [s] }

theorem tested_eq_ok_iff {x : Except StatementError Unit} {c : Authorizer} :
    (x.mapError AuthorizerError.statement >>= fun _ => pure c) = .ok b ↔ x = .ok () ∧ b = c := by
  cases x with
  | error e => exact ⟨nofun, nofun⟩
  | ok => exact ⟨fun h => ⟨rfl, (Except.ok.inj h).symm⟩, fun h => congrArg _ h.2.symm⟩

/-- A statement is accepted for what it is, whatever the authorizer holds. -/
theorem call_eq_ok_iff {c : Call} (statement : ∀ t, c ≠ .token t) :
    a.call c = .ok b ↔ c.Valid ∧ b = a.add c := by
  cases c with
  | token t => exact absurd rfl (statement t)
  | scope s => exact ⟨fun h => ⟨trivial, (Except.ok.inj h).symm⟩, fun h => congrArg _ h.2.symm⟩
  | _ => exact tested_eq_ok_iff

theorem blocks_add {c : Call} : (a.add c).blocks = a.blocks := by
  cases c with
  | _ => rfl

/-- Once there is a token, a call either is a valid statement or changes nothing. -/
theorem call_of_loaded (loaded : a.blocks.isSome) (c : Call) :
    c.Valid ∧ a.call c = .ok (a.add c) ∨ ¬ c.Valid ∧ ∃ e, a.call c = .error e := by
  by_cases valid : c.Valid
  · exact .inl ⟨valid, (call_eq_ok_iff valid.ne_token).2 ⟨valid, rfl⟩⟩
  · refine .inr ⟨valid, ?_⟩
    cases called : a.call c with
    | error e => exact ⟨e, rfl⟩
    | ok b =>
      by_cases token : ∃ t, c = .token t
      · obtain ⟨t, rfl⟩ := token
        have refused : a.call (.token t) = .error .notEmpty := if_pos loaded
        rw [refused] at called
        cases called
      · have statement : ∀ t, c ≠ .token t := fun t same => token ⟨t, same⟩
        exact absurd ((call_eq_ok_iff statement).1 called).1 valid

open Classical in
theorem calls_of_loaded (loaded : a.blocks.isSome) (cs : List Call) :
    a.calls cs = cs.foldl (fun a c => if c.Valid then a.add c else a) a := by
  induction cs generalizing a with
  | nil => rfl
  | cons c rest ih =>
    rw [calls, List.foldl_cons, List.foldl_cons, after]
    rcases call_of_loaded loaded c with ⟨valid, called⟩ | ⟨invalid, e, called⟩
    · rw [called, if_pos valid]
      exact ih ((congrArg Option.isSome blocks_add).trans loaded)
    · rw [called, if_neg invalid]
      exact ih loaded

theorem Unevaluated.add (fresh : a.Unevaluated) (c : Call) : (a.add c).Unevaluated := by
  cases c with
  | fact f => exact ⟨rfl, fresh.loaded, fresh.blocks⟩
  | _ => exact ⟨fresh.idle, fresh.loaded, fresh.blocks⟩

theorem Unevaluated.addToken (fresh : a.Unevaluated) {t : Token} (h : a.addToken t = .ok b) :
    b.Unevaluated := by
  obtain ⟨-, -, owners, blocks, symbols, -, rfl⟩ := addToken_eq_ok h
  obtain ⟨rules, phase, -⟩ := World.addBlocks_eq a.world blocks
  refine ⟨phase fresh.idle, fresh.loaded, fun e he => ?_⟩
  rcases List.mem_append.1 (rules ▸ he) with old | new
  · exact fresh.blocks e old
  · exact World.block_of_blockRules e new

theorem Unevaluated.after (fresh : a.Unevaluated) (c : Call) : (a.after c).Unevaluated := by
  unfold Authorizer.after
  split
  · rename_i b accepted
    by_cases token : ∃ t, c = .token t
    · obtain ⟨t, rfl⟩ := token
      exact fresh.addToken accepted
    · have statement : ∀ t, c ≠ .token t := fun t same => token ⟨t, same⟩
      rw [((call_eq_ok_iff statement).1 accepted).2]
      exact fresh.add c
  · exact fresh

theorem Unevaluated.calls (fresh : a.Unevaluated) (cs : List Call) :
    (a.calls cs).Unevaluated := by
  induction cs generalizing a with
  | nil => exact fresh
  | cons c rest ih => exact ih (fresh.after c)

/-! The first evaluation. -/

/-- The authorizer once its rules are in the world, with the trust they have now. -/
def ready (a : Authorizer) : Authorizer :=
  let (trust, a) := a.defaultTrust
  a.pending.foldl (load trust) { a with pending := [] }

/-- Moving rules into the world one by one takes them all in and then adds them. -/
theorem foldl_load (trust : Trust) (rules : List (Rule String PublicKey)) (a : Authorizer) :
    rules.foldl (load trust) a =
      let taken := (rules.mapM Rule.intern).run a.symbols
      { a with
        symbols := taken.2
        world := (taken.1.map fun rule =>
          { block := .authorizer, trust := a.trustOf trust rule, rule }).foldl World.addRule a.world
        rules := a.rules ++ rules } := by
  induction rules generalizing a with
  | nil =>
    rw [List.append_nil]
    rfl
  | cons r rest ih =>
    rw [List.foldl_cons, ih, List.mapM_cons, List.append_cons]
    rfl

/-- The pending rules in the table, and the table with them. -/
def takenRules (a : Authorizer) : List (Rule Nat Nat) × Symbols :=
  (a.pending.mapM Rule.intern).run a.defaultTrust.2.symbols

/-- The pending rules as they stand in the world once they are there. -/
def ownEntries (a : Authorizer) : List RuleEntry :=
  a.takenRules.1.map fun rule =>
    { block := .authorizer, trust := a.trustOf a.defaultTrust.1 rule, rule }

theorem ready_eq (a : Authorizer) : a.ready =
    { a with
      symbols := a.takenRules.2
      world := a.ownEntries.foldl World.addRule a.world
      pending := []
      rules := a.rules ++ a.pending } :=
  foldl_load a.defaultTrust.1 a.pending { a.defaultTrust.2 with pending := [] }

section Ready

variable (a : Authorizer)

theorem ready_symbols : a.ready.symbols = a.takenRules.2 := by rw [ready_eq]

theorem ready_blocks : a.ready.blocks = a.blocks := by rw [ready_eq]

theorem ready_owners : a.ready.owners = a.owners := by rw [ready_eq]

theorem ready_scopes : a.ready.scopes = a.scopes := by rw [ready_eq]

theorem ready_checks : a.ready.checks = a.checks := by rw [ready_eq]

theorem ready_policies : a.ready.policies = a.policies := by rw [ready_eq]

theorem ready_rules : a.ready.world.rules = a.world.rules ++ a.ownEntries := by
  rw [ready_eq]
  exact (World.foldl_addRule a.ownEntries a.world).1

theorem ready_facts : a.ready.world.facts = a.world.facts := by
  rw [ready_eq]
  exact (World.foldl_addRule a.ownEntries a.world).2.2

end Ready

theorem Unevaluated.ready_idle (fresh : a.Unevaluated) : a.ready.world.phase = .idle := by
  rw [ready_eq]
  exact (World.foldl_addRule a.ownEntries a.world).2.1 fresh.idle

theorem Unevaluated.ready_trusts (fresh : a.Unevaluated) : ∀ e ∈ a.ready.world.rules,
    e.block = .authorizer → e.trust = a.ready.trustOf a.defaultTrust.1 e.rule := by
  intro e he own
  rw [ready_rules] at he
  rcases List.mem_append.1 he with old | new
  · exact absurd own (fresh.blocks e old)
  · obtain ⟨rule, -, rfl⟩ := List.mem_map.1 new
    have owners : a.ready.trustOf a.defaultTrust.1 = a.trustOf a.defaultTrust.1 := by
      unfold trustOf
      rw [ready_owners]
    rw [owners]

theorem saturate_eq_ready [Patterns] (a : Authorizer) (limits : RunLimits) : a.saturate limits =
    let world := a.ready.world.updateTrust .authorizer (a.ready.trustOf a.defaultTrust.1)
    if world.phase = .converged then (.ok (), { a.ready with world })
    else
      let ended := world.run a.ready.symbols limits limits.deadline
      (ended.1, { a.ready with world := ended.2 }) := rfl

/-- The world in which an evaluation begins: all rules are there, with the trust they have now. -/
def begun (a : Authorizer) : World :=
  a.ready.world.updateTrust .authorizer (a.ready.trustOf a.defaultTrust.1)

theorem begun_facts (a : Authorizer) : a.begun.facts = a.world.facts := a.ready_facts

theorem ownEntries_own : ∀ e ∈ a.ownEntries, e.block = .authorizer := by
  intro e he
  obtain ⟨rule, -, rfl⟩ := List.mem_map.1 he
  rfl

/-- The rules of the authorizer when an evaluation begins. -/
theorem begun_own (a : Authorizer) : a.begun.rules.filter (·.block = .authorizer) =
    (a.world.rules.filter (·.block = .authorizer) ++ a.ownEntries).map
      fun e => { e with trust := a.trustOf a.defaultTrust.1 e.rule } := by
  have owners : a.ready.trustOf a.defaultTrust.1 = a.trustOf a.defaultTrust.1 := by
    unfold trustOf
    rw [ready_owners]
  have all : a.ownEntries.filter (·.block = .authorizer) = a.ownEntries :=
    List.filter_eq_self.2 fun e he => decide_eq_true (ownEntries_own e he)
  rw [begun, World.filter_updateTrust, ready_rules, List.filter_append, all, owners]

/-- The rules of blocks are what they were. -/
theorem begun_foreign (a : Authorizer) : a.begun.rules.filter (·.block ≠ .authorizer) =
    a.world.rules.filter (·.block ≠ .authorizer) := by
  have none : a.ownEntries.filter (·.block ≠ .authorizer) = [] :=
    List.filter_eq_nil_iff.2 fun e he => by simp [ownEntries_own e he]
  rw [begun, World.filter_updateTrust_of_ne fun e own => by simp [own], ready_rules,
    List.filter_append, none, List.append_nil]

theorem saturate_eq_begun [Patterns] (a : Authorizer) (limits : RunLimits) : a.saturate limits =
    if a.begun.phase = .converged then (.ok (), { a.ready with world := a.begun })
    else
      let ended := a.begun.run a.ready.symbols limits limits.deadline
      (ended.1, { a.ready with world := ended.2 }) := rfl

/-- An evaluation finds a world that has come to its end, or lets it run. -/
theorem saturate_cases [Patterns] (a : Authorizer) (limits : RunLimits) :
    (a.begun.phase = .converged ∧ (a.saturate limits).1 = .ok () ∧
      (a.saturate limits).2.world = a.begun) ∨
    a.begun.Ends a.ready.symbols limits limits.deadline
      ((a.saturate limits).1, (a.saturate limits).2.world) := by
  rw [saturate_eq_begun]
  split
  · rename_i converged
    exact .inl ⟨converged, rfl, rfl⟩
  · exact .inr (World.run_ends a.begun a.ready.symbols limits limits.deadline)

theorem saturate_rules [Patterns] (a : Authorizer) (limits : RunLimits) :
    (a.saturate limits).2.world.rules = a.begun.rules := by
  rw [saturate_eq_begun]
  split
  · rfl
  · exact (World.run_ends a.begun a.ready.symbols limits limits.deadline).rules

/-- An evaluation changes the world alone, once the rules are there. -/
theorem saturate_state [Patterns] (a : Authorizer) (limits : RunLimits) :
    (a.saturate limits).2 = { a.ready with world := (a.saturate limits).2.world } := by
  rw [saturate_eq_begun]
  split
  · rfl
  · rfl

theorem saturate_symbols [Patterns] (a : Authorizer) (limits : RunLimits) :
    (a.saturate limits).2.symbols = a.ready.symbols := by
  rw [saturate_eq_begun]
  split
  · rfl
  · rfl

theorem ready_of_pending (h : a.pending ≠ []) : a.ready.world.phase = .idle := by
  obtain ⟨r, rest, some⟩ := List.exists_cons_of_ne_nil h
  have entries : ∃ e more, a.ownEntries = e :: more := by
    rw [ownEntries, takenRules, some, List.mapM_cons]
    exact ⟨_, _, rfl⟩
  obtain ⟨e, more, entries⟩ := entries
  rw [ready_eq, entries]
  exact (World.foldl_addRule more (a.world.addRule e)).2.1 rfl

/-- Where an evaluation begins with nothing to do, the world is as it was left. -/
theorem begun_of_converged (h : a.begun.phase = .converged) :
    a.pending = [] ∧ a.begun = a.world := by
  have same : a.begun = a.ready.world := World.updateTrust_of_converged h
  have none : a.pending = [] := by
    by_contra some
    rw [same, ready_of_pending some] at h
    cases h
  refine ⟨none, same.trans ?_⟩
  have entries : a.ownEntries = [] := by
    rw [ownEntries, takenRules, none]
    rfl
  rw [ready_eq, entries]
  rfl

/-- The first evaluation runs the world that has all the rules. -/
theorem saturate_eq [Patterns] (fresh : a.Unevaluated) (limits : RunLimits) :
    a.saturate limits =
      let ended := a.ready.world.run a.ready.symbols limits limits.deadline
      (ended.1, { a.ready with world := ended.2 }) := by
  have same : a.ready.world.updateTrust .authorizer (a.ready.trustOf a.defaultTrust.1) =
      a.ready.world := World.updateTrust_of_same fresh.ready_trusts
  rw [saturate_eq_ready, same]
  refine if_neg ?_
  rw [fresh.ready_idle]
  exact nofun

end Authorizer

end Warrant
