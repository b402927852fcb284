import Warrant.Proofs.Session

/-! The first evaluation of a session.
Whether it comes to a decision, which policy that names and which checks fail is a matter of what
was written, of the limits, and of nothing else: `Authorizer.Holds.outcome` says it in terms of
the session. -/

namespace Warrant

open Provenance Interning

open Classical in
/-- The decision on a session, if the limits let it come to one. -/
noncomputable def Session.outcome [Patterns] (s : Session) (limits : RunLimits) :
    Option (Option MatchedPolicy × List (BlockId × Nat)) :=
  if ¬ s.program.Broken ∧ s.program.Room limits then
    (s.hearing.ruling (answer s.program.least)).toOption.map Ruling.outline
  else none

theorem Session.runs_of_outcome [Patterns] {s : Session} {limits : RunLimits}
    {d : Option MatchedPolicy × List (BlockId × Nat)} (h : s.outcome limits = some d) :
    ¬ s.program.Broken ∧ s.program.Room limits := by
  unfold outcome at h
  split at h
  · assumption
  · cases h

/-! Hearings over ids and over names. -/

structure Asked.Names (u : Symbols) (c : Asked Nat Nat) (d : Asked String PublicKey) : Prop where
  site : c.site = d.site
  check : c.check.Names u d.check
  trust : ∀ q r, q.Names u r → c.trust q = d.trust r

structure Hearing.Names (u : Symbols) (h : Hearing Nat Nat) (k : Hearing String PublicKey) :
    Prop where
  checks : List.Forall₂ (Asked.Names u) h.checks k.checks
  policies : List.Forall₂ (Policy.Names u) h.policies k.policies
  trust : ∀ q r, q.Names u r → h.trust q = k.trust r

section Congruence

variable {u : Symbols} {ε : Type}

theorem Check.Names.passes_congr {c : Check Nat Nat} {d : Check String PublicKey}
    (h : c.Names u d) {ask : Rule Nat Nat → Except ε Bool}
    {ask' : Rule String PublicKey → Except ε Bool} (same : ∀ q r, q.Names u r → ask q = ask' r) :
    c.passes ask = d.passes ask' := by
  have asked := firstKept_congr (h.queries.imp same)
  have negated := firstKept_congr (h.queries.imp fun q r named =>
    congrArg (Except.map not) (same q r named))
  unfold Check.passes
  rw [h.kind, asked, negated]

theorem Hearing.map_outline_ruling {σ κ : Type} (h : Hearing σ κ)
    (ask : Trust → Rule σ κ → Except ε Bool) :
    (h.ruling ask).map Ruling.outline = do
      let sites ← (Rule.allKept
        (fun c => (c.check.passes fun q => ask (c.trust q) q).map not) h.checks).map
          (List.map Asked.site)
      let policy ← (firstOf
        (fun p => Rule.firstKept (fun q => ask (h.trust q) q) p.1.queries)
        h.policies.zipIdx).map (Option.map matchedPolicy)
      return (policy, sites) := by
  unfold ruling
  cases Rule.allKept (fun c => (c.check.passes fun q => ask (c.trust q) q).map not) h.checks with
  | error e => rfl
  | ok failed =>
    cases firstOf (fun p => Rule.firstKept (fun q => ask (h.trust q) q) p.1.queries)
        h.policies.zipIdx with
    | error e => rfl
    | ok first => rfl

/-- Hearings whose queries are answered alike come to the same ruling. -/
theorem Hearing.Names.ruling_congr {h : Hearing Nat Nat} {k : Hearing String PublicKey}
    (named : h.Names u k) (ask : Trust → Rule Nat Nat → Except ε Bool)
    (ask' : Trust → Rule String PublicKey → Except ε Bool)
    (same : ∀ trust q r, q.Names u r → ask trust q = ask' trust r) :
    (h.ruling ask).map Ruling.outline = (k.ruling ask').map Ruling.outline := by
  have failed : (Rule.allKept
      (fun c => (c.check.passes fun q => ask (c.trust q) q).map not) h.checks).map
        (List.map Asked.site) =
      (Rule.allKept (fun c => (c.check.passes fun q => ask' (c.trust q) q).map not)
        k.checks).map (List.map Asked.site) := by
    refine allKept_congr (named.checks.imp fun c d both => ⟨?_, both.site⟩)
    refine congrArg (Except.map not) ?_
    refine both.check.passes_congr fun q r rule => ?_
    rw [both.trust q r rule]
    exact same (d.trust r) q r rule
  have first : (firstOf (fun p => Rule.firstKept (fun q => ask (h.trust q) q) p.1.queries)
      h.policies.zipIdx).map (Option.map matchedPolicy) =
      (firstOf (fun p => Rule.firstKept (fun q => ask' (k.trust q) q) p.1.queries)
        k.policies.zipIdx).map (Option.map matchedPolicy) := by
    refine firstOf_congr ((forall₂_zipIdx named.policies 0).imp fun p q both => ⟨?_, ?_⟩)
    · refine firstKept_congr (both.1.queries.imp fun a b rule => ?_)
      rw [named.trust a b rule]
      exact same (k.trust b) a b rule
    · unfold matchedPolicy
      rw [both.1.kind, both.2]
  rw [map_outline_ruling, map_outline_ruling, failed, first]

/-- And so they do where the same queries match. -/
theorem Hearing.Names.decision_congr {h : Hearing Nat Nat} {k : Hearing String PublicKey}
    (named : h.Names u k) {matched : Trust → Rule Nat Nat → Prop}
    {matched' : Trust → Rule String PublicKey → Prop}
    (same : ∀ trust q r, q.Names u r → (matched trust q ↔ matched' trust r)) :
    (h.decision matched).outline = (k.decision matched').outline := by
  have answers (p : Prop) : Tells (ask p False) p := tells_ask False.elim
  have left := h.ruling_eq_decision (fun trust q => ask (matched trust q) False) matched
    (fun _ _ _ _ => answers _) fun _ _ _ _ => answers _
  have right := k.ruling_eq_decision (fun trust r => ask (matched' trust r) False) matched'
    (fun _ _ _ _ => answers _) fun _ _ _ _ => answers _
  have both := named.ruling_congr (fun trust q => ask (matched trust q) False)
    (fun trust r => ask (matched' trust r) False)
    fun trust q r rule => by rw [propext (same trust q r rule)]
  rw [left, right] at both
  exact Except.ok.inj both

end Congruence

/-! The rules and statements of the authorizer in the table. -/

/-- The checks of the blocks are asked under the trusts that the blocks were written with. -/
theorem names_blockChecks {u : Symbols} {owners : KeyOwners} {s : Session}
    {loaded : List LoadedBlock} (signs : owners.Signs u s.signed)
    (named : List.Forall₂ (LoadedBlock.Names u s.signed) loaded s.blocks.zipIdx) :
    List.Forall₂ (Asked.Names u)
      (loaded.zipIdx.flatMap fun (b, i) => b.checks.zipIdx.map fun (check, j) =>
        { site := (.block i, j), check
          trust := fun q => .ofScopes q.scopes b.trust (.block i) owners })
      (s.blocks.zipIdx.flatMap fun (b, i) => b.checks.zipIdx.map fun (check, j) =>
        { site := (.block i, j), check
          trust := fun q => .written s.signed q.scopes (.ofBlock s.signed b i) (.block i) }) := by
  refine forall₂_flatMap_zipIdx named fun b text i block => ?_
  rw [List.forall₂_map_left_iff, List.forall₂_map_right_iff]
  refine (forall₂_zipIdx block.checks 0).imp fun c d both => ?_
  refine ⟨congrArg _ both.2, both.1, fun q r rule => ?_⟩
  simp only
  rw [block.trust]
  exact Trust.ofScopes_eq_written signs rule.scopes _ _

/-- Whoever holds the statements of a session and its blocks asks what the session has it ask. -/
theorem names_hears {b : Authorizer} {s : Session} (sound : b.symbols.Sound)
    (scopes : b.scopes.map (Scope.rename id) = s.scopes)
    (checks : b.checks.map (Check.rename id id) = s.checks)
    (policies : b.policies.map (Policy.rename id id) = s.policies)
    (reads : ∀ u : Symbols, u.Sound → u.Fits → b.symbols.Grows u →
      List.Forall₂ (LoadedBlock.Names u s.signed) (b.blocks.getD []) s.blocks.zipIdx ∧
        b.owners.Signs u s.signed) :
    b.heard.2.symbols.Sound ∧ b.symbols.Grows b.heard.2.symbols ∧
      ∀ u : Symbols, u.Sound → u.Fits → b.heard.2.symbols.Grows u →
        (b.heard.2.hears b.heard.1).Names u s.hearing := by
  obtain ⟨sound₁, grows₁, scopes'⟩ := ensures_all ensures_internScope b.scopes b.symbols sound
  obtain ⟨sound₂, grows₂, checks'⟩ := ensures_all ensures_internCheck b.checks _ sound₁
  obtain ⟨sound₃, grows₃, policies'⟩ := ensures_all ensures_internPolicy b.policies _ sound₂
  refine ⟨sound₃, grows₁.trans (grows₂.trans grows₃), fun u su fits later => ?_⟩
  obtain ⟨blocks, owners⟩ := reads u su fits ((grows₁.trans (grows₂.trans grows₃)).trans later)
  have scopes' := scopes' u su fits ((grows₂.trans grows₃).trans later)
  have checks' := checks' u su fits (grows₃.trans later)
  have policies' := policies' u su fits later
  rw [scopes] at scopes'
  rw [checks] at checks'
  rw [policies] at policies'
  have own : b.heard.1.trust = s.ownTrust := Trust.ofScopes_eq_written owners scopes' _ _
  have trust : ∀ q r, q.Names u r → (b.heard.2.hears b.heard.1).trust q = s.hearing.trust r := by
    intro q r named
    refine (Trust.ofScopes_eq_written owners named.scopes _ _).trans ?_
    rw [own]
    rfl
  refine ⟨List.rel_append (names_blockChecks owners blocks) ?_, policies', trust⟩
  rw [List.forall₂_map_left_iff, List.forall₂_map_right_iff]
  refine (forall₂_zipIdx checks' 0).imp fun c d both => ?_
  exact ⟨congrArg _ both.2, both.1, trust⟩

namespace Authorizer

namespace Holds

variable {a : Authorizer} {s : Session}

/-- The world with the rules of the authorizer holds the program of the session. -/
theorem ready (h : a.Holds s) :
    a.ready.symbols.Sound ∧ a.symbols.Grows a.ready.symbols ∧
      ∀ u : Symbols, u.Sound → u.Fits → a.ready.symbols.Grows u →
        a.ready.world.Reads u s.program := by
  obtain ⟨sound, grows, scopes⟩ := ensures_all ensures_internScope a.scopes a.symbols h.sound
  obtain ⟨sound', grows', rules⟩ := ensures_all ensures_internRule a.pending _ sound
  rw [ready_symbols]
  refine ⟨sound', grows.trans grows', fun u su fits later => ?_⟩
  have reads := h.reads u su fits ((grows.trans grows').trans later)
  have own : a.defaultTrust.1 = s.ownTrust := by
    refine Trust.ofScopes_eq_written reads.owners ?_ _ _
    rw [← h.scopes]
    exact scopes u su fits (grows'.trans later)
  have entries : List.Forall₂ (RuleEntry.Names u) a.ownEntries s.ownRules := by
    rw [ownEntries, Session.ownRules, List.forall₂_map_left_iff, List.forall₂_map_right_iff,
      ← h.pending]
    refine (rules u su fits later).imp fun rule text named => ⟨rfl, ?_, named⟩
    rw [← own]
    exact Trust.ofScopes_eq_written reads.owners named.scopes _ _
  have all : List.Forall₂ (RuleEntry.Names u) a.ready.world.rules
      (s.blockRules ++ s.ownRules) := by
    rw [ready_rules]
    exact List.rel_append reads.rules entries
  refine ⟨?_, fun e he => exists_of_forall₂ all he, fun d hd => exists_of_forall₂ all.flip hd⟩
  rw [ready_facts]
  exact reads.facts

/-- What `authorize` asks is what the session has it ask. -/
theorem hearing (h : a.Holds s) :
    a.table.Sound ∧ a.ready.symbols.Grows a.table ∧
      ∀ u : Symbols, u.Sound → u.Fits → a.table.Grows u → a.hearing.Names u s.hearing := by
  obtain ⟨sound, grows, -⟩ := h.ready
  refine names_hears sound ?_ ?_ ?_ fun u su fits later => ?_
  · rw [ready_scopes]
    exact h.scopes
  · rw [ready_checks]
    exact h.checks
  · rw [ready_policies]
    exact h.policies
  · have reads := h.reads u su fits (grows.trans later)
    rw [ready_blocks, ready_owners]
    exact ⟨reads.blocks, reads.owners⟩

variable [Patterns]

/-- A session that fits the limits has finitely many consequences. -/
theorem finite (h : a.Holds s) (fits : a.table.Fits) {limits : RunLimits}
    (sound : ¬ s.program.Broken) (room : s.program.Room limits) : s.program.least.Finite := by
  obtain ⟨table, -, reads⟩ := h.ready
  obtain ⟨-, grows, -⟩ := h.hearing
  have reads := reads _ table (grows.fits fits) (.refl _)
  have ended := (reads.run_eq_ok_iff table).2 ⟨sound, room⟩
  have least := reads.least table
  rw [← World.facts_of_run ended] at least
  exact least.finite (names_biUnique table) (FactSet.pairs_finite _)

/-- After a complete run the queries are answered as over what can be derived. -/
theorem ruling (h : a.Holds s) (fits : a.table.Fits) {limits : RunLimits}
    (complete : (a.ready.world.run a.ready.symbols limits .never).1 = .ok ()) :
    let final := (a.ready.world.run a.ready.symbols limits .never).2
    (a.hearing.ruling fun trust q => final.hasMatch q trust a.table .never).map Ruling.outline =
      (s.hearing.ruling (answer s.program.least)).map Ruling.outline := by
  obtain ⟨sound, -, reads⟩ := h.ready
  obtain ⟨sound', grows, named⟩ := h.hearing
  have reads := reads _ sound (grows.fits fits) (.refl _)
  have least := (reads.least sound).grows grows
  rw [← World.facts_of_run complete] at least
  refine (named _ sound' fits (.refl _)).ruling_congr _ _ fun trust q r rule => ?_
  exact World.hasMatch_eq_answer sound' least rule trust

/-- What the first call of `authorize` comes to. -/
theorem outcome (h : a.Holds s) (fresh : a.Unevaluated) {limits : RunLimits}
    (never : limits.deadline = .never) (fits : a.table.Fits) :
    outlined (a.authorize limits).1 = s.outcome limits := by
  obtain ⟨sound, -, reads⟩ := h.ready
  obtain ⟨-, grows, -⟩ := h.hearing
  have reads := reads _ sound (grows.fits fits) (.refl _)
  have complete : (a.ready.world.run a.ready.symbols limits .never).1 = .ok () ↔ _ :=
    reads.run_eq_ok_iff sound
  have ruled : (a.ready.world.run a.ready.symbols limits .never).1 = .ok () → _ := h.ruling fits
  rw [authorize_eq fresh, never, Session.outcome]
  generalize a.ready.world.run a.ready.symbols limits .never = ended at complete ruled
  obtain ⟨result, final⟩ := ended
  cases result with
  | error e =>
    rw [if_neg fun ends => nomatch complete.2 ends]
    rfl
  | ok =>
    rw [if_pos (complete.1 rfl)]
    refine (outlined_ruling a.table _).trans ?_
    rw [ruled rfl]
    cases s.hearing.ruling (answer s.program.least) with
    | error e => rfl
    | ok r => rfl

end Holds

end Authorizer

end Warrant
