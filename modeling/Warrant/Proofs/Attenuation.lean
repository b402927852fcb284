import Warrant.Regex.Pattern
import Warrant.Proofs.Coverage
import Warrant.Proofs.Outcome

/-! A block that is appended to a token.
Nothing but the block itself relies on a block that nobody signed by name: no scope of other blocks
or of the authorizer reaches it, and its facts and all that follows from them carry its id. So the
session without the block is the part of the longer session that does not depend on it, and
decides the same. -/

namespace Warrant

open Provenance

/-! What relies on what. -/

theorem Trust.written_inside {signed : PublicKey → List BlockId} {default : Trust}
    {current : BlockId} {blocks : Set BlockId} (own : current ∈ blocks)
    (authorizer : .authorizer ∈ blocks) (first : .block 0 ∈ blocks)
    (previous : ∀ i, current = .block i → ∀ j ≤ i, .block j ∈ blocks)
    (signers : ∀ owner, ∀ id ∈ signed owner, id ∈ blocks)
    (inside : ∀ id ∈ default.blocks, id ∈ blocks)
    (scopes : List (Scope PublicKey)) :
    ∀ id ∈ (written signed scopes default current).blocks, id ∈ blocks := by
  have mine : ∀ id ∈ (OrderedSet.ofList [current, .authorizer] : Origin), id ∈ blocks := by
    simp [own, authorizer]
  have granted : ∀ scope, ∀ id ∈ grantedBy signed current scope, id ∈ blocks := by
    intro scope id mem
    cases scope with
    | authority =>
      rw [List.mem_singleton.1 mem]
      exact first
    | previous =>
      cases current with
      | authorizer => cases mem
      | block i =>
        obtain ⟨j, hj, rfl⟩ := List.mem_map.1 mem
        exact previous i rfl j (Nat.lt_succ_iff.1 (List.mem_range.1 hj))
    | key owner => exact signers owner id mem
  intro id mem
  unfold written at mem
  split at mem
  · rcases OrderedSet.mem_union.1 mem with mem | mem
    · exact mine id mem
    · exact inside id mem
  · rcases OrderedSet.mem_union.1 mem with mem | mem
    · exact mine id mem
    · obtain ⟨scope, -, mem⟩ := List.mem_flatMap.1 (OrderedSet.mem_ofList.1 mem)
      exact granted scope id mem

namespace Session

/-- The session with one more block. -/
def append (s : Session) (b : BlockText) : Session := { s with blocks := s.blocks ++ [b] }

/-- All places but the one where another block would stand. -/
def inner (s : Session) : Set BlockId := {id | id ≠ .block s.blocks.length}

variable {s : Session} {b : BlockText}

theorem mem_inner {id : BlockId} : id ∈ s.inner ↔ id ≠ .block s.blocks.length := Iff.rfl

theorem authorizer_inner : .authorizer ∈ s.inner := nofun

theorem block_inner {i : Nat} (h : i < s.blocks.length) : .block i ∈ s.inner := by
  intro same
  cases same
  exact Nat.lt_irrefl _ h

theorem lt_of_numbered {p : BlockText × Nat} (h : p ∈ s.blocks.zipIdx) : p.2 < s.blocks.length := by
  have bound := List.snd_lt_of_mem_zipIdx h
  omega

theorem numbered_append :
    (s.append b).blocks.zipIdx = s.blocks.zipIdx ++ [(b, s.blocks.length)] := by
  simp [append, List.zipIdx_append]

theorem signed_append (unsigned : b.owner = none) : (s.append b).signed = s.signed := by
  funext owner
  simp [signed, signers, numbered_append, unsigned]

theorem signed_inner (owner : PublicKey) : ∀ id ∈ s.signed owner, id ∈ s.inner := by
  intro id mem
  obtain ⟨p, hp, rfl⟩ := List.mem_map.1 mem
  exact block_inner (lt_of_numbered (List.mem_filter.1 hp).1)

section Trusts

variable (issued : s.blocks ≠ [])

include issued

theorem first_inner : .block 0 ∈ s.inner := block_inner (List.length_pos_of_ne_nil issued)

theorem default_inner : ∀ id ∈ Trust.default.blocks, id ∈ s.inner := by
  intro id mem
  rcases List.mem_cons.1 (OrderedSet.mem_ofList.1 mem) with rfl | mem
  · exact first_inner issued
  · rw [List.mem_singleton.1 mem]
    exact authorizer_inner

theorem written_inner {current : BlockId}
    (own : current = .authorizer ∨ ∃ i < s.blocks.length, current = .block i) {default : Trust}
    (inside : ∀ id ∈ default.blocks, id ∈ s.inner) (scopes : List (Scope PublicKey)) :
    ∀ id ∈ (Trust.written s.signed scopes default current).blocks, id ∈ s.inner := by
  have first := first_inner issued
  rcases own with rfl | ⟨i, bound, rfl⟩
  · exact Trust.written_inside authorizer_inner authorizer_inner first nofun signed_inner inside
      scopes
  · refine Trust.written_inside (block_inner bound) authorizer_inner first ?_ signed_inner inside
      scopes
    intro k same j le
    cases same
    exact block_inner (Nat.lt_of_le_of_lt le bound)

theorem ownTrust_inner : ∀ id ∈ s.ownTrust.blocks, id ∈ s.inner :=
  written_inner issued (.inl rfl) (default_inner issued) s.scopes

theorem blockTrust_inner {p : BlockText × Nat} (numbered : p ∈ s.blocks.zipIdx) :
    ∀ id ∈ (Trust.ofBlock s.signed p.1 p.2).blocks, id ∈ s.inner :=
  written_inner issued (.inr ⟨p.2, lt_of_numbered numbered, rfl⟩) (default_inner issued) p.1.scopes

/-- No check of the session relies on a further block. -/
theorem checks_inner : ∀ c ∈ s.hearing.checks, ∀ q, ∀ id ∈ (c.trust q).blocks, id ∈ s.inner := by
  intro c hc q
  rcases List.mem_append.1 hc with hc | hc
  · obtain ⟨p, numbered, hc⟩ := List.mem_flatMap.1 hc
    obtain ⟨_, -, rfl⟩ := List.mem_map.1 hc
    exact written_inner issued (.inr ⟨p.2, lt_of_numbered numbered, rfl⟩)
      (blockTrust_inner issued numbered) q.scopes
  · obtain ⟨_, -, rfl⟩ := List.mem_map.1 hc
    exact written_inner issued (.inl rfl) (ownTrust_inner issued) q.scopes

/-- Nor does a policy. -/
theorem policies_inner (q : Rule String PublicKey) :
    ∀ id ∈ (s.hearing.trust q).blocks, id ∈ s.inner :=
  written_inner issued (.inl rfl) (ownTrust_inner issued) q.scopes

end Trusts

/-! What the longer session holds besides. -/

section Appended

open Classical

/-- What carries the ids of the blocks that it stands in is kept as long as the block is there. -/
theorem filter_numbered {α : Type} {keep : α → Prop} {f : BlockText × Nat → List α}
    {own : List α} (placed : ∀ p, ∀ a ∈ f p, keep a ↔ .block p.2 ∈ s.inner)
    (rest : ∀ a ∈ own, keep a) :
    ((s.append b).blocks.zipIdx.flatMap f ++ own).filter (keep ·) =
      s.blocks.zipIdx.flatMap f ++ own := by
  have kept : (s.blocks.zipIdx.flatMap f).filter (keep ·) = s.blocks.zipIdx.flatMap f := by
    refine List.filter_eq_self.2 fun a ha => decide_eq_true ?_
    obtain ⟨p, numbered, ha⟩ := List.mem_flatMap.1 ha
    exact (placed p a ha).2 (block_inner (lt_of_numbered numbered))
  have gone : (f (b, s.blocks.length)).filter (keep ·) = [] := by
    refine List.filter_eq_nil_iff.2 fun a ha inside => ?_
    exact (placed _ a ha).1 (of_decide_eq_true inside) rfl
  have mine : own.filter (keep ·) = own :=
    List.filter_eq_self.2 fun a ha => decide_eq_true (rest a ha)
  rw [numbered_append, List.flatMap_append, List.flatMap_singleton, List.filter_append,
    List.filter_append, kept, gone, mine, List.append_nil]

theorem entries_append :
    (s.append b).entries.filter (fun p => {id | id ∈ p.1} ⊆ s.inner) = s.entries := by
  refine filter_numbered (fun p a ha => ?_) fun a ha => ?_
  · obtain ⟨fact, -, rfl⟩ := List.mem_map.1 ha
    simp
  · obtain ⟨fact, -, rfl⟩ := List.mem_map.1 ha
    simp [authorizer_inner]

variable (unsigned : b.owner = none)

include unsigned

theorem ownTrust_append : (s.append b).ownTrust = s.ownTrust := by
  unfold ownTrust
  rw [signed_append unsigned]
  rfl

theorem rules_append :
    ((s.append b).blockRules ++ (s.append b).ownRules).filter (·.block ∈ s.inner) =
      s.blockRules ++ s.ownRules := by
  rw [blockRules, ownRules, signed_append unsigned, ownTrust_append unsigned]
  refine filter_numbered (fun p a ha => ?_) fun a ha => ?_
  · obtain ⟨rule, -, rfl⟩ := List.mem_map.1 ha
    exact Iff.rfl
  · obtain ⟨rule, -, rfl⟩ := List.mem_map.1 ha
    exact authorizer_inner

theorem checks_append :
    (s.append b).hearing.checks.filter (·.site.1 ∈ s.inner) = s.hearing.checks := by
  rw [hearing, signed_append unsigned, ownTrust_append unsigned]
  refine filter_numbered (fun p a ha => ?_) fun a ha => ?_
  · obtain ⟨check, -, rfl⟩ := List.mem_map.1 ha
    exact Iff.rfl
  · obtain ⟨check, -, rfl⟩ := List.mem_map.1 ha
    exact authorizer_inner

/-- The session is the part of the longer one that depends on no further block. -/
theorem program_append : (s.append b).program.within s.inner = s.program := by
  have facts : within s.inner (s.append b).program.facts = s.program.facts := by
    ext p
    change p ∈ (s.append b).entries ∧ _ ↔ p ∈ s.entries
    rw [← entries_append (s := s) (b := b), List.mem_filter, decide_eq_true_iff]
    rfl
  have rules : {d | d ∈ (s.append b).program.rules ∧ d.block ∈ s.inner} = s.program.rules := by
    ext d
    change d ∈ (s.append b).blockRules ++ (s.append b).ownRules ∧ _ ↔
      d ∈ s.blockRules ++ s.ownRules
    rw [← rules_append (s := s) unsigned, List.mem_filter, decide_eq_true_iff]
  rw [Program.within, facts, rules]

/-- Where everybody who does not rely on the further block gets the same answers, the rulings
differ in its checks only. -/
theorem ruling_append (issued : s.blocks ≠ []) {ε : Type}
    {ask ask' : Trust → Rule String PublicKey → Except ε Bool}
    (same : ∀ (trust : Trust) (q : Rule String PublicKey),
      (∀ id ∈ trust.blocks, id ∈ s.inner) → ask' trust q = ask trust q)
    {r : Ruling String PublicKey} (h : (s.append b).hearing.ruling ask = .ok r) :
    s.hearing.ruling ask' =
      .ok { policy := r.policy, failed := r.failed.filter (·.site.1 ∈ s.inner) } := by
  obtain ⟨failed, first⟩ := Hearing.ruling_eq_ok_iff.1 h
  obtain ⟨total, failed⟩ := Rule.allKept_eq_ok_iff.1 failed
  have asked : ∀ c ∈ s.hearing.checks,
      (c.check.passes fun q => ask' (c.trust q) q) = c.check.passes fun q => ask (c.trust q) q := by
    intro c hc
    refine congrArg c.check.passes (funext fun q => ?_)
    exact same _ q (checks_inner issued c hc q)
  have trust : (s.append b).hearing.trust = s.hearing.trust := by
    unfold hearing
    rw [signed_append unsigned, ownTrust_append unsigned]
  have matched : (fun (q : Rule String PublicKey) => ask' (s.hearing.trust q) q) =
      fun q => ask (s.hearing.trust q) q :=
    funext fun q => same _ q (policies_inner issued q)
  refine Hearing.ruling_eq_ok_iff.2 ⟨Rule.allKept_eq_ok_iff.2 ⟨fun c hc => ?_, ?_⟩, ?_⟩
  · rw [asked c hc]
    rw [← checks_append (s := s) unsigned] at hc
    exact total c (List.mem_filter.1 hc).1
  · rw [failed, List.filter_comm, checks_append unsigned]
    exact List.filter_congr fun c hc => by rw [asked c hc]
  · rw [trust] at first
    rw [matched]
    exact first

theorem outcome_append [Patterns] (issued : s.blocks ≠ []) {limits : RunLimits}
    (finite : (s.append b).program.least.Finite) {policy : Option MatchedPolicy}
    {failed : List (BlockId × Nat)} (h : (s.append b).outcome limits = some (policy, failed)) :
    s.outcome limits = some (policy, failed.filter (·.1 ∈ s.inner)) := by
  unfold outcome at h
  split at h
  · rename_i runs
    obtain ⟨sound, room⟩ := runs
    have part := program_append (s := s) unsigned
    have runs : ¬ s.program.Broken ∧ s.program.Room limits := by
      rw [← part]
      exact ⟨fun broken => sound (Program.broken_of_within broken), Program.room_within finite room⟩
    have same (trust : Trust) (q : Rule String PublicKey)
        (inside : ∀ id ∈ trust.blocks, id ∈ s.inner) :
        answer s.program.least trust q = answer (s.append b).program.least trust q := by
      rw [← part]
      exact Program.answer_within inside q
    cases ruled : (s.append b).hearing.ruling (answer (s.append b).program.least) with
    | error e =>
      rw [ruled] at h
      cases h
    | ok r =>
      rw [ruled] at h
      cases h
      rw [outcome, if_pos runs, ruling_append unsigned issued same ruled]
      refine congrArg (fun sites => some (r.policy, sites)) ?_
      rw [List.filter_map]
      rfl
  · cases h

end Appended

/-! The calls around a token. -/

theorem add_append {c : Call} (valid : c.Valid) (extra : BlockText) :
    (s.append extra).add c = (s.add c).append extra ∧ (s.add c).blocks = s.blocks := by
  cases c with
  | token t => exact valid.elim
  | _ => exact ⟨rfl, rfl⟩

/-- Once there is a token, the same calls do the same to both sessions. -/
theorem calls_append {a c : Authorizer} (loaded : a.blocks.isSome) (loaded' : c.blocks.isSome)
    (extra : BlockText) (cs : List Call) :
    (s.append extra).calls c cs = (s.calls a cs).append extra ∧
      (s.calls a cs).blocks = s.blocks := by
  rw [calls_of_loaded loaded, calls_of_loaded loaded']
  induction cs generalizing s with
  | nil => exact ⟨rfl, rfl⟩
  | cons k rest ih =>
    rw [List.foldl_cons, List.foldl_cons]
    by_cases valid : k.Valid
    · obtain ⟨longer, blocks⟩ := add_append (s := s) valid extra
      rw [if_pos valid, if_pos valid, longer, ← blocks]
      exact ih
    · rw [if_neg valid, if_neg valid]
      exact ih

end Session

namespace Authorizer

/-- An authorizer after calls, one of which hands it a token. -/
def given (initial : RunLimits) (before after : List Call) (t : Token) : Authorizer :=
  (ofLimits initial).calls (before ++ .token t :: after)

theorem given_eq {initial : RunLimits} {before after : List Call} {t : Token} {a : Authorizer}
    (taken : ((ofLimits initial).calls before).addToken t = .ok a) :
    given initial before after t = a.calls after := by
  have step : ((ofLimits initial).calls before).after (.token t) = a := by
    rw [Authorizer.after, call, taken]
  rw [given, calls, List.foldl_append, List.foldl_cons]
  exact congrArg (Authorizer.calls · after) step

section Given

variable {initial limits : RunLimits} {before after : List Call} {t : Token} {b : Block}

theorem loaded_of_addToken {start a : Authorizer} (taken : start.addToken t = .ok a) :
    a.blocks.isSome := by
  obtain ⟨-, -, _, _, _, -, rfl⟩ := addToken_eq_ok taken
  rfl

variable (taken : ∃ a, ((ofLimits initial).calls before).addToken t = .ok a)
  (taken' : ∃ a, ((ofLimits initial).calls before).addToken (t.append b) = .ok a)

include taken taken'

/-- What the two authorizers were made from differs in the block alone. -/
theorem holds_given (after : List Call) : ∃ s : Session, s.blocks = t.blocks.map Block.text ∧
    (given initial before after t).Holds s ∧
    (given initial before after (t.append b)).Holds (s.append b.text) := by
  obtain ⟨short, taken⟩ := taken
  obtain ⟨long, taken'⟩ := taken'
  rw [given_eq taken, given_eq taken']
  let start : Session := Session.calls {} (ofLimits initial) before
  have holds : ((ofLimits initial).calls before).Holds start := (Holds.initial initial).calls before
  have same : start.add (.token (t.append b)) = (start.add (.token t)).append b.text := by
    simp [Session.add, Session.append, Token.append]
  have second := holds.addToken taken'
  rw [same] at second
  obtain ⟨longer, blocks⟩ := Session.calls_append (s := start.add (.token t))
    (loaded_of_addToken taken) (loaded_of_addToken taken') b.text after
  refine ⟨_, blocks, (holds.addToken taken).calls after, ?_⟩
  rw [← longer]
  exact second.calls after

theorem covered_given :
    (given initial before after t).CoveredBy (given initial before after (t.append b)) := by
  obtain ⟨short, taken⟩ := taken
  obtain ⟨long, taken'⟩ := taken'
  have sound := ((Holds.initial initial).calls before).sound
  rw [given_eq taken, given_eq taken']
  exact (CoveredBy.addToken sound taken taken').calls (loaded_of_addToken taken)
    (loaded_of_addToken taken') after

theorem outlined_given [Patterns] (issued : t.blocks ≠ []) (unsigned : b.externalKey = none)
    (never : limits.deadline = .never) (fits : (given initial before after (t.append b)).table.Fits)
    {policy : Option MatchedPolicy} {sites : List (BlockId × Nat)}
    (h : outlined ((given initial before after (t.append b)).authorize limits).1 =
      some (policy, sites)) :
    outlined ((given initial before after t).authorize limits).1 =
      some (policy, sites.filter (·.1 ≠ .block t.blocks.length)) := by
  obtain ⟨s, blocks, first, second⟩ := holds_given taken taken' after
  have shorter : (given initial before after t).table.Fits :=
    (covered_given taken taken').table.fits first.hearing.1 fits
  have fresh (u : Token) : (given initial before after u).Unevaluated :=
    (unevaluated_ofLimits initial).calls _
  rw [second.outcome (fresh _) never fits] at h
  obtain ⟨sound, room⟩ := Session.runs_of_outcome h
  have finite := second.finite fits sound room
  have inside : s.blocks ≠ [] := by
    rw [blocks]
    exact mt List.map_eq_nil_iff.1 issued
  rw [first.outcome (fresh _) never shorter, Session.outcome_append unsigned inside finite h]
  refine congrArg (fun sites => some (policy, sites)) (List.filter_congr fun site _ => ?_)
  rw [decide_eq_decide, Session.mem_inner, blocks, List.length_map]

end Given

/-- Appending a block that carries no key of its own never adds rights. Calls before and after the
token may be refused, in either run. If with the block there is a decision, then there is one
without it, by the same policy, and the checks that fail are those of the longer run apart from the
checks of the block; so what is allowed with the block is allowed without it. Checks are told apart
by their places, as a text spells sets in the order of ids. Variables have ids of 32 bits, and the
names of the longer run must stay within them. -/
theorem decision_of_appended [Patterns] {initial limits : RunLimits} {before after : List Call}
    {t : Token} {b : Block} (issued : t.blocks ≠ []) (unsigned : b.externalKey = none)
    (taken : ∃ a, ((ofLimits initial).calls before).addToken t = .ok a)
    (taken' : ∃ a, ((ofLimits initial).calls before).addToken (t.append b) = .ok a)
    (never : limits.deadline = .never)
    (fits : (given initial before after (t.append b)).table.Fits) :
    let short := ((given initial before after t).authorize limits).1
    let long := ((given initial before after (t.append b)).authorize limits).1
    (∀ policy failed, decided? long = some (policy, failed) →
      ∃ others, decided? short = some (policy, others) ∧ others.map FailedCheck.site =
        (failed.map FailedCheck.site).filter (·.1 ≠ .block t.blocks.length)) ∧
      ∀ i, long = .ok i → short = .ok i := by
  intro short long
  refine ⟨fun policy failed decided => ?_, fun i allowed => ?_⟩
  · have outline : outlined long = some (policy, failed.map FailedCheck.site) := by
      rw [outlined, decided]
      rfl
    have kept := outlined_given taken taken' issued unsigned never fits outline
    obtain ⟨⟨matched, others⟩, decided', same⟩ := Option.map_eq_some_iff.1 kept
    obtain ⟨rfl, sites⟩ := Prod.mk.inj same
    exact ⟨others, decided', sites⟩
  · have fresh (u : Token) : (given initial before after u).Unevaluated :=
      (unevaluated_ofLimits initial).calls _
    rw [authorize_eq_ok_iff (fresh _)] at allowed ⊢
    exact outlined_given taken taken' issued unsigned never fits allowed

/-- A block that brings a right for which there is a policy, and a check that fails. -/
theorem decision_of_appended_right :
    let right (file : String) : Fact String := ⟨"right", [.str file]⟩
    let issuer : BlockDraft := { facts := [right "one"], checks := [.ofBody .one [right "one"]] }
    let holder : BlockDraft := { facts := [right "two"], checks := [.ofBody .one [⟨"admin", []⟩]] }
    let t : Token := ⟨[issuer.build none]⟩
    let b : Block := holder.build none
    let after : List Call := [.policy (.ofBody .allow [right "two"]),
      .policy (.ofBody .allow [right "one"]), .check (.ofBody .reject [right "two"])]
    let short := ((given {} [] after t).authorize {}).1
    let long := ((given {} [] after (t.append b)).authorize {}).1
    decided? long = some (some (.allow 1), [.block 1 0 "check if admin()"]) ∧
      ∃ others, decided? short = some (some (.allow 1), others) ∧
        others.map FailedCheck.site = [] := by
  dsimp only
  refine (and_iff_left_of_imp ((decision_of_appended ?_ ?_ ?_ ?_ ?_ ?_).1 _ _)).2 ?_
  · exact nofun
  · rfl
  · exact ⟨_, rfl⟩
  · exact ⟨_, rfl⟩
  · rfl
  · decide +kernel
  · decide +kernel

end Authorizer

end Warrant
