import Warrant.Regex.Pattern
import Warrant.Proofs.Gathered
import Warrant.Proofs.Lockstep

/-! The order in which an authorizer is told things.
Facts, rules, scopes and the token may come in any order before the first evaluation. Another order
gives other ids, another order of the stored facts and of the rules, and other texts; but it is the
same program under the same trust, and the same questions. So the first evaluation ends in the same
way, whether in a decision, at a limit or at a fault. Only checks and policies are told apart by
their order. -/

namespace Warrant

open Provenance

/-! Answers without the texts in them. -/

/-- The check by its place. -/
def FailedCheck.bare : FailedCheck → FailedCheck
  | .block i j _ => .block i j ""
  | .authorizer j _ => .authorizer j ""

def Refusal.bare : Refusal → Refusal
  | .invalidBlockRule i _ => .invalidBlockRule i ""
  | .unauthorized policy failed => .unauthorized policy (failed.map FailedCheck.bare)
  | .noMatchingPolicy failed => .noMatchingPolicy (failed.map FailedCheck.bare)

def AuthorizerError.bare : AuthorizerError → AuthorizerError
  | .refused refusal => .refused refusal.bare
  | e => e

section Bare

variable {u t : Symbols} {r q : Ruling Nat Nat}

theorem bare_told_congr {c d : Asked Nat Nat} (same : c.site = d.site) :
    (c.told u).bare = (d.told t).bare := by
  unfold Asked.told
  rw [same]
  rcases d.site with ⟨i | -, j⟩
  · simp only [FailedCheck.bare]
  · simp only [FailedCheck.bare]

theorem bare_failed_congr {failed others : List (Asked Nat Nat)}
    (same : failed.map (·.site) = others.map (·.site)) :
    (failed.map (Asked.told u)).map FailedCheck.bare =
      (others.map (Asked.told t)).map FailedCheck.bare := by
  rw [← List.forall₂_eq_eq_eq, List.forall₂_map_left_iff, List.forall₂_map_right_iff] at same
  simp only [List.map_map]
  rw [← List.forall₂_eq_eq_eq, List.forall₂_map_left_iff, List.forall₂_map_right_iff]
  exact same.imp fun _ _ => bare_told_congr

/-- What an answer says without texts is in the outline of its ruling. -/
theorem bare_result_congr (same : r.outline = q.outline) :
    (r.result u).mapError AuthorizerError.bare = (q.result t).mapError AuthorizerError.bare := by
  have policies : r.policy = q.policy := congrArg Prod.fst same
  have sites : r.failed.map (·.site) = q.failed.map (·.site) := congrArg Prod.snd same
  have bare := bare_failed_congr (u := u) (t := t) sites
  have empty : r.failed.map (Asked.told u) = [] ↔ q.failed.map (Asked.told t) = [] := by
    have length := congrArg List.length sites
    simp only [List.length_map] at length
    simp only [← List.length_eq_zero_iff, List.length_map, length]
  unfold Ruling.result
  rw [policies]
  rcases q.policy with _ | ⟨i | i⟩
  · simp only [Except.mapError, AuthorizerError.bare, Refusal.bare, bare]
  · simp only [empty]
    split
    · rfl
    · simp only [Except.mapError, AuthorizerError.bare, Refusal.bare, bare]
  · simp only [Except.mapError, AuthorizerError.bare, Refusal.bare, bare]

theorem bare_ruling_congr {asked other : Except EvaluationError (Ruling Nat Nat)}
    (same : asked.map Ruling.outline = other.map Ruling.outline) :
    (asked.mapError AuthorizerError.evaluation >>= Ruling.result u).mapError AuthorizerError.bare =
      (other.mapError AuthorizerError.evaluation >>= Ruling.result t).mapError
        AuthorizerError.bare := by
  have ruled (w : Symbols) (x : Ruling Nat Nat) :
      ((Except.ok x).mapError AuthorizerError.evaluation >>= Ruling.result w) = x.result w := rfl
  have failed (w : Symbols) (e : EvaluationError) :
      ((Except.error e).mapError AuthorizerError.evaluation >>= Ruling.result w) =
        .error (.evaluation e) := rfl
  cases asked with
  | error e =>
    cases other with
    | error d =>
      cases same
      rw [failed, failed]
    | ok q => cases same
  | ok r =>
    cases other with
    | error d => cases same
    | ok q =>
      rw [ruled, ruled]
      exact bare_result_congr (Except.ok.inj same)

end Bare

/-- Authorizers that were made from sessions with the same program and the same questions give the
same answer to the first evaluation, up to texts. -/
theorem Authorizer.Holds.authorize_congr [Patterns] {a b : Authorizer} {s r : Session}
    (h : a.Holds s)
    (k : b.Holds r) (fresh : a.Unevaluated) (fresh' : b.Unevaluated) {limits : RunLimits}
    (never : limits.deadline = .never) (fits : a.table.Fits) (fits' : b.table.Fits)
    (program : s.program = r.program) (hearing : s.hearing = r.hearing) :
    (a.authorize limits).1.mapError AuthorizerError.bare =
      (b.authorize limits).1.mapError AuthorizerError.bare := by
  obtain ⟨sound, -, reads⟩ := h.ready
  obtain ⟨sound', -, reads'⟩ := k.ready
  obtain ⟨-, grows, -⟩ := h.hearing
  obtain ⟨-, grows', -⟩ := k.hearing
  have reads := reads _ sound (grows.fits fits) (.refl _)
  have reads' := reads' _ sound' (grows'.fits fits') (.refl _)
  rw [← program] at reads'
  have ends : (a.ready.world.run a.ready.symbols limits .never).1 =
      (b.ready.world.run b.ready.symbols limits .never).1 :=
    World.Reads.run_fst_congr sound sound' reads reads'
  have ruled : (a.ready.world.run a.ready.symbols limits .never).1 = .ok () → _ := h.ruling fits
  have ruled' : (b.ready.world.run b.ready.symbols limits .never).1 = .ok () → _ := k.ruling fits'
  rw [authorize_eq fresh, authorize_eq fresh', never]
  generalize a.ready.world.run a.ready.symbols limits .never = ended at ends ruled
  generalize b.ready.world.run b.ready.symbols limits .never = ended' at ends ruled'
  obtain ⟨result, final⟩ := ended
  obtain ⟨result', final'⟩ := ended'
  cases (ends : result = result')
  cases result with
  | error e => rfl
  | ok =>
    refine bare_ruling_congr ?_
    rw [ruled rfl, ruled' rfl, program, hearing]

/-! Sessions that differ in order alone. -/

theorem Trust.written_perm {signed : PublicKey → List BlockId}
    {scopes others : List (Scope PublicKey)} (perm : scopes.Perm others) (default : Trust)
    (current : BlockId) :
    written signed scopes default current = written signed others default current := by
  have granted : Sorted.ofList (scopes.flatMap (grantedBy signed current)) =
      Sorted.ofList (others.flatMap (grantedBy signed current)) :=
    Sorted.ofList_congr fun id => by simp only [List.mem_flatMap, perm.mem_iff]
  simp only [written, perm.isEmpty_eq, OrderedSet.ofList, granted]

/-- The same blocks, checks and policies, and the rest up to its order. -/
structure Session.Alike (s r : Session) : Prop where
  blocks : s.blocks = r.blocks
  facts : s.facts.Perm r.facts
  rules : s.rules.Perm r.rules
  checks : s.checks = r.checks
  policies : s.policies = r.policies
  scopes : s.scopes.Perm r.scopes

namespace Session.Alike

variable {s r : Session} (alike : s.Alike r)

include alike

theorem signed : s.signed = r.signed := by rw [Session.signed, alike.blocks, Session.signed]

theorem ownTrust : s.ownTrust = r.ownTrust := by
  rw [Session.ownTrust, alike.signed, Trust.written_perm alike.scopes, Session.ownTrust]

theorem program : s.program = r.program := by
  have facts : {p | p ∈ s.entries} = {p | p ∈ r.entries} := by
    ext p
    simp [entries, alike.blocks, alike.facts.mem_iff]
  have rules : {d | d ∈ s.blockRules ++ s.ownRules} = {d | d ∈ r.blockRules ++ r.ownRules} := by
    ext d
    simp [blockRules, ownRules, alike.signed, alike.ownTrust, alike.blocks, alike.rules.mem_iff]
  rw [Session.program, facts, rules, Session.program]

theorem hearing : s.hearing = r.hearing := by
  simp only [Session.hearing, alike.signed, alike.ownTrust, alike.blocks, alike.checks,
    alike.policies]

end Session.Alike

/-! Calls that are all accepted. -/

/-- What a session is told goes to where it belongs. -/
theorem Session.foldl_add (cs : List Call) (s : Session) : cs.foldl Session.add s =
    { blocks := (cs.filterMap Call.token?).foldl (fun _ t => t.blocks.map Block.text) s.blocks
      facts := s.facts ++ (cs.filterMap Call.fact?).map (Atom.rename id)
      rules := s.rules ++ (cs.filterMap Call.rule?).map (Rule.rename id id)
      checks := s.checks ++ (cs.filterMap Call.check?).map (Check.rename id id)
      policies := s.policies ++ (cs.filterMap Call.policy?).map (Policy.rename id id)
      scopes := s.scopes ++ (cs.filterMap Call.scope?).map (Scope.rename id) } := by
  induction cs generalizing s with
  | nil => simp
  | cons c rest ih =>
    rw [List.foldl_cons, ih]
    cases c with
    | _ => simp [Session.add, List.filterMap_cons, Call.token?, Call.fact?, Call.rule?,
        Call.check?, Call.policy?, Call.scope?]

namespace Authorizer

variable {a b : Authorizer} {c : Call} {cs ds : List Call}

/-- Where no call is refused, nothing that was said is left out. -/
theorem calls_of_accepts (h : a.accepts cs) (s : Session) :
    s.calls a cs = cs.foldl Session.add s := by
  induction cs generalizing a s with
  | nil => rfl
  | cons c rest ih =>
    obtain ⟨b, accepted, later⟩ := accepts_cons.1 h
    rw [Session.calls, accepted, List.foldl_cons]
    exact ih later (s.add c)

/-- A second token is refused. -/
theorem token_at_most_once (h : a.accepts cs) :
    (a.blocks.isSome → cs.filterMap Call.token? = []) ∧
      (cs.filterMap Call.token?).length ≤ 1 := by
  induction cs generalizing a with
  | nil => simp
  | cons c rest ih =>
    obtain ⟨b, accepted, later⟩ := accepts_cons.1 h
    obtain ⟨none, one⟩ := ih later
    by_cases token : ∃ t, c = .token t
    · obtain ⟨t, rfl⟩ := token
      obtain ⟨free, -, _, _, _, -, rfl⟩ := addToken_eq_ok accepted
      simp [Call.token?, free, none]
    · have statement : ∀ t, c ≠ .token t := fun t same => token ⟨t, same⟩
      have skipped : (c :: rest).filterMap Call.token? = rest.filterMap Call.token? := by
        refine List.filterMap_cons_none ?_
        cases c with
        | token t => exact absurd rfl (statement t)
        | _ => rfl
      have blocks : b.blocks = a.blocks := by
        rw [((call_eq_ok_iff statement).1 accepted).2, blocks_add]
      rw [skipped, ← blocks]
      exact ⟨none, one⟩

/-- The same calls in another order make sessions that differ in order alone. -/
theorem alike_of_perm (accepted : a.accepts cs) (perm : cs.Perm ds)
    (checks : cs.filterMap Call.check? = ds.filterMap Call.check?)
    (policies : cs.filterMap Call.policy? = ds.filterMap Call.policy?) :
    (cs.foldl Session.add {}).Alike (ds.foldl Session.add {}) := by
  have tokens : cs.filterMap Call.token? = ds.filterMap Call.token? := by
    have perm := perm.filterMap Call.token?
    match known : cs.filterMap Call.token?, (token_at_most_once accepted).2 with
    | [], _ =>
      rw [known] at perm
      exact perm.nil_eq
    | [t], _ =>
      rw [known] at perm
      exact perm.singleton_eq
  rw [Session.foldl_add, Session.foldl_add]
  refine ⟨?_, ?_, ?_, ?_, ?_, ?_⟩
  · simp only [tokens]
  · exact (perm.filterMap _).map _
  · exact (perm.filterMap _).map _
  · simp only [checks]
  · simp only [policies]
  · exact (perm.filterMap _).map _

/-- Two authorizers that were told the same things in two orders, the checks and the policies in
the same, give the same answer to their first evaluation without a deadline: the same policy
allows, or the same error arises with the same policy and the same failed checks. Texts are left
out, as they spell sets in the order of ids. Variables have ids of 32 bits, and the names that are
taken in must stay within them. -/
theorem authorize_of_perm [Patterns] {initial other limits : RunLimits} {cs ds : List Call}
    (accepted : (ofLimits initial).accepts cs) (accepted' : (ofLimits other).accepts ds)
    (perm : cs.Perm ds) (checks : cs.filterMap Call.check? = ds.filterMap Call.check?)
    (policies : cs.filterMap Call.policy? = ds.filterMap Call.policy?)
    (never : limits.deadline = .never) (fits : ((ofLimits initial).calls cs).table.Fits) :
    (((ofLimits initial).calls cs).authorize limits).1.mapError AuthorizerError.bare =
      (((ofLimits other).calls ds).authorize limits).1.mapError AuthorizerError.bare := by
  have alike := alike_of_perm accepted perm checks policies
  have holds := (Holds.initial initial).calls cs
  have holds' := (Holds.initial other).calls ds
  rw [calls_of_accepts accepted] at holds
  rw [calls_of_accepts accepted'] at holds'
  have fresh := (unevaluated_ofLimits initial).calls cs
  have fresh' := (unevaluated_ofLimits other).calls ds
  have fits' := fits_of_perm accepted accepted' perm fits
  exact holds.authorize_congr holds' fresh fresh' never fits fits' alike.program alike.hearing

/-- A token with a check that fails, and a request with a rule, told last and told first. -/
theorem authorize_of_perm_request :
    let right (file : String) : Fact String := ⟨"right", [.str file]⟩
    let issuer : BlockDraft := { facts := [right "one"], checks := [.ofBody .one [right "two"]] }
    let member : Rule String PublicKey :=
      { head := ⟨"member", [.var "f"]⟩, body := [⟨"right", [.var "f"]⟩], expressions := []
        scopes := [] }
    let token : Call := .token ⟨[issuer.build none]⟩
    let said : List Call := [.policy (.ofBody .deny [⟨"admin", []⟩]), .fact (right "three"),
      .rule member, .policy (.ofBody .allow [⟨"member", [.str "one"]⟩]), .scope .authority]
    let denied : Except AuthorizerError Nat :=
      .error (.refused (.unauthorized (.allow 1) [.block 0 0 ""]))
    let first := (ofLimits {}).calls (token :: said)
    let last := (ofLimits {}).calls (said ++ [token])
    (first.authorize {}).1.mapError AuthorizerError.bare = denied ∧
      (last.authorize {}).1.mapError AuthorizerError.bare = denied := by
  dsimp only
  refine (and_iff_left_of_imp fun answer => ?_).2 ?_
  · refine (@authorize_of_perm _ {} {} {} _ _ ?_ ?_ ?_ ?_ ?_ ?_ ?_).trans answer
    · decide +kernel
    · decide +kernel
    · exact List.perm_append_singleton _ _
    · rfl
    · rfl
    · rfl
    · decide +kernel
  · decide +kernel

end Authorizer

end Warrant
