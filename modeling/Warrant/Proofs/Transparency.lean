import Warrant.Proofs.Interruption
import Warrant.Proofs.Rearranged
import Warrant.Proofs.Retention

/-! Evaluations between the calls.
An evaluation moves rules into the world, takes names into the table and stores what it derives, and
it may end halfway. None of that is seen by a later decision: unless a limit ends it, a decision is
the verdict on the session, which knows of calls alone. So decisions agree wherever the calls do,
whatever was evaluated in between, as long as no scope was added after an evaluation. -/

namespace Warrant

open Provenance Interning

open Classical in
/-- What comes of a session without limits: a fault, or the ruling on all that can be derived. -/
noncomputable def Session.verdict [Patterns] (s : Session) :
    Except EvaluationError (Option MatchedPolicy × List (BlockId × Nat)) :=
  if s.program.Broken then .error (.execution .invalidStack)
  else (s.hearing.ruling (answer s.program.least)).map Ruling.outline

namespace Authorizer

variable {a b : Authorizer} {k : Told} {limits : RunLimits}

theorem converged_of_saturate [Patterns] (complete : (a.saturate limits).1 = .ok ()) :
    (a.saturate limits).2.world.phase = .converged := by
  rcases a.saturate_cases limits with ⟨converged, -, still⟩ | ends
  · rw [still]
    exact converged
  · rw [complete] at ends
    exact ends.phase_of_ok

namespace Keeps

variable [Patterns]

/-- A complete evaluation leaves what can be derived from the session. -/
theorem least_of_saturate (h : a.Keeps k) (complete : (a.saturate limits).1 = .ok ())
    (fits : a.ready.symbols.Fits) : ¬ k.session.program.Broken ∧
      Corresponds (Atom.Names a.ready.symbols) (a.saturate limits).2.world.facts.pairs
        k.session.program.least := by
  have sound := (ready_grows h.sound).1
  obtain ⟨⟨known, reads, more, less⟩, ended⟩ := h.saturate_world limits sound fits (.refl _)
  have complete := (reads.complete_iff sound).1 (ended (converged_of_saturate complete))
  obtain ⟨same, sound⟩ := Program.known_of_complete more less complete
  exact ⟨sound, same ▸ reads.facts⟩

/-- One that is not complete has met a limit, or a fault that is there in any case. -/
theorem broken_of_saturate (h : a.Keeps k) {e : EvaluationError}
    (failed : (a.saturate limits).1 = .error e) (fits : a.ready.symbols.Fits) :
    (∃ limit, e = .limit limit) ∨ e = .execution .invalidStack ∧ k.session.program.Broken := by
  have sound := (ready_grows h.sound).1
  obtain ⟨known, reads, more, less⟩ := h.begun_reads sound fits (.refl _)
  rcases a.saturate_cases limits with ⟨-, complete, -⟩ | ends
  · cases failed.symm.trans complete
  · rw [failed] at ends
    generalize (a.saturate limits).2.world = final at ends
    cases ends with
    | fault _ _ faulty =>
      refine .inr ⟨rfl, ?_⟩
      rw [← Program.broken_of_known more less, ← reads.faulty_iff sound]
      exact World.faulty_mono (World.stage_subset_least _) faulty
    | timeout => exact .inl ⟨_, rfl⟩
    | tooManyFacts => exact .inl ⟨_, rfl⟩
    | tooManyIterations => exact .inl ⟨_, rfl⟩

theorem saturate (h : a.Keeps k) (limits : RunLimits) : (a.saturate limits).2.Keeps k := by
  have left := h.evaluated limits (ready_grows h.sound).1 (.refl _)
  rw [← saturate_symbols a limits] at left
  exact left

/-- What is asked after a complete evaluation is answered as over what can be derived. -/
theorem ruling (h : b.Keeps k) (fits : b.heard.2.symbols.Fits)
    (facts : Corresponds (Atom.Names b.symbols) b.world.facts.pairs k.session.program.least) :
    ((b.heard.2.hears b.heard.1).ruling fun trust q =>
        b.world.hasMatch q trust b.heard.2.symbols .never).map Ruling.outline =
      (k.session.hearing.ruling (answer k.session.program.least)).map Ruling.outline := by
  obtain ⟨sound, grows, named⟩ := names_hears h.sound h.scopes h.checks h.policies
    fun u su fits later => ⟨(h.recalls u su fits later).blocks, (h.recalls u su fits later).owners⟩
  refine (named _ sound fits (.refl _)).ruling_congr _ _ fun trust q r rule => ?_
  exact World.hasMatch_eq_answer sound (facts.grows grows) rule trust

/-- A decision that no limit ends is the verdict on what has been told. -/
theorem decision (h : a.Keeps k) (fits : (a.authorize limits).2.symbols.Fits) :
    Limited (a.authorize limits).1 ∨ ∃ u asked,
      (a.authorize limits).1 =
        Except.mapError AuthorizerError.evaluation asked >>= Ruling.result u ∧
      asked.map Ruling.outline = k.session.verdict := by
  have kept := h.saturate limits
  have symbols := saturate_symbols a limits
  have failed {e : EvaluationError} (stopped : (a.saturate limits).1 = .error e) :=
    h.broken_of_saturate stopped
  have complete (whole : (a.saturate limits).1 = .ok ()) := h.least_of_saturate whole
  rw [authorize_eq_evaluate] at fits ⊢
  unfold evaluate at fits ⊢
  rw [← symbols] at failed complete
  generalize a.saturate limits = ended at *
  obtain ⟨result, b⟩ := ended
  cases result with
  | error e =>
    rcases failed rfl fits with ⟨limit, rfl⟩ | ⟨rfl, broken⟩
    · exact .inl ⟨limit, rfl⟩
    · exact .inr ⟨b.symbols, .error (.execution .invalidStack), rfl, (if_pos broken).symm⟩
  | ok =>
    have grows : b.symbols.Grows b.heard.2.symbols := (concluded_table limits b kept.sound).2
    obtain ⟨whole, facts⟩ := complete rfl (grows.fits fits)
    rcases concluded_limited_or_eq limits b with limited | same
    · exact .inl limited
    · right
      refine ⟨b.heard.2.symbols, (b.heard.2.hears b.heard.1).ruling fun trust q =>
        b.heard.2.world.hasMatch q trust b.heard.2.symbols .never, ?_, ?_⟩
      · change (concluded limits b).1 = _
        rw [same, ← deadline_default]
        exact b.heard.2.conclude_eq _ b.heard.1
      · rw [Session.verdict, if_neg whole]
        exact kept.ruling fits facts

end Keeps

theorem tables_concat [Patterns] (a : Authorizer) (xs : List Step) (x : Step) :
    a.tables (xs ++ [x]) = a.tables xs ++ [(a.steps xs).worked x] := by
  induction xs generalizing a with
  | nil => rfl
  | cons y rest ih =>
    rw [List.cons_append, tables, tables, ih]
    rfl

/-- Evaluations are not seen by a later decision. Two new authorizers that were given the same
calls, with evaluations of any kind and of any outcome before, between and after them, give the same
answer unless a limit ends one of them: the same policy allows, or the same error arises with the
same policy and the same failed checks. Only scopes must have come before the evaluations. Texts are
left out, as they spell sets in the order of ids. Variables have ids of 32 bits, and the names that
are taken in must stay within them. -/
theorem authorize_of_same_calls [Patterns] {initial other limits more : RunLimits}
    {xs ys : List Step} (same : xs.filterMap Step.call? = ys.filterMap Step.call?)
    (first : ScopesFirst xs) (first' : ScopesFirst ys)
    (fits : ∀ u ∈ (ofLimits initial).tables (xs ++ [.act (.authorize limits)]), u.Fits)
    (fits' : ∀ u ∈ (ofLimits other).tables (ys ++ [.act (.authorize more)]), u.Fits)
    (unlimited : ¬ Limited (((ofLimits initial).steps xs).authorize limits).1)
    (unlimited' : ¬ Limited (((ofLimits other).steps ys).authorize more).1) :
    (((ofLimits initial).steps xs).authorize limits).1.mapError AuthorizerError.bare =
      (((ofLimits other).steps ys).authorize more).1.mapError AuthorizerError.bare := by
  rw [tables_concat, List.forall_mem_append, List.forall_mem_singleton] at fits fits'
  have kept := (Starts.initial initial).steps first fits.1
  have kept' := (Starts.initial other).steps first' fits'.1
  rw [← same] at kept'
  rcases kept.decision fits.2 with limited | ⟨u, asked, answer, verdict⟩
  · exact absurd limited unlimited
  · rcases kept'.decision fits'.2 with limited | ⟨v, asked', answer', verdict'⟩
    · exact absurd limited unlimited'
    · rw [answer, answer']
      exact bare_ruling_congr (verdict.trans verdict'.symm)

/-- A rule and a token that comes later, with two evaluations in between that a limit ends, and a
query and a first decision before the last. -/
theorem authorize_of_same_calls_request :
    let right (file : String) : Fact String := ⟨"right", [.str file]⟩
    let issuer : BlockDraft := { facts := [right "one"], checks := [.ofBody .one [right "two"]] }
    let copy (head body : String) : Rule String PublicKey :=
      { head := ⟨head, [.var "f"]⟩, body := [⟨body, [.var "f"]⟩], expressions := [], scopes := [] }
    let told : List Step := [.act (.call (.scope .authority)),
      .act (.call (.rule (copy "member" "right"))), .act (.call (.fact (right "three")))]
    let halfway : List Step := [.act (.authorize { maxTime := ⟨0, 0⟩ }),
      .act (.query (copy "found" "member") { maxFacts := 1 })]
    let later : List Step := [.act (.call (.token ⟨[issuer.build none]⟩)),
      .act (.call (.policy (.ofBody .allow [⟨"member", [.str "one"]⟩])))]
    let asked : List Step := [.act (.query (copy "found" "member") {}), .act (.authorize {})]
    let denied : Except AuthorizerError Nat :=
      .error (.refused (.unauthorized (.allow 0) [.block 0 0 ""]))
    (((ofLimits {}).steps (told ++ later)).authorize {}).1.mapError AuthorizerError.bare = denied ∧
      (((ofLimits {}).steps (told ++ halfway ++ later ++ asked)).authorize {}).1.mapError
        AuthorizerError.bare = denied := by
  dsimp only
  refine (and_iff_left_of_imp fun answer => ?_).2 ?_
  · refine (@authorize_of_same_calls _ {} {} {} {} _ _ ?_ ?_ ?_ ?_ ?_ ?_ ?_).symm.trans answer
    · rfl
    all_goals decide +kernel
  · decide +kernel

end Authorizer

end Warrant
