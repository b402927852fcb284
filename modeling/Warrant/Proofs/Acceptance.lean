import Warrant.Proofs.Retention

/-! A token as a whole or not at all.
Which tokens an authorizer takes in is told by the tokens, as long as there is none yet and names
fit; what comes with one is added behind what the world holds, under the places of its blocks, and
nothing else there changes. A token that is refused leaves everything as it was, so that whatever is
done next comes out as if it had never been offered. All of this holds after any steps at all. -/

namespace Warrant

open Interning Provenance

namespace World

theorem foldl_addFact_eq (entries : List Entry) (w : World) : entries.foldl addFact w =
    { w with
      facts := w.facts.insertAll entries
      phase := if entries.isEmpty then w.phase else .idle } := by
  induction entries generalizing w with
  | nil => rfl
  | cons e rest ih =>
    rw [List.foldl_cons, ih]
    simp only [addFact, ite_self]
    rfl

theorem foldl_addRule_eq (entries : List RuleEntry) (w : World) : entries.foldl addRule w =
    { w with
      rules := w.rules ++ entries
      phase := if entries.isEmpty then w.phase else .idle } := by
  induction entries generalizing w with
  | nil => simp
  | cons e rest ih =>
    rw [List.foldl_cons, ih]
    simp [addRule]

/-- The world has something to do again if anything has been added. -/
theorem addBlocks_eq_append (w : World) (blocks : List TransferredBlock) : w.addBlocks blocks =
    { w with
      facts := w.facts.insertAll (blockFacts blocks)
      rules := w.rules ++ blockRules blocks
      phase := if (blockFacts blocks).isEmpty && (blockRules blocks).isEmpty then w.phase
        else .idle } := by
  rw [addBlocks_eq_foldl, foldl_addRule_eq, foldl_addFact_eq]
  cases (blockRules blocks).isEmpty with
  | true => simp
  | false => simp

end World

namespace Authorizer

variable {a b : Authorizer} {t : Token}

/-- The versions that can be evaluated. -/
theorem unsupported?_eq_none_iff :
    unsupported? t = none ↔ ∀ b ∈ t.blocks, 3 ≤ b.version ∧ b.version ≤ 5 := by
  have known (b : Block) : (Block.oldestVersion ≤ b.version && b.version ≤ Block.newestVersion) ↔
      3 ≤ b.version ∧ b.version ≤ 5 := by
    rw [Bool.and_eq_true, decide_eq_true_eq, decide_eq_true_eq]
    exact Iff.rfl
  rw [unsupported?, List.find?_eq_none]
  constructor
  · intro all b hb
    obtain ⟨i, bound, rfl⟩ := List.getElem_of_mem hb
    have place : (t.blocks[i], i) ∈ t.blocks.zipIdx :=
      List.mem_zipIdx_iff_getElem?.2 (List.getElem?_eq_getElem bound)
    exact (known _).1 (by simpa using all (t.blocks[i], i) place)
  · rintro all ⟨b, i⟩ hb
    have member := List.mem_of_getElem? (List.mem_zipIdx_iff_getElem?.1 hb)
    simpa using (known b).2 (all b member)

/-- What an accepted token does: the facts and rules of its blocks come behind those of the world,
each in the name of its block and with the trust that the token says, and the checks and keys of the
blocks are kept. Everything reads in the new table as in the table of its block. -/
structure Takes (a : Authorizer) (t : Token) (b : Authorizer) (facts : List Entry)
    (rules : List RuleEntry) : Prop where
  world : b.world =
    { a.world with
      facts := a.world.facts.insertAll facts
      rules := a.world.rules ++ rules
      phase := if facts.isEmpty && rules.isEmpty then a.world.phase else .idle }
  facts : List.Forall₂ (SamePair (Atom.Names b.symbols)) (facts.map Entry.pair)
    (({} : Session).add (.token t)).entries
  rules : List.Forall₂ (RuleEntry.Names b.symbols) rules
    (({} : Session).add (.token t)).blockRules
  blocks : ∃ loaded, b.blocks = some loaded ∧
    List.Forall₂ (LoadedBlock.Names b.symbols (({} : Session).add (.token t)).signed) loaded
      (t.blocks.map Block.text).zipIdx
  owners : b.owners.Signs b.symbols (({} : Session).add (.token t)).signed
  symbols : b.symbols.Sound ∧ a.symbols.Grows b.symbols
  rest : b =
    { a with world := b.world, symbols := b.symbols, blocks := b.blocks, owners := b.owners }

theorem takes_of_addToken (sound : a.symbols.Sound) (accepted : a.addToken t = .ok b)
    (fits : b.symbols.Fits) : ∃ facts rules, a.Takes t b facts rules := by
  obtain ⟨-, -, owners, blocks, symbols, run, rfl⟩ := addToken_eq_ok accepted
  obtain ⟨sound, grows, named⟩ := Loading.ensures_token t a.symbols sound
  rw [show (Loading.token t).run a.symbols = _ from run] at sound grows named
  obtain ⟨signs, names⟩ := named _ rfl symbols sound fits (.refl _)
  refine ⟨World.blockFacts blocks, World.blockRules blocks, ?_⟩
  refine ⟨a.world.addBlocks_eq_append blocks, ?_, names_blockRules names, ?_, signs,
    ⟨sound, grows⟩, rfl⟩
  · rw [Session.entries]
    refine (List.append_nil _).symm ▸ samePair_blockFacts names
  · exact ⟨_, rfl, List.forall₂_map_left_iff.2 (names.imp fun _ _ h => ⟨h.trust, h.checks⟩)⟩

/-! Whether there is a token. -/

theorem eq_token_of_call {x : Step} (h : x.call? = some (.token t)) :
    x = .act (.call (.token t)) := by
  cases x with
  | act y =>
    cases y with
    | call c => rw [Option.some.inj h]
    | authorize => cases h
    | query => cases h
  | decide kind => cases h
  | clock now => cases h
  | limit => cases h

/-- No other step has to do with tokens. -/
theorem blocks_step_of_ne [Patterns] (sound : a.symbols.Sound) {x : Step}
    (other : ∀ t, x ≠ .act (.call (.token t))) : (a.step x).blocks = a.blocks := by
  rcases moved_step sound x with moved | ⟨c, e, -, -, same⟩
  · cases call : x.call? with
    | none =>
      rw [call] at moved
      generalize a.step x = b at moved ⊢
      cases moved with
      | still => rfl
      | evaluated limits =>
        rw [saturate_state]
        exact a.ready_blocks
    | some c =>
      have statement : ∀ t, c ≠ .token t := fun t same => other t (eq_token_of_call (same ▸ call))
      rw [call] at moved
      generalize a.step x = b at moved ⊢
      cases moved with
      | statement => exact blocks_add
      | token => exact absurd rfl (statement _)
  · rw [same]

theorem step_token [Patterns] (a : Authorizer) (t : Token) :
    (∃ b, a.addToken t = .ok b ∧ a.step (.act (.call (.token t))) = b) ∨
      ∃ e, a.addToken t = .error e ∧ a.step (.act (.call (.token t))) = a := by
  cases called : a.addToken t with
  | ok b =>
    refine .inl ⟨b, rfl, ?_⟩
    change a.after (.token t) = b
    simp only [after, call, called]
  | error e =>
    refine .inr ⟨e, rfl, ?_⟩
    change a.after (.token t) = a
    simp only [after, call, called]

theorem blocks_step [Patterns] (sound : a.symbols.Sound) (x : Step) : (a.step x).blocks = none ↔
    a.blocks = none ∧ ∀ t, x = .act (.call (.token t)) → ¬ ∃ b, a.addToken t = .ok b := by
  by_cases token : ∃ t, x = .act (.call (.token t))
  · obtain ⟨t, rfl⟩ := token
    rcases a.step_token t with ⟨b, accepted, same⟩ | ⟨e, refused, same⟩
    · obtain ⟨-, -, owners, blocks, symbols, -, rfl⟩ := addToken_eq_ok accepted
      rw [same]
      exact iff_of_false nofun fun none => none.2 t rfl ⟨_, accepted⟩
    · rw [same, iff_comm, and_iff_left_iff_imp]
      rintro - u equal ⟨b, accepted⟩
      cases equal
      cases refused.symm.trans accepted
  · rw [blocks_step_of_ne sound fun t same => token ⟨t, same⟩, iff_comm, and_iff_left_iff_imp]
    exact fun _ t same => absurd ⟨t, same⟩ token

/-- There is a token if one was accepted. -/
theorem blocks_steps [Patterns] (sound : a.symbols.Sound) (xs : List Step) :
    (a.steps xs).blocks = none ↔
    a.blocks = none ∧ ∀ ys t zs, xs = ys ++ .act (.call (.token t)) :: zs →
      ¬ ∃ b, (a.steps ys).addToken t = .ok b := by
  induction xs generalizing a with
  | nil => simp [steps]
  | cons x rest ih =>
    rw [steps, List.foldl_cons, ← steps, ih (step_table sound x).1, blocks_step sound x, and_assoc]
    refine and_congr_right fun _ => ⟨?_, fun all => ⟨?_, ?_⟩⟩
    · rintro ⟨here, later⟩ ys t zs same
      rcases List.cons_eq_append_iff.1 same with ⟨rfl, cons⟩ | ⟨ys, rfl, tail⟩
      · exact here t (List.cons.inj cons).1.symm
      · exact later ys t zs tail
    · rintro t rfl
      exact all [] t rest rfl
    · rintro ys t zs rfl
      exact all (x :: ys) t zs rfl

/-! Any token at any time. -/

theorem ok_of_isOk {ε α : Type} {x : Except ε α} (h : x.isOk) : ∃ b, x = .ok b := by
  cases x with
  | ok b => exact ⟨b, rfl⟩
  | error e => cases h

theorem error_of_isOk {ε α : Type} {x : Except ε α} (h : x.isOk = false) : ∃ e, x = .error e := by
  cases x with
  | ok b => cases h
  | error e => exact ⟨e, rfl⟩

/-- What is worked with is kept if the token is. -/
theorem worked_of_accepted [Patterns] (accepted : a.addToken t = .ok b) :
    a.worked (.act (.call (.token t))) = b.symbols := by
  obtain ⟨free, supported, owners, blocks, symbols, run, rfl⟩ := addToken_eq_ok accepted
  rw [worked, free, supported, run]
  rfl

/-- A token is taken in exactly when none has been, its versions are known and all in it can be
taken in. Then all of it comes into the world under the places of its blocks, and nothing else
changes there; otherwise nothing changes at all, and whatever is done next comes out as if the token
had never been offered. The table that is worked with must stay below the limit for variables. -/
theorem addToken_all_or_nothing [Patterns] {limits : RunLimits} {xs : List Step} {t : Token}
    (fits : (((ofLimits limits).steps xs).worked (.act (.call (.token t)))).Fits) :
    let a := (ofLimits limits).steps xs
    ((∃ b, a.addToken t = .ok b) ↔
      (∀ ys u zs, xs = ys ++ .act (.call (.token u)) :: zs →
        ¬ ∃ b, ((ofLimits limits).steps ys).addToken u = .ok b) ∧
      (∀ b ∈ t.blocks, 3 ≤ b.version ∧ b.version ≤ 5) ∧ t.Loadable) ∧
    (∀ b, a.addToken t = .ok b →
      a.step (.act (.call (.token t))) = b ∧ ∃ facts rules, a.Takes t b facts rules) ∧
    ∀ e, a.addToken t = .error e → a.step (.act (.call (.token t))) = a ∧
      ∀ ys, a.steps (.act (.call (.token t)) :: ys) = a.steps ys := by
  intro a
  have sound : a.symbols.Sound := (steps_table Symbols.sound_empty xs).1
  have free : a.blocks = none ↔ _ :=
    (blocks_steps Symbols.sound_empty xs).trans (and_iff_right rfl)
  refine ⟨?_, fun b accepted => ?_, fun e refused => ?_⟩
  · rw [← free, ← unsupported?_eq_none_iff]
    refine addToken_isOk_iff sound fun unloaded supported => ?_
    change a.blocks = none at unloaded
    rwa [worked, unloaded, supported] at fits
  · rcases a.step_token t with ⟨c, again, same⟩ | ⟨e, refused, -⟩
    · cases accepted.symm.trans again
      refine ⟨same, takes_of_addToken sound accepted ?_⟩
      rwa [worked_of_accepted accepted] at fits
    · cases accepted.symm.trans refused
  · rcases a.step_token t with ⟨b, accepted, -⟩ | ⟨e, -, same⟩
    · cases accepted.symm.trans refused
    · refine ⟨same, fun ys => ?_⟩
      rw [steps, List.foldl_cons, same]
      rfl

/-- A rule whose variable has two ids of one name, from a table that holds that name twice and a
string that every table knows. The token offered before it names a string that its table lacks. -/
theorem addToken_all_or_nothing_doubled :
    let rule : Rule Nat Nat :=
      { head := ⟨1024, [.var 1025]⟩, body := [⟨2, [.var 1026]⟩], expressions := [], scopes := [] }
    let token (rules : List (Rule Nat Nat)) : Token := ⟨[
      { symbols := { strings := ["read", "x", "x"] }, facts := [⟨2, [.str 1024]⟩], rules
        checks := [], scopes := [], context := none, externalKey := none, version := 3 }]⟩
    let dangling : Token := token [rule, { rule with head := ⟨1027, []⟩ }]
    let told : List Step := [.act (.call (.fact ⟨"user", [.str "x"]⟩))]
    let tried : List Step := told ++ [.act (.call (.token dangling))]
    ((ofLimits {}).steps told).step (.act (.call (.token dangling))) = (ofLimits {}).steps told ∧
      (((ofLimits {}).steps tried).worked (.act (.call (.token (token [rule]))))).Fits ∧
      (∃ b, ((ofLimits {}).steps tried).addToken (token [rule]) = .ok b) ∧
      (token [rule]).Loadable := by
  intro rule token dangling told tried
  have half : (((ofLimits {}).steps told).worked (.act (.call (.token dangling)))).Fits := by
    decide +kernel
  have fits : (((ofLimits {}).steps tried).worked (.act (.call (.token (token [rule]))))).Fits := by
    decide +kernel
  have fails : (((ofLimits {}).steps told).addToken dangling).isOk = false := by decide +kernel
  have works : (((ofLimits {}).steps tried).addToken (token [rule])).isOk := by decide +kernel
  obtain ⟨e, failed⟩ := error_of_isOk fails
  obtain ⟨b, accepted⟩ := ok_of_isOk works
  obtain ⟨-, -, refused⟩ := addToken_all_or_nothing half
  obtain ⟨loadable, -, -⟩ := addToken_all_or_nothing fits
  exact ⟨(refused e failed).1, fits, ⟨b, accepted⟩, (loadable.1 ⟨b, accepted⟩).2.2⟩

end Authorizer

end Warrant
