import Warrant.Proofs.Calls
import Warrant.Proofs.Hearing
import Warrant.Proofs.Interning
import Warrant.Proofs.Program

/-! What was written, and what the engine holds of it.
A session is a token and the statements of an authorizer as people wrote them, without tables and
ids. It says which blocks each statement relies on, what is to be derived and what is to be asked.
`Authorizer.Holds` ties an authorizer to the session that it was made from. -/

namespace Warrant

open Provenance Interning

/-- A block as it was written, and who signed it if not the issuer. -/
structure BlockText where
  facts : List (Fact String)
  rules : List (Rule String PublicKey)
  checks : List (Check String PublicKey)
  scopes : List (Scope PublicKey)
  owner : Option PublicKey

def Block.text (b : Block) : BlockText where
  facts := b.facts.map (Atom.rename b.symbols.textOf)
  rules := b.rules.map (Rule.rename b.symbols.textOf b.symbols.keyOf)
  checks := b.checks.map (Check.rename b.symbols.textOf b.symbols.keyOf)
  scopes := b.scopes.map (Scope.rename b.symbols.keyOf)
  owner := b.externalKey

/-- The blocks that a key signed, the first of the list being at `index`. -/
def signers (blocks : List BlockText) (index : Nat) (key : PublicKey) : List BlockId :=
  ((blocks.zipIdx index).filter fun p => p.1.owner = some key).map fun p => .block p.2

namespace Trust

/-- The blocks that a scope adds for something declared in `current`, with keys in full. -/
def grantedBy (signed : PublicKey → List BlockId) (current : BlockId) :
    Scope PublicKey → List BlockId
  | .authority => [.block 0]
  | .previous =>
    match current with
    | .block i => (List.range (i + 1)).map .block
    | .authorizer => []
  | .key k => signed k

/-- What something declared in `current` relies on: itself and the authorizer in any case, and
then what its scopes grant, or without scopes what is there by default. -/
def written (signed : PublicKey → List BlockId) (scopes : List (Scope PublicKey))
    (default : Trust) (current : BlockId) : Trust :=
  let own : Origin := .ofList [current, .authorizer]
  if scopes.isEmpty then ⟨own.union default.blocks⟩
  else ⟨own.union (.ofList (scopes.flatMap (grantedBy signed current)))⟩

/-- What a block relies on where its statements do not say otherwise. -/
def ofBlock (signed : PublicKey → List BlockId) (b : BlockText) (i : Nat) : Trust :=
  written signed b.scopes .default (.block i)

end Trust

structure Session where
  blocks : List BlockText := []
  facts : List (Fact String) := []
  rules : List (Rule String PublicKey) := []
  checks : List (Check String PublicKey) := []
  policies : List (Policy String PublicKey) := []
  scopes : List (Scope PublicKey) := []

namespace Session

variable (s : Session)

def signed : PublicKey → List BlockId := signers s.blocks 0

def ownTrust : Trust := .written s.signed s.scopes .default .authorizer

/-- The facts of the blocks with their origins, and then those of the authorizer. -/
def entries : List (Origin × Fact String) :=
  (s.blocks.zipIdx.flatMap fun (b, i) =>
    b.facts.map fun fact => (OrderedSet.singleton (.block i), fact)) ++
  s.facts.map fun fact => (OrderedSet.singleton .authorizer, fact)

def blockRules : List Declaration :=
  s.blocks.zipIdx.flatMap fun (b, i) => b.rules.map fun rule =>
    { block := .block i, rule
      trust := .written s.signed rule.scopes (.ofBlock s.signed b i) (.block i) }

def ownRules : List Declaration :=
  s.rules.map fun rule =>
    { block := .authorizer, rule
      trust := .written s.signed rule.scopes s.ownTrust .authorizer }

/-- All facts and rules of the session. -/
def program : Program where
  facts := {p | p ∈ s.entries}
  rules := {d | d ∈ s.blockRules ++ s.ownRules}

/-- The checks block by block, then those of the authorizer, and the policies. -/
def hearing : Hearing String PublicKey where
  checks := (s.blocks.zipIdx.flatMap fun (b, i) => b.checks.zipIdx.map fun (check, j) =>
      { site := (.block i, j), check
        trust := fun q => .written s.signed q.scopes (.ofBlock s.signed b i) (.block i) }) ++
    s.checks.zipIdx.map fun (check, j) =>
      { site := (.authorizer, j), check
        trust := fun q => .written s.signed q.scopes s.ownTrust .authorizer }
  policies := s.policies
  trust := fun q => .written s.signed q.scopes s.ownTrust .authorizer

/-- The session after a call that was accepted. -/
def add (s : Session) : Call → Session
  | .token t => { s with blocks := t.blocks.map Block.text }
  | .fact f => { s with facts := s.facts ++ [f.rename id] }
  | .rule r => { s with rules := s.rules ++ [r.rename id id] }
  | .check c => { s with checks := s.checks ++ [c.rename id id] }
  | .policy p => { s with policies := s.policies ++ [p.rename id id] }
  | .scope t => { s with scopes := s.scopes ++ [t.rename id] }

end Session

/-! What is stated in a session that is told more. -/

section Entries

variable {s : Session}

theorem Session.entries_addFact (s : Session) (f : Fact String) :
    {p | p ∈ (s.add (.fact f)).entries} =
      {p | p ∈ s.entries} ∪ {p | p ∈ [(OrderedSet.singleton .authorizer, f.rename id)]} := by
  have appended : (s.add (.fact f)).entries =
      s.entries ++ [(OrderedSet.singleton .authorizer, f.rename id)] := by
    simp [entries, add]
  rw [appended]
  exact Set.ext fun p => List.mem_append

/-- The first token brings the facts of its blocks. -/
theorem Session.entries_addToken (empty : s.blocks = []) (t : Token) :
    {p | p ∈ (s.add (.token t)).entries} = {p | p ∈ s.entries} ∪
      {p | p ∈ (t.blocks.map Block.text).zipIdx.flatMap fun (b, i) =>
        b.facts.map fun fact => (OrderedSet.singleton (BlockId.block i), fact)} := by
  ext p
  simp only [entries, add, empty, List.zipIdx_nil, List.flatMap_nil, List.nil_append,
    Set.mem_ofPred_eq, Set.mem_union, List.mem_append]
  exact or_comm

theorem World.pairs_addFact (w : World) (e : Entry) :
    (w.addFact e).facts.pairs = w.facts.pairs ∪ {p | p ∈ [e.pair]} := by
  ext p
  change _ ↔ _ ∨ p ∈ [_]
  rw [List.mem_singleton, eq_comm (a := p)]
  exact FactSet.mem_pairs_insert

theorem World.pairs_addBlocks (w : World) (blocks : List TransferredBlock) :
    (w.addBlocks blocks).facts.pairs =
      w.facts.pairs ∪ {p | p ∈ (blockFacts blocks).map Entry.pair} := by
  rw [(addBlocks_eq w blocks).2.2, FactSet.pairs_insertAll]
  exact congrArg (_ ∪ ·) (Set.ext fun _ => List.mem_map.symm)

end Entries

/-! Lists that are numbered. -/

section Numbered

variable {α β γ δ : Type} {R : α → β → Prop} {S : γ → δ → Prop} {l : List α} {r : List β}

theorem forall₂_zipIdx (h : List.Forall₂ R l r) (index : Nat) :
    List.Forall₂ (fun p q => R p.1 q.1 ∧ p.2 = q.2) (l.zipIdx index) (r.zipIdx index) := by
  induction h generalizing index with
  | nil => exact .nil
  | cons first _ ih => exact .cons ⟨first, rfl⟩ (ih (index + 1))

theorem forall₂_flatMap_zipIdx {T : α → β × Nat → Prop} {f : α × Nat → List γ}
    {g : β × Nat → List δ} {index : Nat} (h : List.Forall₂ T l (r.zipIdx index))
    (step : ∀ a b i, T a (b, i) → List.Forall₂ S (f (a, i)) (g (b, i))) :
    List.Forall₂ S ((l.zipIdx index).flatMap f) ((r.zipIdx index).flatMap g) := by
  induction r generalizing l index with
  | nil =>
    cases h
    exact .nil
  | cons b rest ih =>
    cases h with
    | cons first later => exact List.rel_append (step _ b index first) (ih later)

end Numbered

/-! What comes of a token. -/

section Owners

variable {owners : KeyOwners} {id other : Nat} {block : BlockId}

theorem lookup_filter {l : List (Nat × List BlockId)} (h : other ≠ id) :
    (l.filter (·.1 != id)).lookup other = l.lookup other := by
  induction l with
  | nil => rfl
  | cons p rest ih =>
    obtain ⟨k, blocks⟩ := p
    by_cases here : k = id
    · subst here
      rw [List.filter_cons_of_neg (by simp), ih, List.lookup_cons, beq_false_of_ne h]
    · rw [List.filter_cons_of_pos (by simpa using here), List.lookup_cons, List.lookup_cons, ih]

theorem KeyOwners.get_add : (owners.add id block).get other =
    if other = id then owners.get other ++ [block] else owners.get other := by
  unfold KeyOwners.get KeyOwners.add
  rw [List.lookup_cons]
  by_cases same : other = id
  · subst same
    simp [KeyOwners.get]
  · rw [if_neg same, beq_false_of_ne same, lookup_filter same]

end Owners

/-- The ids of the keys stand for the blocks that these signed. -/
def KeyOwners.Signs (u : Symbols) (owners : KeyOwners) (signed : PublicKey → List BlockId) : Prop :=
  ∀ id key, u.keys[id]? = some key → owners.get id = signed key

theorem Trust.ofScopes_eq_written {u : Symbols} {owners : KeyOwners}
    {signed : PublicKey → List BlockId} (agree : owners.Signs u signed)
    {scopes : List (Scope Nat)} {texts : List (Scope PublicKey)}
    (named : List.Forall₂ (Scope.Names u) scopes texts) (default : Trust) (current : BlockId) :
    ofScopes scopes default current owners = written signed texts default current := by
  have grants : scopes.flatMap (granted owners current) =
      texts.flatMap (grantedBy signed current) := by
    induction named with
    | nil => rfl
    | @cons a b _ _ first _ ih =>
      have here : granted owners current a = grantedBy signed current b := by
        cases a <;> cases b <;> first | rfl | cases first | exact agree _ _ first
      rw [List.flatMap_cons, List.flatMap_cons, here, ih]
  have empty : scopes.isEmpty = texts.isEmpty := by
    cases named with
    | nil => rfl
    | cons => rfl
  unfold ofScopes written
  rw [grants, empty]

/-- A block in the table of a session, with its place. -/
structure TransferredBlock.Names (u : Symbols) (signed : PublicKey → List BlockId)
    (b : TransferredBlock) (p : BlockText × Nat) : Prop where
  facts : List.Forall₂ (Atom.Names u) b.facts p.1.facts
  rules : List.Forall₂ (fun r q => r.2.Names u q ∧
    r.1 = .written signed q.scopes (.ofBlock signed p.1 p.2) (.block p.2)) b.rules p.1.rules
  trust : b.loaded.trust = .ofBlock signed p.1 p.2
  checks : List.Forall₂ (Check.Names u) b.loaded.checks p.1.checks

section Signers

variable {u : Symbols} {owners found : KeyOwners} {b : Block} {rest : List Block}
  {owner key : PublicKey} {place id index : Nat}

theorem signers_of_unsigned (unsigned : b.externalKey = none) :
    signers ((b :: rest).map Block.text) index key =
      signers (rest.map Block.text) (index + 1) key := by
  simp [signers, Block.text, unsigned]

/-- A block that is added to those of its owner comes first among the blocks that follow. -/
theorem get_add_signers (sound : u.Sound) (signed : b.externalKey = some owner)
    (there : u.keys[place]? = some owner) (known : u.keys[id]? = some key) :
    (found.add place (.block index)).get id ++ signers (rest.map Block.text) (index + 1) key =
      found.get id ++ signers ((b :: rest).map Block.text) index key := by
  rw [KeyOwners.get_add]
  by_cases same : id = place
  · subst same
    cases known.symm.trans there
    simp [signers, Block.text, signed]
  · have other : owner ≠ key := fun equal => same (sound.key?_inj known (equal ▸ there))
    simp [signers, Block.text, signed, same, other]

end Signers

namespace Loading

variable (signed : PublicKey → List BlockId)

theorem ensures_ofTransfer {α : Type} {x : Transfer α} {post : Symbols → α → Prop}
    (h : Ensures x post) : Ensures (ofTransfer x) post := by
  intro t sound
  obtain ⟨sound, grows, holds⟩ := h t sound
  refine ⟨sound, grows, fun a same => holds a ?_⟩
  exact Rule.mapError_eq_ok_iff.1 same

/-- A step that leaves the table alone. -/
theorem ensures_still {α : Type} {x : Loading α} (still : ∀ t, (x.run t).2 = t) :
    Ensures x fun _ _ => True := by
  intro t sound
  rw [still]
  exact ⟨sound, .refl t, fun _ _ _ _ _ _ => trivial⟩

theorem checkRule_still (block : Nat) (r : Rule Nat Nat) (t : Symbols) :
    ((checkRule block r).run t).2 = t := by
  unfold checkRule
  split
  · rfl
  · rfl

theorem checkRules_still (block : Nat) (rules : List (Rule Nat Nat)) (t : Symbols) :
    ((rules.forM (checkRule block)).run t).2 = t := by
  induction rules with
  | nil => rfl
  | cons r rest ih =>
    have first := checkRule_still block r t
    change ((checkRule block r >>= fun _ => rest.forM (checkRule block)).run t).2 = t
    rw [Symbols.run_bind_eq, first]
    cases ((checkRule block r).run t).1 with
    | error e => rfl
    | ok => exact ih

theorem ensures_owners (blocks : List Block) (index : Nat) (found : KeyOwners) :
    Ensures (owners blocks index found) fun u owners => ∀ id key, u.keys[id]? = some key →
      owners.get id = found.get id ++ signers (blocks.map Block.text) index key := by
  induction blocks generalizing index found with
  | nil => exact ensures_pure fun _ _ _ _ _ _ => (List.append_nil _).symm
  | cons b rest ih =>
    unfold owners
    split
    · rename_i unsigned
      refine ensures_mono (ih (index + 1) found) fun u _ _ owners holds id key known => ?_
      rw [holds id key known, signers_of_unsigned unsigned]
    · rename_i owner signed
      refine ensures_bind (ensures_lift (ensures_internKey owner)) fun place => ?_
      refine ensures_mono (ih (index + 1) _) fun u sound _ owners holds there id key known => ?_
      rw [holds id key known, get_add_signers sound signed there known]

theorem ensures_blockRule (owners : KeyOwners) (index : Nat) (trust : Trust) (source : Symbols)
    (r : Rule Nat Nat) :
    Ensures (do
      let r ← ofTransfer (r.transfer source)
      checkRule index r
      return (Trust.ofScopes r.scopes trust (.block index) owners, r) : Loading _) fun u out =>
        out.2.Names u (r.rename source.textOf source.keyOf) ∧
          out.1 = .ofScopes out.2.scopes trust (.block index) owners :=
  ensures_bind (ensures_ofTransfer (ensures_transferRule source r)) fun q =>
    ensures_bind (ensures_still (checkRule_still index q)) fun _ =>
      ensures_pure fun _ _ _ _ named => ⟨named, rfl⟩

theorem ensures_block (owners : KeyOwners) (index : Nat) (b : Block) :
    Ensures (block owners index b) fun u out => owners.Signs u signed →
      out.Names u signed (b.text, index) := by
  unfold block
  refine ensures_bind (ensures_ofTransfer
    (ensures_all (ensures_transferScope b.symbols) b.scopes)) fun scopes => ?_
  refine ensures_bind (ensures_ofTransfer
    (ensures_all (ensures_transferFact b.symbols) b.facts)) fun facts => ?_
  refine ensures_bind (ensures_all (R := fun u r q => r.2.Names u q ∧ r.1 =
    .ofScopes r.2.scopes (.ofScopes scopes .default (.block index) owners) (.block index) owners)
    (ensures_blockRule owners index _ b.symbols) b.rules) fun rules => ?_
  refine ensures_bind (ensures_ofTransfer
    (ensures_all (ensures_transferCheck b.symbols) b.checks)) fun checks => ?_
  refine ensures_bind (ensures_still (checkRules_still index _)) fun _ => ensures_pure ?_
  intro u _ _ _ checks rules facts scopes agree
  have trust := Trust.ofScopes_eq_written agree scopes .default (.block index)
  refine ⟨facts, rules.imp fun r q h => ⟨h.1, ?_⟩, trust, checks⟩
  rw [h.2, trust]
  exact Trust.ofScopes_eq_written agree h.1.scopes _ _

theorem ensures_blocks (owners : KeyOwners) (blocks : List Block) (index : Nat) :
    Ensures (Loading.blocks owners blocks index) fun u out => owners.Signs u signed →
      List.Forall₂ (TransferredBlock.Names u signed) out
        ((blocks.map Block.text).zipIdx index) := by
  induction blocks generalizing index with
  | nil => exact ensures_pure fun _ _ _ _ => .nil
  | cons b rest ih =>
    refine ensures_bind (ensures_block signed owners index b) fun first => ?_
    refine ensures_bind (ih (index + 1)) fun others => ensures_pure ?_
    intro u _ _ later first agree
    exact .cons (first agree) (later agree)

/-- A token in the table of a session. -/
theorem ensures_token (t : Token) : Ensures (Loading.token t) fun u out =>
    let texts := t.blocks.map Block.text
    out.1.Signs u (signers texts 0) ∧
      List.Forall₂ (TransferredBlock.Names u (signers texts 0)) out.2 texts.zipIdx := by
  refine ensures_bind (ensures_owners t.blocks 0 {}) fun owners => ?_
  let signed := signers (t.blocks.map Block.text) 0
  refine ensures_bind (ensures_blocks signed owners t.blocks 0) fun blocks => ensures_pure ?_
  intro u _ _ blocks agree
  exact ⟨agree, blocks agree⟩

end Loading

/-! An authorizer and its session. -/

/-- What is kept of a block in the table of a session, with its place. -/
structure LoadedBlock.Names (u : Symbols) (signed : PublicKey → List BlockId) (b : LoadedBlock)
    (p : BlockText × Nat) : Prop where
  trust : b.trust = .ofBlock signed p.1 p.2
  checks : List.Forall₂ (Check.Names u) b.checks p.1.checks

/-- What an authorizer holds before its first evaluation, as a later table reads it. -/
structure Authorizer.Reads (u : Symbols) (a : Authorizer) (s : Session) : Prop where
  facts : Corresponds (Atom.Names u) a.world.facts.pairs {p | p ∈ s.entries}
  rules : List.Forall₂ (RuleEntry.Names u) a.world.rules s.blockRules
  blocks : List.Forall₂ (LoadedBlock.Names u s.signed) (a.blocks.getD []) s.blocks.zipIdx
  owners : a.owners.Signs u s.signed

/-- An authorizer that was made from a session. -/
structure Authorizer.Holds (a : Authorizer) (s : Session) : Prop where
  sound : a.symbols.Sound
  free : a.blocks = none → s.blocks = []
  reads : ∀ u : Symbols, u.Sound → u.Fits → a.symbols.Grows u → a.Reads u s
  pending : a.pending.map (Rule.rename id id) = s.rules
  checks : a.checks.map (Check.rename id id) = s.checks
  policies : a.policies.map (Policy.rename id id) = s.policies
  scopes : a.scopes.map (Scope.rename id) = s.scopes

section Blocks

variable {u : Symbols} {signed : PublicKey → List BlockId} {blocks : List TransferredBlock}
  {texts : List BlockText}

theorem samePair_blockFacts
    (h : List.Forall₂ (TransferredBlock.Names u signed) blocks texts.zipIdx) :
    List.Forall₂ (SamePair (Atom.Names u)) ((World.blockFacts blocks).map Entry.pair)
      (texts.zipIdx.flatMap fun (b, i) =>
        b.facts.map fun fact => (OrderedSet.singleton (.block i), fact)) := by
  rw [World.blockFacts, List.forall₂_map_left_iff]
  refine forall₂_flatMap_zipIdx h fun b text i named => ?_
  rw [List.forall₂_map_left_iff, List.forall₂_map_right_iff]
  exact named.facts.imp fun _ _ same => ⟨rfl, same⟩

theorem names_blockRules (h : List.Forall₂ (TransferredBlock.Names u signed) blocks texts.zipIdx) :
    List.Forall₂ (RuleEntry.Names u) (World.blockRules blocks)
      (texts.zipIdx.flatMap fun (b, i) => b.rules.map fun rule =>
        { block := .block i, rule
          trust := .written signed rule.scopes (.ofBlock signed b i) (.block i) }) := by
  refine forall₂_flatMap_zipIdx h fun b text i named => ?_
  rw [List.forall₂_map_left_iff, List.forall₂_map_right_iff]
  exact named.rules.imp fun _ _ same => ⟨rfl, same.2, same.1⟩

end Blocks

namespace Authorizer.Holds

variable {a b : Authorizer} {s : Session}

theorem initial (limits : RunLimits) : (ofLimits limits).Holds {} where
  sound := Symbols.sound_empty
  free _ := rfl
  reads _ _ _ _ := ⟨⟨nofun, nofun⟩, .nil, .nil, fun _ _ _ => rfl⟩
  pending := rfl
  checks := rfl
  policies := rfl
  scopes := rfl

/-- Statements do not change what has been taken in, apart from facts. -/
theorem reads_statement {u : Symbols} {r : Session} (h : a.Reads u s) (world : b.world = a.world)
    (blocks : b.blocks = a.blocks) (owners : b.owners = a.owners) (texts : r.blocks = s.blocks)
    (facts : r.facts = s.facts) : b.Reads u r := by
  obtain ⟨_, _, _, _, _, _⟩ := r
  cases texts
  cases facts
  refine ⟨?_, ?_, ?_, ?_⟩
  · rw [world]
    exact h.facts
  · rw [world]
    exact h.rules
  · rw [blocks]
    exact h.blocks
  · rw [owners]
    exact h.owners

theorem addFact (h : a.Holds s) (f : Fact String) : (a.add (.fact f)).Holds (s.add (.fact f)) := by
  obtain ⟨sound, grows, named⟩ := ensures_internAtom f a.symbols h.sound
  refine ⟨sound, h.free, fun u su fits later => ?_, h.pending, h.checks, h.policies, h.scopes⟩
  have reads := h.reads u su fits (grows.trans later)
  refine ⟨?_, reads.rules, reads.blocks, reads.owners⟩
  rw [Session.entries_addFact]
  change Corresponds _ (a.world.addFact _).facts.pairs _
  rw [World.pairs_addFact]
  exact reads.facts.union (.of_forall₂ (.cons ⟨rfl, named u su fits later⟩ .nil))

theorem add (h : a.Holds s) {c : Call} (statement : ∀ t, c ≠ .token t) :
    (a.add c).Holds (s.add c) := by
  cases c with
  | token t => exact absurd rfl (statement t)
  | fact f => exact h.addFact f
  | rule r =>
    refine ⟨h.sound, h.free, fun u su fits later => ?_, ?_, h.checks, h.policies, h.scopes⟩
    · exact reads_statement (h.reads u su fits later) rfl rfl rfl rfl rfl
    · simp [Authorizer.add, Session.add, h.pending]
  | check c =>
    refine ⟨h.sound, h.free, fun u su fits later => ?_, h.pending, ?_, h.policies, h.scopes⟩
    · exact reads_statement (h.reads u su fits later) rfl rfl rfl rfl rfl
    · simp [Authorizer.add, Session.add, h.checks]
  | policy p =>
    refine ⟨h.sound, h.free, fun u su fits later => ?_, h.pending, h.checks, ?_, h.scopes⟩
    · exact reads_statement (h.reads u su fits later) rfl rfl rfl rfl rfl
    · simp [Authorizer.add, Session.add, h.policies]
  | scope t =>
    refine ⟨h.sound, h.free, fun u su fits later => ?_, h.pending, h.checks, h.policies, ?_⟩
    · exact reads_statement (h.reads u su fits later) rfl rfl rfl rfl rfl
    · simp [Authorizer.add, Session.add, h.scopes]

theorem addToken (h : a.Holds s) {t : Token} (accepted : a.addToken t = .ok b) :
    b.Holds (s.add (.token t)) := by
  obtain ⟨free, -, owners, blocks, symbols, run, rfl⟩ := addToken_eq_ok accepted
  obtain ⟨sound, grows, named⟩ := Loading.ensures_token t a.symbols h.sound
  rw [show (Loading.token t).run a.symbols = _ from run] at sound grows named
  have empty := h.free free
  refine ⟨sound, nofun, fun u su fits later => ?_, h.pending, h.checks, h.policies, h.scopes⟩
  obtain ⟨signs, names⟩ := named _ rfl u su fits later
  have reads := h.reads u su fits (grows.trans later)
  refine ⟨?_, ?_, ?_, signs⟩
  · rw [Session.entries_addToken empty]
    change Corresponds _ (a.world.addBlocks blocks).facts.pairs _
    rw [World.pairs_addBlocks]
    exact reads.facts.union (.of_forall₂ (samePair_blockFacts names))
  · have none : a.world.rules = [] := by
      have same := reads.rules
      rw [Session.blockRules, empty] at same
      exact List.forall₂_nil_right_iff.1 same
    change List.Forall₂ _ (a.world.addBlocks blocks).rules _
    rw [(World.addBlocks_eq a.world blocks).1, none]
    exact names_blockRules names
  · refine List.forall₂_map_left_iff.2 (names.imp fun _ _ h => ⟨h.trust, h.checks⟩)

end Authorizer.Holds

namespace Session

/-- The session after calls on an authorizer; those that it refuses change nothing. -/
def calls (s : Session) (a : Authorizer) : List Call → Session
  | [] => s
  | c :: rest =>
    match a.call c with
    | .ok b => (s.add c).calls b rest
    | .error _ => s.calls a rest

open Classical in
theorem calls_of_loaded {s : Session} {a : Authorizer} (loaded : a.blocks.isSome)
    (cs : List Call) : s.calls a cs = cs.foldl (fun s c => if c.Valid then s.add c else s) s := by
  induction cs generalizing a s with
  | nil => rfl
  | cons c rest ih =>
    rw [calls, List.foldl_cons]
    rcases Authorizer.call_of_loaded loaded c with ⟨valid, called⟩ | ⟨invalid, e, called⟩
    · rw [called, if_pos valid]
      exact ih ((congrArg Option.isSome Authorizer.blocks_add).trans loaded)
    · rw [called, if_neg invalid]
      exact ih loaded

end Session

theorem Authorizer.Holds.calls {a : Authorizer} {s : Session} (h : a.Holds s) (cs : List Call) :
    (a.calls cs).Holds (s.calls a cs) := by
  induction cs generalizing a s with
  | nil => exact h
  | cons c rest ih =>
    rw [Authorizer.calls, List.foldl_cons, Authorizer.after, Session.calls]
    cases accepted : a.call c with
    | error e => exact ih h
    | ok b =>
      refine ih ?_
      by_cases token : ∃ t, c = .token t
      · obtain ⟨t, rfl⟩ := token
        exact h.addToken accepted
      · have statement : ∀ t, c ≠ .token t := fun t same => token ⟨t, same⟩
        rw [((call_eq_ok_iff statement).1 accepted).2]
        exact h.add statement

end Warrant
