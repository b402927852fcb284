import Mathlib.Data.List.Nodup
import Warrant.Naming

/-! Symbol tables as they grow.
In a sound table an id and its string determine each other. Taking in a name keeps a table sound
and only appends to it, so whatever an id stands for it stands for in every later table. The ids
of variables are cut to 32 bits; as long as a table fits below that bound, nothing is lost. -/

namespace Warrant.Symbols

/-- Holds nothing twice, and no string that every table knows. -/
structure Sound (t : Symbols) : Prop where
  strings : t.strings.Nodup
  foreign : ∀ s ∈ t.strings, s ∉ builtins
  keys : t.keys.Nodup

/-- Whether every string of the table could be the name of a variable. -/
def Fits (t : Symbols) : Prop := firstLocal + t.strings.length ≤ variableLimit

instance (t : Symbols) : Decidable t.Fits :=
  inferInstanceAs (Decidable (firstLocal + t.strings.length ≤ variableLimit))

structure Grows (t u : Symbols) : Prop where
  strings : t.strings <+: u.strings
  keys : t.keys <+: u.keys

variable {t u v : Symbols} {s : String} {i j : Nat}

theorem sound_empty : Sound empty := ⟨.nil, nofun, .nil⟩

namespace Grows

theorem refl (t : Symbols) : t.Grows t := ⟨List.prefix_rfl, List.prefix_rfl⟩

theorem trans (h : t.Grows u) (k : u.Grows v) : t.Grows v :=
  ⟨h.strings.trans k.strings, h.keys.trans k.keys⟩

theorem fits (h : t.Grows u) (fits : u.Fits) : t.Fits := by
  have longer := h.strings.length_le
  unfold Fits at fits ⊢
  omega

end Grows

theorem getElem?_of_prefix {α : Type} {l r : List α} {a : α} (h : l <+: r) (k : l[i]? = some a) :
    r[i]? = some a := by
  obtain ⟨more, rfl⟩ := h
  exact List.getElem?_append_left (List.getElem?_eq_some_iff.1 k).1 ▸ k

theorem Grows.text? (h : t.Grows u) (k : t.text? i = some s) : u.text? i = some s := by
  unfold Symbols.text? at k ⊢
  split
  · rwa [if_pos ‹_›] at k
  · rw [if_neg ‹_›] at k
    exact getElem?_of_prefix h.strings k

theorem Grows.key? {key : PublicKey} (h : t.Grows u) (k : t.keys[i]? = some key) :
    u.keys[i]? = some key :=
  getElem?_of_prefix h.keys k

theorem lt_of_text? (h : t.text? i = some s) : i < firstLocal + t.strings.length := by
  unfold Symbols.text? at h
  split at h
  · omega
  · have bound := (List.getElem?_eq_some_iff.1 h).1
    omega

/-- In a list without repetitions a place and its element determine each other. -/
theorem idxOf?_eq_some_iff {α : Type} [DecidableEq α] {l : List α} {a : α} (nodup : l.Nodup) :
    l.idxOf? a = some i ↔ l[i]? = some a := by
  rw [List.idxOf?_eq_some_iff, List.getElem?_eq_some_iff]
  refine exists_congr fun bound => and_iff_left_of_imp ?_
  rintro rfl j before same
  exact absurd ((nodup.getElem_inj_iff).1 same) (Nat.ne_of_lt before)

theorem nodup_builtins : builtins.Nodup := by decide

theorem length_builtins_lt : builtins.length < firstLocal := by decide

namespace Sound

theorem id?_eq_some_iff (h : t.Sound) : t.id? s = some i ↔ t.text? i = some s := by
  unfold id? Symbols.text?
  cases known : builtins.idxOf? s with
  | some k =>
    have place := (idxOf?_eq_some_iff nodup_builtins).1 known
    have member : s ∈ builtins := List.mem_of_getElem? place
    simp only [Option.orElse_eq_orElse, Option.orElse_eq_or, Option.some_or, Option.some.injEq]
    constructor
    · rintro rfl
      have bound := (List.getElem?_eq_some_iff.1 place).1
      rw [if_pos (Nat.lt_trans bound length_builtins_lt)]
      exact place
    · intro found
      split at found
      · exact Option.some.inj (known.symm.trans ((idxOf?_eq_some_iff nodup_builtins).2 found))
      · exact absurd member (h.foreign s (List.mem_of_getElem? found))
  | none =>
    have foreign : s ∉ builtins := List.idxOf?_eq_none_iff.1 known
    simp only [Option.orElse_eq_orElse, Option.orElse_eq_or, Option.none_or,
      Option.map_eq_some_iff, idxOf?_eq_some_iff h.strings]
    constructor
    · rintro ⟨k, place, rfl⟩
      rw [if_neg (by omega), Nat.add_sub_cancel_left]
      exact place
    · intro found
      split at found
      · exact absurd (List.mem_of_getElem? found) foreign
      · exact ⟨i - firstLocal, found, by omega⟩

theorem text?_inj (h : t.Sound) (hi : t.text? i = some s) (hj : t.text? j = some s) : i = j :=
  Option.some.inj ((h.id?_eq_some_iff.2 hi).symm.trans (h.id?_eq_some_iff.2 hj))

theorem key?_inj {key : PublicKey} (h : t.Sound) (hi : t.keys[i]? = some key)
    (hj : t.keys[j]? = some key) : i = j := by
  have bound := (List.getElem?_eq_some_iff.1 hi).1
  exact (List.getElem?_inj bound h.keys).1 (hi.trans hj.symm)

theorem nodup_concat {α : Type} {l : List α} {a : α} (nodup : l.Nodup) (new : a ∉ l) :
    (l ++ [a]).Nodup := by
  rw [List.nodup_append]
  refine ⟨nodup, List.nodup_singleton a, fun b hb c hc => ?_⟩
  rw [List.mem_singleton.1 hc]
  exact ne_of_mem_of_not_mem hb new

theorem intern (h : t.Sound) (s : String) : (intern s t).2.Sound ∧ t.Grows (intern s t).2 ∧
    (intern s t).2.text? (intern s t).1 = some s := by
  unfold Symbols.intern
  cases known : t.id? s with
  | some i => exact ⟨h, .refl t, h.id?_eq_some_iff.1 known⟩
  | none =>
    obtain ⟨foreign, new⟩ : builtins.idxOf? s = none ∧ t.strings.idxOf? s = none := by
      simpa [id?] using known
    refine ⟨⟨?_, ?_, h.keys⟩, ⟨List.prefix_append .., List.prefix_rfl⟩, ?_⟩
    · exact nodup_concat h.strings (List.idxOf?_eq_none_iff.1 new)
    · intro x hx
      rcases List.mem_append.1 hx with hx | hx
      · exact h.foreign x hx
      · rw [List.mem_singleton.1 hx]
        exact List.idxOf?_eq_none_iff.1 foreign
    · rw [text?_local]
      simp

theorem internKey (h : t.Sound) (key : PublicKey) : (internKey key t).2.Sound ∧
    t.Grows (internKey key t).2 ∧ (internKey key t).2.keys[(internKey key t).1]? = some key := by
  unfold Symbols.internKey
  cases known : t.keys.idxOf? key with
  | some i => exact ⟨h, .refl t, (idxOf?_eq_some_iff h.keys).1 known⟩
  | none =>
    refine ⟨⟨h.strings, h.foreign, ?_⟩, ⟨List.prefix_rfl, List.prefix_append ..⟩, ?_⟩
    · exact nodup_concat h.keys (List.idxOf?_eq_none_iff.1 known)
    · simp

end Sound

/-- The second of two steps goes on with the table that the first leaves, unless that failed. -/
theorem run_bind_eq {ε α β : Type} (x : ExceptT ε (StateM Symbols) α)
    (f : α → ExceptT ε (StateM Symbols) β) (t : Symbols) :
    (x >>= f).run t = ExceptT.bindCont f (x.run t).1 (x.run t).2 := rfl

end Warrant.Symbols
