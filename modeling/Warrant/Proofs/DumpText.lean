import Warrant.Proofs.JsonText
import Warrant.Wire

/-! The text of a dump tells the dump.
Each decoder gets back what the encoder for the same kind of thing has put into a JSON value: an
object whose names are all different gives its fields in their order, an array its elements. With
the text of the value reading back as the value, nothing of a dump is lost in its text. -/

namespace Warrant

namespace Json.Decoder

variable {α : Type}

theorem record_obj (fields : List (String × Json)) (distinct : (fields.map Prod.fst).Nodup)
    (depth : Nat) :
    record (fields.map Prod.fst) (depth + 1) (.obj fields) = some (fields.map (some ·.2)) := by
  rw [record]
  refine mapM_eq_some_iff.2 (List.forall₂_map_left_iff.2 (List.forall₂_map_right_iff.2
    (List.forall₂_same.2 fun f hf => ?_)))
  have alone : fields.filter (·.1 == f.1) = [f] := by
    obtain ⟨before, after, rfl⟩ := List.append_of_mem hf
    simp only [List.map_append, List.map_cons, List.nodup_append, List.nodup_cons,
      List.mem_map, List.mem_cons] at distinct
    obtain ⟨-, ⟨later, -⟩, earlier⟩ := distinct
    have no_later : after.filter (·.1 == f.1) = [] := by
      simp only [List.filter_eq_nil_iff, beq_iff_eq]
      exact fun g hg same => later ⟨g, hg, same⟩
    have no_earlier : before.filter (·.1 == f.1) = [] := by
      simp only [List.filter_eq_nil_iff, beq_iff_eq]
      exact fun g hg same => earlier _ ⟨g, hg, rfl⟩ _ (.inl rfl) same
    simp [no_later, no_earlier]
  rw [alone]

theorem list_map {d : Decoder α} {f : α → Json} {as : List α} {depth : Nat}
    (each : ∀ a ∈ as, d depth (f a) = some a) : list d (depth + 1) (.arr (as.map f)) = some as :=
  mapM_eq_some_iff.2 (List.forall₂_map_left_iff.2 (List.forall₂_same.2 each))

theorem required_nat {n limit : Nat} (h : n < limit) (depth : Nat) :
    required (nat limit) depth (some (.int n)) = some n := by
  simp [required, nat, h]

end Json.Decoder

namespace Wire

open Json Decoder

theorem required_string (s : String) (depth : Nat) :
    required string depth (some (.str s)) = some s := rfl

theorem required_ofStrings (strings : List String) (depth : Nat) :
    required (list string) (depth + 2) (some (ofStrings strings)) = some strings :=
  list_map fun _ _ => rfl

theorem group_ofGroup {statements : String} (other : statements ≠ "origin") (g : Group)
    (depth : Nat) : group statements (depth + 2) (ofGroup statements g) = some g := by
  have fields := record_obj [("origin", .str g.origin),
    (statements, ofStrings g.statements)] (by simpa using other.symm) (depth + 1)
  simp only [List.map_cons, List.map_nil] at fields
  simp only [group, ofGroup, fields, required_string, required_ofStrings, Option.bind_eq_bind,
    Option.bind_some]
  rfl

theorem required_ofGroups {statements : String} (other : statements ≠ "origin") (gs : List Group)
    (depth : Nat) : required (list (group statements)) (depth + 4)
      (some (.arr (gs.map (ofGroup statements)))) = some gs :=
  list_map fun g _ => group_ofGroup other g depth

theorem dump_ofDump {d : Dump} (fits : d.iterations < UInt64.size) (depth : Nat) :
    dump (depth + 4) (ofDump d) = some d := by
  have fields := record_obj [("facts", .arr (d.facts.map (ofGroup "facts"))),
    ("rules", .arr (d.rules.map (ofGroup "rules"))),
    ("checks", .arr (d.checks.map (ofGroup "checks"))),
    ("policies", ofStrings d.policies), ("iterations", .int d.iterations)] (by simp) (depth + 3)
  simp only [List.map_cons, List.map_nil] at fields
  simp (disch := decide) only [dump, ofDump, fields, required_ofGroups, required_nat fits,
    required_ofStrings d.policies (depth + 2), Option.bind_eq_bind, Option.bind_some]
  rfl

theorem readable_ofStrings (strings : List String) : (ofStrings strings).Readable := by
  refine .arr fun v hv => ?_
  obtain ⟨s, -, rfl⟩ := List.mem_map.1 hv
  exact .str s

theorem readable_ofGroups (statements : String) (gs : List Group) :
    (Json.arr (gs.map (ofGroup statements))).Readable := by
  refine .arr fun v hv => ?_
  obtain ⟨g, -, rfl⟩ := List.mem_map.1 hv
  exact .obj (by simp [Readable.str, readable_ofStrings])

theorem readable_ofDump (d : Dump) : (ofDump d).Readable :=
  .obj (by simp [Readable.int, readable_ofStrings, readable_ofGroups])

/-- A dump comes back from its text, whatever its strings hold, and no other dump has that text. -/
theorem text_tells_dump {d : Dump} (fits : d.iterations < UInt64.size) :
    readDump? (writeDump d) = some d ∧
      ∀ e : Dump, e.iterations < UInt64.size → writeDump e = writeDump d → e = d := by
  have back {d : Dump} (fits : d.iterations < UInt64.size) : readDump? (writeDump d) = some d := by
    rw [readDump?, writeDump, read?_render (readable_ofDump d), Option.bind_some]
    exact dump_ofDump fits 123
  refine ⟨back fits, fun e bound same => ?_⟩
  have both : some e = some d := by rw [← back bound, same, back fits]
  exact Option.some.inj both

/-- Quotes, backslashes, control characters and line breaks in the strings, no rules and a group
without statements, and as many passes as there can be. -/
theorem text_tells_dump_escaped :
    let d : Dump :=
      { facts := [⟨"block \"0\"", ["path(\"c:\\temp\")", "note(\"\x01\t\u2028é\nsecond line\r\")"]⟩]
        rules := []
        checks := [⟨"authorizer", []⟩, ⟨"", ["", "null"]⟩]
        policies := ["allow if true"]
        iterations := UInt64.size - 1 }
    d.iterations < UInt64.size ∧ readDump? (writeDump d) = some d ∧
      ∀ e : Dump, e.iterations < UInt64.size → writeDump e = writeDump d → e = d := by
  intro d
  have fits : d.iterations < UInt64.size := by decide
  exact ⟨fits, text_tells_dump fits⟩

end Wire

end Warrant
