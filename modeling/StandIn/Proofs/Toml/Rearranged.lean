import StandIn.Toml.Value

/-!
Documents that say the same in another order: entries may change their places in the document and
in any of its tables. What is said under a key stays there, but for the order in it.
-/

set_option autoImplicit false

namespace StandIn.Toml

inductive Rearranged : Entries → Entries → Prop
  | moved {first second : Entries} (moved : first.Perm second) : Rearranged first second
  | within (earlier later : Entries) (key : String) {first second : Entries}
      (inner : Rearranged first second) :
      Rearranged (earlier ++ (key, .table first) :: later)
        (earlier ++ (key, .table second) :: later)
  | trans {first second third : Entries} (early : Rearranged first second)
      (late : Rearranged second third) : Rearranged first third

/-- The same value, or tables with the same entries in another order. -/
inductive Alike : Value → Value → Prop
  | same (value : Value) : Alike value value
  | tables {first second : Entries} (rearranged : Rearranged first second) :
      Alike (.table first) (.table second)

theorem Alike.trans {first second third : Value} (early : Alike first second)
    (late : Alike second third) : Alike first third := by
  cases early with
  | same => exact late
  | tables rearranged =>
      cases late with
      | same => exact .tables rearranged
      | tables further => exact .tables (rearranged.trans further)

theorem Alike.table {entries : Entries} {other : Value} (alike : Alike (.table entries) other) :
    ∃ moved, other = .table moved ∧ Rearranged entries moved := by
  cases alike with
  | same => exact ⟨entries, rfl, .moved (.refl entries)⟩
  | tables rearranged => exact ⟨_, rfl, rearranged⟩

namespace Rearranged

variable {first second : Entries}

theorem symm (rearranged : Rearranged first second) : Rearranged second first := by
  induction rearranged with
  | moved moved => exact .moved moved.symm
  | within earlier later key _ induction => exact .within earlier later key induction
  | trans _ _ early late => exact late.trans early

theorem kept (rearranged : Rearranged first second) {key : String} {value : Value}
    (member : (key, value) ∈ first) : ∃ other, (key, other) ∈ second ∧ Alike value other := by
  induction rearranged generalizing value with
  | moved moved => exact ⟨value, moved.mem_iff.mp member, .same value⟩
  | within earlier later place inner _ =>
      rcases List.mem_append.mp member with before | after
      · exact ⟨value, List.mem_append_left _ before, .same value⟩
      · rcases List.mem_cons.mp after with here | behind
        · cases here
          exact ⟨_, by simp, .tables inner⟩
        · exact ⟨value, by simp [behind], .same value⟩
  | trans _ _ early late =>
      obtain ⟨middle, middleMember, alike⟩ := early member
      obtain ⟨last, lastMember, further⟩ := late middleMember
      exact ⟨last, lastMember, alike.trans further⟩

theorem kept_value (rearranged : Rearranged first second) {key : String} {value : Value}
    (member : (key, value) ∈ first) (noTable : ∀ entries, value ≠ .table entries) :
    (key, value) ∈ second := by
  obtain ⟨other, otherMember, alike⟩ := rearranged.kept member
  cases alike with
  | same => exact otherMember
  | tables _ => exact absurd rfl (noTable _)

end Rearranged

theorem Alike.symm {first second : Value} (alike : Alike first second) : Alike second first := by
  cases alike with
  | same => exact .same first
  | tables rearranged => exact .tables rearranged.symm

end StandIn.Toml
