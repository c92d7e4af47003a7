import StandIn.Proofs.Toml.Proper
import StandIn.Toml.Document

/-!
The documents that can be read are proper. While a document is read, its tables grow by new keys
only, and what stands under a key comes from a reader of values.
-/

set_option autoImplicit false

namespace StandIn.Toml

inductive Draft.Proper : Draft → Prop
  | value (complete : Value) (proper : complete.Proper) : Draft.Proper (.value complete)
  | table (standing : Standing) (entries : DraftEntries) (distinct : Distinct entries)
      (each : ∀ entry ∈ entries, entry.2.Proper) : Draft.Proper (.table standing entries)
  | series (tables : List DraftEntries) (distinct : ∀ entries ∈ tables, Distinct entries)
      (each : ∀ entries ∈ tables, ∀ entry ∈ entries, entry.2.Proper) : Draft.Proper (.series tables)

structure DraftEntries.Proper (entries : DraftEntries) : Prop where
  distinct : Distinct entries
  each : ∀ entry ∈ entries, entry.2.Proper

theorem Draft.Proper.entries {standing : Standing} {entries : DraftEntries}
    (proper : (Draft.table standing entries).Proper) : entries.Proper := by
  cases proper with
  | table _ _ distinct each => exact ⟨distinct, each⟩

theorem DraftEntries.Proper.table {entries : DraftEntries} (proper : entries.Proper)
    (standing : Standing) : (Draft.table standing entries).Proper :=
  .table standing entries proper.distinct proper.each

theorem Draft.Proper.tables {tables : List DraftEntries} (proper : (Draft.series tables).Proper) :
    ∀ entries ∈ tables, entries.Proper := by
  cases proper with
  | series _ distinct each =>
      intro entries member
      exact ⟨distinct entries member, each entries member⟩

theorem draft_series_proper {tables : List DraftEntries}
    (each : ∀ entries ∈ tables, entries.Proper) : (Draft.series tables).Proper :=
  .series tables (fun entries member => (each entries member).distinct)
    fun entries member => (each entries member).each

/-! ## From drafts to values -/

namespace Draft

theorem entry_values_eq (entries : DraftEntries) :
    entryValues entries = entries.map fun entry => (entry.1, entry.2.toValue) := by
  induction entries with
  | nil => rfl
  | cons entry rest induction => rw [entryValues, induction, List.map_cons]

theorem table_values_eq (tables : List DraftEntries) :
    tableValues tables = tables.map fun entries => .table (entryValues entries) := by
  induction tables with
  | nil => rfl
  | cons entries rest induction => rw [tableValues, induction, List.map_cons]

theorem entry_values_distinct {entries : DraftEntries} (distinct : Distinct entries) :
    Distinct (entryValues entries) := by
  rw [Distinct, entry_values_eq, List.map_map]
  exact distinct

theorem entry_values_each {entries : DraftEntries}
    (each : ∀ entry ∈ entries, entry.2.toValue.Proper) :
    ∀ entry ∈ entryValues entries, entry.2.Proper := by
  intro entry member
  rw [entry_values_eq] at member
  obtain ⟨source, sourceMember, rfl⟩ := List.mem_map.mp member
  exact each source sourceMember

theorem Proper.to_value {draft : Draft} (proper : draft.Proper) : draft.toValue.Proper := by
  induction proper with
  | value complete proper => exact proper
  | table standing entries distinct each induction =>
      exact .table _ (entry_values_distinct distinct) (entry_values_each induction)
  | series tables distinct each induction =>
      apply Value.Proper.array
      intro item member
      rw [List.mem_reverse, table_values_eq] at member
      obtain ⟨entries, entriesMember, rfl⟩ := List.mem_map.mp member
      exact .table _ (entry_values_distinct (distinct entries entriesMember))
        (entry_values_each (induction entries entriesMember))

end Draft

theorem DraftEntries.Proper.values {entries : DraftEntries} (proper : entries.Proper) :
    (Draft.entryValues entries).Proper :=
  ⟨Draft.entry_values_distinct proper.distinct,
    Draft.entry_values_each fun entry member => (proper.each entry member).to_value⟩

/-! ## Changes of tables -/

namespace DraftEntries

variable {entries : DraftEntries} {key : String} {draft : Draft}

theorem proper_nil : Proper [] := ⟨List.nodup_nil, fun _ member => absurd member List.not_mem_nil⟩

theorem lookup_member (found : entries.lookup key = some draft) : (key, draft) ∈ entries := by
  obtain ⟨earlier, later, rfl, _⟩ := List.lookup_eq_some_iff.mp found
  simp

theorem Proper.found (proper : entries.Proper) (found : entries.lookup key = some draft) :
    draft.Proper :=
  proper.each _ (lookup_member found)

theorem Proper.append (proper : entries.Proper) (absent : entries.lookup key = none)
    (new : draft.Proper) : Proper (entries ++ [(key, draft)]) := by
  have unsaid : key ∉ entries.map Prod.fst := by
    intro member
    obtain ⟨entry, entryMember, rfl⟩ := List.mem_map.mp member
    simpa using List.lookup_eq_none_iff.mp absent entry entryMember
  constructor
  · rw [Distinct, List.map_append]
    exact proper.distinct.append (List.nodup_singleton key) (by simpa using unsaid)
  · intro entry member
    rcases List.mem_append.mp member with old | last
    · exact proper.each entry old
    · rw [List.mem_singleton.mp last]
      exact new

theorem Proper.replace (proper : entries.Proper) (new : draft.Proper) (key : String) :
    (entries.replace key draft).Proper := by
  constructor
  · have keys : (entries.replace key draft).map Prod.fst = entries.map Prod.fst := by
      rw [DraftEntries.replace, List.map_map]
      apply List.map_congr_left
      intro entry _
      simp only [Function.comp]
      split <;> rfl
    rw [Distinct, keys]
    exact proper.distinct
  · intro entry member
    obtain ⟨source, sourceMember, rfl⟩ := List.mem_map.mp member
    dsimp only
    split
    · exact new
    · exact proper.each source sourceMember

theorem Proper.without (proper : entries.Proper) (key : String) : (entries.without key).Proper := by
  constructor
  · exact proper.distinct.sublist (List.filter_sublist.map Prod.fst)
  · intro entry member
    exact proper.each entry (List.mem_filter.mp member).1

/-- The change makes proper tables of proper tables. -/
def Keeps (change : Change) : Prop :=
  ∀ standing entries changed, change standing entries = some changed → entries.Proper →
    DraftEntries.Proper changed

theorem change_at_keeps (opened : Standing) {change : Change} (keeps : Keeps change)
    (path : List String) : Keeps (changeAt opened change path) := by
  -- a path goes through a new table, a table or the newest of a series, and what has been changed
  -- there takes the place of what was found
  induction path with
  | nil => exact keeps
  | cons key path induction =>
      intro standing entries changed done proper
      rw [changeAt] at done
      cases found : entries.lookup key with
      | none =>
          simp only [found, bind, Option.bind_eq_some_iff] at done
          obtain ⟨fresh, opening, same⟩ := done
          cases same
          exact proper.append found ((induction _ _ _ opening proper_nil).table opened)
      | some draft =>
          have inner := proper.found found
          cases draft with
          | value complete => simp [found] at done
          | table innerStanding innerEntries =>
              simp only [found, Option.ite_none_left_eq_some, bind, Option.bind_eq_some_iff] at done
              obtain ⟨_, innerChanged, changing, same⟩ := done
              cases same
              have innerProper := induction _ _ _ changing inner.entries
              exact proper.replace (innerProper.table innerStanding) key
          | series tables =>
              cases tables with
              | nil => simp [found] at done
              | cons newest others =>
                  simp only [found, bind, Option.bind_eq_some_iff] at done
                  obtain ⟨newestChanged, changing, same⟩ := done
                  cases same
                  have newestProper :=
                    induction _ _ _ changing (inner.tables newest List.mem_cons_self)
                  refine proper.replace (draft_series_proper fun table member => ?_) key
                  rcases List.mem_cons.mp member with rfl | other
                  · exact newestProper
                  · exact inner.tables table (List.mem_cons_of_mem _ other)

theorem insert_keeps (isDotted : Bool) (key : String) {value : Value} (proper : value.Proper) :
    Keeps (insert isDotted key value) := by
  intro standing entries changed done tableProper
  rw [insert, Option.ite_none_left_eq_some] at done
  obtain ⟨free, same⟩ := done
  cases same
  have absent : entries.lookup key = none := by
    cases found : entries.lookup key with
    | none => rfl
    | some draft => simp [found] at free
  exact tableProper.append absent (.value value proper)

theorem insert_at_keeps (path : List String) (key : String) {value : Value}
    (proper : value.Proper) : Keeps (insertAt path key value) :=
  change_at_keeps .dotted (insert_keeps _ key proper) path

theorem declare_keeps (key : String) : Keeps (declare key) := by
  intro standing entries changed done proper
  unfold declare at done
  split at done
  · next absent =>
    cases done
    exact proper.append absent (proper_nil.table .declared)
  · next inner found =>
    cases done
    have absent : (entries.without key).lookup key = none := by
      apply List.lookup_eq_none_iff.mpr
      intro entry member
      have other : entry.1 ≠ key := by simpa using (List.mem_filter.mp member).2
      exact bne_iff_ne.mpr other.symm
    exact (proper.without key).append absent ((proper.found found).entries.table .declared)
  · cases done

theorem extend_keeps (key : String) : Keeps (extend key) := by
  intro standing entries changed done proper
  unfold extend at done
  split at done
  · next absent =>
    cases done
    refine proper.append absent (draft_series_proper fun table member => ?_)
    rw [List.mem_singleton.mp member]
    exact proper_nil
  · next tables found =>
    cases done
    refine proper.replace (draft_series_proper fun table member => ?_) key
    rcases List.mem_cons.mp member with rfl | other
    · exact proper_nil
    · exact (proper.found found).tables table other
  · cases done

end DraftEntries

/-! ## Readers of values -/

/-- Whatever the reader reads is proper. -/
def ReadsProper (read : ReadValue) : Prop :=
  ∀ text value rest, read text = some (value, rest) → value.Proper

theorem as_integer_proper {negative : Bool} {base : Nat} {digits : List Nat} {value : Value}
    (read : asInteger negative base digits = some value) : value.Proper := by
  simp only [asInteger, Option.ite_none_right_eq_some, Option.some.injEq] at read
  obtain ⟨fits, rfl⟩ := read
  exact .integer _ fits

theorem read_integer_proper : ReadsProper readInteger := by
  intro text value rest read
  unfold readInteger at read
  split at read
  -- the four notations differ in their base only
  all_goals
    simp only [bind, Option.bind_eq_some_iff, pure, Option.some.injEq, Prod.mk.injEq] at read
    obtain ⟨_, _, number, isNumber, rfl, _⟩ := read
    exact as_integer_proper isNumber

theorem read_special_float_proper : ReadsProper readSpecialFloat := by
  intro text value rest read
  unfold readSpecialFloat at read
  split at read
  · cases read
    exact .float _
  · cases read
    exact .float _
  · cases read

theorem read_finite_float_proper : ReadsProper readFiniteFloat := by
  intro text value rest read
  simp only [readFiniteFloat, bind, Option.bind_eq_some_iff, Option.ite_none_left_eq_some,
    Option.some.injEq, Prod.mk.injEq] at read
  obtain ⟨_, _, _, _, _, _, _, _, rfl, _⟩ := read
  exact .float _

theorem read_number_proper : ReadsProper readNumber := by
  intro text value rest read
  simp only [readNumber, Option.or_eq_some_iff] at read
  rcases read with finite | ⟨_, special | ⟨_, whole⟩⟩
  · exact read_finite_float_proper _ _ _ finite
  · exact read_special_float_proper _ _ _ special
  · exact read_integer_proper _ _ _ whole

theorem read_word_proper {word : List Char} {value : Value} (proper : value.Proper) :
    ReadsProper (readWord word value) := by
  intro text other rest read
  rw [readWord, Option.ite_none_right_eq_some] at read
  cases read.2
  exact proper

theorem read_scalar_proper : ReadsProper readScalar := by
  intro text value rest read
  unfold readScalar at read
  split at read
  · obtain ⟨_, _, same⟩ := Option.map_eq_some_iff.mp read
    cases same
    exact .string _
  · obtain ⟨_, _, same⟩ := Option.map_eq_some_iff.mp read
    cases same
    exact .string _
  · exact read_word_proper (.boolean true) _ _ _ read
  · exact read_word_proper (.boolean false) _ _ _ read
  · split at read
    · cases read
      exact .moment
    · exact read_number_proper _ _ _ read

variable {readItem : ReadValue}

theorem read_items_proper (proper : ReadsProper readItem) (left : Nat) (text : List Char)
    (items : List Value) (rest : List Char)
    (read : readItems readItem left text = some (items, rest)) :
    ∀ item ∈ items, item.Proper := by
  induction left generalizing text items rest with
  | zero => cases read
  | succ left induction =>
      unfold readItems at read
      split at read
      · cases read
        exact fun _ member => absurd member List.not_mem_nil
      · simp only [bind, Option.bind_eq_some_iff] at read
        obtain ⟨⟨item, afterItem⟩, itemRead, read⟩ := read
        have itemProper := proper _ _ _ itemRead
        split at read
        · cases read
          simpa using itemProper
        · simp only [Option.bind_eq_some_iff] at read
          obtain ⟨⟨others, last⟩, othersRead, same⟩ := read
          cases same
          have othersProper := induction _ _ _ othersRead
          simpa using ⟨itemProper, othersProper⟩
        · cases read

theorem read_pair_proper (proper : ReadsProper readItem) {text : List Char} {key : KeyPath}
    {value : Value} {rest : List Char} (read : readPair readItem text = some ((key, value), rest)) :
    value.Proper := by
  simp only [readPair, bind, Option.bind_eq_some_iff] at read
  obtain ⟨_, _, read⟩ := read
  split at read
  · simp only [Option.bind_eq_some_iff] at read
    obtain ⟨_, valueRead, same⟩ := read
    cases same
    exact proper _ _ _ valueRead
  · cases read

theorem read_pairs_proper (proper : ReadsProper readItem) (left : Nat)
    {entries result : DraftEntries} {text rest : List Char} (entriesProper : entries.Proper)
    (read : readPairs readItem left entries text = some (result, rest)) : result.Proper := by
  induction left generalizing entries text with
  | zero => cases read
  | succ left induction =>
      simp only [readPairs, bind, Option.bind_eq_some_iff] at read
      obtain ⟨⟨⟨key, value⟩, afterPair⟩, pairRead, more, inserted, read⟩ := read
      have valueProper := read_pair_proper proper pairRead
      have moreProper : more.Proper :=
        DraftEntries.insert_at_keeps _ _ valueProper _ _ _ inserted entriesProper
      split at read
      · cases read
        exact moreProper
      · exact induction moreProper read
      · cases read

theorem read_inline_table_proper (proper : ReadsProper readItem) :
    ReadsProper (readInlineTable readItem) := by
  intro text value rest read
  unfold readInlineTable at read
  split at read
  · cases read
    exact .table [] List.nodup_nil fun _ member => absurd member List.not_mem_nil
  · obtain ⟨⟨entries, _⟩, entriesRead, same⟩ := Option.map_eq_some_iff.mp read
    cases same
    have values := (read_pairs_proper proper _ DraftEntries.proper_nil entriesRead).values
    exact .table _ values.distinct values.each

theorem read_value_proper (depth : Nat) : ReadsProper (readValue depth) := by
  induction depth with
  | zero => exact read_scalar_proper
  | succ depth induction =>
      intro text value rest read
      unfold readValue at read
      split at read
      · obtain ⟨⟨items, _⟩, itemsRead, same⟩ := Option.map_eq_some_iff.mp read
        cases same
        exact .array items (read_items_proper induction _ _ _ _ itemsRead)
      · exact read_inline_table_proper induction _ _ _ read
      · exact read_scalar_proper _ _ _ read

/-! ## Documents -/

namespace Page

variable {page turned : Page}

theorem put_proper {key : KeyPath} {value : Value} (proper : page.entries.Proper)
    (new : value.Proper) (done : page.put key value = some turned) : turned.entries.Proper := by
  simp only [put, bind, Option.bind_eq_some_iff] at done
  obtain ⟨entries, changed, same⟩ := done
  cases same
  exact DraftEntries.change_at_keeps .implied (DraftEntries.insert_at_keeps _ _ new) _ _ _ _ changed
    proper

theorem turn_proper {key : KeyPath} {change : String → DraftEntries.Change}
    (proper : page.entries.Proper) (keeps : ∀ key, DraftEntries.Keeps (change key))
    (done : page.turn key change = some turned) : turned.entries.Proper := by
  simp only [turn, bind, Option.bind_eq_some_iff] at done
  obtain ⟨entries, changed, same⟩ := done
  cases same
  exact DraftEntries.change_at_keeps .implied (keeps key.key) _ _ _ _ changed proper

end Page

theorem read_header_proper {page turned : Page} {text rest : List Char}
    (proper : page.entries.Proper) (read : readHeader page text = some (turned, rest)) :
    turned.entries.Proper := by
  unfold readHeader at read
  split at read
  · simp only [bind, Option.bind_eq_some_iff] at read
    obtain ⟨_, _, read⟩ := read
    split at read
    · simp only [Option.bind_eq_some_iff] at read
      obtain ⟨_, done, _, _, same⟩ := read
      cases same
      exact Page.turn_proper proper DraftEntries.extend_keeps done
    · cases read
  · simp only [bind, Option.bind_eq_some_iff] at read
    obtain ⟨_, _, read⟩ := read
    split at read
    · simp only [Option.bind_eq_some_iff] at read
      obtain ⟨_, done, _, _, same⟩ := read
      cases same
      exact Page.turn_proper proper DraftEntries.declare_keeps done
    · cases read

theorem read_entry_proper {page turned : Page} {text rest : List Char}
    (proper : page.entries.Proper) (read : readEntry page text = some (turned, rest)) :
    turned.entries.Proper := by
  unfold readEntry at read
  split at read
  · exact read_header_proper proper read
  · simp only [bind, Option.bind_eq_some_iff] at read
    obtain ⟨⟨⟨key, value⟩, _⟩, pairRead, _, done, _, _, same⟩ := read
    cases same
    exact Page.put_proper proper (read_pair_proper (read_value_proper _) pairRead) done

theorem read_page_proper (left : Nat) {page last : Page} {text : List Char}
    (proper : page.entries.Proper) (read : readPage left page text = some last) :
    last.entries.Proper := by
  induction left generalizing page text with
  | zero => cases read
  | succ left induction =>
      unfold readPage at read
      split at read
      · cases read
        exact proper
      · split at read
        · exact induction proper read
        · simp only [bind, Option.bind_eq_some_iff] at read
          obtain ⟨⟨turned, _⟩, entryRead, read⟩ := read
          exact induction (read_entry_proper proper entryRead) read

/-- Documents that can be read have no key twice in a table, and no whole number that does not fit,
at any depth. -/
theorem of_text_proper {text : String} {document : Entries} (read : ofText? text = some document) :
    document.Proper := by
  simp only [ofText?, bind, Option.bind_eq_some_iff] at read
  obtain ⟨page, pageRead, same⟩ := read
  cases same
  exact (read_page_proper _ DraftEntries.proper_nil pageRead).values

end StandIn.Toml
