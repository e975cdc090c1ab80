import Databook.Proofs.Query.Buckets
import Databook.Proofs.Columns.Links

/-!
# Groups hold the rows

The groups of some rows hold these rows and no others (`exists_group_iff`), and each lists its rows in
their order (`rowIds_sublist`). Main statement (`groupRows_parts`): grouping loses and repeats nothing.
A row is in the groups of its options, or in the one group of its text, or in that of the rows without a
value.

A group lists exactly the rows that belong to its key (`rowIds_eq`); with the keys being different all
else follows from this.
-/

namespace Databook

/-! ### What groups are -/

/-- Groups with different keys, each of some rows in their order; only the last may have no key. -/
structure ProperGroups (rows : List Row) (groups : List RowGroup) : Prop where
  filled : ∀ g ∈ groups, g.rowIds ≠ []
  distinct : (groups.map (·.key)).Nodup
  last : ∀ g ∈ groups.dropLast, g.key ≠ none
  ordered : ∀ g ∈ groups, g.rowIds.Nodup ∧ g.rowIds.Sublist (rows.map (·.id))

/-- A row is in the groups of the options that it names, and without a value if there is none; of
options with one id the first tells where the group stands. -/
structure OptionGroups (options : List SelectOption) (valueOf : Row → Cell) (rows : List Row)
    (groups : List RowGroup) : Prop where
  option : ∀ row ∈ rows, ∀ option ∈ options,
    (∃ g ∈ groups, g.key = some option.id ∧ row.id ∈ g.rowIds) ↔ option.id ∈ (valueOf row).ids
  rest : ∀ row ∈ rows, (∃ g ∈ groups, g.key = none ∧ row.id ∈ g.rowIds) ↔
    ∀ id ∈ (valueOf row).ids, ∀ option ∈ options, option.id ≠ id
  sorted : (groups.filterMap (·.key)).Sublist (options.map (·.id)).eraseDups

/-- Every row is in one group: with the rows of the same text, or with the other empty ones. The groups
of texts stand in the order of their first rows. -/
structure TextGroups (valueOf : Row → Cell) (rows : List Row) (groups : List RowGroup) : Prop where
  one : ∀ row ∈ rows, ∃! g, g ∈ groups ∧ row.id ∈ g.rowIds
  shared : ∀ a ∈ rows, ∀ b ∈ rows, (valueOf a).isEmpty = false → (valueOf b).isEmpty = false →
    ((∃ g ∈ groups, a.id ∈ g.rowIds ∧ b.id ∈ g.rowIds) ↔ (valueOf a).display = (valueOf b).display)
  rest : ∀ row ∈ rows, (∃ g ∈ groups, g.key = none ∧ row.id ∈ g.rowIds) ↔ (valueOf row).isEmpty = true
  sorted : ((groups.filter (·.key.isSome)).filterMap (·.rowIds.head?)).Sublist (rows.map (·.id))

namespace PropertyKind

/-- What the groups of rows are by the kind of the property. -/
def Groups (kind : PropertyKind) : (Row → Cell) → List Row → List RowGroup → Prop :=
  match kind with
  | .select options | .multiSelect options => OptionGroups options
  | _ => TextGroups

/-- The groups of the rows that have a value. -/
def valueGroups (kind : PropertyKind) : (Row → Cell) → List Row → List RowGroup :=
  match kind with
  | .select options | .multiSelect options => groupByOption options
  | _ => groupByText

/-- The group of the rows that have none. -/
def restGroups (kind : PropertyKind) (noValueLabel : String) (valueOf : Row → Cell) (rows : List Row) :
    List RowGroup :=
  let rest := rows.filter fun row => hasNoGroup kind (valueOf row)
  if rest.isEmpty then [] else [⟨none, noValueLabel, rest.map (·.id)⟩]

/-- Is a row with a cell in the group of a key? -/
def belongs (kind : PropertyKind) (key : Option String) (c : Cell) : Bool :=
  match key with
  | none => hasNoGroup kind c
  | some key =>
    match kind with
    | .select _ | .multiSelect _ => c.ids.contains key
    | _ => !c.isEmpty && c.display == key

/-- Properties of this kind group rows by options. -/
structure ByOption (kind : PropertyKind) (options : List SelectOption) : Prop where
  groups : kind.Groups = OptionGroups options
  valueGroups : kind.valueGroups = groupByOption options
  hasNoGroup (c : Cell) : hasNoGroup kind c = !c.ids.any fun id => options.any (·.id == id)
  belongs (key : String) (c : Cell) : kind.belongs (some key) c = c.ids.contains key

/-- Properties of this kind group rows by the texts of their values. -/
structure ByText (kind : PropertyKind) : Prop where
  groups : kind.Groups = TextGroups
  valueGroups : kind.valueGroups = groupByText
  hasNoGroup (c : Cell) : hasNoGroup kind c = c.isEmpty
  belongs (key : String) (c : Cell) : kind.belongs (some key) c = (!c.isEmpty && c.display == key)

theorem byOption_or_byText (kind : PropertyKind) : (∃ options, kind.ByOption options) ∨ kind.ByText := by
  cases kind with
  | select options | multiSelect options =>
    exact .inl ⟨options, rfl, rfl, fun _ => rfl, fun _ _ => rfl⟩
  | _ => exact .inr ⟨rfl, rfl, fun _ => rfl, fun _ _ => rfl⟩

end PropertyKind

section Groups

variable {valueOf : Row → Cell} {rows : List Row} {g : RowGroup} {row : Row}
  {options : List SelectOption} {p : Property} {noValueLabel : String}

/-! ### Groups by option, by text, and of the rest -/

theorem mem_groupByOption :
    g ∈ groupByOption options valueOf rows
      ↔ ∃ option ∈ options.eraseDupsBy fun a b => a.id == b.id,
          (rows.filter fun row => (valueOf row).ids.contains option.id) ≠ [] ∧
          g = ⟨some option.id, option.label,
            ((rows.filter fun row => (valueOf row).ids.contains option.id).map (·.id)).eraseDups⟩ := by
  rw [groupByOption_eq, List.mem_filterMap]
  refine exists_congr fun option => and_congr_right fun _ => ?_
  cases rows.filter fun row => (valueOf row).ids.contains option.id <;> simp [eq_comm]

theorem mem_groupByText :
    g ∈ groupByText valueOf rows
      ↔ ∃ row ∈ rows, (valueOf row).isEmpty = false ∧
          g = ⟨some (valueOf row).display, (valueOf row).display,
            ((rows.filter fun row => !(valueOf row).isEmpty).filter fun other =>
              (valueOf other).display == (valueOf row).display).map (·.id)⟩ := by
  rw [groupByText_eq]
  simp only [List.mem_map, List.mem_eraseDups, List.mem_filter, Bool.not_eq_true']
  constructor
  · rintro ⟨text, ⟨row, ⟨hrow, hfilled⟩, rfl⟩, rfl⟩
    exact ⟨row, hrow, hfilled, rfl⟩
  · rintro ⟨row, hrow, hfilled, rfl⟩
    exact ⟨_, ⟨row, ⟨hrow, hfilled⟩, rfl⟩, rfl⟩

/-- There is at most one group of the rest. -/
theorem restGroups_cases (kind : PropertyKind) (noValueLabel : String) (valueOf : Row → Cell)
    (rows : List Row) :
    (rows.filter fun row => hasNoGroup kind (valueOf row)) = [] ∧
      kind.restGroups noValueLabel valueOf rows = [] ∨
    (rows.filter fun row => hasNoGroup kind (valueOf row)) ≠ [] ∧
      kind.restGroups noValueLabel valueOf rows
        = [⟨none, noValueLabel, (rows.filter fun row => hasNoGroup kind (valueOf row)).map (·.id)⟩] := by
  unfold PropertyKind.restGroups
  cases rows.filter fun row => hasNoGroup kind (valueOf row) <;> simp

/-- It comes last. -/
theorem groupRows_eq (p : Property) (noValueLabel : String) (valueOf : Row → Cell) (rows : List Row) :
    groupRows p noValueLabel valueOf rows
      = p.kind.valueGroups valueOf rows ++ p.kind.restGroups noValueLabel valueOf rows := by
  have hgroups : groupRows p noValueLabel valueOf rows
      = if (rows.filter fun row => hasNoGroup p.kind (valueOf row)).isEmpty then
          p.kind.valueGroups valueOf rows
        else p.kind.valueGroups valueOf rows ++
          [⟨none, noValueLabel, (rows.filter fun row => hasNoGroup p.kind (valueOf row)).map (·.id)⟩] := by
    unfold groupRows PropertyKind.valueGroups
    cases p.kind <;> rfl
  rw [hgroups]
  unfold PropertyKind.restGroups
  cases rows.filter fun row => hasNoGroup p.kind (valueOf row) <;> simp

theorem mem_groupRows :
    g ∈ groupRows p noValueLabel valueOf rows
      ↔ g ∈ p.kind.valueGroups valueOf rows ∨
        (rows.filter fun row => hasNoGroup p.kind (valueOf row)) ≠ [] ∧
          g = ⟨none, noValueLabel, (rows.filter fun row => hasNoGroup p.kind (valueOf row)).map (·.id)⟩ := by
  rw [groupRows_eq, List.mem_append]
  rcases restGroups_cases p.kind noValueLabel valueOf rows with ⟨hnone, hrest⟩ | ⟨hsome, hrest⟩
  · simp [hnone, hrest]
  · rw [hrest, List.mem_singleton, and_iff_right hsome]

/-! ### The rows of a group -/

/-- A group lists the rows that belong to its key, and there are some. -/
theorem rowIds_eq (hrows : (rows.map (·.id)).Nodup) (hg : g ∈ groupRows p noValueLabel valueOf rows) :
    g.rowIds = (rows.filter fun row => p.kind.belongs g.key (valueOf row)).map (·.id) ∧
    g.rowIds ≠ [] := by
  rcases mem_groupRows.1 hg with hvalue | ⟨hrest, rfl⟩
  · rcases p.kind.byOption_or_byText with ⟨options, h⟩ | h
    · rw [h.valueGroups] at hvalue
      obtain ⟨option, -, hmembers, rfl⟩ := mem_groupByOption.1 hvalue
      -- ids are told apart, so that none is left out as a repetition
      have hnodup : ((rows.filter fun row => (valueOf row).ids.contains option.id).map
          (·.id)).Nodup := hrows.sublist (List.filter_sublist.map _)
      rw [eraseDups_of_nodup hnodup]
      exact ⟨by simp only [h.belongs], fun hnil => hmembers (List.map_eq_nil_iff.1 hnil)⟩
    · rw [h.valueGroups] at hvalue
      obtain ⟨row, hrow, hfilled, rfl⟩ := mem_groupByText.1 hvalue
      refine ⟨by simp only [List.filter_filter, h.belongs, Bool.and_comm], ?_⟩
      refine List.ne_nil_of_mem (List.mem_map_of_mem (a := row) ?_)
      simp [hrow, hfilled]
  · exact ⟨rfl, fun hnil => hrest (List.map_eq_nil_iff.1 hnil)⟩

/-- A group lists its rows in their order. -/
theorem rowIds_sublist (hrows : (rows.map (·.id)).Nodup) {p : Property} {noValueLabel : String}
    (h : g ∈ groupRows p noValueLabel valueOf rows) : g.rowIds.Sublist (rows.map (·.id)) := by
  rw [(rowIds_eq hrows h).1]
  exact List.filter_sublist.map _

/-- A row is in the groups of the keys that it belongs to. -/
theorem mem_rowIds_iff_belongs (hrows : (rows.map (·.id)).Nodup)
    (hg : g ∈ groupRows p noValueLabel valueOf rows) (hrow : row ∈ rows) :
    row.id ∈ g.rowIds ↔ p.kind.belongs g.key (valueOf row) = true := by
  rw [(rowIds_eq hrows hg).1]
  constructor
  · intro hid
    obtain ⟨other, hother, hsame⟩ := List.mem_map.1 hid
    obtain ⟨hmem, hbelongs⟩ := List.mem_filter.1 hother
    rwa [← List.inj_on_of_nodup_map hrows hmem hrow hsame]
  · intro hbelongs
    exact List.mem_map_of_mem (List.mem_filter.2 ⟨hrow, hbelongs⟩)

/-- Every option that a row names has a group with the row. -/
theorem exists_option_group (hrow : row ∈ rows) {option : SelectOption} (hoption : option ∈ options)
    (hid : option.id ∈ (valueOf row).ids) :
    ∃ g ∈ groupByOption options valueOf rows, g.key = some option.id ∧ row.id ∈ g.rowIds := by
  -- of the options with one id the first stands for all
  obtain ⟨shown, hshown, hkey⟩ :
      ∃ shown ∈ options.eraseDupsBy fun a b => a.id == b.id, shown.id = option.id :=
    exists_mem_eraseDupsBy hoption
  have hin : row ∈ rows.filter fun row => (valueOf row).ids.contains shown.id := by
    refine List.mem_filter.2 ⟨hrow, List.contains_iff_mem.2 ?_⟩
    rwa [hkey]
  exact ⟨_, mem_groupByOption.2 ⟨shown, hshown, List.ne_nil_of_mem hin, rfl⟩, congrArg some hkey,
    List.mem_eraseDups.2 (List.mem_map_of_mem hin)⟩

theorem exists_rest_group (noValueLabel : String) (hrow : row ∈ rows)
    (hrest : hasNoGroup p.kind (valueOf row) = true) :
    ∃ g ∈ groupRows p noValueLabel valueOf rows, g.key = none ∧ row.id ∈ g.rowIds := by
  have hmem : row ∈ rows.filter fun row => hasNoGroup p.kind (valueOf row) :=
    List.mem_filter.2 ⟨hrow, hrest⟩
  exact ⟨_, mem_groupRows.2 (.inr ⟨List.ne_nil_of_mem hmem, rfl⟩), rfl, List.mem_map_of_mem hmem⟩

/-- Every row is in a group. -/
theorem exists_group {p : Property} (noValueLabel : String) {row : Row} (hrow : row ∈ rows) :
    ∃ g ∈ groupRows p noValueLabel valueOf rows, row.id ∈ g.rowIds := by
  by_cases hrest : hasNoGroup p.kind (valueOf row) = true
  · obtain ⟨g, hg, -, hid⟩ := exists_rest_group noValueLabel hrow hrest
    exact ⟨g, hg, hid⟩
  suffices hgroup : ∃ g ∈ p.kind.valueGroups valueOf rows, row.id ∈ g.rowIds by
    obtain ⟨g, hg, hid⟩ := hgroup
    exact ⟨g, mem_groupRows.2 (.inl hg), hid⟩
  rw [Bool.not_eq_true] at hrest
  rcases p.kind.byOption_or_byText with ⟨options, h⟩ | h
  · -- one of the ids is that of an option
    rw [h.hasNoGroup, Bool.not_eq_false'] at hrest
    obtain ⟨id, hid, hsome⟩ := List.any_eq_true.1 hrest
    obtain ⟨option, hoption, hsame⟩ := List.any_eq_true.1 hsome
    rw [← beq_iff_eq.1 hsame] at hid
    obtain ⟨g, hg, -, hin⟩ := exists_option_group hrow hoption hid
    rw [h.valueGroups]
    exact ⟨g, hg, hin⟩
  · rw [h.hasNoGroup] at hrest
    rw [h.valueGroups]
    refine ⟨_, mem_groupByText.2 ⟨row, hrow, hrest, rfl⟩, List.mem_map_of_mem ?_⟩
    simp [hrow, hrest]

/-- The groups hold the rows and no others. -/
theorem exists_group_iff (hrows : (rows.map (·.id)).Nodup) {p : Property} {noValueLabel id : String} :
    (∃ g ∈ groupRows p noValueLabel valueOf rows, id ∈ g.rowIds) ↔ id ∈ rows.map (·.id) := by
  constructor
  · rintro ⟨g, hg, hid⟩
    exact (rowIds_sublist hrows hg).mem hid
  · intro hid
    obtain ⟨row, hrow, rfl⟩ := List.mem_map.1 hid
    exact exists_group noValueLabel hrow

/-- The group without a key is that of the rows without a value. -/
theorem exists_rest_iff (hrows : (rows.map (·.id)).Nodup) (hrow : row ∈ rows) :
    (∃ g ∈ groupRows p noValueLabel valueOf rows, g.key = none ∧ row.id ∈ g.rowIds)
      ↔ hasNoGroup p.kind (valueOf row) = true := by
  constructor
  · rintro ⟨g, hg, hkey, hid⟩
    rwa [mem_rowIds_iff_belongs hrows hg hrow, hkey] at hid
  · exact exists_rest_group noValueLabel hrow

/-! ### The keys of the groups -/

theorem keys_groupByOption_sublist (options : List SelectOption) (valueOf : Row → Cell)
    (rows : List Row) :
    ((groupByOption options valueOf rows).map (·.key)).Sublist
      ((options.map (·.id)).eraseDups.map some) := by
  rw [groupByOption_eq, ← map_eraseDupsBy, List.map_map]
  refine map_filterMap_sublist (fun option g hkept => ?_) _
  dsimp only at hkept
  split at hkept
  · cases hkept
  · cases hkept
    rfl

theorem keys_groupByText : (groupByText valueOf rows).map (·.key)
    = ((rows.filter fun row => !(valueOf row).isEmpty).map fun row =>
        (valueOf row).display).eraseDups.map some := by
  rw [groupByText_eq]
  exact List.map_map

/-- Groups of values have keys, all different. -/
theorem keys_valueGroups (kind : PropertyKind) (valueOf : Row → Cell) (rows : List Row) :
    ∃ keys : List String, keys.Nodup ∧
      (kind.valueGroups valueOf rows).map (·.key) = keys.map some := by
  rcases kind.byOption_or_byText with ⟨options, h⟩ | h
  · obtain ⟨keys, hkeys, heq⟩ := List.sublist_map_iff.1 (keys_groupByOption_sublist options valueOf rows)
    rw [h.valueGroups]
    exact ⟨keys, (nodup_eraseDups _).sublist hkeys, heq⟩
  · rw [h.valueGroups]
    exact ⟨_, nodup_eraseDups _, keys_groupByText⟩

theorem key_ne_none {kind : PropertyKind} (h : g ∈ kind.valueGroups valueOf rows) : g.key ≠ none := by
  obtain ⟨keys, -, heq⟩ := keys_valueGroups kind valueOf rows
  have hkey : g.key ∈ keys.map some := heq ▸ List.mem_map_of_mem h
  obtain ⟨key, -, hsome⟩ := List.mem_map.1 hkey
  rw [← hsome]
  exact Option.some_ne_none key

theorem nodup_keys : ((groupRows p noValueLabel valueOf rows).map (·.key)).Nodup := by
  obtain ⟨keys, hkeys, heq⟩ := keys_valueGroups p.kind valueOf rows
  have hvalues : (keys.map some).Nodup := hkeys.map fun _ _ => Option.some.inj
  rw [groupRows_eq, List.map_append, heq]
  rcases restGroups_cases p.kind noValueLabel valueOf rows with ⟨-, hrest⟩ | ⟨-, hrest⟩ <;> rw [hrest]
  · rwa [List.map_nil, List.append_nil]
  · exact hvalues.append (List.nodup_singleton none) (by simp)

theorem key_ne_none_of_mem_dropLast (hg : g ∈ (groupRows p noValueLabel valueOf rows).dropLast) :
    g.key ≠ none := by
  rw [groupRows_eq] at hg
  rcases restGroups_cases p.kind noValueLabel valueOf rows with ⟨-, hrest⟩ | ⟨-, hrest⟩ <;>
    rw [hrest] at hg
  · rw [List.append_nil] at hg
    exact key_ne_none (List.dropLast_subset _ hg)
  · rw [List.dropLast_concat] at hg
    exact key_ne_none hg

/-- The groups with keys are those of values. -/
theorem filter_key_groupRows : (groupRows p noValueLabel valueOf rows).filter (·.key.isSome)
    = p.kind.valueGroups valueOf rows := by
  have hvalue : ∀ g ∈ p.kind.valueGroups valueOf rows, g.key.isSome = true :=
    fun g hg => Option.isSome_iff_ne_none.2 (key_ne_none hg)
  rw [groupRows_eq, List.filter_append, List.filter_eq_self.2 hvalue]
  rcases restGroups_cases p.kind noValueLabel valueOf rows with ⟨-, hrest⟩ | ⟨-, hrest⟩ <;> rw [hrest]
  · exact List.append_nil _
  · exact List.append_nil _

theorem filterMap_key_groupRows : (groupRows p noValueLabel valueOf rows).filterMap (·.key)
    = (p.kind.valueGroups valueOf rows).filterMap (·.key) := by
  rw [groupRows_eq, List.filterMap_append]
  rcases restGroups_cases p.kind noValueLabel valueOf rows with ⟨-, hrest⟩ | ⟨-, hrest⟩ <;> rw [hrest]
  · exact List.append_nil _
  · exact List.append_nil _

/-- The first rows of the groups of texts stand in their order. -/
theorem heads_groupByText_sublist :
    ((groupByText valueOf rows).filterMap (·.rowIds.head?)).Sublist (rows.map (·.id)) := by
  have hheads : (groupByText valueOf rows).filterMap (·.rowIds.head?)
      = ((((rows.filter fun row => !(valueOf row).isEmpty).map fun row =>
          (valueOf row).display).eraseDups.filterMap fun text =>
            (rows.filter fun row => !(valueOf row).isEmpty).find? fun row =>
              (valueOf row).display == text).map (·.id)) := by
    rw [groupByText_eq]
    simp only
    rw [List.filterMap_map, List.map_filterMap]
    refine List.filterMap_congr fun text _ => ?_
    rw [Function.comp_apply, List.head?_map, List.head?_filter]
  rw [hheads]
  exact ((sublist_first _ _).trans List.filter_sublist).map _

/-! ### Groups that lose and repeat nothing -/

theorem properGroups_groupRows (hrows : (rows.map (·.id)).Nodup) :
    ProperGroups rows (groupRows p noValueLabel valueOf rows) where
  filled _ hg := (rowIds_eq hrows hg).2
  distinct := nodup_keys
  last _ := key_ne_none_of_mem_dropLast
  ordered _ hg := ⟨hrows.sublist (rowIds_sublist hrows hg), rowIds_sublist hrows hg⟩

theorem optionGroups_groupRows (hrows : (rows.map (·.id)).Nodup) (h : p.kind.ByOption options) :
    OptionGroups options valueOf rows (groupRows p noValueLabel valueOf rows) := by
  constructor
  case option =>
    intro row hrow option hoption
    constructor
    · rintro ⟨g, hg, hkey, hid⟩
      rw [mem_rowIds_iff_belongs hrows hg hrow, hkey, h.belongs] at hid
      exact List.contains_iff_mem.1 hid
    · intro hid
      obtain ⟨g, hg, hin⟩ := exists_option_group hrow hoption hid
      exact ⟨g, mem_groupRows.2 (.inl (h.valueGroups ▸ hg)), hin⟩
  case rest =>
    intro row hrow
    rw [exists_rest_iff hrows hrow, h.hasNoGroup]
    simp
  case sorted =>
    have hkeys := (keys_groupByOption_sublist options valueOf rows).filterMap id
    rwa [List.filterMap_map, List.filterMap_map, Function.id_comp, Function.id_comp, List.filterMap_some,
      ← h.valueGroups, ← filterMap_key_groupRows] at hkeys

theorem textGroups_groupRows (hrows : (rows.map (·.id)).Nodup) (h : p.kind.ByText) :
    TextGroups valueOf rows (groupRows p noValueLabel valueOf rows) := by
  have hexists : ∀ row ∈ rows, ∃ g ∈ groupRows p noValueLabel valueOf rows, row.id ∈ g.rowIds :=
    fun _ hrow => exists_group noValueLabel hrow
  -- a row is in the group of one key
  have hkeyed : ∀ g ∈ groupRows p noValueLabel valueOf rows, ∀ row ∈ rows,
      (row.id ∈ g.rowIds ↔
        g.key = if (valueOf row).isEmpty then none else some (valueOf row).display) := by
    intro g hg row hrow
    rw [mem_rowIds_iff_belongs hrows hg hrow]
    cases g.key with
    | none =>
      rw [PropertyKind.belongs, h.hasNoGroup]
      cases (valueOf row).isEmpty <;> simp
    | some key =>
      rw [h.belongs]
      cases (valueOf row).isEmpty
      · simpa using eq_comm
      · simp
  constructor
  case one =>
    intro row hrow
    obtain ⟨g, hg, hid⟩ := hexists row hrow
    refine ⟨g, ⟨hg, hid⟩, fun g' ⟨hg', hid'⟩ => ?_⟩
    refine List.inj_on_of_nodup_map nodup_keys hg' hg ?_
    rw [(hkeyed g' hg' row hrow).1 hid', (hkeyed g hg row hrow).1 hid]
  case shared =>
    intro a ha b hb hfilled hfilled'
    constructor
    · rintro ⟨g, hg, hid, hid'⟩
      have hkey := ((hkeyed g hg a ha).1 hid).symm.trans ((hkeyed g hg b hb).1 hid')
      simpa [hfilled, hfilled'] using hkey
    · intro hsame
      obtain ⟨g, hg, hid⟩ := hexists a ha
      refine ⟨g, hg, hid, (hkeyed g hg b hb).2 ?_⟩
      rw [(hkeyed g hg a ha).1 hid, hfilled, hfilled', hsame]
  case rest =>
    intro row hrow
    rw [exists_rest_iff hrows hrow, h.hasNoGroup]
  case sorted =>
    rw [filter_key_groupRows, h.valueGroups]
    exact heads_groupByText_sublist

/-- Grouping loses and repeats nothing. Groups have rows and different keys, the one without a key comes
last, and each lists rows in their order. By options, a row is in the groups of those that it names, and
the groups stand in the order of the options; by anything else, every row is in the one group of its
text, or in that of the empty ones. -/
theorem groupRows_parts (hrows : (rows.map (·.id)).Nodup) (p : Property) (noValueLabel : String)
    (valueOf : Row → Cell) :
    ProperGroups rows (groupRows p noValueLabel valueOf rows) ∧
    p.kind.Groups valueOf rows (groupRows p noValueLabel valueOf rows) := by
  refine ⟨properGroups_groupRows hrows, ?_⟩
  rcases p.kind.byOption_or_byText with ⟨options, h⟩ | h
  · rw [h.groups]
    exact optionGroups_groupRows hrows h
  · rw [h.groups]
    exact textGroups_groupRows hrows h

end Groups

/-! ### Tagged rows -/

section Tagged

/-- A row with tags. -/
def taggedRow (id : String) (tags : Cell) : Row := ⟨id, .ofList [("t", tags)], .epoch, .epoch⟩

/-- Rows with a tag twice, with unknown tags, with one tag and without. -/
def taggedRows : List Row :=
  [taggedRow "a" (.list ["v", "w", "v"]), taggedRow "b" (.list ["w", "x"]), taggedRow "c" (.list ["x"]),
    taggedRow "d" (.text "u"), taggedRow "e" .null]

/-- Tags of which one is there twice. -/
def tagColumn : Property :=
  .fresh "t" "Tags" (.select [⟨"u", "U", "red"⟩, ⟨"v", "V", "red"⟩, ⟨"u", "U again", "red"⟩])

/-- By tags a row of unknown ones stands with the empty ones; by text it stands alone. -/
theorem groupRows_parts_tagged :
    (taggedRows.map (·.id)).Nodup ∧
    (∃ g ∈ groupRows tagColumn "None" (·.cell "t") taggedRows, g.key = some "v" ∧ "a" ∈ g.rowIds) ∧
    (∃ g ∈ groupRows tagColumn "None" (·.cell "t") taggedRows, g.key = none ∧ "c" ∈ g.rowIds) ∧
    ∃! g, g ∈ groupRows (.fresh "t" "Tags" .text) "None" (·.cell "t") taggedRows ∧ "c" ∈ g.rowIds := by
  have hrows : (taggedRows.map (·.id)).Nodup := by decide
  obtain ⟨-, htags⟩ := groupRows_parts hrows tagColumn "None" (·.cell "t")
  obtain ⟨-, htexts⟩ := groupRows_parts hrows (.fresh "t" "Tags" .text) "None" (·.cell "t")
  refine ⟨hrows, ?_, ?_, ?_⟩
  · exact (htags.option (taggedRow "a" (.list ["v", "w", "v"])) (by simp [taggedRows])
      ⟨"v", "V", "red"⟩ (by decide)).2 (by decide)
  · exact (htags.rest (taggedRow "c" (.list ["x"])) (by simp [taggedRows])).2 (by decide)
  · exact htexts.one (taggedRow "c" (.list ["x"])) (by simp [taggedRows])

end Tagged

end Databook
