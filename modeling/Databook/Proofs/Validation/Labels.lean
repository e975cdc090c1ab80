import Databook.Proofs.Validation.Edits

/-!
# Labels that are entered in documents that pass the strict check

What is entered for a select property is stored as the ids of the options with its labels, among
which there may be new ones. Written into a document that passes the strict check, this leaves a
document that passes it, with one exception: the empty text is stored as it is where there are
several choices, and the check asks for a list there (`Document.acceptInput_of_valid`).

The empty text does not stand for no choice elsewhere. Where there is one choice it is a label, and
so it is in a list; the option for it, added if there was none, has the empty label.
-/

namespace Databook

open Text
open Calendar (Instant)

/-! ### Labels that are blank -/

theorem lowerChar_ne_nil (c : Char) : Casing.lowerChar c ≠ [] := by
  unfold Casing.lowerChar
  split
  · exact List.cons_ne_nil _ _
  · split <;> exact List.cons_ne_nil _ _

/-- No text but the empty one has the lower case of the empty text. -/
theorem toLower_eq_toLower_empty_iff {s : String} : toLower s = toLower "" ↔ s = "" := by
  constructor
  · intro h
    have hlower : Casing.lowerAfter [] s.toList = [] := String.ofList_injective h
    cases hs : s.toList with
    | nil => exact String.toList_injective hs
    | cons c cs =>
      rw [hs, Casing.lowerAfter, List.append_eq_nil_iff] at hlower
      have hfirst := hlower.1
      split at hfirst
      · cases hfirst
      · exact absurd hfirst (lowerChar_ne_nil c)
  · rintro rfl
    rfl

/-! ### What entering a value does -/

namespace Property

/-- Is a value one that a user can enter for a select property? -/
def takesLabels (p : Property) (c : Cell) : Bool :=
  match p.kind, c with
  | .select _, .null | .select _, .text _ => true
  | .multiSelect _, .null | .multiSelect _, .text _ | .multiSelect _, .list _ => true
  | _, _ => false

/-- The labels that an input names. -/
def labels (p : Property) (c : Cell) : List String := (p.enteredLabels? c).getD []

/-- Is a value the empty text, for a property with one choice? -/
def IsBlankForOne (p : Property) (c : Cell) : Prop := p.type = .select ∧ c = .text ""

/-- Is a value the empty text, for a property with several choices? -/
def IsBlankForSeveral (p : Property) (c : Cell) : Prop := p.type = .multiSelect ∧ c = .text ""

variable {p : Property} {c stored : Cell} {options added : List SelectOption} {row : String}
  {freshId : Nat → String} {ids labels : List String}

theorem withOptions_options (p : Property) : p.withOptions p.options = p := by
  obtain ⟨id, name, kind, formats, extra⟩ := p
  cases kind <;> rfl

/-- What entering a value for a select property does. -/
structure Accepts (p : Property) (freshId : Nat → String) (c stored : Cell)
    (new : List SelectOption) : Prop where
  accept : p.acceptInput freshId c = (stored, p.withOptions (p.options ++ new))
  added : OptionsAdded freshId p.options (p.labels c) new
  named : ∀ label ∈ p.labels c, ∃ o ∈ p.options ++ new, toLower o.label = toLower label
  inOrder : ¬ p.IsBlankForSeveral c → ∀ row,
    (p.withOptions (p.options ++ new)).cellProblems row stored = []
  blankForSeveral : p.IsBlankForSeveral c → stored = c
  blankForOne : p.IsBlankForOne c → ∃ o ∈ p.options ++ new, o.label = "" ∧ stored = .text o.id
  empty : c.isEmpty = true → ¬ p.IsBlankForOne c → stored = c

/-- The labels of options are looked up one by one. -/
theorem map_optionId?_eq
    (hids : List.Forall₂ (fun label id => optionId? options label = some id) labels ids) :
    labels.map (optionId? options) = ids.map some := by
  rwa [← List.forall₂_eq_eq_eq, List.forall₂_map_left_iff, List.forall₂_map_right_iff]

/-- The ids of options are in order in the cells of a select property. -/
theorem cellProblems_storedIds (hentered : p.enteredLabels? c = some labels)
    (hids : labels.map (optionId? p.options) = ids.map some) (row : String) :
    p.cellProblems row (p.storedIds ids) = [] := by
  have hknown : ∀ id ∈ ids, p.optionLabel? id ≠ none := by
    intro id hid
    obtain ⟨label, -, hlabel⟩ := List.mem_map.1 (hids.symm ▸ List.mem_map_of_mem hid)
    obtain ⟨o, ho, rfl, -⟩ := exists_mem_of_optionId? hlabel
    rw [optionLabel?, Ne, Option.map_eq_none_iff, find?_key_eq_none_iff, not_not]
    exact List.mem_map_of_mem ho
  have hunknown : ∀ named ⊆ ids, named.filter (fun id => (p.optionLabel? id).isNone) = [] := by
    intro named hnamed
    refine List.filter_eq_nil_iff.2 fun id hid => ?_
    rw [Option.isNone_iff_eq_none]
    exact hknown id (hnamed hid)
  obtain ⟨id, name, kind, formats, extra⟩ := p
  cases kind with
  | select options =>
    cases c with
    | text label =>
      cases hentered
      obtain ⟨id, rfl⟩ : ∃ id, ids = [id] := by
        have hlength := congrArg List.length hids
        rw [List.length_map, List.length_map] at hlength
        exact List.length_eq_one_iff.1 hlength.symm
      refine List.map_eq_nil_iff.2 (hunknown _ ?_)
      simp only [namedOptions, storedIds]
      split
      · exact List.nil_subset _
      · exact List.Subset.refl _
    | _ => cases hentered
  | multiSelect options => exact List.map_eq_nil_iff.2 (hunknown ids (List.Subset.refl ids))
  | _ => cases hentered

theorem kind_of_isBlankForOne (h : p.IsBlankForOne c) : ∃ options, p.kind = .select options := by
  obtain ⟨id, name, kind, formats, extra⟩ := p
  cases kind with
  | select options => exact ⟨options, rfl⟩
  | _ => cases h.1

theorem kind_of_isBlankForSeveral (h : p.IsBlankForSeveral c) :
    ∃ options, p.kind = .multiSelect options := by
  obtain ⟨id, name, kind, formats, extra⟩ := p
  cases kind with
  | multiSelect options => exact ⟨options, rfl⟩
  | _ => cases h.1

theorem enteredLabels?_of_isBlankForOne (h : p.IsBlankForOne c) :
    p.enteredLabels? c = some [""] := by
  obtain ⟨options, hkind⟩ := kind_of_isBlankForOne h
  simp only [enteredLabels?, hkind, h.2]

theorem storedIds_of_isBlankForOne (h : p.IsBlankForOne c) (id : String) :
    p.storedIds [id] = .text id := by
  obtain ⟨options, hkind⟩ := kind_of_isBlankForOne h
  simp only [storedIds, hkind]

theorem enteredLabels?_of_isBlankForSeveral (h : p.IsBlankForSeveral c) :
    p.enteredLabels? c = none := by
  obtain ⟨options, hkind⟩ := kind_of_isBlankForSeveral h
  simp [enteredLabels?, hkind, h.2]

/-- The only input that is empty and names labels is the empty list, but for the empty text where
there is one choice. -/
theorem eq_list_nil_of_isEmpty (hentered : p.enteredLabels? c = some labels)
    (hempty : c.isEmpty = true) (hblank : ¬ p.IsBlankForOne c) :
    p.type = .multiSelect ∧ c = .list [] ∧ labels = [] := by
  obtain ⟨id, name, kind, formats, extra⟩ := p
  cases kind with
  | select options =>
    cases c with
    | text label =>
      obtain rfl := String.isEmpty_iff.1 hempty
      exact absurd ⟨rfl, rfl⟩ hblank
    | _ => cases hentered
  | multiSelect options =>
    cases c with
    | text label =>
      obtain rfl := String.isEmpty_iff.1 hempty
      cases hentered
    | list items =>
      cases hentered
      obtain rfl := List.isEmpty_iff.1 hempty
      exact ⟨rfl, rfl, rfl⟩
    | _ => cases hentered
  | _ => cases hentered

variable (freshId) in
/-- An input that names labels is accepted, with an option for each of them. -/
theorem exists_accepts_of_labels (hentered : p.enteredLabels? c = some labels) :
    ∃ stored new, p.Accepts freshId c stored new := by
  obtain ⟨ids, new, heq, hadded, hfound⟩ := exists_added freshId p.options labels
  have hids := map_optionId?_eq hfound
  have hlabels : p.labels c = labels := by rw [Property.labels, hentered, Option.getD_some]
  -- each label has an option among those that are there in the end
  have hnamed : ∀ label ∈ labels, ∃ o ∈ p.options ++ new,
      optionId? (p.options ++ new) label = some o.id ∧ toLower o.label = toLower label := by
    intro label hlabel
    obtain ⟨id, -, hid⟩ := List.mem_map.1 (hids ▸ List.mem_map_of_mem hlabel)
    obtain ⟨o, ho, rfl, hlower⟩ := exists_mem_of_optionId? hid.symm
    exact ⟨o, ho, hid.symm, hlower⟩
  refine ⟨p.storedIds ids, new, acceptInput_eq hentered heq, hlabels.symm ▸ hadded, ?_, ?_, ?_, ?_,
    ?_⟩
  · rw [hlabels]
    exact fun label hlabel => (hnamed label hlabel).imp fun o ho => ⟨ho.1, ho.2.2⟩
  · intro _ row
    rw [← storedIds_withOptions p (p.options ++ new)]
    refine cellProblems_storedIds (enteredLabels?_withOptions hentered _) ?_ row
    rwa [options_withOptions hentered]
  · intro hblank
    rw [enteredLabels?_of_isBlankForSeveral hblank] at hentered
    cases hentered
  · intro hblank
    obtain rfl := Option.some_inj.1 ((enteredLabels?_of_isBlankForOne hblank).symm.trans hentered)
    obtain ⟨o, ho, hid, hlower⟩ := hnamed "" List.mem_cons_self
    obtain rfl : ids = [o.id] := by
      rw [List.map_singleton, hid] at hids
      exact List.map_injective_iff.2 (Option.some_injective _) (hids.symm.trans rfl)
    exact ⟨o, ho, toLower_eq_toLower_empty_iff.1 hlower, storedIds_of_isBlankForOne hblank o.id⟩
  · intro hempty hblank
    -- without labels there are no ids
    obtain ⟨htype, rfl, rfl⟩ := eq_list_nil_of_isEmpty hentered hempty hblank
    obtain rfl := List.map_eq_nil_iff.1 hids.symm
    unfold storedIds
    split <;> first | rfl | contradiction

/-- An input names labels but for null, and for the empty text where there are several choices. -/
theorem eq_null_or_isBlankForSeveral (htakes : p.takesLabels c = true)
    (hentered : p.enteredLabels? c = none) : c = .null ∨ p.IsBlankForSeveral c := by
  obtain ⟨id, name, kind, formats, extra⟩ := p
  cases c with
  | null => exact .inl rfl
  | text label =>
    cases kind with
    | select options => cases hentered
    | multiSelect options =>
      simp only [enteredLabels?] at hentered
      split at hentered
      · next hempty =>
        obtain rfl := String.isEmpty_iff.1 hempty
        exact .inr ⟨rfl, rfl⟩
      · cases hentered
    | _ => cases htakes
  | list items =>
    cases kind with
    | multiSelect options => cases hentered
    | _ => cases htakes
  | _ => cases kind <;> cases htakes

/-- The only inputs that name no labels are stored as they are. -/
theorem acceptInput_of_none (h : c = .null ∨ p.IsBlankForSeveral c) :
    p.acceptInput freshId c = (c, p) := by
  rcases h with rfl | h
  · obtain ⟨id, name, kind, formats, extra⟩ := p
    cases kind <;> rfl
  · obtain ⟨options, hkind⟩ := kind_of_isBlankForSeveral h
    simp [acceptInput, hkind, h.2]

variable (freshId) in
/-- An input that names no labels is accepted as it is. -/
theorem accepts_of_none (htakes : p.takesLabels c = true) (hentered : p.enteredLabels? c = none) :
    p.Accepts freshId c c [] := by
  have hlabels : p.labels c = [] := by rw [Property.labels, hentered, Option.getD_none]
  have hcases := eq_null_or_isBlankForSeveral htakes hentered
  refine ⟨?_, hlabels.symm ▸ .nil freshId p.options, ?_, ?_, fun _ => rfl, ?_, fun _ _ => rfl⟩
  · rw [acceptInput_of_none hcases, List.append_nil, withOptions_options]
  · rw [hlabels]
    exact fun label hlabel => absurd hlabel List.not_mem_nil
  · intro hblank row
    rw [hcases.resolve_right hblank]
    rfl
  · intro hblank
    rw [enteredLabels?_of_isBlankForOne hblank] at hentered
    cases hentered

variable (freshId) in
theorem exists_accepts (htakes : p.takesLabels c = true) :
    ∃ stored new, p.Accepts freshId c stored new := by
  cases hentered : p.enteredLabels? c with
  | none => exact ⟨c, [], accepts_of_none freshId htakes hentered⟩
  | some labels => exact exists_accepts_of_labels freshId hentered

namespace Accepts

variable {new : List SelectOption} (h : p.Accepts freshId c stored new)
include h

/-- An option with the empty label is added if the empty label is entered and has no option. -/
theorem exists_unlabelled_iff : (∃ o ∈ new, o.label = "") ↔
    "" ∈ p.labels c ∧ ∀ o ∈ p.options, o.label ≠ "" := by
  constructor
  · rintro ⟨o, ho, hlabel⟩
    obtain ⟨i, hi⟩ := List.getElem?_of_mem ho
    obtain ⟨label, hmem, heq⟩ := h.added.fresh i o hi
    refine ⟨?_, fun old hold holdLabel => ?_⟩
    · rw [heq] at hlabel
      rwa [← show label = "" from hlabel]
    · exact h.added.new o ho old hold (by rw [hlabel, holdLabel])
  · rintro ⟨hmem, hnone⟩
    obtain ⟨o, ho, hlower⟩ := h.named "" hmem
    have hlabel := toLower_eq_toLower_empty_iff.1 hlower
    rcases List.mem_append.1 ho with hold | hnew
    · exact absurd hlabel (hnone o hold)
    · exact ⟨o, hnew, hlabel⟩

/-- The value that is stored is not in order where the empty text is entered for several choices. -/
theorem cellProblems_of_isBlankForSeveral (hblank : p.IsBlankForSeveral c) (row : String) :
    (p.withOptions (p.options ++ new)).cellProblems row stored
      = [.unexpectedValue row p.name .optionIds c] := by
  rw [h.blankForSeveral hblank, hblank.2]
  obtain ⟨options, hkind⟩ := kind_of_isBlankForSeveral hblank
  simp only [withOptions, hkind]
  rfl

end Accepts

end Property

/-! ### Entering a value in a document -/

namespace Document

variable {d : Document} {p : Property} {r : Row} {c : Cell}

theorem kindProblems_withOptions (htakes : p.takesLabels c = true) {options : List SelectOption}
    (hids : (options.map (·.id)).Nodup) : d.kindProblems (p.withOptions options) = [] := by
  obtain ⟨id, name, kind, formats, extra⟩ := p
  cases kind with
  | select _ | multiSelect _ => exact idProblems_eq_nil_iff.2 hids
  | _ => cases htakes

theorem isComputed_of_takesLabels (htakes : p.takesLabels c = true) : p.isComputed = false := by
  obtain ⟨id, name, kind, formats, extra⟩ := p
  cases kind with
  | select _ | multiSelect _ => rfl
  | _ => cases htakes

/-- What is entered for a select property of a document that passes the strict check is stored in a
document that passes it, but for the empty text where there are several choices. An input that is
empty is stored as it is, but for the empty text where there is one choice, which has the id of an
option with the empty label; and such an option is added whenever the empty label is entered and has
none. -/
theorem acceptInput_of_valid (hvalid : (d.validate true).isOk = true) (hp : p ∈ d.properties)
    (hr : r ∈ d.rows) (htakes : p.takesLabels c = true) (freshId : Nat → String)
    (hfresh : (p.options.map (·.id) ++
      (List.range (p.labels c).length).map fun i => freshId (p.options.length + i)).Nodup)
    (now : Instant) :
    ∃ stored new d' r', p.acceptInput freshId c = (stored, p.withOptions (p.options ++ new)) ∧
      (d.replaceProperty (p.withOptions (p.options ++ new))).setCell r.id p.id stored now = .ok d' ∧
      d'.row? r.id = some r' ∧ r'.cell p.id = stored ∧
      ((d'.validate true).isOk = true ↔ ¬ p.IsBlankForSeveral c) ∧
      (∀ problem ∈ (d'.validate true).errors,
        problem = .unexpectedValue r.id p.name .optionIds c) ∧
      (c.isEmpty = true → ¬ p.IsBlankForOne c → stored = c) ∧
      (p.IsBlankForOne c → ∃ o ∈ p.options ++ new, o.label = "" ∧ stored = .text o.id) ∧
      ((∃ o ∈ new, o.label = "") ↔ "" ∈ p.labels c ∧ ∀ o ∈ p.options, o.label ≠ "") := by
  obtain ⟨stored, new, haccepts⟩ := p.exists_accepts freshId htakes
  have hd := isOk_validate_true_iff.1 hvalid
  obtain ⟨d', r', hset, hrow, hcell, herrors⟩ := exists_setCell_replaceProperty hd hp ⟨new, rfl⟩
    (kindProblems_withOptions htakes (haccepts.added.nodup_ids hfresh))
    (isComputed_of_takesLabels htakes) hr stored now
  refine ⟨stored, new, d', r', haccepts.accept, hset, hrow, hcell, ⟨?_, ?_⟩, ?_, haccepts.empty,
    haccepts.blankForOne, haccepts.exists_unlabelled_iff⟩
  · intro hok hblank
    rw [haccepts.cellProblems_of_isBlankForSeveral hblank] at herrors
    have hmem := (herrors _).2 List.mem_cons_self
    rw [List.isEmpty_iff.1 hok] at hmem
    cases hmem
  · intro hblank
    refine List.isEmpty_iff.2 (List.eq_nil_iff_forall_not_mem.2 fun problem hmem => ?_)
    rw [herrors, haccepts.inOrder hblank] at hmem
    cases hmem
  · intro problem hmem
    rw [herrors] at hmem
    by_cases hblank : p.IsBlankForSeveral c
    · rw [haccepts.cellProblems_of_isBlankForSeveral hblank] at hmem
      exact List.mem_singleton.1 hmem
    · rw [haccepts.inOrder hblank] at hmem
      cases hmem

section Todos

/-- A column with one choice, of which there is none so far. -/
def status : Property := .fresh "s" "Status" (.select [])

/-- A column with several choices. -/
def topics : Property := .fresh "t" "Topics" (.multiSelect [⟨"h", "Home", "#ef4444"⟩])

def todos : Document where
  properties := [status, topics]
  rows := [⟨"r", .empty, .epoch, .epoch⟩]
  views := [.fresh "v" "Table" .table]

/-- The empty text makes an option with the empty label where there is one choice, and a document
that does not pass the check where there are several. -/
theorem acceptInput_of_valid_todos :
    (todos.validate true).isOk = true ∧
    (∃ stored new, status.acceptInput toString (.text "") = (stored, status.withOptions new) ∧
      ∃ o ∈ new, o.label = "" ∧ stored = .text o.id) ∧
    ∃ stored new d', topics.acceptInput toString (.text "") = (stored, topics.withOptions new) ∧
      (todos.replaceProperty (topics.withOptions new)).setCell "r" "t" stored .epoch = .ok d' ∧
      (d'.validate true).isOk = false := by
  have hvalid : (todos.validate true).isOk = true := by decide +kernel
  have hfresh : (status.options.map (·.id) ++
      (List.range (status.labels (.text "")).length).map
        fun i => toString (status.options.length + i)).Nodup := List.nodup_singleton _
  refine ⟨hvalid, ?_, ?_⟩
  · obtain ⟨stored, new, -, -, haccept, -, -, -, -, -, -, hblank, -⟩ :=
      acceptInput_of_valid (p := status) (c := .text "") hvalid List.mem_cons_self
        List.mem_cons_self rfl toString hfresh .epoch
    exact ⟨stored, _, haccept, hblank ⟨rfl, rfl⟩⟩
  · obtain ⟨stored, new, d', -, haccept, hset, -, -, hok, -⟩ :=
      acceptInput_of_valid (p := topics) (c := .text "") hvalid
        (List.mem_cons_of_mem _ List.mem_cons_self) List.mem_cons_self rfl toString
        (List.nodup_singleton _) .epoch
    refine ⟨stored, _, d', haccept, hset, ?_⟩
    exact Bool.eq_false_iff.2 fun htrue => hok.1 htrue ⟨rfl, rfl⟩

end Todos

end Document

end Databook
