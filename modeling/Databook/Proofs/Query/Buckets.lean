import Databook.Query.Group
import Databook.Proofs.Document.Index
import Mathlib.Data.List.Nodup

/-!
# Groups as they fill

Rows come to their groups one by one. By options they are listed in an index, whose lists the options then
take (`groupByOption_eq`); by texts each row joins the group of its text or opens it (`groupByText_eq`). In
the end an option has all rows that name it, unless an earlier option with its id has taken them, and a text
has all rows that show it; the groups of texts stand in the order in which they were opened.
-/

namespace Databook

/-! ### What stands first of all that are alike -/

/-- What holds of a list once all that is like the head is dropped from the tail holds of the list. -/
theorem dropAlike_induction {motive : List α → Prop} (alike : α → α → Bool) (nil : motive [])
    (cons : ∀ a l, motive (l.filter (!alike a ·)) → motive (a :: l)) : ∀ l, motive l
  | [] => nil
  | a :: l => cons a l (dropAlike_induction alike nil cons (l.filter (!alike a ·)))
termination_by l => l.length
decreasing_by exact Nat.lt_succ_of_le (List.length_filter_le _ _)

section Alike

variable {key : α → String}

theorem nodup_eraseDups (texts : List String) : texts.eraseDups.Nodup := by
  induction texts using dropAlike_induction fun a b : String => b == a with
  | nil => exact List.nodup_nil
  | cons a l ih =>
    rw [List.eraseDups_cons, List.nodup_cons]
    exact ⟨by simp, ih⟩

/-- The keys of those that stand first are the keys, once each. -/
theorem map_eraseDupsBy (key : α → String) (l : List α) :
    (l.eraseDupsBy fun a b => key a == key b).map key = (l.map key).eraseDups := by
  induction l using dropAlike_induction fun a b => key b == key a with
  | nil => rfl
  | cons a l ih =>
    have hdrop : (l.map key).filter (fun text => !text == key a)
        = (l.filter fun b => !key b == key a).map key := List.filter_map
    rw [List.eraseDupsBy_cons, List.map_cons, List.map_cons, List.eraseDups_cons, hdrop, ← ih]
    simp only [Bool.decide_eq_false]

/-- Every member has a representative among those that are kept. -/
theorem exists_mem_eraseDupsBy {a : α} {l : List α} (h : a ∈ l) :
    ∃ b ∈ l.eraseDupsBy fun a b => key a == key b, key b = key a := by
  have hkey : key a ∈ (l.map key).eraseDups := List.mem_eraseDups.2 (List.mem_map_of_mem h)
  rwa [← map_eraseDupsBy, List.mem_map] at hkey

/-- The first of each key stand in their order. -/
theorem sublist_first (key : α → String) (l : List α) :
    ((l.map key).eraseDups.filterMap fun text => l.find? (key · == text)).Sublist l := by
  induction l using dropAlike_induction fun a b => key b == key a with
  | nil => exact List.Sublist.slnil
  | cons a l ih =>
    have hdrop : (l.map key).filter (fun text => !text == key a)
        = (l.filter fun b => !key b == key a).map key := List.filter_map
    -- of a later key the first is among those that are left
    have hlater : ∀ text ∈ ((l.filter fun b => !key b == key a).map key).eraseDups,
        (a :: l).find? (key · == text) = (l.filter fun b => !key b == key a).find? (key · == text) := by
      intro text htext
      obtain ⟨b, hb, rfl⟩ := List.mem_map.1 (List.mem_eraseDups.1 htext)
      have hne : key b ≠ key a := by simpa using (List.mem_filter.1 hb).2
      rw [List.find?_cons_of_neg (by simpa using hne.symm), List.find?_filter]
      congr 1
      funext c
      by_cases hc : key c = key b <;> simp [hc, hne]
    rw [List.map_cons, List.eraseDups_cons, hdrop, List.filterMap_cons,
      List.find?_cons_of_pos (by simp), List.filterMap_congr hlater]
    exact (ih.trans List.filter_sublist).cons_cons a

/-- What is kept of a list has its keys in their order. -/
theorem map_filterMap_sublist {f : α → Option β} {ofMember : α → γ} {ofKept : β → γ}
    (h : ∀ a b, f a = some b → ofKept b = ofMember a) (l : List α) :
    ((l.filterMap f).map ofKept).Sublist (l.map ofMember) := by
  induction l with
  | nil => exact List.Sublist.slnil
  | cons a l ih =>
    rw [List.filterMap_cons, List.map_cons]
    cases hkept : f a with
    | none => exact ih.cons _
    | some b =>
      rw [List.map_cons, h a b hkept]
      exact ih.cons_cons _

end Alike

/-! ### Taking groups out of an index -/

theorem mem_of_mem_eraseDupsBy {key : α → String} {a : α} {l : List α}
    (h : a ∈ l.eraseDupsBy fun a b => key a == key b) : a ∈ l := by
  induction l using dropAlike_induction fun a b => key b == key a with
  | nil => exact h
  | cons b l ih =>
    rw [List.eraseDupsBy_cons, List.mem_cons] at h
    simp only [Bool.decide_eq_false] at h
    rcases h with rfl | h
    · exact List.mem_cons_self
    · exact List.mem_cons_of_mem b (List.mem_of_mem_filter (ih h))

/-- Of several members with one id the first takes the list. -/
theorem filterMap_handOut {idOf : α → String} {f : α × Option (List String) → Option β}
    (hf : ∀ a, f (a, none) = none) (index : RowIndex) (l : List α) :
    (index.handOut idOf l).filterMap f
      = (l.eraseDupsBy fun a b => idOf a == idOf b).filterMap fun a => f (a, index.get? (idOf a)) := by
  induction l using dropAlike_induction fun a b => idOf b == idOf a with
  | nil => rfl
  | cons a l ih =>
    rw [RowIndex.handOut, List.filterMap_cons, RowIndex.filterMap_handOut_erase hf,
      List.eraseDupsBy_cons, List.filterMap_cons]
    simp only [Bool.decide_eq_false]
    rw [← ih]
    rfl

theorem eraseDups_eq_nil_iff {ids : List String} : ids.eraseDups = [] ↔ ids = [] := by
  cases ids <;> simp [List.eraseDups_cons]

/-- Each option has the rows that name it; of options with one id the first has them. -/
theorem groupByOption_eq (options : List SelectOption) (valueOf : Row → Cell) (rows : List Row) :
    groupByOption options valueOf rows
      = (options.eraseDupsBy fun a b => a.id == b.id).filterMap fun option =>
          let members := rows.filter fun row => (valueOf row).ids.contains option.id
          if members.isEmpty then none
          else some ⟨some option.id, option.label, (members.map (·.id)).eraseDups⟩ := by
  unfold groupByOption
  rw [filterMap_handOut fun _ => rfl]
  refine List.filterMap_congr fun option hoption => ?_
  -- ids of options are not left out of the index
  have hknown : ∀ row : Row, ((valueOf row).ids.filter fun id => options.any (·.id == id)).contains
      option.id = (valueOf row).ids.contains option.id := by
    intro row
    have hany : options.any (·.id == option.id) = true :=
      List.any_eq_true.2 ⟨option, mem_of_mem_eraseDupsBy hoption, beq_self_eq_true _⟩
    rw [Bool.eq_iff_iff, List.contains_iff_mem, List.contains_iff_mem, List.mem_filter, hany,
      and_iff_left rfl]
  simp only [RowIndex.get?_ofRows, namers, hknown, eraseDups_eq_nil_iff, List.map_eq_nil_iff,
    List.isEmpty_iff]
  split <;> rfl

/-! ### Joining the groups of texts -/

/-- A row joins the group of its text. If there is none yet, the row opens it behind the others. -/
theorem joinGroup_map {g : String → RowGroup} (hg : ∀ text, (g text).key = some text)
    {texts : List String} (h : texts.Nodup) (text row : String) :
    joinGroup text row (texts.map g)
      = if text ∈ texts then
          texts.map fun t => if t = text then { g t with rowIds := (g t).rowIds ++ [row] } else g t
        else texts.map g ++ [⟨some text, text, [row]⟩] := by
  induction texts with
  | nil => rfl
  | cons first texts ih =>
    obtain ⟨hfirst, hrest⟩ := List.nodup_cons.1 h
    rw [List.map_cons, joinGroup, hg, ih hrest]
    by_cases htext : first = text
    · subst htext
      have hothers : ∀ t ∈ texts, t ≠ first := fun t ht heq => hfirst (heq ▸ ht)
      simp +contextual [hothers, hg]
    · by_cases hmem : text ∈ texts <;> simp [htext, Ne.symm htext, hmem]

/-- Each text has the rows that show it, in the order in which the texts appear. -/
theorem groupByText_eq (valueOf : Row → Cell) (rows : List Row) :
    groupByText valueOf rows
      = let filled := rows.filter fun row => !(valueOf row).isEmpty
        (filled.map fun row => (valueOf row).display).eraseDups.map fun text =>
          ⟨some text, text, (filled.filter fun row => (valueOf row).display == text).map (·.id)⟩ := by
  induction rows using List.reverseRecOn with
  | nil => rfl
  | append_singleton rows last ih =>
    have hstep : groupByText valueOf (rows ++ [last])
        = if (valueOf last).isEmpty then groupByText valueOf rows
          else joinGroup (valueOf last).display last.id (groupByText valueOf rows) :=
      List.foldl_append
    rw [hstep, ih]
    by_cases hempty : (valueOf last).isEmpty = true
    · simp [hempty]
    rw [if_neg hempty]
    have hfilled : (rows ++ [last]).filter (fun row => !(valueOf row).isEmpty)
        = (rows.filter fun row => !(valueOf row).isEmpty) ++ [last] := by
      simp [hempty]
    simp only [hfilled]
    generalize (rows.filter fun row => !(valueOf row).isEmpty) = filled
    rw [joinGroup_map (fun _ => rfl) (nodup_eraseDups _), List.map_append, List.map_singleton,
      eraseDups_concat, RowIndex.enlist]
    simp only [List.contains_iff_mem, List.mem_eraseDups]
    split
    · -- the last row stands behind the others of its text
      refine List.map_congr_left fun text _ => ?_
      by_cases htext : text = (valueOf last).display
      · simp [htext]
      · simp [htext, Ne.symm htext]
    · next hnew =>
      rw [List.map_append, List.map_singleton]
      congr 1
      · refine List.map_congr_left fun text htext => ?_
        have hne : (valueOf last).display ≠ text :=
          fun heq => hnew (heq ▸ List.mem_eraseDups.1 htext)
        simp [hne]
      · have hfirst : filled.filter (fun row => (valueOf row).display == (valueOf last).display) = [] :=
          List.filter_eq_nil_iff.2 fun row hrow heq =>
            hnew (List.mem_map.2 ⟨row, hrow, eq_of_beq heq⟩)
        simp [hfirst]

end Databook
