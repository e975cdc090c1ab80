import Databook.Summary
import Databook.Proofs.Calendar.TextOrder
import Mathlib.Data.String.Basic

/-!
# Summaries of dates

The summary of dates looks for the least and the greatest of the texts. They are the least and the
greatest in the order of all texts, so they do not depend on how the cells are arranged
(`earliest?_perm`, `latest?_perm`). If each text starts with a date, they start with the earliest and
the latest date, and the range is the number of days between the two
(`Aggregation.apply_dates`).
-/

namespace Databook

open Calendar

namespace Aggregation

/-! ### The ends of a list of texts -/

theorem earliest?_eq_min? (texts : List String) : earliest? texts = texts.min? := by
  cases texts with
  | nil => rfl
  | cons t texts =>
    have hmin : (fun m u : String => if u < m then u else m) = Min.min := by
      funext m u
      rw [min_def]
      by_cases h : u < m
      · rw [if_pos h, if_neg (not_le.2 h)]
      · rw [if_neg h, if_pos (not_lt.1 h)]
    rw [earliest?, hmin, List.min?_cons']

theorem latest?_eq_max? (texts : List String) : latest? texts = texts.max? := by
  cases texts with
  | nil => rfl
  | cons t texts =>
    have hmax : (fun m u : String => if m < u then u else m) = Max.max := by
      funext m u
      rw [max_def_lt]
    rw [latest?, hmax, List.max?_cons']

theorem earliest?_eq_some_iff {texts : List String} {t : String} :
    earliest? texts = some t ↔ t ∈ texts ∧ ∀ u ∈ texts, t ≤ u := by
  rw [earliest?_eq_min?]
  exact List.min?_eq_some_iff

theorem latest?_eq_some_iff {texts : List String} {t : String} :
    latest? texts = some t ↔ t ∈ texts ∧ ∀ u ∈ texts, u ≤ t := by
  rw [latest?_eq_max?]
  exact List.max?_eq_some_iff

theorem earliest?_perm {texts texts' : List String} (h : texts.Perm texts') :
    earliest? texts = earliest? texts' := by
  ext t
  simp only [earliest?_eq_some_iff, h.mem_iff]

theorem latest?_perm {texts texts' : List String} (h : texts.Perm texts') :
    latest? texts = latest? texts' := by
  ext t
  simp only [latest?_eq_some_iff, h.mem_iff]

theorem exists_earliest? {texts : List String} (h : texts ≠ []) :
    ∃ t, earliest? texts = some t := by
  cases texts with
  | nil => exact absurd rfl h
  | cons t texts => exact ⟨_, rfl⟩

theorem exists_latest? {texts : List String} (h : texts ≠ []) : ∃ t, latest? texts = some t := by
  cases texts with
  | nil => exact absurd rfl h
  | cons t texts => exact ⟨_, rfl⟩

/-! ### Dates -/

/-- The texts of the cells that are not empty. -/
def filledTexts (cells : List Cell) : List String := (cells.filter (!·.isEmpty)).map Cell.display

theorem filledTexts_perm {cells cells' : List Cell} (h : cells.Perm cells') :
    (filledTexts cells).Perm (filledTexts cells') := (h.filter _).map _

/-- The order of the cells makes no difference to the summaries of dates. -/
theorem ofDates_perm (a : Aggregation) {cells cells' : List Cell} (h : cells.Perm cells') :
    a.ofDates cells = a.ofDates cells' := by
  have hfirst := earliest?_perm (filledTexts_perm h)
  have hlast := latest?_perm (filledTexts_perm h)
  unfold filledTexts at hfirst hlast
  unfold ofDates
  simp only [hfirst, hlast]

theorem mem_filledTexts {cells : List Cell} {t : String} :
    t ∈ filledTexts cells ↔ ∃ c ∈ cells, c.isEmpty = false ∧ c.display = t := by
  simp [filledTexts, and_assoc]

/-- What the summaries of dates are, if the least and the greatest text start with dates. -/
theorem ofDates_of_opens {cells : List Cell} {first last : String} {a b : Date}
    (hfirst : earliest? (filledTexts cells) = some first)
    (hlast : latest? (filledTexts cells) = some last) (ha : a.Opens first) (hb : b.Opens last) :
    min.ofDates cells = .text first ∧ max.ofDates cells = .text last ∧
      range.ofDates cells = .number (Float.ofInt (b.daysFrom a)) := by
  unfold filledTexts at hfirst hlast
  unfold ofDates
  simp only [hfirst, hlast, ha.readHead?, hb.readHead?, and_self]

/-- A text that starts with a date is not empty. -/
theorem isEmpty_of_opens {d : Date} {t : String} (h : d.Opens t) :
    (Cell.text t).isEmpty = false := by
  obtain ⟨-, rest, ht⟩ := h
  rw [Cell.isEmpty, ← Bool.not_eq_true, String.isEmpty_iff]
  rintro rfl
  have hlength := congrArg List.length ht
  rw [List.length_append, d.length_toChars] at hlength
  have hempty : "".toList.length = 0 := rfl
  omega

/-- **Summaries of dates follow the calendar.** Let every cell that is not empty be a text that starts
with a date, written with a year of four digits, and let there be such a cell. Then the least text is one
with the earliest date, the greatest text one with the latest date, and the range is the number of
days from the one to the other, which is not negative. It makes no difference how the cells are
arranged. -/
theorem apply_dates {cells : List Cell}
    (hdates : ∀ c ∈ cells, c.isEmpty = false → ∃ t d, c = .text t ∧ Date.Opens d t)
    (hfilled : ∃ c ∈ cells, c.isEmpty = false) :
    ∃ first last : String, ∃ a b : Date,
      Cell.text first ∈ cells ∧ a.Opens first ∧ Cell.text last ∈ cells ∧ b.Opens last ∧
      (∀ t d, Cell.text t ∈ cells → Date.Opens d t → a ≤ d ∧ d ≤ b) ∧ 0 ≤ b.daysFrom a ∧
      ∀ cells', cells'.Perm cells →
        min.apply true cells' = .text first ∧ max.apply true cells' = .text last ∧
          range.apply true cells' = .number (Float.ofInt (b.daysFrom a)) := by
  have hopens : ∀ t ∈ filledTexts cells, Cell.text t ∈ cells ∧ ∃ d, Date.Opens d t := by
    intro t ht
    obtain ⟨c, hc, hempty, rfl⟩ := mem_filledTexts.1 ht
    obtain ⟨u, d, rfl, hd⟩ := hdates c hc hempty
    exact ⟨hc, d, hd⟩
  have hmem : ∀ t d, Cell.text t ∈ cells → Date.Opens d t → t ∈ filledTexts cells := fun t d ht hd =>
    mem_filledTexts.2 ⟨_, ht, isEmpty_of_opens hd, rfl⟩
  have hne : filledTexts cells ≠ [] := by
    obtain ⟨c, hc, hempty⟩ := hfilled
    exact List.ne_nil_of_mem (mem_filledTexts.2 ⟨c, hc, hempty, rfl⟩)
  obtain ⟨first, hfirst⟩ := exists_earliest? hne
  obtain ⟨last, hlast⟩ := exists_latest? hne
  obtain ⟨hfirstMem, hleast⟩ := earliest?_eq_some_iff.1 hfirst
  obtain ⟨hlastMem, hgreatest⟩ := latest?_eq_some_iff.1 hlast
  obtain ⟨hfirstCell, a, ha⟩ := hopens first hfirstMem
  obtain ⟨hlastCell, b, hb⟩ := hopens last hlastMem
  have hrange : a ≤ b := ha.le hb (hleast last hlastMem)
  refine ⟨first, last, a, b, hfirstCell, ha, hlastCell, hb, fun t d ht hd => ?_, ?_, ?_⟩
  · have htext := hmem t d ht hd
    exact ⟨ha.le hd (hleast t htext), hd.le hb (hgreatest t htext)⟩
  · rw [Date.le_iff] at hrange
    unfold Date.daysFrom
    omega
  · intro cells' hperm
    obtain ⟨hmin, hmax, hrange⟩ := ofDates_of_opens hfirst hlast ha hb
    exact ⟨(ofDates_perm min hperm).trans hmin, (ofDates_perm max hperm).trans hmax,
      (ofDates_perm range hperm).trans hrange⟩

/-- Days and times around a leap day, and an empty cell. -/
def visits : List Cell :=
  [.text "2024-03-10", .null, .text "2024-02-28T23:00:00Z", .text "2024-02-29 noon"]

/-- The first visit is found by its text, and the leap day counts. -/
theorem apply_dates_visits :
    (∀ c ∈ visits, c.isEmpty = false → ∃ t d, c = .text t ∧ Date.Opens d t) ∧
    (∃ c ∈ visits, c.isEmpty = false) ∧
    min.apply true visits.reverse = .text "2024-02-28T23:00:00Z" ∧
    max.apply true visits.reverse = .text "2024-03-10" ∧
    range.apply true visits.reverse = .number (Float.ofInt 11) := by
  have hfirstDate : Date.Opens ⟨2024, 2, 28, by decide⟩ "2024-02-28T23:00:00Z" :=
    ⟨by decide, "T23:00:00Z".toList, rfl⟩
  have hlastDate : Date.Opens ⟨2024, 3, 10, by decide⟩ "2024-03-10" := ⟨by decide, [], rfl⟩
  have hdates : ∀ c ∈ visits, c.isEmpty = false → ∃ t d, c = .text t ∧ Date.Opens d t := by
    simp only [visits, List.forall_mem_cons]
    refine ⟨fun _ => ?_, fun hnull => absurd hnull (by decide), fun _ => ?_, fun _ => ?_, by simp⟩
    · exact ⟨_, _, rfl, hlastDate⟩
    · exact ⟨_, _, rfl, hfirstDate⟩
    · exact ⟨_, ⟨2024, 2, 29, by decide⟩, rfl, by decide, " noon".toList, rfl⟩
  have hfilled : ∃ c ∈ visits, c.isEmpty = false := ⟨_, List.mem_cons_self, by decide⟩
  obtain ⟨first, last, a, b, -, ha, -, hb, -, -, hsummaries⟩ := apply_dates hdates hfilled
  obtain ⟨hmin, hmax, hrange⟩ := hsummaries visits.reverse (List.reverse_perm visits)
  have hfirst : min.apply true visits.reverse = .text "2024-02-28T23:00:00Z" := by rfl
  have hlast : max.apply true visits.reverse = .text "2024-03-10" := by rfl
  cases hmin.symm.trans hfirst
  cases hmax.symm.trans hlast
  cases ha.readHead?.symm.trans hfirstDate.readHead?
  cases hb.readHead?.symm.trans hlastDate.readHead?
  exact ⟨hdates, hfilled, hmin, hmax, hrange⟩

end Aggregation

end Databook
