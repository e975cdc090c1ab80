import Databook.Document.Basic

/-!
# Looking up properties, rows and views

If ids are used once, looking up an id finds exactly the item with that id; likewise for names.
-/

namespace Databook

/-- Items are found by a key that each of them has for itself. -/
theorem find?_key_eq_some_iff {key : α → String} {l : List α} (h : (l.map key).Nodup) {k : String}
    {a : α} : l.find? (key · == k) = some a ↔ a ∈ l ∧ key a = k := by
  induction l with
  | nil => simp
  | cons b l ih =>
    obtain ⟨hb, hl⟩ := List.nodup_cons.1 h
    rw [List.find?_cons]
    by_cases hk : key b = k
    · have hkey : (key b == k) = true := by simpa using hk
      rw [hkey, List.mem_cons]
      constructor
      · intro hsome
        cases hsome
        exact ⟨.inl rfl, hk⟩
      · rintro ⟨rfl | hmem, ha⟩
        · rfl
        · exact absurd (List.mem_map.2 ⟨a, hmem, ha.trans hk.symm⟩) hb
    · have hkey : (key b == k) = false := by simpa using hk
      rw [hkey, ih hl, List.mem_cons]
      constructor
      · rintro ⟨hmem, ha⟩
        exact ⟨.inr hmem, ha⟩
      · rintro ⟨rfl | hmem, ha⟩
        · exact absurd ha hk
        · exact ⟨hmem, ha⟩

theorem find?_key_eq_none_iff {key : α → String} {l : List α} {k : String} :
    l.find? (key · == k) = none ↔ k ∉ l.map key := by
  simp only [List.find?_eq_none, beq_iff_eq, List.mem_map, not_exists, not_and]

theorem find?_key_eq_none {key : α → String} {l : List α} {k : String} (h : k ∉ l.map key) :
    l.find? (key · == k) = none := find?_key_eq_none_iff.2 h

namespace Document

variable {d : Document}

theorem property?_eq_some_iff (hids : (d.properties.map (·.id)).Nodup) {id : String} {p : Property} :
    d.property? id = some p ↔ p ∈ d.properties ∧ p.id = id :=
  find?_key_eq_some_iff hids

theorem propertyNamed?_eq_some_iff (hnames : (d.properties.map (·.name)).Nodup) {name : String}
    {p : Property} : d.propertyNamed? name = some p ↔ p ∈ d.properties ∧ p.name = name :=
  find?_key_eq_some_iff hnames

theorem row?_eq_some_iff (hrows : (d.rows.map (·.id)).Nodup) {id : String} {row : Row} :
    d.row? id = some row ↔ row ∈ d.rows ∧ row.id = id :=
  find?_key_eq_some_iff hrows

theorem mem_rows_of_row? {id : String} {t : Row} (h : d.row? id = some t) : t ∈ d.rows ∧ t.id = id :=
  ⟨List.mem_of_find?_eq_some h, by simpa using List.find?_some h⟩

theorem view?_eq_some_iff (hviews : (d.views.map (·.id)).Nodup) {id : String} {view : View} :
    d.view? id = some view ↔ view ∈ d.views ∧ view.id = id :=
  find?_key_eq_some_iff hviews

end Document

end Databook
