import Databook.Json.Draft
import Databook.Proofs.Json.Token

/-!
# The draft of a written value

Reading the text of a value gives the draft of the value, complete and with nothing behind it
(`Draft.ofText_pretty`, `Draft.ofText_compact`). The tokens of a value bring the reader to where the
value is put, whatever is open around it.
-/

namespace Databook.Json

mutual

/-- A value as it is read from its text. -/
def draft : Json → Draft
  | .null => .null
  | .bool b => .bool b
  | .number n => .number n.numeral
  | .string s => .string (some s)
  | .array items => .array (draftItems items) true
  | .object fields => .object (draftFields fields) true

def draftItems : List Json → List Draft
  | [] => []
  | item :: rest => draft item :: draftItems rest

def draftFields : List (String × Json) → List (Option String × Draft)
  | [] => []
  | (name, value) :: rest => (some name, draft value) :: draftFields rest

end

theorem draftItems_eq_map (items : List Json) : draftItems items = items.map draft := by
  induction items with
  | nil => rfl
  | cons item items ih => rw [draftItems, ih, List.map_cons]

theorem draftFields_eq_map (fields : List (String × Json)) :
    draftFields fields = fields.map fun field => (some field.1, draft field.2) := by
  induction fields with
  | nil => rfl
  | cons field fields ih => rw [draftFields, ih, List.map_cons]

namespace Draft

/-- May a value come next? -/
def Next.takesValue : Next → Bool
  | .value | .firstItem | .fieldValue _ => true
  | _ => false

/-- May a name come next? -/
def Next.takesName : Next → Bool
  | .firstName | .name => true
  | _ => false

theorem run_step {r r' : Reader} {t : Token} {ts : List Token} (hnext : r.next ≠ .finish)
    (hstep : r.step? t = some r') : r.run (t :: ts) = r'.run ts := by
  rw [Reader.run]
  split
  · next hfinish => exact absurd hfinish hnext
  · rw [hstep]

/-- Where a value may come, its first token starts it. -/
theorem run_value {r r' : Reader} {t : Token} {ts : List Token} (h : r.next.takesValue = true)
    (ht : t ≠ .closeArray) (hvalue : r.value? t = some r') : r.run (t :: ts) = r'.run ts := by
  refine run_step ?_ (Eq.trans ?_ hvalue)
  · intro hfinish
    rw [hfinish] at h
    cases h
  · unfold Reader.step?
    split <;> simp_all [Next.takesValue]

section Run

variable {opened : List (Open × Option (Option String))} {p : Option (Option String)} {next : Next}
  {result : Draft}

theorem run_comma_array (items : List Draft) (ts : List Token) :
    (⟨(.array items, p) :: opened, .comma, result⟩ : Reader).run (.comma :: ts)
      = (⟨(.array items, p) :: opened, .value, result⟩ : Reader).run ts :=
  run_step (by simp) rfl

theorem run_close_array (items : List Draft) (ts : List Token) :
    (⟨(.array items, p) :: opened, .comma, result⟩ : Reader).run (.closeArray :: ts)
      = ((⟨opened, .comma, result⟩ : Reader).put p (.array items.reverse true)).run ts :=
  run_step (by simp) rfl

theorem run_comma_object (fields : List (Option String × Draft)) (ts : List Token) :
    (⟨(.object fields, p) :: opened, .comma, result⟩ : Reader).run (.comma :: ts)
      = (⟨(.object fields, p) :: opened, .name, result⟩ : Reader).run ts :=
  run_step (by simp) rfl

theorem run_close_object (fields : List (Option String × Draft)) (ts : List Token) :
    (⟨(.object fields, p) :: opened, .comma, result⟩ : Reader).run (.closeObject :: ts)
      = ((⟨opened, .comma, result⟩ : Reader).put p (.object fields.reverse true)).run ts :=
  run_step (by simp) rfl

theorem run_name (h : next.takesName = true) (name : String) (ts : List Token) :
    (⟨opened, next, result⟩ : Reader).run (.string (some name) :: .colon :: ts)
      = (⟨opened, .fieldValue (some name), result⟩ : Reader).run ts := by
  have hname : (⟨opened, next, result⟩ : Reader).step? (.string (some name))
      = some ⟨opened, .colon (some name), result⟩ := by
    cases next <;> first | rfl | cases h
  have hfinish : next ≠ .finish := by
    rintro rfl
    cases h
  rw [run_step hfinish hname]
  exact run_step (by simp) rfl

theorem put_next (next' : Next) (pending : Option (Option String)) (d : Draft) :
    (⟨opened, next, result⟩ : Reader).put pending d
      = (⟨opened, next', result⟩ : Reader).put pending d := by
  rcases opened with _ | ⟨⟨items | fields, p⟩, rest⟩ <;> rcases pending with _ | name <;> rfl

theorem put_array (items : List Draft) (pending : Option (Option String)) (d : Draft) :
    (⟨(.array items, p) :: opened, next, result⟩ : Reader).put pending d
      = ⟨(.array (d :: items), p) :: opened, .comma, result⟩ := rfl

theorem put_object (fields : List (Option String × Draft)) (name : Option String) (d : Draft) :
    (⟨(.object fields, p) :: opened, next, result⟩ : Reader).put (some name) d
      = ⟨(.object ((name, d) :: fields), p) :: opened, .comma, result⟩ := rfl

end Run

mutual

/-- The tokens of a value bring the reader to where the value is put. -/
theorem run_valueTokens {opened : List (Open × Option (Option String))} {next : Next}
    {result : Draft} (j : Json) (h : next.takesValue = true) (ts : List Token) :
    (⟨opened, next, result⟩ : Reader).run (valueTokens j ++ ts)
      = ((⟨opened, next, result⟩ : Reader).put next.pending j.draft).run ts := by
  cases j with
  | null => exact run_value h (by simp) rfl
  | bool b => exact run_value h (by simp) rfl
  | number n => exact run_value h (by simp) rfl
  | string s => exact run_value h (by simp) rfl
  | array items =>
    simp only [valueTokens, List.cons_append, List.append_assoc, List.nil_append]
    rw [run_value h (by simp) rfl, put_next .comma]
    by_cases hitems : items = []
    · subst hitems
      exact run_step (by simp) rfl
    · rw [run_itemTokens items hitems rfl, run_close_array, List.append_nil, List.reverse_reverse,
        draft]
  | object fields =>
    simp only [valueTokens, List.cons_append, List.append_assoc, List.nil_append]
    rw [run_value h (by simp) rfl, put_next .comma]
    by_cases hfields : fields = []
    · subst hfields
      exact run_step (by simp) rfl
    · rw [run_fieldTokens fields hfields rfl, run_close_object, List.append_nil,
        List.reverse_reverse, draft]

theorem run_itemTokens {opened : List (Open × Option (Option String))}
    {p : Option (Option String)} {next : Next} {result : Draft} {acc : List Draft}
    (items : List Json) (hitems : items ≠ []) (h : next.takesValue = true) (ts : List Token) :
    (⟨(.array acc, p) :: opened, next, result⟩ : Reader).run (itemTokens items ++ ts)
      = (⟨(.array ((draftItems items).reverse ++ acc), p) :: opened, .comma, result⟩ :
          Reader).run ts := by
  match items with
  | [] => exact absurd rfl hitems
  | [item] => exact run_valueTokens item h ts
  | item :: item' :: items =>
    simp only [itemTokens, List.append_assoc, List.cons_append]
    rw [run_valueTokens item h, put_array, run_comma_array,
      run_itemTokens (item' :: items) (by simp) rfl]
    simp [draftItems]

theorem run_fieldTokens {opened : List (Open × Option (Option String))}
    {p : Option (Option String)} {next : Next} {result : Draft}
    {acc : List (Option String × Draft)} (fields : List (String × Json)) (hfields : fields ≠ [])
    (h : next.takesName = true) (ts : List Token) :
    (⟨(.object acc, p) :: opened, next, result⟩ : Reader).run (fieldTokens fields ++ ts)
      = (⟨(.object ((draftFields fields).reverse ++ acc), p) :: opened, .comma, result⟩ :
          Reader).run ts := by
  match fields with
  | [] => exact absurd rfl hfields
  | [(name, value)] =>
    simp only [fieldTokens, List.cons_append]
    rw [run_name h]
    exact run_valueTokens value rfl ts
  | (name, value) :: field :: fields =>
    simp only [fieldTokens, List.append_assoc, List.cons_append]
    rw [run_name h, run_valueTokens value rfl]
    simp only [Next.pending]
    rw [put_object, run_comma_object, run_fieldTokens (field :: fields) (by simp) rfl]
    simp [draftFields]

end

/-- The tokens of a value are read as its draft, with nothing behind it. -/
theorem run_start (j : Json) : Reader.start.run (valueTokens j) = (j.draft, true) := by
  have h : (⟨[], .value, .broken⟩ : Reader).run (valueTokens j ++ [])
      = ((⟨[], .value, .broken⟩ : Reader).put none j.draft).run [] := run_valueTokens j rfl []
  rw [List.append_nil] at h
  rw [Reader.start, h]
  rfl

/-- The text of a value is read as the draft of the value. -/
theorem ofText_pretty {j : Json} (hj : Legible j.numbers) :
    ofText j.pretty = (j.draft, true) := by
  rw [ofText, tokens_pretty hj, run_start]

/-- The text without spaces is read as the draft of the value, too. -/
theorem ofText_compact {j : Json} (hj : Legible j.numbers) :
    ofText j.compact = (j.draft, true) := by
  rw [ofText, tokens_compact hj, run_start]

/-- Values with one text have one draft. -/
theorem draft_eq_of_compact_eq {j j' : Json} (hj : Legible j.numbers) (hj' : Legible j'.numbers)
    (h : j.compact = j'.compact) : j.draft = j'.draft := by
  have htext := ofText_compact hj
  rw [h, ofText_compact hj'] at htext
  exact congrArg Prod.fst htext.symm

end Draft

end Databook.Json
