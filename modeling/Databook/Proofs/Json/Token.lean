import Databook.Proofs.Json.Numeral

/-!
# The tokens of a written value

A value that is written with `Json.prettyChars` is split into just the tokens that it is made of,
whatever follows it (`tokensAfter_prettyChars`), and so is one that is written without spaces
(`tokensAfter_compactChars`). Strings come back for every text, whatever has to
be escaped in it; of the numbers it is asked that their texts are numerals (`Json.Legible`).
-/

namespace Databook.Json

/-! ### Strings -/

theorem hexUnit?_hexDigit {n : Nat} (h : n < 32) :
    hexUnit? '0' '0' (hexDigit (n / 16)) (hexDigit (n % 16)) = some n := by
  revert n
  decide

theorem parts?_simpleEscape {e c : Char} (h : simpleEscape? e = some c) (rest : List Char) :
    parts? ('\\' :: e :: rest) = (parts? rest).map fun p => (.char c :: p.1, p.2 + 2) := by
  have he : e ≠ 'u' := by
    rintro rfl
    cases h
  rw [parts?, h]
  · cases parts? rest <;> rfl
  · intro a b c d cs heq
    exact absurd heq he

theorem parts?_plain {c : Char} (hlow : ¬ c.toNat < 0x20) (hquote : c ≠ '"') (hslash : c ≠ '\\')
    (rest : List Char) :
    parts? (c :: rest) = (parts? rest).map fun p => (.char c :: p.1, p.2 + 1) := by
  rw [parts?]
  · simp only [hlow, hslash, decide_false, beq_iff_eq, Bool.false_or, if_false]
    cases parts? rest <;> rfl
  · exact fun heq => hquote heq
  · exact fun _ _ _ _ _ heq _ => hslash heq
  · exact fun _ _ heq _ => hslash heq

/-- Reading what a character is written as. -/
theorem parts?_escapeChar (c : Char) (rest : List Char) :
    parts? (escapeChar c ++ rest)
      = (parts? rest).map fun p => (.char c :: p.1, p.2 + (escapeChar c).length) := by
  unfold escapeChar
  split
  · exact parts?_simpleEscape rfl rest
  · exact parts?_simpleEscape rfl rest
  · exact parts?_simpleEscape rfl rest
  · exact parts?_simpleEscape rfl rest
  · exact parts?_simpleEscape rfl rest
  · exact parts?_simpleEscape rfl rest
  · exact parts?_simpleEscape rfl rest
  · next hquote hslash _ _ _ _ _ =>
    split
    · next hlow =>
      have hpart : partOf c.toNat = .char c := by
        rw [partOf, if_neg (by omega), Char.ofNat_toNat]
      simp only [List.cons_append, List.nil_append, parts?, hexUnit?_hexDigit hlow]
      cases parts? rest with
      | none => rfl
      | some p => simp [hpart]
    · next hlow => exact parts?_plain hlow hquote hslash rest

theorem parts?_flatMap (cs rest : List Char) :
    parts? (cs.flatMap escapeChar ++ '"' :: rest)
      = some (cs.map .char, (cs.flatMap escapeChar).length + 1) := by
  induction cs with
  | nil => simp [parts?]
  | cons c cs ih =>
    rw [List.flatMap_cons, List.append_assoc, parts?_escapeChar, ih]
    simp only [Option.map_some, List.map_cons, List.length_append]
    congr 2
    omega

theorem joinHalves?_map (cs : List Char) : joinHalves? (cs.map .char) = some cs := by
  induction cs with
  | nil => rfl
  | cons c cs ih => rw [List.map_cons, joinHalves?, ih, Option.map_some]

theorem at_quote (s : String) (rest : List Char) :
    Token.at (quote s ++ rest) = (.string (some s), (quote s).length) := by
  have hparts := parts?_flatMap s.toList rest
  simp only [quote, List.cons_append, List.append_assoc, List.nil_append, Token.at, hparts,
    joinHalves?_map, Option.map_some, String.ofList_toList]
  simp

/-! ### Numbers -/

/-- The numeral that a number is written as. -/
def Number.numeral (n : Number) : Numeral :=
  match Numeral.at? n.toChars with
  | some (m, _) => m
  | none => ⟨false, [], [], none⟩

/-- Is the text of the number a numeral from its start to its end? -/
def Number.IsLegible (n : Number) : Prop :=
  Numeral.at? n.toChars = some (n.numeral, n.toChars.length)

theorem Number.isLegible_of_at? {n : Number} {m : Numeral}
    (h : Numeral.at? n.toChars = some (m, n.toChars.length)) : n.IsLegible := by
  rw [IsLegible, numeral, h]

theorem Number.ReadsBack.isLegible {n : Number} (h : n.ReadsBack) : n.IsLegible := by
  obtain ⟨m, hat, -⟩ := h
  exact isLegible_of_at? hat

theorem Number.ReadsBack.value? {n : Number} (h : n.ReadsBack) : n.numeral.value? = some n := by
  obtain ⟨m, hat, hvalue⟩ := h
  rw [Number.numeral, hat]
  exact hvalue

/-- A numeral starts with its sign or a digit. -/
theorem Numeral.head_of_at? {c : Char} {cs : List Char} {p : Numeral × Nat}
    (h : Numeral.at? (c :: cs) = some p) : c = '-' ∨ c.isDigit = true := by
  by_cases hminus : c = '-'
  · exact .inl hminus
  · refine .inr ?_
    by_contra hdigit
    rw [Numeral.at?_of_ne (by rintro rest ⟨⟩; exact hminus rfl), Numeral.unsigned?] at h
    simp only [List.takeWhile_cons_of_neg hdigit, List.isEmpty_nil, guard] at h
    cases h

theorem at_numeral {cs : List Char} {m : Numeral} {size : Nat}
    (h : Numeral.at? cs = some (m, size)) : Token.at cs = (.number m, size) := by
  cases cs with
  | nil => cases h
  | cons c cs =>
    have hc := Numeral.head_of_at? h
    unfold Token.at
    split
    case h_11 => rw [h]
    all_goals
      next heq =>
        cases heq
        rcases hc with hc | hc <;> cases hc

mutual

/-- The numbers of a value. -/
def numbers : Json → List Number
  | .number n => [n]
  | .array items => numbersOfItems items
  | .object fields => numbersOfFields fields
  | .null | .bool _ | .string _ => []

def numbersOfItems : List Json → List Number
  | [] => []
  | item :: rest => numbers item ++ numbersOfItems rest

def numbersOfFields : List (String × Json) → List Number
  | [] => []
  | (_, value) :: rest => numbers value ++ numbersOfFields rest

end

theorem mem_numbers_array {items : List Json} {n : Number} :
    n ∈ (Json.array items).numbers ↔ ∃ item ∈ items, n ∈ item.numbers := by
  rw [numbers]
  induction items with
  | nil => simp [numbersOfItems]
  | cons item items ih => simp [numbersOfItems, ih]

theorem mem_numbers_object {fields : List (String × Json)} {n : Number} :
    n ∈ (Json.object fields).numbers ↔ ∃ field ∈ fields, n ∈ field.2.numbers := by
  rw [numbers]
  induction fields with
  | nil => simp [numbersOfFields]
  | cons field fields ih => simp [numbersOfFields, ih]

theorem mem_numbers_ofList {toJson : α → Json} {items : List α} {n : Number} :
    n ∈ (Json.ofList toJson items).numbers ↔ ∃ a ∈ items, n ∈ (toJson a).numbers := by
  rw [ofList, mem_numbers_array]
  simp

theorem mem_numbers_ofMap {toJson : α → Json} {m : IdMap α} {n : Number} :
    n ∈ (Json.ofMap toJson m).numbers ↔ ∃ entry ∈ m.entries, n ∈ (toJson entry.2).numbers := by
  rw [ofMap, mem_numbers_object]
  constructor
  · rintro ⟨_, hmem, hn⟩
    obtain ⟨entry, hentry, rfl⟩ := List.mem_map.1 hmem
    exact ⟨entry, hentry, hn⟩
  · rintro ⟨entry, hentry, hn⟩
    exact ⟨_, List.mem_map_of_mem hentry, hn⟩

/-- Are some numbers what their texts are read as? -/
def ReadBack (ns : List Number) : Prop := ∀ n ∈ ns, n.ReadsBack

theorem readBack_append {ns ns' : List Number} :
    ReadBack (ns ++ ns') ↔ ReadBack ns ∧ ReadBack ns' := List.forall_mem_append

/-- Are the texts of some numbers numerals? -/
def Legible (ns : List Number) : Prop := ∀ n ∈ ns, n.IsLegible

theorem legible_append {ns ns' : List Number} :
    Legible (ns ++ ns') ↔ Legible ns ∧ Legible ns' := List.forall_mem_append

theorem ReadBack.legible {ns : List Number} (h : ReadBack ns) : Legible ns :=
  fun n hn => (h n hn).isLegible

/-! ### Values -/

mutual

/-- The tokens of a value. -/
def valueTokens : Json → List Token
  | .null => [.null]
  | .bool b => [.bool b]
  | .number n => [.number n.numeral]
  | .string s => [.string (some s)]
  | .array items => .openArray :: itemTokens items ++ [.closeArray]
  | .object fields => .openObject :: fieldTokens fields ++ [.closeObject]

def itemTokens : List Json → List Token
  | [] => []
  | [item] => valueTokens item
  | item :: rest => valueTokens item ++ .comma :: itemTokens rest

def fieldTokens : List (String × Json) → List Token
  | [] => []
  | [(name, value)] => .string (some name) :: .colon :: valueTokens value
  | (name, value) :: rest =>
    .string (some name) :: .colon :: valueTokens value ++ .comma :: fieldTokens rest

end

theorem tokensAfter_append (w rest : List Char) :
    tokensAfter w.length (w ++ rest) = tokensAfter 0 rest := by
  induction w with
  | nil => rfl
  | cons c w ih => exact ih

/-- A token is followed by the tokens of the rest. -/
theorem tokensAfter_token {c : Char} {w rest : List Char} {t : Token} (hspace : isSpace c = false)
    (hat : Token.at (c :: w ++ rest) = (t, (c :: w).length)) (hbad : t ≠ .bad) :
    tokensAfter 0 (c :: w ++ rest) = t :: tokensAfter 0 rest := by
  rw [List.cons_append] at hat ⊢
  rw [tokensAfter, hspace, hat]
  simp only [Bool.false_eq_true, if_false]
  rw [List.length_cons, Nat.add_sub_cancel, tokensAfter_append]

theorem tokensAfter_space {c : Char} (h : isSpace c = true) (rest : List Char) :
    tokensAfter 0 (c :: rest) = tokensAfter 0 rest := by
  rw [tokensAfter, if_pos h]

theorem tokensAfter_newLine (level : Nat) (rest : List Char) :
    tokensAfter 0 (newLine level ++ rest) = tokensAfter 0 rest := by
  unfold newLine
  rw [List.cons_append, tokensAfter_space (by decide)]
  induction 2 * level with
  | zero => rfl
  | succ n ih => rw [List.replicate_succ, List.cons_append, tokensAfter_space (by decide), ih]

theorem stops_newLine (level : Nat) (rest : List Char) : Numeral.Stops (newLine level ++ rest) :=
  Numeral.stops_cons (by decide)

theorem tokensAfter_quote (s : String) (rest : List Char) :
    tokensAfter 0 (quote s ++ rest) = .string (some s) :: tokensAfter 0 rest :=
  tokensAfter_token (c := '"') rfl (at_quote s rest) (by simp)

theorem tokensAfter_number {n : Number} (hn : n.IsLegible) {rest : List Char}
    (hrest : Numeral.Stops rest) :
    tokensAfter 0 (n.toChars ++ rest) = .number n.numeral :: tokensAfter 0 rest := by
  have hat : Numeral.at? n.toChars = some (n.numeral, n.toChars.length) := hn
  have htoken := at_numeral ((Numeral.at?_append hrest).trans hat)
  cases hchars : n.toChars with
  | nil =>
    rw [hchars] at hat
    cases hat
  | cons c w =>
    rw [hchars] at hat htoken
    refine tokensAfter_token ?_ htoken (by simp)
    rcases Numeral.head_of_at? hat with rfl | hdigit
    · decide
    · unfold isSpace
      simp only [Bool.or_eq_false_iff, beq_eq_false_iff_ne]
      refine ⟨⟨⟨?_, ?_⟩, ?_⟩, ?_⟩ <;> (rintro rfl; cases hdigit)

/-! Each mark is a token of its own. -/

theorem tokensAfter_openArray (cs : List Char) :
    tokensAfter 0 ('[' :: cs) = .openArray :: tokensAfter 0 cs := rfl

theorem tokensAfter_closeArray (cs : List Char) :
    tokensAfter 0 (']' :: cs) = .closeArray :: tokensAfter 0 cs := rfl

theorem tokensAfter_openObject (cs : List Char) :
    tokensAfter 0 ('\x7b' :: cs) = .openObject :: tokensAfter 0 cs := rfl

theorem tokensAfter_closeObject (cs : List Char) :
    tokensAfter 0 ('\x7d' :: cs) = .closeObject :: tokensAfter 0 cs := rfl

theorem tokensAfter_comma (cs : List Char) :
    tokensAfter 0 (',' :: cs) = .comma :: tokensAfter 0 cs := rfl

theorem tokensAfter_colon (cs : List Char) :
    tokensAfter 0 (':' :: cs) = .colon :: tokensAfter 0 cs := rfl

mutual

/-- A written value is split into its tokens, whatever follows. -/
theorem tokensAfter_prettyChars (level : Nat) (j : Json) (hj : Legible j.numbers)
    {rest : List Char} (hrest : Numeral.Stops rest) :
    tokensAfter 0 (prettyChars level j ++ rest) = valueTokens j ++ tokensAfter 0 rest := by
  cases j with
  | null => rfl
  | bool b => cases b <;> rfl
  | number n => exact tokensAfter_number (hj n List.mem_cons_self) hrest
  | string s => exact tokensAfter_quote s rest
  | array items =>
    unfold prettyChars valueTokens
    split
    · next hempty =>
      rw [List.isEmpty_iff.1 hempty]
      rfl
    · have hitems := tokensAfter_prettyItems (level + 1) items hj
        (stops_newLine level (']' :: rest))
      simp only [List.append_assoc, List.cons_append, List.nil_append] at hitems ⊢
      rw [tokensAfter_openArray, tokensAfter_newLine, hitems, tokensAfter_newLine,
        tokensAfter_closeArray]
  | object fields =>
    unfold prettyChars valueTokens
    split
    · next hempty =>
      rw [List.isEmpty_iff.1 hempty]
      rfl
    · have hfields := tokensAfter_prettyFields (level + 1) fields hj
        (stops_newLine level ('\x7d' :: rest))
      simp only [List.append_assoc, List.cons_append, List.nil_append] at hfields ⊢
      rw [tokensAfter_openObject, tokensAfter_newLine, hfields, tokensAfter_newLine,
        tokensAfter_closeObject]

theorem tokensAfter_prettyItems (level : Nat) (items : List Json)
    (hitems : Legible (numbersOfItems items)) {rest : List Char} (hrest : Numeral.Stops rest) :
    tokensAfter 0 (prettyItems level items ++ rest) = itemTokens items ++ tokensAfter 0 rest := by
  match items with
  | [] => rfl
  | [item] => exact tokensAfter_prettyChars level item (legible_append.1 hitems).1 hrest
  | item :: item' :: items =>
    obtain ⟨hitem, hitems⟩ := legible_append.1 hitems
    have hfirst := tokensAfter_prettyChars level item hitem
      (Numeral.stops_cons (by decide) :
        Numeral.Stops (',' :: (newLine level ++ prettyItems level (item' :: items) ++ rest)))
    have hothers := tokensAfter_prettyItems level (item' :: items) hitems hrest
    simp only [prettyItems, itemTokens, List.append_assoc, List.cons_append] at hfirst ⊢
    rw [hfirst, tokensAfter_comma, tokensAfter_newLine, hothers]

theorem tokensAfter_prettyFields (level : Nat) (fields : List (String × Json))
    (hfields : Legible (numbersOfFields fields)) {rest : List Char} (hrest : Numeral.Stops rest) :
    tokensAfter 0 (prettyFields level fields ++ rest) = fieldTokens fields ++ tokensAfter 0 rest := by
  match fields with
  | [] => rfl
  | [(name, value)] =>
    have hvalue := tokensAfter_prettyChars level value (legible_append.1 hfields).1 hrest
    simp only [prettyFields, fieldTokens, List.append_assoc, List.cons_append]
    rw [tokensAfter_quote, tokensAfter_colon, tokensAfter_space (by decide), hvalue]
  | (name, value) :: field :: fields =>
    obtain ⟨hvalue, hfields⟩ := legible_append.1 hfields
    have hfirst := tokensAfter_prettyChars level value hvalue
      (Numeral.stops_cons (by decide) :
        Numeral.Stops (',' :: (newLine level ++ prettyFields level (field :: fields) ++ rest)))
    have hothers := tokensAfter_prettyFields level (field :: fields) hfields hrest
    simp only [prettyFields, fieldTokens, List.append_assoc, List.cons_append] at hfirst ⊢
    rw [tokensAfter_quote, tokensAfter_colon, tokensAfter_space (by decide), hfirst,
      tokensAfter_comma, tokensAfter_newLine, hothers]

end

mutual

/-- A value that is written without spaces is split into its tokens, too. -/
theorem tokensAfter_compactChars (j : Json) (hj : Legible j.numbers) {rest : List Char}
    (hrest : Numeral.Stops rest) :
    tokensAfter 0 (compactChars j ++ rest) = valueTokens j ++ tokensAfter 0 rest := by
  cases j with
  | null => rfl
  | bool b => cases b <;> rfl
  | number n => exact tokensAfter_number (hj n List.mem_cons_self) hrest
  | string s => exact tokensAfter_quote s rest
  | array items =>
    have hitems := tokensAfter_compactItems items hj
      (Numeral.stops_cons (by decide) : Numeral.Stops (']' :: rest))
    simp only [compactChars, valueTokens, List.append_assoc, List.cons_append, List.nil_append]
    rw [tokensAfter_openArray, hitems, tokensAfter_closeArray]
  | object fields =>
    have hfields := tokensAfter_compactFields fields hj
      (Numeral.stops_cons (by decide) : Numeral.Stops ('\x7d' :: rest))
    simp only [compactChars, valueTokens, List.append_assoc, List.cons_append, List.nil_append]
    rw [tokensAfter_openObject, hfields, tokensAfter_closeObject]

theorem tokensAfter_compactItems (items : List Json) (hitems : Legible (numbersOfItems items))
    {rest : List Char} (hrest : Numeral.Stops rest) :
    tokensAfter 0 (compactItems items ++ rest) = itemTokens items ++ tokensAfter 0 rest := by
  match items with
  | [] => rfl
  | [item] => exact tokensAfter_compactChars item (legible_append.1 hitems).1 hrest
  | item :: item' :: items =>
    obtain ⟨hitem, hitems⟩ := legible_append.1 hitems
    have hfirst := tokensAfter_compactChars item hitem
      (Numeral.stops_cons (by decide) :
        Numeral.Stops (',' :: (compactItems (item' :: items) ++ rest)))
    simp only [compactItems, itemTokens, List.append_assoc, List.cons_append]
    rw [hfirst, tokensAfter_comma, tokensAfter_compactItems (item' :: items) hitems hrest]

theorem tokensAfter_compactFields (fields : List (String × Json))
    (hfields : Legible (numbersOfFields fields)) {rest : List Char} (hrest : Numeral.Stops rest) :
    tokensAfter 0 (compactFields fields ++ rest) = fieldTokens fields ++ tokensAfter 0 rest := by
  match fields with
  | [] => rfl
  | [(name, value)] =>
    have hvalue := tokensAfter_compactChars value (legible_append.1 hfields).1 hrest
    simp only [compactFields, fieldTokens, List.append_assoc, List.cons_append]
    rw [tokensAfter_quote, tokensAfter_colon, hvalue]
  | (name, value) :: field :: fields =>
    obtain ⟨hvalue, hfields⟩ := legible_append.1 hfields
    have hfirst := tokensAfter_compactChars value hvalue
      (Numeral.stops_cons (by decide) :
        Numeral.Stops (',' :: (compactFields (field :: fields) ++ rest)))
    simp only [compactFields, fieldTokens, List.append_assoc, List.cons_append]
    rw [tokensAfter_quote, tokensAfter_colon, hfirst, tokensAfter_comma,
      tokensAfter_compactFields (field :: fields) hfields hrest]

end

/-- The tokens of a written value. -/
theorem tokens_pretty {j : Json} (hj : Legible j.numbers) : tokens j.pretty = valueTokens j := by
  have h := tokensAfter_prettyChars 0 j hj Numeral.stops_nil
  rw [List.append_nil] at h
  rw [tokens, pretty, String.toList_ofList, h, tokensAfter, List.append_nil]

theorem tokens_compact {j : Json} (hj : Legible j.numbers) : tokens j.compact = valueTokens j := by
  have h := tokensAfter_compactChars j hj Numeral.stops_nil
  rw [List.append_nil] at h
  rw [tokens, compact, String.toList_ofList, h, tokensAfter, List.append_nil]

end Databook.Json
