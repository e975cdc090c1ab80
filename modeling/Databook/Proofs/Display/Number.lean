import Databook.Display.Number
import Databook.Proofs.Json.NumberText
import Mathlib.Data.List.TakeDrop

/-!
# Thousands in groups

`groupDigits` walks over the whole digits of a number and counts those that are left; what it writes
is these digits cut into groups, with a comma between any two (`groupDigits_groups`). Every list of
digits can be cut so (`exists_groups`), the first group taking what is over.

A text is `Grouped` for another if it is that text with commas that cut the digits in front of the
point into such groups. There is exactly one for each number, and `groupThousands` writes it
(`groupThousands_grouped`). The texts that formats write for the magnitudes of numbers are such
numbers, so that the separators of a format only group them (`NumberFormat.body_grouped`).
-/

namespace Databook

open Json.Numeral (AllDigits allDigits_append allDigits_replicate allDigits_toDigits)

/-- Is it a text of one or more digits, alone or with a point and digits behind it? -/
def IsDecimalText (text : String) : Prop :=
  ∃ whole fraction : List Char, text.toList = whole ++ fraction ∧
    whole ≠ [] ∧ AllDigits whole ∧
    (fraction = [] ∨ ∃ digits, fraction = '.' :: digits ∧ AllDigits digits)

/-- Is this a text with its thousands grouped? -/
structure Grouped (text grouped : String) : Prop where
  /-- Nothing but commas is added, and nothing is taken away. -/
  kept : grouped.toList.filter (· != ',') = text.toList
  start : grouped.toList.head? ≠ some ','
  behindPoint : ',' ∉ grouped.toList.dropWhile (· != '.')
  /-- What the commas in front of the point divide. -/
  groups : ∃ first groups, (grouped.toList.takeWhile (· != '.')).splitOn ',' = first :: groups ∧
    (1 ≤ first.length ∧ first.length ≤ 3 ∧ AllDigits first) ∧
    ∀ group ∈ groups, group.length = 3 ∧ AllDigits group

/-! ### Groups of digits -/

section Groups

variable {first cs : List Char} {groups : List (List Char)}

/-- Are there one to three characters in the first group, and three in each other? -/
def GroupLengths (first : List Char) (groups : List (List Char)) : Prop :=
  (1 ≤ first.length ∧ first.length ≤ 3) ∧ ∀ group ∈ groups, group.length = 3

/-- Any characters can be cut into groups, from the last one on. -/
theorem exists_groups (hne : cs ≠ []) :
    ∃ first groups, GroupLengths first groups ∧ cs = first ++ groups.flatten := by
  induction cs with
  | nil => exact absurd rfl hne
  | cons c cs ih =>
    by_cases hcs : cs = []
    · exact ⟨[c], [], ⟨by simp, by simp⟩, by simp [hcs]⟩
    · obtain ⟨first, groups, ⟨⟨hpos, hle⟩, hgroups⟩, rfl⟩ := ih hcs
      by_cases hfull : first.length = 3
      · exact ⟨[c], first :: groups, ⟨by simp, List.forall_mem_cons.2 ⟨hfull, hgroups⟩⟩, by simp⟩
      · exact ⟨c :: first, groups, ⟨by rw [List.length_cons]; omega, hgroups⟩, by simp⟩

/-- A group that whole groups follow is written as it is, and then a comma if there are any. -/
theorem groupDigits_append (hpos : 1 ≤ first.length) (hle : first.length ≤ 3)
    (hrest : cs.length % 3 = 0) :
    groupDigits (first ++ cs) = first ++ if cs = [] then [] else ',' :: groupDigits cs := by
  have hone (c : Char) :
      groupDigits (c :: cs) = c :: if cs = [] then [] else ',' :: groupDigits cs := by
    cases cs with
    | nil => rfl
    | cons d ds => simp only [groupDigits, List.isEmpty_cons, hrest]; rfl
  -- the characters that are left behind the others of the group are no multiple of three
  have hmore (c d : Char) (ds : List Char) (hds : (d :: ds).length % 3 ≠ 0) :
      groupDigits (c :: d :: ds) = c :: groupDigits (d :: ds) := by
    rw [groupDigits, if_neg (by simpa using hds)]
  match first with
  | [a] => exact hone a
  | [a, b] =>
    rw [List.cons_append, List.singleton_append, hmore a b cs (by rw [List.length_cons]; omega), hone b]
    rfl
  | [a, b, c] =>
    rw [List.cons_append, List.cons_append, List.singleton_append,
      hmore a b _ (by rw [List.length_cons, List.length_cons]; omega),
      hmore b c cs (by rw [List.length_cons]; omega), hone c]
    rfl

theorem length_flatten_mod (hgroups : ∀ group ∈ groups, group.length = 3) :
    groups.flatten.length % 3 = 0 := by
  induction groups with
  | nil => rfl
  | cons group groups ih =>
    obtain ⟨hgroup, hrest⟩ := List.forall_mem_cons.1 hgroups
    rw [List.flatten_cons, List.length_append, hgroup, Nat.add_mod_left, ih hrest]

/-- The groups are written with a comma between any two. -/
theorem groupDigits_groups (h : GroupLengths first groups) :
    groupDigits (first ++ groups.flatten) = [','].intercalate (first :: groups) := by
  induction groups generalizing first with
  | nil => rw [groupDigits_append h.1.1 h.1.2 rfl, if_pos List.flatten_nil, List.append_nil,
      List.intercalate_singleton]
  | cons group groups ih =>
    obtain ⟨hgroup, hgroups⟩ := List.forall_mem_cons.1 h.2
    have hne : (group :: groups).flatten ≠ [] := by
      intro hnil
      rw [List.flatten_cons, List.append_eq_nil_iff] at hnil
      rw [hnil.1] at hgroup
      cases hgroup
    calc groupDigits (first ++ (group :: groups).flatten)
        = first ++ ',' :: groupDigits (group :: groups).flatten := by
          rw [groupDigits_append h.1.1 h.1.2 (length_flatten_mod h.2), if_neg hne]
      _ = first ++ ',' :: [','].intercalate (group :: groups) := by
          rw [List.flatten_cons, ih ⟨by omega, hgroups⟩]
      _ = [','].intercalate (first :: group :: groups) := by
          rw [List.intercalate_cons_cons, List.append_assoc, List.singleton_append]

/-- Without commas the digits are as before. -/
theorem filter_groupDigits (cs : List Char) :
    (groupDigits cs).filter (· != ',') = cs.filter (· != ',') := by
  induction cs with
  | nil => rfl
  | cons c cs ih =>
    rw [groupDigits]
    split <;> simp [List.filter_cons, ih]

theorem filter_comma (hcs : ',' ∉ cs) : cs.filter (· != ',') = cs := by
  refine List.filter_eq_self.2 fun c hc => ?_
  rw [bne_iff_ne]
  rintro rfl
  exact hcs hc

theorem mem_of_mem_groupDigits {c : Char} (hc : c ∈ groupDigits cs) (hcomma : c ≠ ',') : c ∈ cs := by
  have hkept : c ∈ (groupDigits cs).filter (· != ',') := List.mem_filter.2 ⟨hc, by simpa using hcomma⟩
  rw [filter_groupDigits] at hkept
  exact (List.mem_filter.1 hkept).1

end Groups

/-! ### Texts with a point -/

section Point

variable {whole fraction cs : List Char}

theorem not_mem_of_allDigits {c : Char} (hdigits : AllDigits cs) (hc : c.isDigit = false) :
    c ∉ cs := by
  intro hmem
  rw [hdigits c hmem] at hc
  cases hc

/-- Is there nothing, or a point with something behind it? -/
def StartsWithPoint (fraction : List Char) : Prop := fraction = [] ∨ ∃ behind, fraction = '.' :: behind

theorem startsWithPoint_dropWhile (cs : List Char) : StartsWithPoint (cs.dropWhile (· != '.')) := by
  have hhead := List.head?_dropWhile_not (· != '.') cs
  cases hdrop : cs.dropWhile (· != '.') with
  | nil => exact .inl rfl
  | cons c behind =>
    rw [hdrop] at hhead
    exact .inr ⟨behind, by rw [show c = '.' by simpa using hhead]⟩

/-- The whole digits end at the point. -/
theorem span_point (hwhole : '.' ∉ whole) (hfraction : StartsWithPoint fraction) :
    (whole ++ fraction).span (· != '.') = (whole, fraction) := by
  have hpass : ∀ c ∈ whole, (c != '.') = true := by
    intro c hc
    rw [bne_iff_ne]
    rintro rfl
    exact hwhole hc
  rw [List.span_eq_takeWhile_dropWhile, List.takeWhile_append_of_pos hpass,
    List.dropWhile_append_of_pos hpass]
  obtain rfl | ⟨behind, rfl⟩ := hfraction
  · rw [List.takeWhile_nil, List.dropWhile_nil, List.append_nil]
  · rw [List.takeWhile_cons_of_neg (by decide), List.dropWhile_cons_of_neg (by decide), List.append_nil]

theorem toList_groupThousands {text : String} (htext : text.toList = whole ++ fraction)
    (hwhole : '.' ∉ whole) (hfraction : StartsWithPoint fraction) :
    (groupThousands text).toList = groupDigits whole ++ fraction := by
  rw [groupThousands, htext, span_point hwhole hfraction, String.toList_ofList]

end Point

namespace Grouped

variable {text grouped : String}

/-- The commas of a text whose thousands are grouped can stand nowhere else: the groups are of the
digits of the number, and these have one way to be written in groups. -/
theorem eq_groupThousands (h : Grouped text grouped) : grouped = groupThousands text := by
  obtain ⟨first, groups, hsplit, ⟨hpos, hle, hfirst⟩, hgroups⟩ := h.groups
  have hlengths : GroupLengths first groups :=
    ⟨⟨hpos, hle⟩, fun group hgroup => (hgroups group hgroup).1⟩
  have hdigits : ∀ group ∈ first :: groups, AllDigits group :=
    List.forall_mem_cons.2 ⟨hfirst, fun group hgroup => (hgroups group hgroup).2⟩
  have hwhole : grouped.toList.takeWhile (· != '.') = groupDigits (first :: groups).flatten := by
    rw [List.flatten_cons, groupDigits_groups hlengths, ← hsplit, List.intercalate_splitOn]
  have hflat : AllDigits (first :: groups).flatten := by
    intro c hc
    obtain ⟨group, hgroup, hmem⟩ := List.mem_flatten.1 hc
    exact hdigits group hgroup c hmem
  have htext : text.toList = (first :: groups).flatten ++ grouped.toList.dropWhile (· != '.') := by
    calc text.toList
        = (grouped.toList.takeWhile (· != '.') ++ grouped.toList.dropWhile (· != '.')).filter
            (· != ',') := by rw [List.takeWhile_append_dropWhile, h.kept]
      _ = (groupDigits (first :: groups).flatten).filter (· != ',')
            ++ (grouped.toList.dropWhile (· != '.')).filter (· != ',') := by
          rw [List.filter_append, hwhole]
      _ = (first :: groups).flatten ++ grouped.toList.dropWhile (· != '.') := by
          rw [filter_groupDigits, filter_comma (not_mem_of_allDigits hflat rfl),
            filter_comma h.behindPoint]
  rw [← String.toList_inj, toList_groupThousands htext (not_mem_of_allDigits hflat rfl)
    (startsWithPoint_dropWhile _), ← hwhole, List.takeWhile_append_dropWhile]

/-- The groups that the whole digits are cut into are those that the commas divide. -/
theorem of_isDecimalText (h : IsDecimalText text) : Grouped text (groupThousands text) := by
  obtain ⟨whole, fraction, htext, hne, hdigits, hfraction⟩ := h
  obtain ⟨first, groups, hlengths, hcut⟩ := exists_groups hne
  have hpoint : StartsWithPoint fraction := hfraction.imp_right fun ⟨behind, h, _⟩ => ⟨behind, h⟩
  have hcomma : ',' ∉ fraction := by
    obtain rfl | ⟨behind, rfl, hbehind⟩ := hfraction
    · exact List.not_mem_nil
    · intro hmem
      exact not_mem_of_allDigits hbehind rfl ((List.mem_cons.1 hmem).resolve_left (by decide))
  have hlist := toList_groupThousands htext (not_mem_of_allDigits hdigits rfl) hpoint
  have hspan := span_point (fun hmem => not_mem_of_allDigits hdigits rfl
    (mem_of_mem_groupDigits hmem (by decide))) hpoint
  rw [← hlist, List.span_eq_takeWhile_dropWhile, Prod.mk.injEq] at hspan
  have hgroup : ∀ group ∈ first :: groups, AllDigits group := by
    intro group hmem c hc
    exact hdigits c (hcut ▸ List.mem_flatten_of_mem hmem hc)
  have hsplit : (groupDigits whole).splitOn ',' = first :: groups := by
    rw [hcut, groupDigits_groups hlengths]
    exact List.splitOn_intercalate ',' (fun group hmem => not_mem_of_allDigits (hgroup group hmem) rfl)
      (List.cons_ne_nil _ _)
  exact
    { kept := by
        rw [hlist, List.filter_append, filter_groupDigits,
          filter_comma (not_mem_of_allDigits hdigits rfl), filter_comma hcomma, htext]
      start := by
        rw [hlist]
        cases whole with
        | nil => exact absurd rfl hne
        | cons c cs =>
          rw [groupDigits, List.cons_append, List.head?_cons]
          rintro ⟨⟩
          exact absurd (hdigits _ List.mem_cons_self) (by decide)
      behindPoint := by rwa [hspan.2]
      groups := by
        rw [hspan.1]
        exact ⟨first, groups, hsplit, ⟨hlengths.1.1, hlengths.1.2, hgroup _ List.mem_cons_self⟩,
          fun group hmem => ⟨hlengths.2 group hmem, hgroup group (List.mem_cons_of_mem _ hmem)⟩⟩ }

end Grouped

/-- The thousands of a number are grouped, and this is the only text in which they are. -/
theorem groupThousands_grouped {text : String} (h : IsDecimalText text) :
    Grouped text (groupThousands text) ∧
      ∀ grouped, Grouped text grouped → grouped = groupThousands text :=
  ⟨.of_isDecimalText h, fun _ => Grouped.eq_groupThousands⟩

/-- The digits in front of the point are grouped, and those behind it are not. -/
theorem groupThousands_grouped_million :
    IsDecimalText "1234567.1234" ∧ groupThousands "1234567.1234" = "1,234,567.1234" ∧
      Grouped "1234567.1234" "1,234,567.1234" ∧
      ∀ grouped, Grouped "1234567.1234" grouped → grouped = "1,234,567.1234" := by
  have h : IsDecimalText "1234567.1234" :=
    ⟨['1', '2', '3', '4', '5', '6', '7'], ['.', '1', '2', '3', '4'], rfl, by decide,
      List.all_eq_true.1 rfl, .inr ⟨['1', '2', '3', '4'], rfl, List.all_eq_true.1 rfl⟩⟩
  have heq : groupThousands "1234567.1234" = "1,234,567.1234" := by decide
  exact ⟨h, heq, heq ▸ groupThousands_grouped h⟩

/-! ### Numbers in a format -/

open Decimal

section Format

variable {digits : List Char}

theorem isDecimalText_whole (hne : digits ≠ []) (h : AllDigits digits) :
    IsDecimalText (String.ofList digits) :=
  ⟨digits, [], by rw [String.toList_ofList, List.append_nil], hne, h, .inl rfl⟩

theorem isDecimalText_point {behind : List Char} (hne : digits ≠ []) (h : AllDigits digits)
    (hbehind : AllDigits behind) : IsDecimalText (String.ofList (digits ++ '.' :: behind)) :=
  ⟨digits, '.' :: behind, by rw [String.toList_ofList], hne, h, .inr ⟨behind, rfl, hbehind⟩⟩

/-- Digits with a point behind the first of them. -/
theorem isDecimalText_cut (hne : digits ≠ []) (h : AllDigits digits) {size : Nat} (hsize : 0 < size) :
    IsDecimalText (String.ofList (digits.take size ++ '.' :: digits.drop size)) := by
  refine isDecimalText_point ?_ ?_ ?_
  · intro hnil
    rcases List.take_eq_nil_iff.1 hnil with hzero | hnil
    · omega
    · exact hne hnil
  · intro c hc
    exact h c (List.mem_of_mem_take hc)
  · intro c hc
    exact h c (List.mem_of_mem_drop hc)

theorem isDecimalText_placePoint (n places : Nat) :
    IsDecimalText (String.ofList (placePoint n places)) := by
  have hlength : 0 < (Nat.toDigits 10 n).length := Nat.length_toDigits_pos
  rw [placePoint]
  generalize hpadded : List.replicate (places + 1 - (Nat.toDigits 10 n).length) '0'
    ++ Nat.toDigits 10 n = padded
  have hdigits : AllDigits padded :=
    hpadded ▸ allDigits_append (allDigits_replicate _) (allDigits_toDigits n)
  have hlong : places < padded.length := by
    rw [← hpadded, List.length_append, List.length_replicate]
    omega
  have hne : padded ≠ [] := List.ne_nil_of_length_pos (by omega)
  split
  · exact isDecimalText_whole hne hdigits
  · exact isDecimalText_cut hne hdigits (by omega)

theorem isDecimalText_fixed (places : Nat) (x : Float) : IsDecimalText (fixed places x) := by
  unfold fixed
  split
  · exact isDecimalText_placePoint _ _
  · exact isDecimalText_placePoint _ _

theorem isDecimalText_positional (hne : digits ≠ []) (h : AllDigits digits) (point : Int) :
    IsDecimalText (String.ofList (positional digits point "")) := by
  unfold positional
  split
  · have hzero : AllDigits ['0'] := List.forall_mem_singleton.2 rfl
    have hsplit (cs : List Char) : ['0', '.'] ++ cs = ['0'] ++ '.' :: cs := rfl
    rw [List.append_assoc, hsplit]
    exact isDecimalText_point (List.cons_ne_nil _ _) hzero (allDigits_append (allDigits_replicate _) h)
  · next hpoint =>
    split
    · rw [show "".toList = [] from rfl, List.append_nil]
      exact isDecimalText_whole (List.append_ne_nil_of_left_ne_nil hne _)
        (allDigits_append h (allDigits_replicate _))
    · exact isDecimalText_cut hne h (by omega)

theorem isDecimalText_writeDecimal (d : Scaled) :
    IsDecimalText (String.ofList (Layout.display.writeDecimal d)) :=
  isDecimalText_positional (List.ne_nil_of_length_pos Nat.length_toDigits_pos) (allDigits_toDigits _) _

theorem isDecimalText_toString (n : Nat) : IsDecimalText (toString (n : Int)) := by
  have htext : toString (n : Int) = String.ofList (Nat.toDigits 10 n) := Nat.toString_eq_ofList_toDigits
  rw [htext]
  exact isDecimalText_whole (List.ne_nil_of_length_pos Nat.length_toDigits_pos) (allDigits_toDigits n)

/-- A magnitude has no sign in its text. -/
theorem isDecimalText_numberText {x : Float} (h : x.isFinite = true) :
    IsDecimalText (Cell.numberText x.abs) := by
  have hnan : x.abs.isNaN = false := by
    rw [show x.abs.isNaN = x.abs.toModel.unpack.isNaN from rfl]
    rcases abs_cases h with hx | ⟨m, e, hm, hx⟩ <;> rw [hx] <;> rfl
  have hinf : x.abs.isInf = false := by
    rw [show x.abs.isInf = x.abs.toModel.unpack.isInf from rfl]
    rcases abs_cases h with hx | ⟨m, e, hm, hx⟩ <;> rw [hx] <;> rfl
  have hwhole (n : Int) (hn : truncate? x.abs = some n) : IsDecimalText (toString n) := by
    rw [truncate?] at hn
    rcases abs_cases h with hx | ⟨m, e, hm, hx⟩
    · rw [hx] at hn
      cases hn
      exact isDecimalText_toString 0
    · rw [hx] at hn
      cases hn
      exact isDecimalText_toString _
  have hwrite : IsDecimalText (Layout.display.write x.abs) := by
    rw [Layout.write]
    rcases abs_cases h with hx | ⟨m, e, hm, hx⟩
    · rw [hx]
      exact isDecimalText_writeDecimal _
    · rw [hx]
      exact isDecimalText_writeDecimal _
  rw [Cell.numberText, hnan, hinf, if_neg Bool.false_ne_true, if_neg Bool.false_ne_true]
  split
  · next n _ hn => exact hwhole n hn
  · exact hwrite

end Format

namespace NumberFormat

/-- The separators of a format group the thousands of the number that it writes without them. -/
theorem body_grouped (f : NumberFormat) (hf : f.thousandsSeparator = true) {x : Float}
    (hx : x.isFinite = true) :
    Grouped ({ f with thousandsSeparator := false }.body x) (f.body x) := by
  have hgroup (digits : String) (h : IsDecimalText digits) :
      Grouped digits (if f.thousandsSeparator then groupThousands digits else digits) := by
    rw [if_pos hf]
    exact .of_isDecimalText h
  unfold body
  refine hgroup _ ?_
  have hplaces : ({ f with thousandsSeparator := false } : NumberFormat).places? = f.places? := rfl
  rw [hplaces]
  cases f.places? with
  | some n => exact isDecimalText_fixed n x
  | none => exact isDecimalText_numberText hx

end NumberFormat

end Databook
