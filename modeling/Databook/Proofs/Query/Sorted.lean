import Databook.Proofs.Query.Order

/-!
# Sorted rows

Rows that are sorted by several properties stand in the order of the first of them that tells them
apart, and those that none tells apart keep the order in which they came, in whatever direction each
property is sorted (`sortRows_stable`). It comes to the same to sort by one property after the other,
from the last to the first.

What a sort has to give is settled by two things (`eq_of_tiesOf`): its order, and that the members of
each tie are listed as they were. Nothing more has to be known of the way in which a list is sorted:
inserting gives what merging gives (`stableSort_eq_sortBy`). The comparison is consistent among the
members of the list only, so a list is sorted as one of its members (`mergeSort_eq_map_attach`).
-/

namespace Databook

/-! ### Sorting by a comparison that is consistent among the members -/

section Sorting

variable {cmp cmp' : α → α → Ordering} {s : α → Prop} {l l' : List α} {a b c : α}

/-- Sort by a comparison, by merging. -/
def sortBy (cmp : α → α → Ordering) (l : List α) : List α := l.mergeSort fun a b => (cmp a b).isLE

/-- The members of a list that tie with a value. -/
def tiesOf (cmp : α → α → Ordering) (a : α) (l : List α) : List α := l.filter fun b => cmp a b == .eq

theorem mem_tiesOf : b ∈ tiesOf cmp a l ↔ b ∈ l ∧ cmp a b = .eq := by
  rw [tiesOf, List.mem_filter, beq_iff_eq]

theorem tiesOf_cons_of_eq (h : cmp a b = .eq) : tiesOf cmp a (b :: l) = b :: tiesOf cmp a l :=
  List.filter_cons_of_pos (beq_iff_eq.2 h)

theorem tiesOf_cons_of_ne (h : cmp a b ≠ .eq) : tiesOf cmp a (b :: l) = tiesOf cmp a l :=
  List.filter_cons_of_neg (by simpa using h)

theorem tiesOf_cons_congr (h : tiesOf cmp c l = tiesOf cmp c l') (a : α) :
    tiesOf cmp c (a :: l) = tiesOf cmp c (a :: l') := by
  unfold tiesOf at h ⊢
  rw [List.filter_cons, List.filter_cons, h]

/-- Neighbours that are not both in a tie can change places. -/
theorem tiesOf_swap (h : ¬(cmp c a = .eq ∧ cmp c b = .eq)) (l : List α) :
    tiesOf cmp c (b :: a :: l) = tiesOf cmp c (a :: b :: l) := by
  by_cases hca : cmp c a = .eq
  · have hcb : cmp c b ≠ .eq := fun hcb => h ⟨hca, hcb⟩
    rw [tiesOf_cons_of_ne hcb, tiesOf_cons_of_eq hca, tiesOf_cons_of_eq hca, tiesOf_cons_of_ne hcb]
  · rw [tiesOf_cons_of_ne hca]
    exact tiesOf_cons_congr (tiesOf_cons_of_ne hca) b

theorem tiesOf_then (cmp cmp' : α → α → Ordering) (a : α) (l : List α) :
    tiesOf (fun a b => (cmp a b).then (cmp' a b)) a l = tiesOf cmp a (tiesOf cmp' a l) := by
  unfold tiesOf
  rw [List.filter_filter]
  refine List.filter_congr fun b _ => ?_
  show ((cmp a b).then (cmp' a b) == .eq) = _
  cases cmp a b <;> rfl

theorem tiesOf_comm (cmp cmp' : α → α → Ordering) (a : α) (l : List α) :
    tiesOf cmp a (tiesOf cmp' a l) = tiesOf cmp' a (tiesOf cmp a l) := by
  unfold tiesOf
  rw [List.filter_filter, List.filter_filter]
  simp only [Bool.and_comm]

namespace ConsistentOn

theorem self (h : ConsistentOn s cmp) (ha : s a) : cmp a a = .eq := by
  have hswap := h.swap ha ha
  cases hcmp : cmp a a <;> rw [hcmp] at hswap <;> first | rfl | cases hswap

theorem total (h : ConsistentOn s cmp) (ha : s a) (hb : s b) :
    ((cmp a b).isLE || (cmp b a).isLE) = true := by
  rw [h.swap ha hb]
  cases cmp a b <;> rfl

theorem tie_symm (h : ConsistentOn s cmp) (ha : s a) (hb : s b) (hab : cmp a b = .eq) :
    cmp b a = .eq := by
  rw [h.swap ha hb, hab]
  rfl

end ConsistentOn

/-- A list is sorted as a list of its members. -/
theorem mergeSort_eq_map_attach (le : α → α → Bool) (l : List α) :
    l.mergeSort le = (l.attach.mergeSort fun a b => le a.1 b.1).map (·.1) := by
  rw [List.map_mergeSort (s := le) fun _ _ _ _ => rfl, List.attach_map_subtype_val]

theorem perm_sortBy (cmp : α → α → Ordering) (l : List α) : (sortBy cmp l).Perm l :=
  List.mergeSort_perm l _

/-- Sorting sees the members of a list only, and of these the order is one. -/
theorem ConsistentOn.members (h : ConsistentOn (· ∈ l) cmp) :
    (∀ a b c : { a // a ∈ l }, (cmp a.1 b.1).isLE = true → (cmp b.1 c.1).isLE = true →
      (cmp a.1 c.1).isLE = true) ∧
    ∀ a b : { a // a ∈ l }, ((cmp a.1 b.1).isLE || (cmp b.1 a.1).isLE) = true :=
  ⟨fun a b c => h.trans a.2 b.2 c.2, fun a b => h.total a.2 b.2⟩

theorem pairwise_sortBy (h : ConsistentOn (· ∈ l) cmp) :
    (sortBy cmp l).Pairwise fun a b => (cmp a b).isLE = true := by
  rw [sortBy, mergeSort_eq_map_attach, List.pairwise_map]
  exact List.pairwise_mergeSort h.members.1 h.members.2 _

/-- Members that stand in order already are listed as they were. -/
theorem sublist_sortBy (h : ConsistentOn (· ∈ l) cmp) (hsub : l'.Sublist l)
    (hsorted : l'.Pairwise fun a b => (cmp a b).isLE = true) : l'.Sublist (sortBy cmp l) := by
  obtain ⟨members, hmembers, rfl⟩ : ∃ members : List { a // a ∈ l },
      members.Sublist l.attach ∧ l' = members.map (·.1) := by
    rw [← List.attach_map_subtype_val l] at hsub
    exact List.sublist_map_iff.1 hsub
  rw [sortBy, mergeSort_eq_map_attach]
  exact (List.sublist_mergeSort h.members.1 h.members.2 (List.pairwise_map.1 hsorted) hmembers).map _

/-- The members of a tie are listed as they were. -/
theorem tiesOf_sortBy (h : ConsistentOn (· ∈ l) cmp) (ha : a ∈ l) :
    tiesOf cmp a (sortBy cmp l) = tiesOf cmp a l := by
  have htied : (tiesOf cmp a l).Pairwise fun b c => (cmp b c).isLE = true := by
    refine List.pairwise_of_forall_mem_list fun b hb c hc => ?_
    obtain ⟨hb, hab⟩ := mem_tiesOf.1 hb
    obtain ⟨hc, hac⟩ := mem_tiesOf.1 hc
    rw [h.tie_trans hb ha hc (h.tie_symm ha hb hab) hac]
    rfl
  have hkept : (tiesOf cmp a l).Sublist (tiesOf cmp a (sortBy cmp l)) := by
    have hfilter := (sublist_sortBy h List.filter_sublist htied).filter fun b => cmp a b == .eq
    rwa [List.filter_eq_self.2 fun b hb => (List.mem_filter.1 hb).2] at hfilter
  -- sorting does not bring in more of them
  exact (hkept.eq_of_length ((perm_sortBy cmp l).filter _).length_eq.symm).symm

theorem mem_of_tiesOf (h : ConsistentOn s cmp) (ha : s a) (htied : tiesOf cmp a l = tiesOf cmp a l')
    (hmem : a ∈ l) : a ∈ l' := by
  have hself : a ∈ tiesOf cmp a l := mem_tiesOf.2 ⟨hmem, h.self ha⟩
  rw [htied] at hself
  exact (mem_tiesOf.1 hself).1

/-- A list in order is settled by its ties. Of two such lists the first members tie, so they are the
first of the same tie. -/
theorem eq_of_tiesOf (h : ConsistentOn s cmp) (hl : ∀ a ∈ l, s a) (hl' : ∀ a ∈ l', s a)
    (hsorted : l.Pairwise fun a b => (cmp a b).isLE = true)
    (hsorted' : l'.Pairwise fun a b => (cmp a b).isLE = true)
    (htied : ∀ a, s a → tiesOf cmp a l = tiesOf cmp a l') : l = l' := by
  induction l generalizing l' with
  | nil =>
    cases l' with
    | nil => rfl
    | cons b l' =>
      have hb := hl' b List.mem_cons_self
      cases mem_of_tiesOf h hb (htied b hb).symm List.mem_cons_self
  | cons a l ih =>
    obtain ⟨ha, hrest⟩ := List.forall_mem_cons.1 hl
    obtain ⟨hfirst, htail⟩ := List.pairwise_cons.1 hsorted
    cases l' with
    | nil => cases mem_of_tiesOf h ha (htied a ha) List.mem_cons_self
    | cons b l' =>
      obtain ⟨hb, hrest'⟩ := List.forall_mem_cons.1 hl'
      obtain ⟨hfirst', htail'⟩ := List.pairwise_cons.1 hsorted'
      have hab : cmp a b = .eq := by
        rcases List.mem_cons.1 (mem_of_tiesOf h hb (htied b hb).symm List.mem_cons_self) with rfl | hbl
        · exact h.self hb
        rcases List.mem_cons.1 (mem_of_tiesOf h ha (htied a ha) List.mem_cons_self) with rfl | hal
        · exact h.self ha
        exact h.eq_of_isLE ha hb (hfirst b hbl) (hfirst' a hal)
      have hheads := htied a ha
      rw [tiesOf_cons_of_eq (h.self ha), tiesOf_cons_of_eq hab] at hheads
      obtain rfl : a = b := (List.cons.inj hheads).1
      refine congrArg (a :: ·) (ih hrest hrest' htail htail' fun c hc => ?_)
      have hboth := htied c hc
      by_cases hca : cmp c a = .eq
      · rw [tiesOf_cons_of_eq hca, tiesOf_cons_of_eq hca] at hboth
        exact (List.cons.inj hboth).2
      · rwa [tiesOf_cons_of_ne hca, tiesOf_cons_of_ne hca] at hboth

/-- Sorting by one comparison what has been sorted by another one: where the later sort ties, the
earlier one still decides. -/
theorem sortBy_sortBy (h : ConsistentOn (· ∈ l) cmp) (h' : ConsistentOn (· ∈ l) cmp') :
    sortBy cmp (sortBy cmp' l) = sortBy (fun a b => (cmp a b).then (cmp' a b)) l := by
  have hmem : ∀ a, a ∈ sortBy cmp' l ↔ a ∈ l := fun a => (perm_sortBy cmp' l).mem_iff
  have hmem' : ∀ a, a ∈ sortBy cmp (sortBy cmp' l) ↔ a ∈ l :=
    fun a => (perm_sortBy cmp _).mem_iff.trans (hmem a)
  have hlater := h.mono fun a => (hmem a).1
  have hthen := h.andThen h'
  refine eq_of_tiesOf hthen (fun a => (hmem' a).1) (fun a => (perm_sortBy _ l).mem_iff.1) ?_
    (pairwise_sortBy hthen) fun a ha => ?_
  · refine List.pairwise_iff_forall_sublist.2 fun {a b} hab => ?_
    have hle : (cmp a b).isLE = true :=
      List.pairwise_iff_forall_sublist.1 (pairwise_sortBy hlater) hab
    have ha : a ∈ l := (hmem' a).1 (hab.mem List.mem_cons_self)
    cases hcmp : cmp a b with
    | lt => rfl
    | gt =>
      rw [hcmp] at hle
      cases hle
    | eq =>
      -- the earlier sort has put both in this order
      have htie : [a, b].Sublist (tiesOf cmp a (sortBy cmp (sortBy cmp' l))) := by
        have hfilter := hab.filter fun c => cmp a c == .eq
        simpa [tiesOf, h.self ha, hcmp] using hfilter
      rw [tiesOf_sortBy hlater ((hmem a).2 ha)] at htie
      exact List.pairwise_iff_forall_sublist.1 (pairwise_sortBy h') (htie.trans List.filter_sublist)
  · calc tiesOf (fun a b => (cmp a b).then (cmp' a b)) a (sortBy cmp (sortBy cmp' l))
        = tiesOf cmp' a (tiesOf cmp a (sortBy cmp (sortBy cmp' l))) := by
          rw [tiesOf_then, tiesOf_comm]
      _ = tiesOf cmp a (tiesOf cmp' a (sortBy cmp' l)) := by
          rw [tiesOf_sortBy hlater ((hmem a).2 ha), tiesOf_comm]
      _ = tiesOf cmp a (tiesOf cmp' a l) := by rw [tiesOf_sortBy h' ha]
      _ = tiesOf (fun a b => (cmp a b).then (cmp' a b)) a (sortBy _ l) := by
          rw [tiesOf_sortBy hthen ha, tiesOf_then]

/-! ### Sorting by insertion -/

theorem perm_insertBack (cmp : α → α → Ordering) (a : α) (l : List α) :
    (insertBack cmp a l).Perm (a :: l) := by
  fun_induction insertBack cmp a l with
  | case1 => rfl
  | case2 b bs _ ih => exact (ih.cons b).trans (.swap a b bs)
  | case3 => rfl

theorem pairwise_insertBack (h : ConsistentOn (· ∈ a :: l) cmp)
    (hl : l.Pairwise fun b c => (cmp c b).isLE = true) :
    (insertBack cmp a l).Pairwise fun b c => (cmp c b).isLE = true := by
  induction l with
  | nil => exact List.pairwise_singleton _ a
  | cons b bs ih =>
    obtain ⟨hb, hbs⟩ := List.pairwise_cons.1 hl
    unfold insertBack
    split
    · next hlt =>
      refine List.pairwise_cons.2 ⟨fun c hc => ?_, ih (h.mono (by simp +contextual)) hbs⟩
      rcases List.mem_cons.1 ((perm_insertBack cmp a bs).mem_iff.1 hc) with rfl | hc
      · rw [eq_of_beq hlt]
        rfl
      · exact hb c hc
    · next hlt =>
      have hba : (cmp b a).isLE = true := by
        rw [h.swap List.mem_cons_self (List.mem_cons_of_mem a List.mem_cons_self)]
        cases hab : cmp a b <;> simp_all
      refine List.pairwise_cons.2 ⟨fun c hc => ?_, hl⟩
      rcases List.mem_cons.1 hc with rfl | hc
      · exact hba
      · exact h.trans (by simp [hc]) (by simp) (by simp) (hb c hc) hba

/-- A value is inserted among those that it ties with as if it were put in front of the list. It is put
behind values only that it comes before, and these are in no tie with it. -/
theorem tiesOf_insertBack (h : ConsistentOn s cmp) (ha : s a) (hl : ∀ b ∈ l, s b) (hc : s c) :
    tiesOf cmp c (insertBack cmp a l) = tiesOf cmp c (a :: l) := by
  induction l with
  | nil => rfl
  | cons b bs ih =>
    obtain ⟨hb, hbs⟩ := List.forall_mem_cons.1 hl
    unfold insertBack
    split
    · next hlt =>
      have hnot : ¬(cmp c a = .eq ∧ cmp c b = .eq) := by
        rintro ⟨hca, hcb⟩
        rw [h.tie_trans ha hc hb (h.tie_symm hc ha hca) hcb] at hlt
        cases hlt
      exact (tiesOf_cons_congr (ih hbs) b).trans (tiesOf_swap hnot bs)
    · rfl

/-- The sorted list is kept backwards, so the values are inserted as a list from its end. -/
theorem insertionSort_eq (cmp : α → α → Ordering) (l : List α) :
    insertionSort cmp l = (l.reverse.foldr (insertBack cmp) []).reverse := by
  rw [insertionSort, List.foldl_eq_foldr_reverse]

theorem perm_foldr_insertBack (cmp : α → α → Ordering) (l : List α) :
    (l.foldr (insertBack cmp) []).Perm l := by
  induction l with
  | nil => rfl
  | cons a l ih => exact (perm_insertBack cmp a _).trans (ih.cons a)

theorem perm_insertionSort (cmp : α → α → Ordering) (l : List α) : (insertionSort cmp l).Perm l := by
  rw [insertionSort_eq]
  exact (List.reverse_perm _).trans ((perm_foldr_insertBack cmp _).trans (List.reverse_perm l))

theorem pairwise_foldr_insertBack (h : ConsistentOn (· ∈ l) cmp) :
    (l.foldr (insertBack cmp) []).Pairwise fun a b => (cmp b a).isLE = true := by
  induction l with
  | nil => exact .nil
  | cons a l ih =>
    refine pairwise_insertBack (h.mono fun b hb => ?_) (ih (h.mono fun b => List.mem_cons_of_mem a))
    exact ((perm_foldr_insertBack cmp l).cons a).mem_iff.1 hb

theorem tiesOf_foldr_insertBack (h : ConsistentOn s cmp) (hl : ∀ a ∈ l, s a) (hc : s c) :
    tiesOf cmp c (l.foldr (insertBack cmp) []) = tiesOf cmp c l := by
  induction l with
  | nil => rfl
  | cons a l ih =>
    obtain ⟨ha, hrest⟩ := List.forall_mem_cons.1 hl
    have hmem : ∀ b ∈ l.foldr (insertBack cmp) [], s b :=
      fun b hb => hrest b ((perm_foldr_insertBack cmp l).mem_iff.1 hb)
    exact (tiesOf_insertBack h ha hmem hc).trans (tiesOf_cons_congr (ih hrest) a)

theorem insertionSort_eq_sortBy (h : ConsistentOn (· ∈ l) cmp) : insertionSort cmp l = sortBy cmp l := by
  have hreverse : ∀ a, a ∈ l.reverse ↔ a ∈ l := fun a => List.mem_reverse
  refine eq_of_tiesOf h (fun a => (perm_insertionSort cmp l).mem_iff.1)
    (fun a => (perm_sortBy cmp l).mem_iff.1) ?_ (pairwise_sortBy h) fun a ha => ?_
  · rw [insertionSort_eq, List.pairwise_reverse]
    exact pairwise_foldr_insertBack (h.mono fun a => (hreverse a).1)
  · have hties : ∀ l : List α, tiesOf cmp a l.reverse = (tiesOf cmp a l).reverse :=
      fun l => List.filter_reverse
    rw [insertionSort_eq, hties, tiesOf_foldr_insertBack h (fun a => (hreverse a).1) ha, hties,
      List.reverse_reverse, tiesOf_sortBy h ha]

/-- By a consistent comparison there is one way to sort. -/
theorem stableSort_eq_sortBy (h : ConsistentOn (· ∈ l) cmp) : stableSort cmp l = sortBy cmp l := by
  unfold stableSort
  split
  · exact insertionSort_eq_sortBy h
  · rfl

theorem perm_stableSort (cmp : α → α → Ordering) (l : List α) : (stableSort cmp l).Perm l := by
  unfold stableSort
  split
  · exact perm_insertionSort cmp l
  · exact perm_sortBy cmp l

/-! ### Any stable sort -/

/-- What is known of a stable sort. It moves values. By a consistent comparison it does not fail: the
values come to stand in order, and the members of each tie are listed as they were. By any other
comparison it may fail, and the order that it gives is open. -/
structure IsStableSort (sort : (α → α → Ordering) → List α → Option (List α)) : Prop where
  perm : ∀ {cmp l l'}, sort cmp l = some l' → l'.Perm l
  sorted : ∀ {cmp l}, ConsistentOn (· ∈ l) cmp → ∃ l', sort cmp l = some l' ∧
    (l'.Pairwise fun a b => (cmp a b).isLE = true) ∧ ∀ a ∈ l, tiesOf cmp a l' = tiesOf cmp a l

/-- By a consistent comparison every stable sort gives the same. -/
theorem IsStableSort.eq_some_stableSort {sort : (α → α → Ordering) → List α → Option (List α)}
    (hsort : IsStableSort sort) (h : ConsistentOn (· ∈ l) cmp) :
    sort cmp l = some (stableSort cmp l) := by
  obtain ⟨l', hsome, hsorted, htied⟩ := hsort.sorted h
  rw [hsome, stableSort_eq_sortBy h]
  refine congrArg some (eq_of_tiesOf h (fun a => (hsort.perm hsome).mem_iff.1)
    (fun a => (perm_sortBy cmp l).mem_iff.1) hsorted (pairwise_sortBy h) fun a ha => ?_)
  rw [htied a ha, tiesOf_sortBy h ha]

theorem isStableSort_stableSort : IsStableSort fun cmp (l : List α) => some (stableSort cmp l) where
  perm hsome := by
    cases hsome
    exact perm_stableSort _ _
  sorted {cmp l} h := by
    refine ⟨stableSort cmp l, rfl, ?_⟩
    rw [stableSort_eq_sortBy h]
    exact ⟨pairwise_sortBy h, fun a => tiesOf_sortBy h⟩

/-! ### Sorting what is compared alike -/

section Map

variable {f : α → β} {cmpImage : β → β → Ordering}

theorem insertBack_map (h : ∀ b ∈ l, cmpImage (f a) (f b) = cmp a b) :
    insertBack cmpImage (f a) (l.map f) = (insertBack cmp a l).map f := by
  induction l with
  | nil => rfl
  | cons b bs ih =>
    obtain ⟨hb, hbs⟩ := List.forall_mem_cons.1 h
    rw [List.map_cons, insertBack, insertBack, hb, ih hbs]
    split <;> rfl

theorem foldr_insertBack_map (h : ∀ a ∈ l, ∀ b ∈ l, cmpImage (f a) (f b) = cmp a b) :
    (l.map f).foldr (insertBack cmpImage) [] = (l.foldr (insertBack cmp) []).map f := by
  induction l with
  | nil => rfl
  | cons a l ih =>
    rw [List.map_cons, List.foldr_cons, List.foldr_cons,
      ih fun b hb c hc => h b (List.mem_cons_of_mem a hb) c (List.mem_cons_of_mem a hc)]
    refine insertBack_map fun b hb => h a List.mem_cons_self b (List.mem_cons_of_mem a ?_)
    exact (perm_foldr_insertBack cmp l).mem_iff.1 hb

/-- Values that are compared alike are sorted alike. -/
theorem stableSort_map (h : ∀ a ∈ l, ∀ b ∈ l, cmpImage (f a) (f b) = cmp a b) :
    stableSort cmpImage (l.map f) = (stableSort cmp l).map f := by
  unfold stableSort
  rw [List.length_map]
  split
  · rw [insertionSort_eq, insertionSort_eq, ← List.map_reverse, foldr_insertBack_map, List.map_reverse]
    simpa using h
  · exact (List.map_mergeSort fun a ha b hb => by rw [h a ha b hb]).symm

end Map

end Sorting

/-! ### Rows -/

/-- Compare rows by the property of a sort, in its direction. -/
def SortKey.order (valueOf : Row → String → Cell) (k : SortKey) (a b : Row) : Ordering :=
  k.direction.orient ((valueOf a k.property).order (valueOf b k.property))

section Rows

variable {valueOf : Row → String → Cell} {sorts : List SortKey} {rows : List Row} {a b : Row}

/-- Rows that no sort tells apart. -/
def Tied (valueOf : Row → String → Cell) (sorts : List SortKey) (a b : Row) : Prop :=
  ∀ k ∈ sorts, (valueOf a k.property).order (valueOf b k.property) = .eq

instance : Decidable (Tied valueOf sorts a b) :=
  inferInstanceAs (Decidable (∀ k ∈ sorts, (valueOf a k.property).order (valueOf b k.property) = .eq))

/-- The first sort that tells two rows apart has one in front of the other: in the ascending direction
the row with the smaller cell, in the descending one that with the greater cell. -/
def StandsBefore (valueOf : Row → String → Cell) (sorts : List SortKey) (a b : Row) : Prop :=
  ∃ before k after, sorts = before ++ k :: after ∧ Tied valueOf before a b ∧
    match k.direction with
    | .asc => (valueOf a k.property).order (valueOf b k.property) = .lt
    | .desc => (valueOf a k.property).order (valueOf b k.property) = .gt

theorem perm_sortRows (valueOf : Row → String → Cell) (sorts : List SortKey) (rows : List Row) :
    (sortRows valueOf sorts rows).Perm rows := perm_stableSort _ rows

theorem rowOrder_cons (k : SortKey) (sorts : List SortKey) :
    rowOrder valueOf (k :: sorts) a b = (k.order valueOf a b).then (rowOrder valueOf sorts a b) := rfl

theorem SortKey.order_eq_eq_iff {k : SortKey} :
    k.order valueOf a b = .eq ↔ (valueOf a k.property).order (valueOf b k.property) = .eq := by
  unfold SortKey.order SortDirection.orient
  cases k.direction <;> simp

theorem SortKey.order_eq_lt_iff {k : SortKey} :
    k.order valueOf a b = .lt ↔
      match k.direction with
      | .asc => (valueOf a k.property).order (valueOf b k.property) = .lt
      | .desc => (valueOf a k.property).order (valueOf b k.property) = .gt := by
  unfold SortKey.order SortDirection.orient
  cases k.direction <;> simp

theorem rowOrder_eq_eq_iff : rowOrder valueOf sorts a b = .eq ↔ Tied valueOf sorts a b := by
  unfold Tied
  induction sorts with
  | nil => simp [rowOrder]
  | cons k sorts ih =>
    rw [rowOrder_cons, Ordering.then_eq_eq, SortKey.order_eq_eq_iff, ih, List.forall_mem_cons]

theorem rowOrder_eq_lt_iff : rowOrder valueOf sorts a b = .lt ↔ StandsBefore valueOf sorts a b := by
  induction sorts with
  | nil => simp [rowOrder, StandsBefore]
  | cons k sorts ih =>
    rw [rowOrder_cons, Ordering.then_eq_lt, SortKey.order_eq_lt_iff, SortKey.order_eq_eq_iff, ih]
    constructor
    · rintro (hfirst | ⟨htie, before, k', after, rfl, htied, hlater⟩)
      · exact ⟨[], k, sorts, rfl, by simp [Tied], hfirst⟩
      · exact ⟨k :: before, k', after, rfl, List.forall_mem_cons.2 ⟨htie, htied⟩, hlater⟩
    · rintro ⟨before, k', after, hsplit, htied, hstands⟩
      cases before with
      | nil =>
        cases hsplit
        exact .inl hstands
      | cons first before =>
        cases hsplit
        obtain ⟨htie, htied⟩ := List.forall_mem_cons.1 htied
        exact .inr ⟨htie, before, k', after, rfl, htied, hstands⟩

theorem isLE_rowOrder_iff : (rowOrder valueOf sorts a b).isLE = true ↔
    Tied valueOf sorts a b ∨ StandsBefore valueOf sorts a b := by
  rw [← rowOrder_eq_eq_iff, ← rowOrder_eq_lt_iff]
  cases rowOrder valueOf sorts a b <;> simp

theorem tiesOf_rowOrder :
    tiesOf (rowOrder valueOf sorts) a rows = rows.filter fun b => Tied valueOf sorts a b := by
  refine List.filter_congr fun b _ => ?_
  rw [Bool.eq_iff_iff, beq_iff_eq, decide_eq_true_iff, rowOrder_eq_eq_iff]

/-- If the cells of a column are ordered consistently, so are the rows by it. -/
theorem consistentOn_column {property : String}
    (h : ConsistentOn (· ∈ rows.map (valueOf · property)) Cell.order) :
    ConsistentOn (· ∈ rows) fun a b => (valueOf a property).order (valueOf b property) :=
  h.of_key (valueOf · property) (fun _ ha => List.mem_map_of_mem ha) fun _ _ _ _ => rfl

/-- Rows are ordered consistently by sorts whose columns are. -/
theorem consistentOn_rows
    (h : ∀ k ∈ sorts, ConsistentOn (· ∈ rows.map (valueOf · k.property)) Cell.order) :
    ConsistentOn (· ∈ rows) (rowOrder valueOf sorts) :=
  consistentOn_rowOrder fun k hk => consistentOn_column (h k hk)

theorem sortRows_eq_sortBy
    (h : ∀ k ∈ sorts, ConsistentOn (· ∈ rows.map (valueOf · k.property)) Cell.order) :
    sortRows valueOf sorts rows = sortBy (rowOrder valueOf sorts) rows :=
  stableSort_eq_sortBy (consistentOn_rows h)

theorem sortRows_singleton {k : SortKey}
    (h : ConsistentOn (· ∈ rows.map (valueOf · k.property)) Cell.order) :
    sortRows valueOf [k] rows = sortBy (k.order valueOf) rows := by
  have horder : rowOrder valueOf [k] = k.order valueOf := by
    funext a b
    rw [rowOrder_cons]
    exact Ordering.then_eq
  rw [sortRows_eq_sortBy (List.forall_mem_singleton.2 h), horder]

/-- Sorting by several properties is sorting by one after the other, from the last to the first. -/
theorem sortRows_eq_foldr
    (h : ∀ k ∈ sorts, ConsistentOn (· ∈ rows.map (valueOf · k.property)) Cell.order) :
    sortRows valueOf sorts rows = sorts.foldr (fun k rows => sortRows valueOf [k] rows) rows := by
  induction sorts with
  | nil =>
    rw [sortRows_eq_sortBy h]
    exact List.mergeSort_of_pairwise (List.pairwise_of_forall fun _ _ => rfl)
  | cons k sorts ih =>
    obtain ⟨hfirst, hrest⟩ := List.forall_mem_cons.1 h
    -- the cells of the column are the same when the rows have been sorted by the others
    have hsorted : ConsistentOn (· ∈ (sortRows valueOf sorts rows).map (valueOf · k.property)) Cell.order :=
      hfirst.mono fun c hc => ((perm_sortRows valueOf sorts rows).map _).mem_iff.1 hc
    rw [List.foldr_cons, ← ih hrest, sortRows_singleton hsorted, sortRows_eq_sortBy hrest,
      sortRows_eq_sortBy h]
    exact (sortBy_sortBy ((consistentOn_column hfirst).orient k.direction)
      (consistentOn_rows hrest)).symm

/-- Sorting moves rows. If the cells of each column that is sorted by are ordered consistently, the
rows come to stand in the order of the first sort that tells them apart; those that no sort tells apart
stay in their order, in either direction; and sorting by one property after the other, from the last to
the first, gives the same. -/
theorem sortRows_stable
    (h : ∀ k ∈ sorts, ConsistentOn (· ∈ rows.map (valueOf · k.property)) Cell.order) :
    (sortRows valueOf sorts rows).Perm rows ∧
    ((sortRows valueOf sorts rows).Pairwise fun a b =>
      Tied valueOf sorts a b ∨ StandsBefore valueOf sorts a b) ∧
    (∀ a ∈ rows, (sortRows valueOf sorts rows).filter (Tied valueOf sorts a ·)
      = rows.filter (Tied valueOf sorts a ·)) ∧
    sortRows valueOf sorts rows = sorts.foldr (fun k rows => sortRows valueOf [k] rows) rows := by
  have hrows := consistentOn_rows h
  refine ⟨perm_sortRows valueOf sorts rows, ?_, fun a ha => ?_, sortRows_eq_foldr h⟩
  · rw [sortRows_eq_sortBy h]
    exact (pairwise_sortBy hrows).imp isLE_rowOrder_iff.1
  · rw [← tiesOf_rowOrder, ← tiesOf_rowOrder, sortRows_eq_sortBy h]
    exact tiesOf_sortBy hrows ha

end Rows

/-! ### Rated rows -/

section Rated

/-- A row with a rating, unless that is nothing, and a note. -/
def ratedRow (id : String) (rating : Cell) (note : String) : Row :=
  ⟨id, .ofList [("p", rating), ("q", .text note)], .epoch, .epoch⟩

/-- Rows of which the first and the last have the same rating and the same note. -/
def ratedRows : List Row :=
  [ratedRow "a" (.number 2) "x", ratedRow "b" .null "", ratedRow "c" (.number 1) "z",
    ratedRow "d" (.number 2) "y", ratedRow "e" (.number 2) "x"]

/-- The best ratings first, and of these the last notes. -/
def ratedSorts : List SortKey := [⟨"p", .desc⟩, ⟨"q", .desc⟩]

theorem consistentOn_rated : ∀ k ∈ ratedSorts,
    ConsistentOn (· ∈ ratedRows.map (Row.cell · k.property)) Cell.order := by
  have hnumbers : ∀ row ∈ ratedRows, (row.cell "p").IsOf .number := by
    simp only [ratedRows, List.forall_mem_cons, List.not_mem_nil, IsEmpty.forall_iff, implies_true,
      and_true]
    exact ⟨rfl, trivial, rfl, rfl, rfl⟩
  have hwords : ∀ row ∈ ratedRows, (row.cell "q").IsOf .word := by
    simp only [ratedRows, List.forall_mem_cons, List.not_mem_nil, IsEmpty.forall_iff, implies_true,
      and_true]
    exact ⟨trivial, trivial, trivial, trivial, trivial⟩
  refine List.forall_mem_cons.2 ⟨?_, List.forall_mem_cons.2 ⟨?_, by simp⟩⟩
  · exact (Cell.consistentOn_isOf .number).mono (List.forall_mem_map.2 hnumbers)
  · exact (Cell.consistentOn_isOf .word).mono (List.forall_mem_map.2 hwords)

/-- The rows that tie stay in their order, though both directions are turned around. -/
theorem sortRows_stable_rated :
    (∀ k ∈ ratedSorts, ConsistentOn (· ∈ ratedRows.map (Row.cell · k.property)) Cell.order) ∧
    (sortRows Row.cell ratedSorts ratedRows).filter
        (Tied Row.cell ratedSorts (ratedRow "a" (.number 2) "x") ·)
      = [ratedRow "a" (.number 2) "x", ratedRow "e" (.number 2) "x"] ∧
    sortRows Row.cell ratedSorts ratedRows
      = sortRows Row.cell [⟨"p", .desc⟩] (sortRows Row.cell [⟨"q", .desc⟩] ratedRows) := by
  obtain ⟨-, -, hties, hsteps⟩ := sortRows_stable consistentOn_rated
  exact ⟨consistentOn_rated, hties _ List.mem_cons_self, hsteps⟩

/-- A few rows whose ratings stand in a circle are inserted one by one, here each behind the last. -/
example : (sortRows Row.cell [⟨"p", .asc⟩] [ratedRow "a" (.number 9) "", ratedRow "b" (.number 10) "",
    ratedRow "c" (.text "5") ""]).map (·.id) = ["a", "b", "c"] := by
  decide +kernel

end Rated

end Databook
