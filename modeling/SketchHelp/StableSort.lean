/-!
Sorting by a numeric key so that equal keys keep their order. Lists that arrive nearly
sorted, as source order does, cost little more than one pass.
-/

namespace SketchHelp

namespace StableSort

variable {α : Type} (precedes : α → α → Bool)

/-- Puts `a` in front of the first element that it may precede. -/
def insert (a : α) : List α → List α
  | [] => [a]
  | b :: rest => if precedes a b then a :: b :: rest else b :: insert a rest

/-- Sorts by insertion from the back; `precedes` holds of equal elements. -/
def sort : List α → List α
  | [] => []
  | a :: rest => insert precedes a (sort rest)

/-- Each element may precede the one after it. -/
def isSorted : List α → Bool
  | [] => true
  | [_] => true
  | a :: b :: rest => precedes a b && isSorted (b :: rest)

theorem insert_perm (a : α) (l : List α) : (insert precedes a l).Perm (a :: l) := by
  induction l with
  | nil => exact .refl _
  | cons b rest ih =>
    unfold insert
    split
    · exact .refl _
    · exact (ih.cons b).trans (.swap a b rest)

theorem sort_perm (l : List α) : (sort precedes l).Perm l := by
  induction l with
  | nil => exact .refl _
  | cons a rest ih => exact (insert_perm precedes a _).trans (ih.cons a)

theorem sort_of_isSorted {l : List α} (h : isSorted precedes l = true) :
    sort precedes l = l := by
  induction l with
  | nil => rfl
  | cons a rest ih =>
    cases rest with
    | nil => rfl
    | cons b rest =>
      simp only [isSorted, Bool.and_eq_true] at h
      rw [sort, ih h.2, insert, if_pos h.1]

theorem insert_map {β : Type} {f : α → β} {precedes : α → α → Bool} {follows : β → β → Bool}
    (same : ∀ a b, follows (f a) (f b) = precedes a b) (a : α) (l : List α) :
    insert follows (f a) (l.map f) = (insert precedes a l).map f := by
  induction l with
  | nil => rfl
  | cons b rest ih =>
      rw [List.map_cons, insert, insert, same]
      split
      · rfl
      · rw [ih, List.map_cons]

theorem sort_map {β : Type} {f : α → β} {precedes : α → α → Bool} {follows : β → β → Bool}
    (same : ∀ a b, follows (f a) (f b) = precedes a b) (l : List α) :
    sort follows (l.map f) = (sort precedes l).map f := by
  induction l with
  | nil => rfl
  | cons a rest ih => rw [List.map_cons, sort, sort, ih, insert_map same]

/-! ### Sorted output

A comparison that is total and transitive puts every pair of the output in order. Where
it also tells different elements apart, the order of the input leaves no trace. -/

section Order

variable (total : ∀ a b, precedes a b = true ∨ precedes b a = true)
  (trans : ∀ a b c, precedes a b = true → precedes b c = true → precedes a c = true)

include total trans

theorem pairwise_insert (a : α) {l : List α} (h : l.Pairwise (precedes · ·)) :
    (insert precedes a l).Pairwise (precedes · ·) := by
  induction l with
  | nil => exact List.pairwise_singleton ..
  | cons b rest ih =>
    obtain ⟨first, others⟩ := List.pairwise_cons.mp h
    by_cases hab : precedes a b = true
    · rw [insert, if_pos hab]
      refine List.pairwise_cons.mpr ⟨fun c hc => ?_, h⟩
      rcases List.mem_cons.mp hc with rfl | later
      · exact hab
      · exact trans a b c hab (first c later)
    · rw [insert, if_neg hab]
      refine List.pairwise_cons.mpr ⟨fun c hc => ?_, ih others⟩
      rcases List.mem_cons.mp ((insert_perm precedes a rest).mem_iff.mp hc) with rfl | later
      · exact (total c b).resolve_left hab
      · exact first c later

theorem pairwise_sort (l : List α) : (sort precedes l).Pairwise (precedes · ·) := by
  induction l with
  | nil => exact List.Pairwise.nil
  | cons a rest ih => exact pairwise_insert precedes total trans a ih

/-- Where no two elements of a sorted list tie, it is what every rearrangement of it is
sorted into. -/
theorem sort_eq_of_perm {l sorted : List α} (perm : l.Perm sorted)
    (h : sorted.Pairwise (precedes · ·))
    (antisymm : ∀ a ∈ sorted, ∀ b ∈ sorted,
      precedes a b = true → precedes b a = true → a = b) :
    sort precedes l = sorted := by
  have rearranged : (sort precedes l).Perm sorted := (sort_perm precedes l).trans perm
  refine List.Perm.eq_of_pairwise (fun a b ha hb => ?_)
    (pairwise_sort precedes total trans l) h rearranged
  exact antisymm a (rearranged.mem_iff.mp ha) b hb

end Order

/-! ### Sorting by a key

Elements of one key stay in the order in which they came. That and the increasing keys
leave no choice: there is one stable sort of a list. -/

section Key

variable (key : α → Nat)

theorem filter_swap (p q : α → Bool) (l : List α) :
    (l.filter p).filter q = (l.filter q).filter p := by
  simp only [List.filter_filter, Bool.and_comm]

/-- `sorted` has the elements of `l` with increasing keys, those of one key as in `l`. -/
structure IsStableSort (l sorted : List α) : Prop where
  perm : sorted.Perm l
  ordered : sorted.Pairwise (key · ≤ key ·)
  stable : ∀ k, sorted.filter (key · = k) = l.filter (key · = k)

theorem filter_insert (k : Nat) (a : α) (l : List α) :
    (insert (key · ≤ key ·) a l).filter (key · = k) = (a :: l).filter (key · = k) := by
  induction l with
  | nil => rfl
  | cons b rest ih =>
      rw [insert]
      split
      · rfl
      · next after =>
        have apart : ¬(key a = k ∧ key b = k) := by
          simp only [decide_eq_true_eq] at after
          omega
        rw [List.filter_cons, ih]
        by_cases ha : key a = k <;> by_cases hb : key b = k <;> simp_all

theorem isStableSort_sort (l : List α) :
    IsStableSort key l (sort (key · ≤ key ·) l) where
  perm := sort_perm _ l
  ordered := by
    refine (pairwise_sort (key · ≤ key ·) ?_ ?_ l).imp of_decide_eq_true
    · intro a b
      simpa using Nat.le_total (key a) (key b)
    · intro a b c
      simpa using Nat.le_trans
  stable k := by
    induction l with
    | nil => rfl
    | cons a rest ih => rw [sort, filter_insert, List.filter_cons, List.filter_cons, ih]

theorem isSorted_iff_pairwise (l : List α) :
    isSorted (key · ≤ key ·) l = true ↔ l.Pairwise (key · ≤ key ·) := by
  induction l with
  | nil => simp [isSorted]
  | cons a rest ih =>
      cases rest with
      | nil => simp [isSorted]
      | cons b rest =>
          rw [isSorted, Bool.and_eq_true, ih, decide_eq_true_eq,
            List.pairwise_cons (l := b :: rest)]
          constructor
          · rintro ⟨first, ordered⟩
            refine ⟨fun c hc => ?_, ordered⟩
            rcases List.mem_cons.mp hc with rfl | later
            · exact first
            · exact Nat.le_trans first ((List.pairwise_cons.mp ordered).1 c later)
          · rintro ⟨least, ordered⟩
            exact ⟨least b List.mem_cons_self, ordered⟩

namespace IsStableSort

variable {key} {l other sorted sorted' : List α}

/-- A stable sort is one of every list that has the same elements for each key. -/
theorem of_perm (h : IsStableSort key l sorted) (perm : l.Perm other)
    (same : ∀ k, l.filter (key · = k) = other.filter (key · = k)) :
    IsStableSort key other sorted :=
  ⟨h.perm.trans perm, h.ordered, fun k => (h.stable k).trans (same k)⟩

protected theorem filter (h : IsStableSort key l sorted) (p : α → Bool) :
    IsStableSort key (l.filter p) (sorted.filter p) where
  perm := h.perm.filter p
  ordered := h.ordered.filter p
  stable k := by rw [filter_swap, h.stable, filter_swap]

theorem head_le {a b : α} {rest : List α} (h : IsStableSort key l (b :: rest)) (mem : a ∈ l) :
    key b ≤ key a := by
  rcases List.mem_cons.mp (h.perm.mem_iff.mpr mem) with rfl | later
  · exact Nat.le_refl _
  · exact (List.pairwise_cons.mp h.ordered).1 a later

theorem unique (h : IsStableSort key l sorted) (h' : IsStableSort key l sorted') :
    sorted = sorted' := by
  induction sorted generalizing l sorted' with
  | nil => exact ((h'.perm.trans h.perm.symm).eq_nil).symm
  | cons a rest ih =>
      cases sorted' with
      | nil => exact (h.perm.trans h'.perm.symm).eq_nil
      | cons b rest' =>
          have same k : (a :: rest).filter (key · = k) = (b :: rest').filter (key · = k) :=
            (h.stable k).trans (h'.stable k).symm
          -- Neither head comes before the other, so both are the first of one key.
          have tie : key a = key b :=
            Nat.le_antisymm (h.head_le (h'.perm.mem_iff.mp List.mem_cons_self))
              (h'.head_le (h.perm.mem_iff.mp List.mem_cons_self))
          have heads : a = b := by
            have := same (key a)
            simp only [List.filter_cons, tie, decide_true, if_true] at this
            exact (List.cons.inj this).1
          subst heads
          congr 1
          refine ih ⟨.refl _, h.ordered.of_cons, fun k => rfl⟩
            ⟨(h'.perm.trans h.perm.symm).cons_inv, h'.ordered.of_cons, fun k => ?_⟩
          have := same k
          simp only [List.filter_cons] at this
          split at this
          · exact (List.cons.inj this).2.symm
          · exact this.symm

theorem eq_sort (h : IsStableSort key l sorted) : sorted = sort (key · ≤ key ·) l :=
  h.unique (isStableSort_sort key l)

/-- Elements of large keys stand behind the first one of a sorted list. -/
theorem head?_filter_le (h : IsStableSort key l sorted) {a : α} (mem : a ∈ l) :
    (sorted.filter (key · ≤ key a)).head? = sorted.head? := by
  cases sorted with
  | nil => rfl
  | cons b rest => simp [h.head_le mem]

end IsStableSort

end Key

end StableSort

end SketchHelp
