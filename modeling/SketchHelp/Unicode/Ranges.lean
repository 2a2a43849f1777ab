/-!
A character class as a sorted list of inclusive ranges of code points. Looking a
number up stops at the first range that lies beyond it, so the low code points,
which are nearly all that sketches contain, are settled within a few steps.
-/

namespace SketchHelp.Unicode

/-- Inclusive ranges of code points, ascending and disjoint. -/
abbrev Ranges := List (Nat × Nat)

namespace Ranges

/-- Whether `n` lies in one of the ranges. -/
def has : Ranges → Nat → Bool
  | [], _ => false
  | (low, high) :: rest, n => if n < low then false else n ≤ high || has rest n

/-- Distance from `n` to the start of its range, if it lies in one. -/
def offset? : Ranges → Nat → Option Nat
  | [], _ => none
  | (low, high) :: rest, n =>
    if n < low then none else if n ≤ high then some (n - low) else offset? rest n

theorem exists_mem_of_has {r : Ranges} {n : Nat} (h : r.has n = true) :
    ∃ range ∈ r, range.1 ≤ n ∧ n ≤ range.2 := by
  induction r with
  | nil => cases h
  | cons range rest ih =>
    obtain ⟨low, high⟩ := range
    rw [has] at h
    split at h
    · cases h
    · next above =>
      rcases Bool.or_eq_true_iff.mp h with within | later
      · exact ⟨_, List.mem_cons_self, Nat.not_lt.mp above, of_decide_eq_true within⟩
      · obtain ⟨found, mem, bounds⟩ := ih later
        exact ⟨found, List.mem_cons_of_mem _ mem, bounds⟩

/-- No range of one class meets a range of the other. -/
def AreApart (r s : Ranges) : Prop :=
  ∀ a ∈ r, ∀ b ∈ s, a.2 < b.1 ∨ b.2 < a.1

instance (r s : Ranges) : Decidable (AreApart r s) :=
  inferInstanceAs (Decidable (∀ a ∈ r, ∀ b ∈ s, a.2 < b.1 ∨ b.2 < a.1))

theorem AreApart.not_has {r s : Ranges} {n : Nat} (apart : AreApart r s) (h : r.has n = true) :
    ¬ s.has n = true := by
  intro other
  obtain ⟨a, mem, low, high⟩ := exists_mem_of_has h
  obtain ⟨b, mem', low', high'⟩ := exists_mem_of_has other
  have := apart a mem b mem'
  omega

/-! ### Two classes side by side -/

/-- Ranges in the order of their starts. -/
def isAscending : Ranges → Bool
  | [] => true
  | range :: rest => rest.head?.all (range.1 ≤ ·.1) && isAscending rest

/-- Goes along two ascending classes at once: what ends before one range of the first is
behind all the later ones, and what is ahead has to start beyond it. -/
def sweep : Ranges → Ranges → Bool
  | [], _ => true
  | (low, high) :: rest, s =>
    let ahead := s.dropWhile (·.2 < low)
    ahead.head?.all (high < ·.1) && sweep rest ahead

theorem le_of_isAscending {first : Nat × Nat} {rest : Ranges}
    (h : isAscending (first :: rest) = true) : ∀ range ∈ rest, first.1 ≤ range.1 := by
  induction rest generalizing first with
  | nil => nofun
  | cons second rest ih =>
      obtain ⟨step, later⟩ := Bool.and_eq_true_iff.mp h
      have le : first.1 ≤ second.1 := of_decide_eq_true step
      refine List.forall_mem_cons.mpr ⟨le, fun range mem => ?_⟩
      exact Nat.le_trans le (ih later range mem)

theorem isAscending_dropWhile {r : Ranges} (h : r.isAscending = true) (p : Nat × Nat → Bool) :
    isAscending (r.dropWhile p) = true := by
  induction r with
  | nil => rfl
  | cons range rest ih =>
      rw [List.dropWhile_cons]
      split
      · exact ih (Bool.and_eq_true_iff.mp h).2
      · exact h

theorem areApart_of_sweep {r s : Ranges} (hr : r.isAscending = true) (hs : s.isAscending = true)
    (h : sweep r s = true) : AreApart r s := by
  induction r generalizing s with
  | nil => nofun
  | cons range rest ih =>
      obtain ⟨low, high⟩ := range
      obtain ⟨front, later⟩ := Bool.and_eq_true_iff.mp h
      have ascending := isAscending_dropWhile hs (·.2 < low)
      have beyond := ih (Bool.and_eq_true_iff.mp hr).2 ascending later
      intro a ha b hb
      rw [← List.takeWhile_append_dropWhile (p := (·.2 < low)) (l := s)] at hb
      rcases List.mem_append.mp hb with behind | ahead
      · have before : b.2 < low :=
          of_decide_eq_true (List.all_eq_true.mp List.all_takeWhile b behind)
        rcases List.mem_cons.mp ha with rfl | ha
        · exact .inr before
        · exact .inr (Nat.lt_of_lt_of_le before (le_of_isAscending hr a ha))
      · rcases List.mem_cons.mp ha with rfl | ha
        · generalize s.dropWhile (·.2 < low) = rest at *
          cases rest with
          | nil => cases ahead
          | cons first others =>
              have start : high < first.1 := of_decide_eq_true front
              rcases List.mem_cons.mp ahead with rfl | ahead
              · exact .inl start
              · exact .inl (Nat.lt_of_lt_of_le start (le_of_isAscending ascending b ahead))
        · exact beyond a ha b ahead

end Ranges

end SketchHelp.Unicode
