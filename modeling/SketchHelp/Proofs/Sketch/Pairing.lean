import Mathlib.Data.List.Nodup
import SketchHelp.Brace

/-!
The partners of braces and parentheses, from one pass over the text. The pass keeps the
openers that are still open on a stack, and pairs each closer with the innermost of them.
Both searches for a partner agree with it on every text: the counter of the search to the
right tells how many groups lie above the opener on the stack, and that of the search to
the left how many have to be taken off before it. So partners are mutual, an opener has its
partner to the right, and two pairs are nested or apart, balanced or not as the text may be.
-/

namespace SketchHelp.Brace

/-! ### The pass -/

/-- The positions of the open openers after the code point at `position`, the innermost
first. A closer that closes nothing changes nothing. -/
def stackAfter (stack : List Nat) (position : Nat) (c : CodePoint) : List Nat :=
  if c.isOpener then position :: stack
  else if c.isCloser then stack.tail
  else stack

/-- The pairs of an opener and a closer in the text from `position` on. -/
def pairs (stack : List Nat) (position : Nat) : Text → List (Nat × Nat)
  | [] => []
  | c :: rest =>
    let later := pairs (stackAfter stack position c) (position + 1) rest
    if c.isCloser then (stack.head?.map (·, position)).toList ++ later else later

section

variable {stack : List Nat} {position : Nat} {c : CodePoint} {rest t : Text} {i j : Nat}

theorem stackAfter_of_isOpener (h : c.isOpener = true) :
    stackAfter stack position c = position :: stack :=
  if_pos h

theorem stackAfter_of_isCloser (h : c.isCloser = true) :
    stackAfter stack position c = stack.tail := by
  rw [stackAfter, if_neg (CodePoint.not_isOpener_of_isCloser h), if_pos h]

theorem stackAfter_of_plain (hopener : ¬ c.isOpener = true) (hcloser : ¬ c.isCloser = true) :
    stackAfter stack position c = stack := by
  rw [stackAfter, if_neg hopener, if_neg hcloser]

theorem pairs_cons_of_not_isCloser (h : ¬ c.isCloser = true) :
    pairs stack position (c :: rest) =
      pairs (stackAfter stack position c) (position + 1) rest :=
  if_neg h

theorem pairs_cons_of_isOpener (h : c.isOpener = true) :
    pairs stack position (c :: rest) = pairs (position :: stack) (position + 1) rest := by
  rw [pairs_cons_of_not_isCloser (CodePoint.not_isCloser_of_isOpener h),
    stackAfter_of_isOpener h]

theorem pairs_cons_of_isCloser (h : c.isCloser = true) :
    pairs stack position (c :: rest) = (stack.head?.map (·, position)).toList ++
      pairs (stackAfter stack position c) (position + 1) rest :=
  if_pos h

theorem mem_pairs_cons_iff :
    (i, j) ∈ pairs stack position (c :: rest) ↔
      (c.isCloser = true ∧ stack.head? = some i ∧ j = position) ∨
        (i, j) ∈ pairs (stackAfter stack position c) (position + 1) rest := by
  rw [pairs]
  split
  · rename_i closer
    rw [List.mem_append, Option.mem_toList, Option.map_eq_some_iff]
    simp only [closer, true_and, Prod.mk.injEq]
    constructor
    · rintro (⟨top, head, rfl, rfl⟩ | later)
      · exact .inl ⟨head, rfl⟩
      · exact .inr later
    · rintro (⟨head, rfl⟩ | later)
      · exact .inl ⟨i, head, rfl, rfl⟩
      · exact .inr later
  · rename_i plain
    simp [plain]

theorem mem_of_mem_stackAfter (h : i ∈ stackAfter stack position c) :
    i ∈ stack ∨ i = position ∧ c.isOpener = true := by
  unfold stackAfter at h
  split at h
  · rename_i opener
    rcases List.mem_cons.mp h with rfl | old
    · exact .inr ⟨rfl, opener⟩
    · exact .inl old
  split at h
  · exact .inl (List.mem_of_mem_tail h)
  · exact .inl h

/-- A pair joins an opener, of the text or one that was open before it, and a closer of
the text. -/
theorem of_mem_pairs (h : (i, j) ∈ pairs stack position t) :
    (i ∈ stack ∨ position ≤ i ∧ ∃ c, t[i - position]? = some c ∧ c.isOpener = true) ∧
      position ≤ j ∧ ∃ c, t[j - position]? = some c ∧ c.isCloser = true := by
  induction t generalizing stack position with
  | nil => cases h
  | cons c rest ih =>
      have next {k : Nat} (le : position + 1 ≤ k) :
          (c :: rest)[k - position]? = rest[k - (position + 1)]? := by
        rw [show k - position = k - (position + 1) + 1 by omega, List.getElem?_cons_succ]
      rcases mem_pairs_cons_iff.mp h with ⟨closer, head, rfl⟩ | later
      · refine ⟨.inl (List.mem_of_mem_head? head), Nat.le_refl _, c, ?_, closer⟩
        rw [Nat.sub_self, List.getElem?_cons_zero]
      · obtain ⟨opened, le, closed⟩ := ih later
        refine ⟨?_, Nat.le_of_succ_le le, by rwa [next le]⟩
        rcases opened with old | ⟨lower, opener⟩
        · rcases mem_of_mem_stackAfter old with old | ⟨rfl, opener⟩
          · exact .inl old
          · refine .inr ⟨Nat.le_refl _, c, ?_, opener⟩
            rw [Nat.sub_self, List.getElem?_cons_zero]
        · exact .inr ⟨Nat.le_of_succ_le lower, by rwa [next lower]⟩

/-- The stack grows upward through the text. -/
theorem pairwise_stackAfter (h : (position :: stack).Pairwise (· > ·)) (c : CodePoint) :
    ((position + 1) :: stackAfter stack position c).Pairwise (· > ·) := by
  obtain ⟨below, ordered⟩ := List.pairwise_cons.mp h
  unfold stackAfter
  split
  · refine List.pairwise_cons.mpr ⟨List.forall_mem_cons.mpr ⟨Nat.lt_succ_self _, ?_⟩, h⟩
    exact fun k hk => Nat.lt_succ_of_lt (below k hk)
  split
  · refine List.pairwise_cons.mpr ⟨fun k hk => ?_, ordered.sublist (List.tail_sublist _)⟩
    exact Nat.lt_succ_of_lt (below k (List.mem_of_mem_tail hk))
  · exact List.pairwise_cons.mpr ⟨fun k hk => Nat.lt_succ_of_lt (below k hk), ordered⟩

theorem notMem_of_ordered {top : Nat} {below : List Nat}
    (ordered : (position :: top :: below).Pairwise (· > ·)) : top ∉ below := by
  intro mem
  have others := (List.pairwise_cons.mp ordered).2
  exact Nat.lt_irrefl top ((List.pairwise_cons.mp others).1 top mem)

/-- What has been taken off the stack is paired no more. -/
theorem not_mem_pairs_of_ordered {top : Nat} {below : List Nat}
    (ordered : (position :: top :: below).Pairwise (· > ·)) :
    (top, j) ∉ pairs below (position + 1) t := by
  intro h
  rcases (of_mem_pairs h).1 with mem | ⟨le, -⟩
  · exact notMem_of_ordered ordered mem
  · have := (List.pairwise_cons.mp ordered).1 top List.mem_cons_self
    omega

end

/-! ### The search to the right -/

/-- The opener with `depth` groups above it on the stack is paired where the counter that
starts at `depth` comes back to zero. -/
theorem mem_pairs_iff_distance {t : Text} {stack : List Nat} {position depth i : Nat}
    (ordered : (position :: stack).Pairwise (· > ·)) (open' : stack[depth]? = some i)
    (k : Nat) :
    (i, position + k) ∈ pairs stack position t ↔
      distance CodePoint.isOpener CodePoint.isCloser depth t = some k := by
  induction t generalizing stack position depth k with
  | nil => simp [pairs, distance]
  | cons c rest ih =>
      -- What is paired later has its closer behind `c`.
      have later {above : Nat} (there : (stackAfter stack position c)[above]? = some i) :
          (i, position + k) ∈ pairs (stackAfter stack position c) (position + 1) rest ↔
            (distance CodePoint.isOpener CodePoint.isCloser above rest).map (· + 1) =
              some k := by
        cases k with
        | zero =>
            constructor
            · intro h
              have := (of_mem_pairs h).2.1
              omega
            · intro h
              obtain ⟨m, -, eq⟩ := Option.map_eq_some_iff.mp h
              omega
        | succ k =>
            have found := ih (pairwise_stackAfter ordered c) there k
            rw [show position + (k + 1) = position + 1 + k by omega, found,
              Option.map_eq_some_iff]
            simp
      by_cases opener : c.isOpener = true
      · have notCloser := CodePoint.not_isCloser_of_isOpener opener
        rw [pairs_cons_of_not_isCloser notCloser, distance_of_opens depth rest opener]
        apply later
        rw [stackAfter_of_isOpener opener, List.getElem?_cons_succ, open']
      · by_cases closer : c.isCloser = true
        · rw [mem_pairs_cons_iff]
          cases stack with
          | nil => cases open'
          | cons top below =>
              cases depth with
              | zero =>
                  obtain rfl := Option.some.inj open'
                  have gone : (top, position + k) ∉
                      pairs (stackAfter (top :: below) position c) (position + 1) rest := by
                    rw [stackAfter_of_isCloser closer]
                    exact not_mem_pairs_of_ordered ordered
                  rw [distance_zero_of_closes rest opener closer]
                  simp only [closer, gone, or_false, List.head?_cons, true_and,
                    Option.some.injEq]
                  omega
              | succ depth =>
                  have apart : ¬ (top :: below).head? = some i := by
                    intro same
                    obtain rfl := Option.some.inj same
                    exact notMem_of_ordered ordered (List.mem_of_getElem? open')
                  rw [distance_succ_of_closes depth rest opener closer]
                  simp only [apart, and_false, false_and, false_or]
                  apply later
                  rw [stackAfter_of_isCloser closer]
                  exact open'
        · rw [pairs_cons_of_not_isCloser closer, distance_of_plain depth rest opener closer]
          apply later
          rw [stackAfter_of_plain opener closer, open']

theorem mem_pairs_add_iff {t : Text} {stack : List Nat} {position k j : Nat} {c : CodePoint}
    (ordered : (position :: stack).Pairwise (· > ·)) (h : t[k]? = some c)
    (opener : c.isOpener = true) :
    (position + k, j) ∈ pairs stack position t ↔
      (distance CodePoint.isOpener CodePoint.isCloser 0 (t.drop (k + 1))).map
        (position + k + 1 + ·) = some j := by
  induction t generalizing stack position k with
  | nil => cases h
  | cons first rest ih =>
      have next := pairwise_stackAfter ordered first
      cases k with
      | zero =>
          obtain rfl := Option.some.inj h
          rw [stackAfter_of_isOpener opener] at next
          rw [pairs_cons_of_isOpener opener]
          have top : (position :: stack)[0]? = some position := rfl
          have found := mem_pairs_iff_distance (t := rest) next top
          rw [Option.map_eq_some_iff]
          constructor
          · intro mem
            obtain ⟨m, rfl⟩ := Nat.exists_eq_add_of_le (of_mem_pairs mem).2.1
            exact ⟨m, (found m).mp mem, rfl⟩
          · rintro ⟨m, distance, rfl⟩
            exact (found m).mpr distance
      | succ k =>
          have apart : ¬ stack.head? = some (position + (k + 1)) := by
            intro head
            have := (List.pairwise_cons.mp ordered).1 _ (List.mem_of_mem_head? head)
            omega
          have later := ih next h
          rw [mem_pairs_cons_iff, List.drop_succ_cons,
            show position + (k + 1) = position + 1 + k by omega, ← later]
          rw [show position + (k + 1) = position + 1 + k by omega] at apart
          simp only [apart, false_and, and_false, false_or]

/-- The pass and the search to the right agree. -/
theorem mem_pairs_iff_closerOf {t : Text} {i j : Nat} {c : CodePoint} (h : t[i]? = some c)
    (opener : c.isOpener = true) : (i, j) ∈ pairs [] 0 t ↔ closerOf t i = some j := by
  have found := mem_pairs_add_iff (j := j) (List.pairwise_singleton (· > ·) 0) h opener
  rwa [Nat.zero_add] at found

/-! ### The search to the left -/

/-- The stack holds the openers that are open after the text: the search to the left with
the counter at `depth` ends at the one that has `depth` others above it. -/
structure IsStackOf (before : Text) (stack : List Nat) : Prop where
  ordered : (before.length :: stack).Pairwise (· > ·)
  distance : ∀ depth, distance CodePoint.isCloser CodePoint.isOpener depth before.reverse =
    stack[depth]?.map (before.length - 1 - ·)

theorem isStackOf_nil : IsStackOf [] [] where
  ordered := List.pairwise_singleton _ _
  distance _ := rfl

section

variable {before : Text} {stack : List Nat}

theorem IsStackOf.lt_length (h : IsStackOf before stack) {depth i : Nat}
    (there : stack[depth]? = some i) : i < before.length :=
  (List.pairwise_cons.mp h.ordered).1 i (List.mem_of_getElem? there)

theorem IsStackOf.concat (h : IsStackOf before stack) (c : CodePoint) :
    IsStackOf (before ++ [c]) (stackAfter stack before.length c) where
  ordered := by
    rw [List.length_append, List.length_singleton]
    exact pairwise_stackAfter h.ordered c
  distance depth := by
    have further (above : Nat) :
        (Brace.distance CodePoint.isCloser CodePoint.isOpener above before.reverse).map (· + 1) =
          stack[above]?.map (before.length + 1 - 1 - ·) := by
      rw [h.distance, Option.map_map]
      refine Option.map_congr fun i there => ?_
      have := h.lt_length there
      show before.length - 1 - i + 1 = before.length + 1 - 1 - i
      omega
    rw [List.reverse_append, List.reverse_singleton, List.singleton_append,
      List.length_append, List.length_singleton]
    by_cases opener : c.isOpener = true
    · have notCloser := CodePoint.not_isCloser_of_isOpener opener
      rw [stackAfter_of_isOpener opener]
      cases depth with
      | zero =>
          rw [distance_zero_of_closes _ notCloser opener]
          simp
      | succ depth =>
          rw [distance_succ_of_closes _ _ notCloser opener, List.getElem?_cons_succ]
          exact further depth
    · by_cases closer : c.isCloser = true
      · rw [distance_of_opens _ _ closer, stackAfter_of_isCloser closer, List.getElem?_tail]
        exact further (depth + 1)
      · rw [distance_of_plain _ _ closer opener, stackAfter_of_plain opener closer]
        exact further depth

theorem IsStackOf.openerOf_length (h : IsStackOf before stack) (after : Text) :
    openerOf (before ++ after) before.length = stack.head? := by
  rw [openerOf, List.take_left, h.distance, Option.map_map, ← List.head?_eq_getElem?]
  refine (Option.map_congr fun i head => ?_).trans Option.map_id'
  have top : stack[0]? = some i := List.head?_eq_getElem? ▸ head
  have := h.lt_length top
  show before.length - 1 - (before.length - 1 - i) = i
  omega

theorem IsStackOf.mem_pairs_add_iff (h : IsStackOf before stack) {t : Text} {i k : Nat}
    {c : CodePoint} (there : t[k]? = some c) (closer : c.isCloser = true) :
    (i, before.length + k) ∈ pairs stack before.length t ↔
      openerOf (before ++ t) (before.length + k) = some i := by
  induction t generalizing before stack k with
  | nil => cases there
  | cons first rest ih =>
      rw [mem_pairs_cons_iff]
      cases k with
      | zero =>
          obtain rfl := Option.some.inj there
          rw [Nat.add_zero, h.openerOf_length]
          constructor
          · rintro (⟨-, head, -⟩ | later)
            · exact head
            · exact absurd (of_mem_pairs later).2.1 (Nat.not_succ_le_self _)
          · exact fun head => .inl ⟨closer, head, rfl⟩
      | succ k =>
          have later := ih (h.concat first) there
          rw [List.length_append, List.length_singleton, List.append_assoc,
            List.singleton_append] at later
          rw [show before.length + (k + 1) = before.length + 1 + k by omega, ← later]
          refine or_iff_right fun here => ?_
          omega

end

/-- The pass and the search to the left agree. -/
theorem mem_pairs_iff_openerOf {t : Text} {i j : Nat} {c : CodePoint} (h : t[j]? = some c)
    (closer : c.isCloser = true) : (i, j) ∈ pairs [] 0 t ↔ openerOf t j = some i := by
  have found := isStackOf_nil.mem_pairs_add_iff (i := i) h closer
  rwa [List.length_nil, Nat.zero_add, List.nil_append] at found

/-! ### Partners -/

/-- What the pass pairs are partners, whichever of them is asked about. -/
theorem partner_of_mem_pairs {t : Text} {i j : Nat} (h : (i, j) ∈ pairs [] 0 t) :
    partner t i = .ok (some j) ∧ partner t j = .ok (some i) := by
  obtain ⟨opened, -, d, closed, closer⟩ := of_mem_pairs h
  rcases opened with old | ⟨-, c, opened, opener⟩
  · cases old
  · rw [Nat.sub_zero] at opened closed
    rw [partner_of_isOpener opened opener, partner_of_isCloser closed closer]
    exact ⟨congrArg _ ((mem_pairs_iff_closerOf opened opener).mp h),
      congrArg _ ((mem_pairs_iff_openerOf closed closer).mp h)⟩

/-- A brace that the pass leaves alone has no partner. -/
theorem partner_of_forall_not_mem_pairs {t : Text} {i : Nat} {c : CodePoint}
    (h : t[i]? = some c) (brace : c.isOpener = true ∨ c.isCloser = true)
    (alone : ∀ j, (i, j) ∉ pairs [] 0 t ∧ (j, i) ∉ pairs [] 0 t) :
    partner t i = .ok none := by
  rcases brace with opener | closer
  · rw [partner_of_isOpener h opener]
    refine congrArg _ (Option.eq_none_iff_forall_not_mem.mpr fun j found => ?_)
    exact (alone j).1 ((mem_pairs_iff_closerOf h opener).mpr found)
  · rw [partner_of_isCloser h closer]
    refine congrArg _ (Option.eq_none_iff_forall_not_mem.mpr fun j found => ?_)
    exact (alone j).2 ((mem_pairs_iff_openerOf h closer).mpr found)

/-! ### The pairing of a text -/

/-- Of two pairs the one that opens later closes earlier, or opens after the other is
closed. -/
theorem nested_or_apart_of_mem_pairs {t : Text} {stack : List Nat} {position a b c d : Nat}
    (ordered : (position :: stack).Pairwise (· > ·)) (first : (a, b) ∈ pairs stack position t)
    (second : (c, d) ∈ pairs stack position t) (later : a < c) : d < b ∨ b < c := by
  induction t generalizing stack position with
  | nil => cases first
  | cons e rest ih =>
      rcases mem_pairs_cons_iff.mp first with ⟨closer, head, rfl⟩ | first
      · rcases mem_pairs_cons_iff.mp second with ⟨-, head', -⟩ | second
        · obtain rfl := Option.some.inj (head.symm.trans head')
          exact absurd later (Nat.lt_irrefl a)
        · -- What is open below the top of the stack was opened before it.
          rcases (of_mem_pairs second).1 with open' | ⟨le, -⟩
          · obtain ⟨below, rfl⟩ := List.head?_eq_some_iff.mp head
            rw [stackAfter_of_isCloser closer, List.tail_cons] at open'
            have stacked := (List.pairwise_cons.mp ordered).2
            have := (List.pairwise_cons.mp stacked).1 c open'
            omega
          · exact .inr le
      · rcases mem_pairs_cons_iff.mp second with ⟨-, -, rfl⟩ | second
        · exact .inl (of_mem_pairs first).2.1
        · exact ih (pairwise_stackAfter ordered e) first second

theorem exists_brace_of_partner {t : Text} {i : Nat} {found : Option Nat}
    (h : partner t i = .ok found) :
    ∃ c, t[i]? = some c ∧ (c.isOpener = true ∨ c.isCloser = true) := by
  cases there : t[i]? with
  | none =>
      rw [partner, if_neg (Int.not_lt.mpr (Int.natCast_nonneg i)), Int.toNat_natCast,
        there] at h
      cases h
  | some c =>
      rw [partner_natCast there, partnerOf?] at h
      split at h
      · next opener => exact ⟨c, rfl, .inl opener⟩
      · split at h
        · next closer => exact ⟨c, rfl, .inr closer⟩
        · cases h

theorem partner_eq_some_iff {t : Text} {i j : Nat} {c : CodePoint} (h : t[i]? = some c)
    (brace : c.isOpener = true ∨ c.isCloser = true) :
    partner t i = .ok (some j) ↔ (i, j) ∈ pairs [] 0 t ∨ (j, i) ∈ pairs [] 0 t := by
  refine ⟨fun found => ?_, ?_⟩
  · rcases brace with opener | closer
    · rw [partner_of_isOpener h opener] at found
      exact .inl ((mem_pairs_iff_closerOf h opener).mpr (Except.ok.inj found))
    · rw [partner_of_isCloser h closer] at found
      exact .inr ((mem_pairs_iff_openerOf h closer).mpr (Except.ok.inj found))
  · rintro (opens | closes)
    · exact (partner_of_mem_pairs opens).1
    · exact (partner_of_mem_pairs closes).2

/-- The braces and parentheses of a text have the partners that are listed. -/
structure IsPairedBy (t : Text) (listed : List (Nat × Nat)) : Prop where
  /-- A brace has the partner that it is listed with, and none if it is not listed. -/
  partner : ∀ (i : Nat) c, t[i]? = some c → c.isOpener = true ∨ c.isCloser = true →
    ∃ found, Brace.partner t i = .ok found ∧
      (∀ j, found = some j ↔ (i, j) ∈ listed ∨ (j, i) ∈ listed) ∧
      (found = none ↔ ∀ j, (i, j) ∉ listed ∧ (j, i) ∉ listed)
  symm : ∀ i j : Nat, Brace.partner t i = .ok (some j) → Brace.partner t j = .ok (some i)
  closed : ∀ (i j : Nat) c, t[i]? = some c → c.isOpener = true →
    Brace.partner t i = .ok (some j) → i < j ∧ ∃ d, t[j]? = some d ∧ d.isCloser = true
  nested : ∀ a b c d, (a, b) ∈ listed → (c, d) ∈ listed → a < c → d < b ∨ b < c

/-- Whatever the text, its braces have the partners that one pass with one stack gives
them. -/
theorem isPairedBy_pairs (t : Text) : IsPairedBy t (pairs [] 0 t) where
  partner i c h brace := by
    obtain ⟨found, eq⟩ : ∃ found, partner t i = .ok found := by
      rcases brace with opener | closer
      · exact ⟨_, partner_of_isOpener h opener⟩
      · exact ⟨_, partner_of_isCloser h closer⟩
    have listed (j : Nat) : found = some j ↔ (i, j) ∈ pairs [] 0 t ∨ (j, i) ∈ pairs [] 0 t := by
      rw [← partner_eq_some_iff h brace, eq, Except.ok.injEq]
    refine ⟨found, eq, listed, ?_⟩
    simp only [Option.eq_none_iff_forall_ne_some, ne_eq, listed, not_or]
  symm i j found := by
    obtain ⟨c, there, brace⟩ := exists_brace_of_partner found
    rcases (partner_eq_some_iff there brace).mp found with opens | closes
    · exact (partner_of_mem_pairs opens).2
    · exact (partner_of_mem_pairs closes).1
  closed i j c h opener found := by
    rw [partner_of_isOpener h opener] at found
    have listed := (mem_pairs_iff_closerOf h opener).mpr (Except.ok.inj found)
    obtain ⟨-, -, d, there, closer⟩ := of_mem_pairs listed
    exact ⟨(closerOf_gt (Except.ok.inj found)).1, d, there, closer⟩
  nested a b c d first second later :=
    nested_or_apart_of_mem_pairs (List.pairwise_singleton _ _) first second later

/-- A closer in front and an opener behind stay without a partner. -/
example : pairs [] 0 (Text.ofString ")(\x7b)\x7d\x7b") = [(2, 3), (1, 4)] := by decide

end SketchHelp.Brace
