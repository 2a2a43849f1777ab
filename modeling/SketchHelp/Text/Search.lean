import SketchHelp.Text.CodePoint

/-!
Finding and cutting. Offsets are plain numbers; a search that fails says so with
`none`, and a cut beyond either end of the text stops at that end.
-/

namespace SketchHelp.Text

/-- The part of `t` from offset `low` up to offset `high`. -/
def slice (t : Text) (low high : Nat) : Text :=
  (t.take high).drop low

/-- Where a cut at `offset` falls in a text of `length` code points: a negative
offset counts back from the end. -/
def cutPoint (length : Nat) (offset : Int) : Nat :=
  if 0 ≤ offset then min offset.toNat length else (length + offset).toNat

/-- First offset at which `pattern` starts, among the next `count` offsets; `rest` is
the text from offset `position` on. -/
def scan (pattern rest : Text) (position : Nat) : Nat → Option Nat
  | 0 => none
  | count + 1 =>
    if pattern.isPrefixOf rest then some position
    else scan pattern rest.tail (position + 1) count

/-- First occurrence of `pattern` that lies between the offsets `low` and `high`. -/
def indexWithin? (t pattern : Text) (low high : Nat) : Option Nat :=
  scan pattern (t.drop low) low (min high t.length + 1 - (low + pattern.length))

/-- First occurrence of `pattern`. -/
def index? (t pattern : Text) : Option Nat :=
  t.indexWithin? pattern 0 t.length

/-- Offset of the last `c`. -/
def lastIndex? (c : CodePoint) : Text → Option Nat
  | [] => none
  | d :: rest =>
    match lastIndex? c rest with
    | some i => some (i + 1)
    | none => if d = c then some 0 else none

/-- The longest end of `t` in which every code point satisfies `p`. -/
def takeWhileEnd (p : CodePoint → Bool) (t : Text) : Text :=
  (t.reverse.takeWhile p).reverse

/-- What is left before `takeWhileEnd`. -/
def dropWhileEnd (p : CodePoint → Bool) (t : Text) : Text :=
  (t.reverse.dropWhile p).reverse

@[simp] theorem dropWhileEnd_append_takeWhileEnd (p : CodePoint → Bool) (t : Text) :
    t.dropWhileEnd p ++ t.takeWhileEnd p = t := by
  simp [dropWhileEnd, takeWhileEnd, ← List.reverse_append]

section

variable {p : CodePoint → Bool} {t run rest : Text} {c : CodePoint}

theorem takeWhile_append_of_head? (inside : ∀ c ∈ run, p c = true)
    (edge : ∀ c ∈ rest.head?, ¬ p c = true) : (run ++ rest).takeWhile p = run := by
  rw [List.takeWhile_append_of_pos inside]
  cases rest with
  | nil => simp
  | cons c rest => rw [List.takeWhile_cons_of_neg (edge c rfl), List.append_nil]

/-- What does not go on with a run does not lengthen it. -/
theorem takeWhile_append_of_edge (t : Text) (edge : ∀ c ∈ rest.head?, ¬ p c = true) :
    (t ++ rest).takeWhile p = t.takeWhile p := by
  induction t with
  | nil =>
      have none : ∀ c ∈ ([] : Text), p c = true := nofun
      exact takeWhile_append_of_head? none edge
  | cons c t ih => rw [List.cons_append, List.takeWhile_cons, List.takeWhile_cons, ih]

theorem dropWhile_append_of_head? (inside : ∀ c ∈ run, p c = true)
    (edge : ∀ c ∈ rest.head?, ¬ p c = true) : (run ++ rest).dropWhile p = rest := by
  rw [List.dropWhile_append_of_pos inside]
  cases rest with
  | nil => rfl
  | cons c rest => rw [List.dropWhile_cons_of_neg (edge c rfl)]

theorem takeWhileEnd_append_of_getLast? (inside : ∀ c ∈ run, p c = true)
    (edge : ∀ c ∈ t.getLast?, ¬ p c = true) : (t ++ run).takeWhileEnd p = run := by
  have inside' : ∀ c ∈ run.reverse, p c = true := fun c mem => inside c (List.mem_reverse.mp mem)
  have edge' : ∀ c ∈ t.reverse.head?, ¬ p c = true := by rwa [List.head?_reverse]
  rw [takeWhileEnd, List.reverse_append, takeWhile_append_of_head? inside' edge',
    List.reverse_reverse]

theorem dropWhileEnd_append_of_getLast? (inside : ∀ c ∈ run, p c = true)
    (edge : ∀ c ∈ t.getLast?, ¬ p c = true) : (t ++ run).dropWhileEnd p = t := by
  have inside' : ∀ c ∈ run.reverse, p c = true := fun c mem => inside c (List.mem_reverse.mp mem)
  have edge' : ∀ c ∈ t.reverse.head?, ¬ p c = true := by rwa [List.head?_reverse]
  rw [dropWhileEnd, List.reverse_append, dropWhile_append_of_head? inside' edge',
    List.reverse_reverse]

theorem dropWhileEnd_eq_self (edge : ∀ c ∈ t.getLast?, ¬ p c = true) : t.dropWhileEnd p = t := by
  have none : ∀ c ∈ ([] : Text), p c = true := nofun
  have whole := dropWhileEnd_append_of_getLast? none edge
  rwa [List.append_nil] at whole

theorem of_mem_takeWhileEnd (h : c ∈ t.takeWhileEnd p) : p c = true :=
  List.all_eq_true.mp List.all_takeWhile c (List.mem_reverse.mp h)

theorem not_of_mem_getLast?_dropWhileEnd (h : c ∈ (t.dropWhileEnd p).getLast?) :
    ¬ p c = true := by
  rw [dropWhileEnd, List.getLast?_reverse] at h
  have := List.head?_dropWhile_not p t.reverse
  rw [Option.mem_def.mp h] at this
  simpa using this

end

theorem getElem?_of_lastIndex? {c : CodePoint} {t : Text} {i : Nat}
    (h : lastIndex? c t = some i) : t[i]? = some c := by
  induction t generalizing i with
  | nil => cases h
  | cons d rest ih =>
      rw [lastIndex?] at h
      split at h
      · rename_i j later
        cases h
        rw [List.getElem?_cons_succ]
        exact ih later
      · split at h
        · rename_i here
          cases h
          exact congrArg some here
        · cases h

theorem lastIndex?_eq_none_iff {c : CodePoint} {t : Text} : lastIndex? c t = none ↔ c ∉ t := by
  induction t with
  | nil => simp [lastIndex?]
  | cons d rest ih =>
      rw [lastIndex?, List.mem_cons, not_or, ← ih]
      cases lastIndex? c rest with
      | some i => simp
      | none => simp [eq_comm]

theorem le_of_lastIndex? {c : CodePoint} {t : Text} {i k : Nat}
    (h : lastIndex? c t = some i) (there : t[k]? = some c) : k ≤ i := by
  induction t generalizing i k with
  | nil => cases h
  | cons d rest ih =>
      cases k with
      | zero => exact Nat.zero_le i
      | succ k =>
          rw [List.getElem?_cons_succ] at there
          rw [lastIndex?] at h
          split at h
          · rename_i j later
            cases h
            exact Nat.succ_le_succ (ih later there)
          · rename_i absent
            exact absurd (List.mem_of_getElem? there) (lastIndex?_eq_none_iff.mp absent)

theorem lastIndex?_eq_some_iff {c : CodePoint} {t : Text} {i : Nat} :
    lastIndex? c t = some i ↔ t[i]? = some c ∧ ∀ k, t[k]? = some c → k ≤ i := by
  refine ⟨fun h => ⟨getElem?_of_lastIndex? h, fun k => le_of_lastIndex? h⟩, fun h => ?_⟩
  cases found : lastIndex? c t with
  | none => exact absurd (List.mem_of_getElem? h.1) (lastIndex?_eq_none_iff.mp found)
  | some k =>
      have := le_of_lastIndex? found h.1
      have := h.2 k (getElem?_of_lastIndex? found)
      exact congrArg some (by omega)

theorem scan_mem_range {pattern rest : Text} {position count found : Nat}
    (h : scan pattern rest position count = some found) :
    position ≤ found ∧ found < position + count := by
  induction count generalizing rest position with
  | zero => simp [scan] at h
  | succ count ih =>
    unfold scan at h
    split at h
    · simp only [Option.some.injEq] at h
      omega
    · have := ih h
      omega

theorem indexWithin?_bounds {t pattern : Text} {low high found : Nat}
    (h : t.indexWithin? pattern low high = some found) :
    low ≤ found ∧ found + pattern.length ≤ high ∧ found + pattern.length ≤ t.length := by
  have := scan_mem_range h
  omega

theorem isPrefixOf_of_scan {pattern rest : Text} {position count found : Nat}
    (h : scan pattern rest position count = some found) :
    pattern.isPrefixOf (rest.drop (found - position)) = true := by
  induction count generalizing rest position with
  | zero => cases h
  | succ count ih =>
    unfold scan at h
    split at h
    · rename_i here
      rw [← Option.some.inj h, Nat.sub_self]
      exact here
    · have later := ih h
      have bound := (scan_mem_range h).1
      rw [← List.drop_one, List.drop_drop] at later
      rwa [show 1 + (found - (position + 1)) = found - position by omega] at later

/-- What is found is the pattern. -/
theorem slice_of_indexWithin? {t pattern : Text} {low high found : Nat}
    (h : t.indexWithin? pattern low high = some found) :
    t.slice found (found + pattern.length) = pattern := by
  have bounds := indexWithin?_bounds h
  have here := isPrefixOf_of_scan h
  rw [List.drop_drop, show low + (found - low) = found by omega] at here
  obtain ⟨after, eq⟩ := List.isPrefixOf_iff_prefix.mp here
  rw [slice, List.drop_take, ← eq, Nat.add_sub_cancel_left, List.take_left]

theorem length_slice (t : Text) (low high : Nat) :
    (t.slice low high).length = min high t.length - low := by
  rw [slice, List.length_drop, List.length_take]

theorem getElem?_slice (t : Text) (low high i : Nat) :
    (t.slice low high)[i]? = if low + i < high then t[low + i]? else none := by
  rw [slice, List.getElem?_drop, List.getElem?_take]

theorem drop_eq_slice (t : Text) (low : Nat) : t.drop low = t.slice low t.length := by
  rw [slice, List.take_length]

/-- The last code point of a part stands right before its end. -/
theorem slice_succ {t : Text} {low i : Nat} {c : CodePoint} (le : low ≤ i)
    (here : t[i]? = some c) : t.slice low (i + 1) = t.slice low i ++ [c] := by
  have bound := (List.getElem?_eq_some_iff.mp here).1
  rw [slice, List.take_add_one, here, Option.toList_some,
    List.drop_append_of_le_length (by rw [List.length_take]; omega), slice]

theorem slice_eq_cons {t : Text} {low high : Nat} {c : CodePoint} (lt : low < high)
    (here : t[low]? = some c) : t.slice low high = c :: t.slice (low + 1) high := by
  have there : (t.take high)[low]? = some c := by rw [List.getElem?_take, if_pos lt, here]
  obtain ⟨inside, eq⟩ := List.getElem?_eq_some_iff.mp there
  rw [slice, List.drop_eq_getElem_cons inside, eq, slice]

/-- Behind its first part a text reads as its second part does. -/
theorem getElem?_length_add_append (a b : Text) (i : Nat) :
    (a ++ b)[a.length + i]? = b[i]? := by
  rw [List.getElem?_append_right (Nat.le_add_right _ _), Nat.add_sub_cancel_left]

end SketchHelp.Text
