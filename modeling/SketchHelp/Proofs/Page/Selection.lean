import SketchHelp.Page.Batch
import SketchHelp.Proofs.Problem.Classification

/-!
Which problem of a batch decides the page. Of the problems that count, those at the start
offset or behind it, the first in source order that has a hint is chosen, where source
order keeps problems of one start as the batch has them. Filter, test for order, sort and
search all come down to that choice. So it does not matter how the batch is arranged
beyond those ties, and problems that could not be chosen may come and go.
-/

namespace SketchHelp

/-- On the tree of a description every problem has an answer, be it a hint or none. -/
theorem Spec.exists_classify {spec : Spec} {source : Text} {offset : Option Int} {tree : Tree}
    (built : spec.toTree source offset = .ok tree) (diagnostic : Diagnostic) :
    ∃ hint, diagnostic.classify tree = .ok hint := by
  have located : Tree.Yields (tree.nodeAt diagnostic.span.toRange) (· ∈ tree.nodes) := by
    obtain ⟨start, outline, -, rfl⟩ := spec.exists_placed built
    exact Tree.nodeAt_yields outline source _
  have answered : Tree.Yields (diagnostic.classify tree) fun _ => True := by
    refine located.bind fun node mem => ?_
    rw [Diagnostic.hintAt]
    cases diagnostic.code with
    | raw number => exact .pure trivial
    | known problem =>
        exact ((spec.isSound_of_toTree built).hintFor_yields mem diagnostic problem).mono
          fun _ _ => trivial
  obtain ⟨hint, given, -⟩ := answered
  exact ⟨hint, given⟩

/-- `longer` is `l` with elements put in anywhere, all of which have a property. -/
inductive Inserted {α : Type} (property : α → Prop) : List α → List α → Prop
  | nil : Inserted property [] []
  | keep (a : α) {l longer : List α} :
      Inserted property l longer → Inserted property (a :: l) (a :: longer)
  | insert {a : α} {l longer : List α} :
      property a → Inserted property l longer → Inserted property l (a :: longer)

theorem Inserted.filter_eq {α : Type} {property : α → Prop} {l longer : List α}
    (h : Inserted property l longer) (p : α → Bool) (drops : ∀ a, property a → p a = false) :
    longer.filter p = l.filter p := by
  induction h with
  | nil => rfl
  | keep a _ ih => rw [List.filter_cons, List.filter_cons, ih]
  | insert ha _ ih => rw [List.filter_cons, drops _ ha, ih]; rfl

namespace Batch

/-- Where a problem starts. -/
abbrev start (diagnostic : Diagnostic) : Nat := diagnostic.span.start

/-- The problems that count. -/
def kept (batch : List Diagnostic) (startOffset : Int) : List Diagnostic :=
  batch.filter fun diagnostic => startOffset ≤ start diagnostic

/-- The hint for a problem, if there is one. -/
def hintOf (tree : Tree) (diagnostic : Diagnostic) : Option Hint :=
  (diagnostic.classify tree).toOption.join

def hasHint (tree : Tree) (diagnostic : Diagnostic) : Bool :=
  (hintOf tree diagnostic).isSome

/-- In source order, no problem before this one has a hint, and `hint` is the hint for
it. -/
def IsChosen (tree : Tree) (batch : List Diagnostic) (startOffset : Int)
    (diagnostic : Diagnostic) (hint : Hint) : Prop :=
  ∃ before after,
    StableSort.IsStableSort start (kept batch startOffset) (before ++ diagnostic :: after) ∧
      (∀ other ∈ before, other.classify tree = .ok none) ∧
      diagnostic.classify tree = .ok (some hint)

/-- A problem that has no say in the choice. -/
def IsSpare (tree : Tree) (batch : List Diagnostic) (startOffset : Int)
    (diagnostic : Diagnostic) : Prop :=
  start diagnostic < startOffset ∨ diagnostic.classify tree = .ok none ∨
    ∃ chosen hint, IsChosen tree batch startOffset chosen hint ∧
      start chosen < start diagnostic

/-- The chosen problem. -/
def chosen? (tree : Tree) (batch : List Diagnostic) (startOffset : Int) : Option Diagnostic :=
  (StableSort.sort precedes (kept batch startOffset)).find? (hasHint tree)

/-- The problems that may be chosen. -/
def candidates (tree : Tree) (batch : List Diagnostic) (startOffset : Int) :
    List Diagnostic :=
  (kept batch startOffset).filter (hasHint tree)

section

variable (tree : Tree) (batch : List Diagnostic) (startOffset : Int)

/-- A batch in order is left as it is, and sorting would leave it as well. -/
theorem relevant_fst :
    (relevant batch startOffset).1 = StableSort.sort precedes (kept batch startOffset) := by
  rw [relevant]
  split
  · next ordered => exact (StableSort.sort_of_isSorted _ ordered).symm
  · rfl

theorem selectHint_fst :
    (selectHint batch tree startOffset).1 =
      (firstHint tree (StableSort.sort precedes (kept batch startOffset))).1 := by
  rw [← relevant_fst]
  rfl

/-- The candidate that comes first is chosen. -/
theorem chosen?_eq_head? :
    chosen? tree batch startOffset =
      (StableSort.sort precedes (candidates tree batch startOffset)).head? := by
  rw [chosen?, ← List.head?_filter]
  have sorted := StableSort.isStableSort_sort start (kept batch startOffset)
  exact congrArg List.head? (sorted.filter (hasHint tree)).eq_sort

theorem mem_candidates_of_chosen? {tree batch startOffset} {diagnostic : Diagnostic}
    (h : chosen? tree batch startOffset = some diagnostic) :
    diagnostic ∈ candidates tree batch startOffset := by
  rw [chosen?_eq_head?] at h
  exact (StableSort.sort_perm _ _).mem_iff.mp (List.mem_of_head? h)

theorem chosen?_eq_none_iff :
    chosen? tree batch startOffset = none ↔ candidates tree batch startOffset = [] := by
  rw [chosen?_eq_head?, List.head?_eq_none_iff]
  have perm := StableSort.sort_perm precedes (candidates tree batch startOffset)
  constructor
  · intro empty
    rw [empty] at perm
    exact perm.symm.eq_nil
  · intro empty
    rw [empty] at perm ⊢
    exact perm.eq_nil

/-- What stands behind a candidate does not matter. -/
theorem chosen?_congr {other : List Diagnostic} {diagnostic : Diagnostic}
    (mem : diagnostic ∈ candidates tree batch startOffset)
    (same : (candidates tree other startOffset).filter (start · ≤ start diagnostic) =
      (candidates tree batch startOffset).filter (start · ≤ start diagnostic)) :
    chosen? tree other startOffset = chosen? tree batch startOffset := by
  have mem_other : diagnostic ∈ candidates tree other startOffset := by
    have : diagnostic ∈ (candidates tree batch startOffset).filter
        (start · ≤ start diagnostic) := by simpa using mem
    rw [← same] at this
    exact List.mem_of_mem_filter this
  have sorted (l : List Diagnostic) := StableSort.isStableSort_sort start l
  rw [chosen?_eq_head?, chosen?_eq_head?]
  refine ((sorted _).head?_filter_le mem_other).symm.trans ?_
  rw [((sorted _).filter _).eq_sort, same, ← ((sorted _).filter _).eq_sort]
  exact (sorted _).head?_filter_le mem

theorem chosen?_of_perm {other : List Diagnostic} (perm : other.Perm batch)
    (ties : ∀ k, other.filter (start · = k) = batch.filter (start · = k)) :
    chosen? tree other startOffset = chosen? tree batch startOffset := by
  have sorted := StableSort.isStableSort_sort start (kept other startOffset)
  have kept_perm : (kept other startOffset).Perm (kept batch startOffset) := perm.filter _
  have same := (sorted.of_perm kept_perm fun k => by
    rw [kept, kept, StableSort.filter_swap, ties, StableSort.filter_swap]).eq_sort
  exact congrArg (List.find? (hasHint tree)) same

end

/-! ### Trees on which every problem has an answer -/

section

variable {tree : Tree} {batch : List Diagnostic} {startOffset : Int}
  (answers : ∀ diagnostic : Diagnostic, ∃ hint, diagnostic.classify tree = .ok hint)

include answers

theorem classify_eq_hintOf (diagnostic : Diagnostic) :
    diagnostic.classify tree = .ok (hintOf tree diagnostic) := by
  obtain ⟨hint, given⟩ := answers diagnostic
  rw [hintOf, given]
  rfl

theorem classify_eq_none_iff (diagnostic : Diagnostic) :
    diagnostic.classify tree = .ok none ↔ hasHint tree diagnostic = false := by
  rw [classify_eq_hintOf answers, hasHint, Option.isSome_eq_false_iff, Option.isNone_iff_eq_none]
  exact ⟨fun h => Except.ok.inj h, congrArg _⟩

theorem firstHint_fst (l : List Diagnostic) :
    (firstHint tree l).1 = .ok ((l.find? (hasHint tree)).bind (hintOf tree)) := by
  induction l with
  | nil => rfl
  | cons diagnostic rest ih =>
      rw [firstHint, classify_eq_hintOf answers, List.find?_cons, hasHint]
      cases given : hintOf tree diagnostic with
      | none => exact ih
      | some hint => simp [given]

theorem selectHint_eq_chosen? :
    (selectHint batch tree startOffset).1 =
      .ok ((chosen? tree batch startOffset).bind (hintOf tree)) := by
  rw [selectHint_fst, firstHint_fst answers]
  rfl

theorem isChosen_iff (diagnostic : Diagnostic) (hint : Hint) :
    IsChosen tree batch startOffset diagnostic hint ↔
      chosen? tree batch startOffset = some diagnostic ∧
        hintOf tree diagnostic = some hint := by
  simp only [IsChosen, classify_eq_none_iff answers, chosen?, List.find?_eq_some_iff_append]
  rw [classify_eq_hintOf answers]
  constructor
  · rintro ⟨before, after, sorted, none, given⟩
    have given : hintOf tree diagnostic = some hint := Except.ok.inj given
    refine ⟨⟨by rw [hasHint, given]; rfl, before, after, sorted.eq_sort.symm, ?_⟩, given⟩
    simpa using none
  · rintro ⟨⟨-, before, after, eq, none⟩, given⟩
    refine ⟨before, after, ?_, by simpa using none, congrArg _ given⟩
    rw [← eq]
    exact StableSort.isStableSort_sort start _

theorem exists_isChosen_iff (hint : Hint) :
    (chosen? tree batch startOffset).bind (hintOf tree) = some hint ↔
      ∃ diagnostic, IsChosen tree batch startOffset diagnostic hint := by
  simp only [isChosen_iff answers, Option.bind_eq_some_iff]

theorem chosen?_bind_eq_none_iff :
    (chosen? tree batch startOffset).bind (hintOf tree) = none ↔
      ∀ diagnostic ∈ kept batch startOffset, diagnostic.classify tree = .ok none := by
  simp only [classify_eq_none_iff answers]
  constructor
  · intro none diagnostic mem
    cases found : chosen? tree batch startOffset with
    | none =>
        have := (chosen?_eq_none_iff tree batch startOffset).mp found
        simpa using List.filter_eq_nil_iff.mp this diagnostic mem
    | some chosen =>
        have given := (List.mem_filter.mp (mem_candidates_of_chosen? found)).2
        rw [found, Option.bind_some] at none
        rw [hasHint, none] at given
        exact nomatch given
  · intro all
    have empty : candidates tree batch startOffset = [] :=
      List.filter_eq_nil_iff.mpr fun diagnostic mem => by simp [all diagnostic mem]
    rw [(chosen?_eq_none_iff tree batch startOffset).mpr empty]
    rfl

theorem isSpare_iff (diagnostic : Diagnostic) :
    IsSpare tree batch startOffset diagnostic ↔
      start diagnostic < startOffset ∨ hasHint tree diagnostic = false ∨
        ∃ chosen, chosen? tree batch startOffset = some chosen ∧
          start chosen < start diagnostic := by
  simp only [IsSpare, isChosen_iff answers, classify_eq_none_iff answers]
  refine or_congr_right (or_congr_right ?_)
  constructor
  · rintro ⟨chosen, hint, ⟨found, -⟩, behind⟩
    exact ⟨chosen, found, behind⟩
  · rintro ⟨chosen, found, behind⟩
    have given := (List.mem_filter.mp (mem_candidates_of_chosen? found)).2
    obtain ⟨hint, eq⟩ := Option.isSome_iff_exists.mp given
    exact ⟨chosen, hint, ⟨found, eq⟩, behind⟩

theorem chosen?_of_inserted {longer : List Diagnostic}
    (h : Inserted (IsSpare tree batch startOffset) batch longer) :
    chosen? tree longer startOffset = chosen? tree batch startOffset := by
  cases found : chosen? tree batch startOffset with
  | none =>
      -- Without a choice, spare problems are no candidates, of which there were none.
      have empty := (chosen?_eq_none_iff tree batch startOffset).mp found
      refine (chosen?_eq_none_iff tree longer startOffset).mpr (Eq.trans ?_ empty)
      simp only [candidates, kept, List.filter_filter]
      refine h.filter_eq _ fun diagnostic spare => ?_
      rcases (isSpare_iff answers diagnostic).mp spare with early | none | ⟨_, eq, -⟩
      · simp [early]
      · simp [none]
      · exact nomatch found.symm.trans eq
  | some chosen =>
      rw [← found]
      refine chosen?_congr tree batch startOffset (mem_candidates_of_chosen? found) ?_
      simp only [candidates, kept, List.filter_filter]
      refine h.filter_eq _ fun diagnostic spare => ?_
      rcases (isSpare_iff answers diagnostic).mp spare with early | none | ⟨_, eq, behind⟩
      · simp [early]
      · simp [none]
      · cases found.symm.trans eq
        simp [Nat.not_le.mpr behind]

end

/-! ### What is worth a warning -/

theorem warnings_firstHint (tree : Tree) (l : List Diagnostic) :
    (firstHint tree l).2.filter (·.isWarning) = [] := by
  induction l with
  | nil => rfl
  | cons diagnostic rest ih =>
      rw [firstHint]
      split
      · rfl
      · rfl
      · exact ih

theorem relevant_snd (batch : List Diagnostic) (startOffset : Int) :
    (relevant batch startOffset).2 =
      if (kept batch startOffset).Pairwise (start · ≤ start ·) then []
      else [.sorting (kept batch startOffset).length] := by
  simp only [← StableSort.isSorted_iff_pairwise]
  exact apply_ite Prod.snd ..

theorem warnings_selectHint (tree : Tree) (batch : List Diagnostic) (startOffset : Int) :
    (selectHint batch tree startOffset).2.filter (·.isWarning) =
      if (kept batch startOffset).Pairwise (start · ≤ start ·) then []
      else [.sorting (kept batch startOffset).length] := by
  show ((relevant batch startOffset).2 ++ _).filter _ = _
  rw [List.filter_append, warnings_firstHint, List.append_nil, relevant_snd]
  split <;> rfl

/-- The hint for a batch is the one for the chosen problem, and there is none if and only
if no problem that counts has one. Sorting only a batch that is out of order is as good
as sorting always. Arranging the batch anew changes nothing as long as problems of one
start keep their order, nor does adding problems that could not be chosen. A warning with
the number of problems that count stands for a batch out of order and for nothing else. -/
theorem selectHint_of_toTree {spec : Spec} {source : Text} {offset : Option Int} {tree : Tree}
    (built : spec.toTree source offset = .ok tree) (batch : List Diagnostic)
    (startOffset : Int) :
    (∃ result, (selectHint batch tree startOffset).1 = .ok result ∧
      (∀ hint, result = some hint ↔
        ∃ diagnostic, IsChosen tree batch startOffset diagnostic hint) ∧
      (result = none ↔
        ∀ diagnostic ∈ kept batch startOffset, diagnostic.classify tree = .ok none)) ∧
    (selectHint batch tree startOffset).1 =
      (firstHint tree (StableSort.sort precedes (kept batch startOffset))).1 ∧
    (∀ other : List Diagnostic, other.Perm batch →
      (∀ k, other.filter (start · = k) = batch.filter (start · = k)) →
        (selectHint other tree startOffset).1 = (selectHint batch tree startOffset).1) ∧
    (∀ longer, Inserted (IsSpare tree batch startOffset) batch longer →
      (selectHint longer tree startOffset).1 = (selectHint batch tree startOffset).1) ∧
    (selectHint batch tree startOffset).2.filter (·.isWarning) =
      if (kept batch startOffset).Pairwise (start · ≤ start ·) then []
      else [.sorting (kept batch startOffset).length] := by
  have answers := spec.exists_classify built
  refine ⟨⟨_, selectHint_eq_chosen? answers, exists_isChosen_iff answers,
    chosen?_bind_eq_none_iff answers⟩, selectHint_fst tree batch startOffset,
    fun other perm ties => ?_, fun longer spare => ?_,
    warnings_selectHint tree batch startOffset⟩
  · rw [selectHint_eq_chosen? answers, selectHint_eq_chosen? answers,
      chosen?_of_perm tree batch startOffset perm ties]
  · rw [selectHint_eq_chosen? answers, selectHint_eq_chosen? answers,
      chosen?_of_inserted answers spare]

/-- A closing parenthesis at the end of `f(x, x)` that should not be there. -/
def closingToken : Diagnostic :=
  ⟨.known .parsingErrorDeleteToken, [Text.ofString ")"], ⟨6, 7, by decide⟩⟩

/-- The unknown method is reported behind the token, which has no hint, and is chosen. -/
theorem selectHint_of_toTree_closingToken :
    ∃ tree, Spec.repeatedArgument.toTree (Text.ofString "f(x, x)") none = .ok tree ∧
      ∃ hint, Diagnostic.unknownCall.classify tree = .ok (some hint) ∧
        (selectHint [closingToken, .unknownCall] tree 0).1 = .ok (some hint) ∧
        (selectHint [.unknownCall, closingToken] tree 0).1 =
          (selectHint [closingToken, .unknownCall] tree 0).1 ∧
        (selectHint [closingToken, .unknownCall] tree 0).2.filter (·.isWarning) =
          [.sorting 2] := by
  have built : Spec.repeatedArgument.toTree (Text.ofString "f(x, x)") none = .ok _ := rfl
  have ties (k : Nat) : [Diagnostic.unknownCall, closingToken].filter (start · = k) =
      [closingToken, .unknownCall].filter (start · = k) := by
    by_cases atStart : 0 = k
    · subst atStart
      rfl
    · simp [List.filter_cons, Diagnostic.unknownCall, atStart]
  obtain ⟨⟨result, given, -, -⟩, -, perm, -, warned⟩ :=
    selectHint_of_toTree built [closingToken, .unknownCall] 0
  cases result with
  | none => cases given
  | some hint =>
      exact ⟨_, built, hint, given, given, perm _ (.swap ..) ties, warned⟩

end Batch

end SketchHelp
