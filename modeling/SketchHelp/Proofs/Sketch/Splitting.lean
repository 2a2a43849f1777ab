import SketchHelp.Proofs.Sketch.Locality
import SketchHelp.Proofs.Sketch.Pairing

/-!
Where a declaration statement is cut. The scan passes over a brace group as a whole and
gives up at a group that never closes, and still it cuts after every comma that stands
outside all brace groups, and after no other: what a group holds is closed inside it, and
behind a group that never closes no comma is outside. A piece holds no such comma but the
one that ends it. The partner of a brace in a piece is the same as in the statement, so a
piece is not cut again.
-/

namespace SketchHelp

/-! ### Groups -/

namespace Brace

section

variable {opens closes : CodePoint → Bool} {depth n k : Nat} {t : Text} {c : CodePoint}

/-- A search ends at the first code point or goes on behind it, whatever the text behind
it is. -/
theorem distance_cons_cases (h : distance opens closes depth (c :: t) = some n) :
    (n = 0 ∧ ∀ rest, distance opens closes depth (c :: rest) = some 0) ∨
      ∃ above m, n = m + 1 ∧ distance opens closes above t = some m ∧
        ∀ rest, distance opens closes depth (c :: rest) =
          (distance opens closes above rest).map (· + 1) := by
  have later (above : Nat)
      (step : ∀ rest, distance opens closes depth (c :: rest) =
        (distance opens closes above rest).map (· + 1)) :
      ∃ above m, n = m + 1 ∧ distance opens closes above t = some m ∧
        ∀ rest, distance opens closes depth (c :: rest) =
          (distance opens closes above rest).map (· + 1) := by
    obtain ⟨m, found, rfl⟩ := Option.map_eq_some_iff.mp ((step t).symm.trans h)
    exact ⟨above, m, rfl, found, step⟩
  by_cases hopen : opens c = true
  · exact .inr (later (depth + 1) fun rest => distance_of_opens _ rest hopen)
  by_cases hclose : closes c = true
  · cases depth with
    | zero =>
        have here (rest : Text) := distance_zero_of_closes rest hopen hclose
        exact .inl ⟨Option.some.inj (h.symm.trans (here t)), here⟩
    | succ depth =>
        exact .inr (later depth fun rest => distance_succ_of_closes _ rest hopen hclose)
  · exact .inr (later depth fun rest => distance_of_plain _ rest hopen hclose)

/-- What is found in a text is found there whatever follows. -/
theorem distance_append (h : distance opens closes depth t = some n) (more : Text) :
    distance opens closes depth (t ++ more) = some n := by
  induction t generalizing depth n with
  | nil => cases h
  | cons c rest ih =>
      rw [List.cons_append]
      rcases distance_cons_cases h with ⟨rfl, here⟩ | ⟨above, m, rfl, found, step⟩
      · exact here _
      · rw [step, ih found, Option.map_some]

/-- With one group less to close the end comes sooner. -/
theorem exists_distance_lt (h : distance opens closes (depth + 1) t = some n) :
    ∃ m < n, distance opens closes depth t = some m := by
  induction t generalizing depth n with
  | nil => cases h
  | cons d rest ih =>
      by_cases hopen : opens d = true
      · rw [distance_of_opens _ _ hopen] at h
        obtain ⟨n, found, rfl⟩ := Option.map_eq_some_iff.mp h
        obtain ⟨m, lt, sooner⟩ := ih found
        refine ⟨m + 1, Nat.succ_lt_succ lt, ?_⟩
        rw [distance_of_opens _ _ hopen, sooner, Option.map_some]
      · by_cases hclose : closes d = true
        · rw [distance_succ_of_closes _ _ hopen hclose] at h
          obtain ⟨n, found, rfl⟩ := Option.map_eq_some_iff.mp h
          cases depth with
          | zero => exact ⟨0, Nat.succ_pos n, distance_zero_of_closes _ hopen hclose⟩
          | succ depth =>
              obtain ⟨m, lt, sooner⟩ := ih found
              refine ⟨m + 1, Nat.succ_lt_succ lt, ?_⟩
              rw [distance_succ_of_closes _ _ hopen hclose, sooner, Option.map_some]
        · rw [distance_of_plain _ _ hopen hclose] at h
          obtain ⟨n, found, rfl⟩ := Option.map_eq_some_iff.mp h
          obtain ⟨m, lt, sooner⟩ := ih found
          refine ⟨m + 1, Nat.succ_lt_succ lt, ?_⟩
          rw [distance_of_plain _ _ hopen hclose, sooner, Option.map_some]

theorem exists_distance_zero (h : distance opens closes depth t = some n) :
    ∃ m ≤ n, distance opens closes 0 t = some m := by
  induction depth generalizing n with
  | zero => exact ⟨n, Nat.le_refl n, h⟩
  | succ depth ih =>
      obtain ⟨m, lt, sooner⟩ := exists_distance_lt h
      obtain ⟨first, le, found⟩ := ih sooner
      exact ⟨first, Nat.le_trans le (Nat.le_of_lt lt), found⟩

/-- A group that opens before the end is closed before it. -/
theorem exists_distance_drop (h : distance opens closes depth t = some n) (lt : k < n)
    (there : t[k]? = some c) (hopen : opens c = true) :
    ∃ m, distance opens closes 0 (t.drop (k + 1)) = some m ∧ k + 1 + m < n := by
  induction t generalizing depth n k with
  | nil => cases h
  | cons d rest ih =>
      cases k with
      | zero =>
          obtain rfl := Option.some.inj there
          rw [distance_of_opens _ _ hopen] at h
          obtain ⟨n, found, rfl⟩ := Option.map_eq_some_iff.mp h
          obtain ⟨m, sooner, above⟩ := exists_distance_lt found
          obtain ⟨first, le, closed⟩ := exists_distance_zero above
          exact ⟨first, closed, by omega⟩
      | succ k =>
          rw [List.getElem?_cons_succ] at there
          rw [List.drop_succ_cons]
          rcases distance_cons_cases h with ⟨rfl, -⟩ | ⟨above, n, rfl, found, -⟩
          · exact absurd lt (Nat.not_lt_zero _)
          · obtain ⟨m, closed, bound⟩ := ih found (Nat.lt_of_succ_lt_succ lt) there
            exact ⟨m, closed, by omega⟩

end

variable {t : Text} {i j k : Nat} {c : CodePoint}

/-- What opens inside a group has its partner inside the group. -/
theorem exists_closerOf_inside (h : closerOf t i = some j) (low : i < k) (high : k < j)
    (there : t[k]? = some c) (opener : c.isOpener = true) :
    ∃ m < j, closerOf t k = some m := by
  obtain ⟨n, found, rfl⟩ := Option.map_eq_some_iff.mp h
  obtain ⟨inner, rfl⟩ := Nat.exists_eq_add_of_le (Nat.succ_le_of_lt low)
  rw [← List.getElem?_drop] at there
  obtain ⟨m, closed, bound⟩ := exists_distance_drop found (by omega) there opener
  rw [List.drop_drop] at closed
  refine ⟨i + 1 + inner + 1 + m, by omega, ?_⟩
  rw [closerOf, Nat.add_assoc (i + 1), closed, Option.map_some]

/-- The partner of a brace in a part of the text is the one that it has in the text. -/
theorem closerOf_of_slice {low high : Nat} (h : closerOf (t.slice low high) i = some j) :
    closerOf t (low + i) = some (low + j) := by
  obtain ⟨n, found, rfl⟩ := Option.map_eq_some_iff.mp h
  rw [Text.slice, List.drop_drop] at found
  have bound := distance_lt found
  rw [List.length_drop] at bound
  have whole := distance_append found (t.drop high)
  rw [← List.drop_append_of_le_length (by omega), List.take_append_drop,
    ← Nat.add_assoc] at whole
  rw [closerOf, whole, Option.map_some]
  exact congrArg some (by omega)

end Brace

/-! ### Cuts -/

namespace Declarator

variable {statement : Text} {start position offset n : Nat} {pieces : List Text}

/-- Every brace group that opens before the offset is closed before it. -/
def IsOutside (statement : Text) (offset : Nat) : Prop :=
  ∀ brace < offset, statement[brace]? = some ('{' : CodePoint) →
    ∃ close < offset, Brace.partner statement brace = .ok (some close)

/-- A comma outside all brace groups. -/
def IsTopComma (statement : Text) (offset : Nat) : Prop :=
  statement[offset]? = some (',' : CodePoint) ∧ IsOutside statement offset

theorem isOutside_zero (statement : Text) : IsOutside statement 0 := nofun

theorem IsOutside.succ (h : IsOutside statement offset)
    (other : statement[offset]? ≠ some ('{' : CodePoint)) : IsOutside statement (offset + 1) := by
  intro brace lt there
  rcases Nat.lt_succ_iff_lt_or_eq.mp lt with before | rfl
  · obtain ⟨close, closed, matched⟩ := h brace before there
    exact ⟨close, Nat.lt_succ_of_lt closed, matched⟩
  · exact absurd there other

theorem IsTopComma.lt_length (h : IsTopComma statement offset) : offset < statement.length :=
  (List.getElem?_eq_some_iff.mp h.1).1

theorem IsTopComma.isOutside_succ (h : IsTopComma statement offset) :
    IsOutside statement (offset + 1) := by
  refine h.2.succ ?_
  rw [h.1]
  decide

/-- Behind a group one is outside again: what opens in it is closed in it. -/
theorem IsOutside.behind {close : Nat} (h : IsOutside statement position)
    (here : statement[position]? = some ('{' : CodePoint))
    (matched : Brace.partner statement position = .ok (some close)) :
    IsOutside statement (close + 1) := by
  have found := Except.ok.inj ((Brace.partner_of_isOpener here rfl).symm.trans matched)
  have low := (Brace.closerOf_gt found).1
  intro brace lt there
  rcases Nat.lt_trichotomy brace position with before | rfl | behind
  · obtain ⟨before, closed, matched⟩ := h brace before there
    exact ⟨before, by omega, matched⟩
  · exact ⟨close, Nat.lt_succ_self close, matched⟩
  rcases Nat.lt_succ_iff_lt_or_eq.mp lt with inside | rfl
  · obtain ⟨inner, closed, inner_found⟩ :=
      Brace.exists_closerOf_inside found behind inside there rfl
    refine ⟨inner, Nat.lt_succ_of_lt closed, ?_⟩
    rw [Brace.partner_of_isOpener there rfl, inner_found]
  · -- The partner is a closer.
    obtain ⟨-, -, c, closed, closer⟩ :=
      Brace.of_mem_pairs ((Brace.mem_pairs_iff_closerOf here rfl).mpr found)
    obtain rfl := Option.some.inj (closed.symm.trans there)
    cases closer

/-- No comma is outside all groups up to the partner of a brace. -/
theorem IsTopComma.lt_of_partner {found : Option Nat} (h : IsTopComma statement offset)
    (here : statement[position]? = some ('{' : CodePoint))
    (matched : Brace.partner statement position = .ok found) (le : position ≤ offset) :
    ∃ close < offset, found = some close := by
  rcases Nat.eq_or_lt_of_le le with rfl | lt
  · cases here.symm.trans h.1
  · obtain ⟨close, closed, matched'⟩ := h.2 position lt here
    exact ⟨close, closed, Except.ok.inj (matched.symm.trans matched')⟩

/-- A comma outside all groups of a part is one of the statement, if the part begins
outside them. -/
theorem IsTopComma.of_slice {low high : Nat} (h : IsTopComma (statement.slice low high) offset)
    (outside : IsOutside statement low) : IsTopComma statement (low + offset) := by
  obtain ⟨inside, here⟩ := Option.ite_none_right_eq_some.mp
    ((Text.getElem?_slice statement low high offset).symm.trans h.1)
  refine ⟨here, fun brace lt there => ?_⟩
  rcases Nat.lt_or_ge brace low with before | behind
  · obtain ⟨close, closed, matched⟩ := outside brace before there
    exact ⟨close, by omega, matched⟩
  · obtain ⟨k, rfl⟩ := Nat.exists_eq_add_of_le behind
    have there' : (statement.slice low high)[k]? = some ('{' : CodePoint) := by
      rw [Text.getElem?_slice, if_pos (by omega), there]
    obtain ⟨close, closed, matched⟩ := h.2 k (by omega) there'
    rw [Brace.partner_of_isOpener there' rfl] at matched
    refine ⟨low + close, by omega, ?_⟩
    rw [Brace.partner_of_isOpener there rfl, Brace.closerOf_of_slice (Except.ok.inj matched)]

/-- The pieces from `start` on: each but the last ends with the next comma outside all
groups. -/
inductive IsCut (statement : Text) : Nat → List Text → Prop
  | nil : IsCut statement statement.length []
  | last {start : Nat} (more : start < statement.length)
      (noComma : ∀ p, start ≤ p → ¬ IsTopComma statement p) :
      IsCut statement start [statement.drop start]
  | cons {start comma : Nat} {pieces : List Text} (le : start ≤ comma)
      (here : IsTopComma statement comma)
      (first : ∀ p, start ≤ p → IsTopComma statement p → comma ≤ p)
      (rest : IsCut statement (comma + 1) pieces) :
      IsCut statement start (statement.slice start (comma + 1) :: pieces)

theorem isCut_lastPiece (bound : start ≤ statement.length)
    (noComma : ∀ p, start ≤ p → ¬ IsTopComma statement p) :
    IsCut statement start (lastPiece (statement.drop start)) := by
  rcases Nat.eq_or_lt_of_le bound with rfl | more
  · rw [List.drop_length]
    exact .nil
  · rw [lastPiece, if_neg (by rw [List.isEmpty_iff, List.drop_eq_nil_iff]; omega)]
    exact .last more noComma

/-- The scan cuts at the commas outside all groups, from any point outside them on that it
may reach without a cut. -/
theorem splitFrom_isCut (le : start ≤ position) (bound : start ≤ statement.length)
    (outside : IsOutside statement position)
    (later : ∀ p, start ≤ p → IsTopComma statement p → position ≤ p) :
    ∃ pieces, splitFrom statement start position = .ok pieces ∧
      IsCut statement start pieces := by
  fun_induction splitFrom statement start position with
  | case1 start position here =>
      refine ⟨_, rfl, isCut_lastPiece bound fun p low top => ?_⟩
      have := later p low top
      have := top.lt_length
      have := List.getElem?_eq_none_iff.mp here
      omega
  | case2 start position fault matched here =>
      rw [Brace.partner_of_isOpener here rfl] at matched
      cases matched
  | case3 start position matched here =>
      refine ⟨_, rfl, isCut_lastPiece bound fun p low top => ?_⟩
      obtain ⟨_, -, closed⟩ := top.lt_of_partner here matched (later p low top)
      cases closed
  | case4 start position close matched here ih =>
      have closes := Brace.lt_of_partner_of_isOpener here rfl matched
      refine ih (by omega) bound (outside.behind here matched) fun p low top => ?_
      obtain ⟨_, closed, same⟩ := top.lt_of_partner here matched (later p low top)
      cases same
      exact closed
  | case5 start position here _ ih =>
      have top : IsTopComma statement position := ⟨here, outside⟩
      obtain ⟨pieces, cut, isCut⟩ := ih (Nat.le_refl _) top.lt_length top.isOutside_succ
        fun p low _ => low
      exact ⟨_, by rw [cut]; rfl, .cons le top later isCut⟩
  | case6 start position c here notBrace notComma ih =>
      refine ih (Nat.le_succ_of_le le) bound (outside.succ fun brace => ?_) fun p low top => ?_
      · exact notBrace (Option.some.inj (here.symm.trans brace))
      · rcases Nat.eq_or_lt_of_le (later p low top) with rfl | behind
        · exact absurd (Option.some.inj (here.symm.trans top.1)) notComma
        · exact behind

theorem split_isCut (statement : Text) :
    ∃ pieces, split statement = .ok pieces ∧ IsCut statement 0 pieces :=
  splitFrom_isCut (Nat.le_refl 0) (Nat.zero_le _) (isOutside_zero statement)
    fun _ low _ => low

/-! ### Pieces -/

/-- The first pieces have `n` code points together. -/
def IsCutAt (pieces : List Text) (n : Nat) : Prop :=
  ∃ front, front <+: pieces ∧ front.flatten.length = n

theorem isCutAt_zero (pieces : List Text) : IsCutAt pieces 0 :=
  ⟨[], List.nil_prefix, rfl⟩

theorem isCutAt_nil_iff : IsCutAt [] n ↔ n = 0 := by
  constructor
  · rintro ⟨front, first, rfl⟩
    rw [List.prefix_nil.mp first]
    rfl
  · rintro rfl
    exact isCutAt_zero []

theorem isCutAt_cons_iff {piece : Text} :
    IsCutAt (piece :: pieces) n ↔ n = 0 ∨ ∃ m, n = piece.length + m ∧ IsCutAt pieces m := by
  constructor
  · rintro ⟨front, first, rfl⟩
    rcases List.prefix_cons_iff.mp first with rfl | ⟨front, rfl, later⟩
    · exact .inl rfl
    · refine .inr ⟨_, ?_, front, later, rfl⟩
      rw [List.flatten_cons, List.length_append]
  · rintro (rfl | ⟨_, rfl, front, first, rfl⟩)
    · exact isCutAt_zero _
    · refine ⟨piece :: front, List.prefix_cons_inj piece |>.mpr first, ?_⟩
      rw [List.flatten_cons, List.length_append]

namespace IsCut

/-- The pieces end behind the commas outside all groups, and at the end. -/
theorem isCutAt_iff (h : IsCut statement start pieces) {p : Nat} (le : start ≤ p) :
    IsCutAt pieces (p + 1 - start) ↔ IsTopComma statement p ∨ p + 1 = statement.length := by
  induction h with
  | nil =>
      rw [isCutAt_nil_iff]
      refine iff_of_false (by omega) ?_
      rintro (top | last)
      · have := top.lt_length
        omega
      · omega
  | @last start more noComma =>
      rw [isCutAt_cons_iff, or_iff_right (by omega), or_iff_right (noComma p le)]
      simp only [isCutAt_nil_iff, List.length_drop, exists_eq_right]
      omega
  | @cons start comma pieces low here first rest ih =>
      have inside := here.lt_length
      rw [isCutAt_cons_iff, or_iff_right (by omega), Text.length_slice, Nat.min_eq_left inside]
      rcases Nat.lt_trichotomy p comma with before | rfl | behind
      · refine iff_of_false ?_ ?_
        · rintro ⟨m, eq, -⟩
          omega
        · rintro (top | last)
          · exact absurd (first p le top) (Nat.not_le_of_lt before)
          · omega
      · exact iff_of_true ⟨0, rfl, isCutAt_zero pieces⟩ (.inl here)
      · rw [← ih behind]
        constructor
        · rintro ⟨m, eq, later⟩
          rwa [show m = p + 1 - (comma + 1) by omega] at later
        · exact fun later => ⟨_, by omega, later⟩

/-- A piece with another behind it ends with a comma outside all groups. -/
theorem exists_topComma (h : IsCut statement start pieces) {front behind : List Text}
    {piece : Text} (split : pieces = front ++ piece :: behind) (more : behind ≠ []) :
    ∃ body, piece = body ++ [(',' : CodePoint)] ∧
      IsTopComma statement (start + front.flatten.length + body.length) := by
  induction h generalizing front with
  | nil => simp at split
  | last =>
      have length := congrArg List.length split
      rw [List.length_singleton, List.length_append, List.length_cons] at length
      have := List.length_pos_iff.mpr more
      omega
  | @cons start comma pieces low here first rest ih =>
      have inside := here.lt_length
      cases front with
      | nil =>
          cases split
          refine ⟨statement.slice start comma, Text.slice_succ low here.1, ?_⟩
          rwa [Text.length_slice, List.flatten_nil, List.length_nil, Nat.add_zero,
            Nat.min_eq_left (Nat.le_of_lt inside), Nat.add_sub_cancel' low]
      | cons piece' front =>
          obtain ⟨rfl, later⟩ := List.cons.inj split
          obtain ⟨body, rfl, top⟩ := ih later
          refine ⟨body, rfl, ?_⟩
          rw [List.flatten_cons, List.length_append, Text.length_slice, Nat.min_eq_left inside,
            ← Nat.add_assoc start, Nat.add_sub_cancel' (Nat.le_succ_of_le low)]
          exact top

/-- A piece holds something, and no comma outside the groups of it but its last. -/
theorem of_mem (h : IsCut statement start pieces) (outside : IsOutside statement start)
    {piece : Text} (mem : piece ∈ pieces) :
    piece ≠ [] ∧ ∀ p, IsTopComma piece p → p + 1 = piece.length := by
  induction h with
  | nil => cases mem
  | @last start more noComma =>
      obtain rfl := List.mem_singleton.mp mem
      rw [Text.drop_eq_slice]
      refine ⟨List.ne_nil_of_length_pos (by rw [Text.length_slice]; omega), fun p top => ?_⟩
      exact absurd (top.of_slice outside) (noComma _ (Nat.le_add_right start p))
  | @cons start comma pieces low here first rest ih =>
      rcases List.mem_cons.mp mem with rfl | mem
      · have inside := here.lt_length
        have length := Text.length_slice statement start (comma + 1)
        refine ⟨List.ne_nil_of_length_pos (by omega), fun p top => ?_⟩
        have := top.lt_length
        have := first _ (Nat.le_add_right start p) (top.of_slice outside)
        omega
      · exact ih here.isOutside_succ mem

theorem eq_nil (h : IsCut statement start pieces) (all : start = statement.length) :
    pieces = [] := by
  cases h with
  | nil => rfl
  | last more => omega
  | cons le here =>
      have := here.lt_length
      omega

/-- What has no comma outside all groups but as its last code point is one piece. -/
theorem eq_singleton {piece : Text} (h : IsCut piece 0 pieces) (more : piece ≠ [])
    (noComma : ∀ p, IsTopComma piece p → p + 1 = piece.length) : pieces = [piece] := by
  generalize zero : 0 = start at h
  cases h with
  | nil => exact absurd (List.eq_nil_of_length_eq_zero zero.symm) more
  | last => rw [← zero, List.drop_zero]
  | cons _ here _ rest =>
      have all := noComma _ here
      rw [rest.eq_nil all, ← zero, all, ← Text.drop_eq_slice, List.drop_zero]

end IsCut

/-- A statement is put together of pieces that end behind the commas outside all brace
groups. -/
structure IsDivided (statement : Text) (pieces : List Text) : Prop where
  whole : pieces.flatten = statement
  /-- No piece is empty. -/
  nonempty : [] ∉ pieces
  /-- Behind a comma outside all groups a piece ends, and elsewhere only at the end. -/
  cuts : ∀ p, IsCutAt pieces (p + 1) ↔ IsTopComma statement p ∨ p + 1 = statement.length
  /-- A piece with another behind it ends with such a comma. -/
  ended : ∀ front piece behind, pieces = front ++ piece :: behind → behind ≠ [] →
    ∃ body, piece = body ++ [(',' : CodePoint)] ∧
      IsTopComma statement (front.flatten.length + body.length)
  /-- No piece is cut again. -/
  alone : ∀ piece ∈ pieces, split piece = .ok [piece]

/-- Every statement is cut behind exactly the commas outside all brace groups. -/
theorem split_isDivided (statement : Text) :
    ∃ pieces, split statement = .ok pieces ∧ IsDivided statement pieces := by
  obtain ⟨pieces, cut, isCut⟩ := split_isCut statement
  obtain ⟨_, same, whole⟩ := exists_split statement
  obtain rfl := Except.ok.inj (cut.symm.trans same)
  have outside := isOutside_zero statement
  refine ⟨pieces, cut, whole, fun mem => (isCut.of_mem outside mem).1 rfl,
    fun p => isCut.isCutAt_iff (Nat.zero_le p), fun front piece behind eq more => ?_,
    fun piece mem => ?_⟩
  · obtain ⟨body, eq, top⟩ := isCut.exists_topComma eq more
    rw [Nat.zero_add] at top
    exact ⟨body, eq, top⟩
  · obtain ⟨more, noComma⟩ := isCut.of_mem outside mem
    obtain ⟨pieces, cut, isCut⟩ := split_isCut piece
    rw [cut, isCut.eq_singleton more noComma]

/-- A group is passed over, and a comma behind a brace that never closes is passed too. -/
example : split (Text.ofString "a=\x7b1,2\x7d,b,\x7bc,") =
    .ok [Text.ofString "a=\x7b1,2\x7d,", Text.ofString "b,", Text.ofString "\x7bc,"] := by
  cbv

end Declarator

end SketchHelp
