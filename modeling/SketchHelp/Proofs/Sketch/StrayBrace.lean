import SketchHelp.Proofs.Sketch.Locality
import SketchHelp.Proofs.Sketch.Statement

/-!
The hint for a stray closing brace. It is read off the last two closing braces of the text
above the error: the one before the last closes the block that is shown, if it has a
partner. The header of the block begins with the line above the one that holds its opening
brace. Only where that line is empty and the first of the text it is left out: the search
for its start takes the line break at offset zero for none. Behind nested text a stray
brace always has a block before it.
-/

namespace SketchHelp.SketchError

/-! ### The last two closing braces -/

structure AreLastBraces (above : Text) (close stray : Nat) : Prop where
  atClose : above[close]? = some ('}' : CodePoint)
  atStray : above[stray]? = some ('}' : CodePoint)
  lt : close < stray
  last : ∀ k : Nat, above[k]? = some ('}' : CodePoint) → k ≤ close ∨ k = stray

section

variable {above : Text} {close stray brace : Nat}

theorem areLastBraces_iff : AreLastBraces above close stray ↔
    Text.lastIndex? '}' above = some stray ∧
      Text.lastIndex? '}' (above.take stray) = some close := by
  simp only [Text.lastIndex?_eq_some_iff, List.getElem?_take]
  constructor
  · rintro ⟨atClose, atStray, lt, last⟩
    refine ⟨⟨atStray, fun k there => ?_⟩, by rw [if_pos lt, atClose], fun k there => ?_⟩
    · rcases last k there with le | rfl
      · omega
      · exact Nat.le_refl k
    · obtain ⟨before, there⟩ := Option.ite_none_right_eq_some.mp there
      rcases last k there with le | rfl
      · exact le
      · exact absurd before (Nat.lt_irrefl k)
  · rintro ⟨⟨atStray, last⟩, atClose, before⟩
    obtain ⟨lt, atClose⟩ := Option.ite_none_right_eq_some.mp atClose
    refine ⟨atClose, atStray, lt, fun k there => ?_⟩
    rcases Nat.lt_or_ge k stray with sooner | later
    · exact .inl (before k (by rw [if_pos sooner, there]))
    · exact .inr (Nat.le_antisymm (last k there) later)

theorem AreLastBraces.unique {close' stray' : Nat} (h : AreLastBraces above close stray)
    (h' : AreLastBraces above close' stray') : close = close' ∧ stray = stray' := by
  obtain ⟨last, before⟩ := areLastBraces_iff.mp h
  obtain ⟨last', before'⟩ := areLastBraces_iff.mp h'
  obtain rfl := Option.some.inj (last.symm.trans last')
  exact ⟨Option.some.inj (before.symm.trans before'), rfl⟩

theorem AreLastBraces.two_le_count (h : AreLastBraces above close stray) :
    2 ≤ above.count ('}' : CodePoint) := by
  have first : 1 ≤ (above.take stray).count ('}' : CodePoint) := by
    refine List.one_le_count_iff.mpr (List.mem_of_getElem? (i := close) ?_)
    rw [List.getElem?_take, if_pos h.lt, h.atClose]
  have second : 1 ≤ (above.drop stray).count ('}' : CodePoint) := by
    refine List.one_le_count_iff.mpr (List.mem_of_getElem? (i := 0) ?_)
    rw [List.getElem?_drop, Nat.add_zero, h.atStray]
  rw [← List.take_append_drop stray above, List.count_append]
  omega

theorem exists_areLastBraces (h : 2 ≤ above.count ('}' : CodePoint)) :
    ∃ close stray, AreLastBraces above close stray := by
  have mem : ('}' : CodePoint) ∈ above := List.one_le_count_iff.mp (by omega)
  obtain ⟨stray, atStray⟩ := Option.ne_none_iff_exists'.mp
    fun none => Text.lastIndex?_eq_none_iff.mp none mem
  obtain ⟨here, last⟩ := Text.lastIndex?_eq_some_iff.mp atStray
  have after : (above.drop (stray + 1)).count ('}' : CodePoint) = 0 := by
    refine List.count_eq_zero.mpr fun mem => ?_
    obtain ⟨k, there⟩ := List.mem_iff_getElem?.mp mem
    rw [List.getElem?_drop] at there
    have := last _ there
    omega
  have before : ('}' : CodePoint) ∈ above.take stray := by
    rw [← List.take_append_drop (stray + 1) above, List.count_append, after, List.take_add_one,
      here, List.count_append, Option.toList_some, List.count_singleton_self] at h
    exact List.one_le_count_iff.mp (by omega)
  obtain ⟨close, atClose⟩ := Option.ne_none_iff_exists'.mp
    fun none => Text.lastIndex?_eq_none_iff.mp none before
  exact ⟨close, stray, areLastBraces_iff.mpr ⟨atStray, atClose⟩⟩

end

/-! ### Lines -/

def IsLineStart (t : Text) (start : Nat) : Prop :=
  start = 0 ∨ ∃ k, start = k + 1 ∧ t[k]? = some ('\n' : CodePoint)

/-- The line that the position is on begins at `start`. A line break ends the line that it
is on. -/
structure StartsLineOf (t : Text) (start position : Nat) : Prop where
  isLineStart : IsLineStart t start
  le : start ≤ position
  greatest : ∀ other ≤ position, IsLineStart t other → other ≤ start

/-- Where the line that the position is on begins. -/
def lineStart (t : Text) (position : Nat) : Nat :=
  match Text.lastIndex? '\n' (t.take position) with
  | none => 0
  | some lineBreak => lineBreak + 1

/-- The line above the one that the position is on begins at `start`; above the first line
there is nothing but the start of the text. -/
def StartsLineAbove (t : Text) (start position : Nat) : Prop :=
  ∃ line, StartsLineOf t line position ∧
    (line = 0 ∧ start = 0 ∨ ∃ lineBreak, line = lineBreak + 1 ∧ StartsLineOf t start lineBreak)

section

variable {t : Text} {position start other k brace : Nat}

theorem StartsLineOf.unique (h : StartsLineOf t start position)
    (h' : StartsLineOf t other position) : start = other :=
  Nat.le_antisymm (h'.greatest start h.le h.isLineStart) (h.greatest other h'.le h'.isLineStart)

theorem StartsLineAbove.unique (h : StartsLineAbove t start position)
    (h' : StartsLineAbove t other position) : start = other := by
  obtain ⟨line, ofLine, above⟩ := h
  obtain ⟨line', ofLine', above'⟩ := h'
  obtain rfl := ofLine.unique ofLine'
  rcases above with ⟨rfl, rfl⟩ | ⟨lineBreak, rfl, above⟩
  · rcases above' with ⟨-, rfl⟩ | ⟨_, eq, -⟩
    · rfl
    · cases eq
  · rcases above' with ⟨eq, -⟩ | ⟨_, eq, above'⟩
    · cases eq
    · cases eq
      exact above.unique above'

theorem startsLineOf_lineStart (t : Text) (position : Nat) :
    StartsLineOf t (lineStart t position) position := by
  unfold lineStart
  cases last : Text.lastIndex? '\n' (t.take position) with
  | none =>
      refine ⟨.inl rfl, Nat.zero_le position, fun other le start => ?_⟩
      rcases start with rfl | ⟨k, rfl, there⟩
      · exact Nat.le_refl 0
      · refine absurd (List.mem_of_getElem? (i := k) ?_) (Text.lastIndex?_eq_none_iff.mp last)
        rw [List.getElem?_take, if_pos (Nat.lt_of_succ_le le), there]
  | some k =>
      obtain ⟨there, last⟩ := Text.lastIndex?_eq_some_iff.mp last
      rw [List.getElem?_take] at there
      obtain ⟨lt, there⟩ := Option.ite_none_right_eq_some.mp there
      refine ⟨.inr ⟨k, rfl, there⟩, lt, fun other le start => ?_⟩
      rcases start with rfl | ⟨m, rfl, there'⟩
      · exact Nat.zero_le _
      · refine Nat.succ_le_succ (last m ?_)
        rw [List.getElem?_take, if_pos (Nat.lt_of_succ_le le), there']

/-- A position that holds no line break is on the line that the next one would be on. -/
theorem StartsLineOf.of_succ (h : StartsLineOf t start (position + 1))
    (other : t[position]? ≠ some ('\n' : CodePoint)) : StartsLineOf t start position where
  isLineStart := h.isLineStart
  le := by
    rcases Nat.lt_succ_iff_lt_or_eq.mp (Nat.lt_succ_of_le h.le) with lt | rfl
    · exact Nat.le_of_lt_succ lt
    · rcases h.isLineStart with zero | ⟨k, eq, there⟩
      · cases zero
      · cases eq
        exact absurd there other
  greatest other le := h.greatest other (Nat.le_succ_of_le le)

/-- The header begins with the line above that of the brace, unless a line break at the
very start of the text is what ends the line above. -/
theorem headerStart_cases (notBreak : t[brace]? ≠ some ('\n' : CodePoint)) :
    ∃ line, StartsLineOf t line brace ∧
      (line ≠ 1 ∧ StartsLineAbove t (headerStart t brace) brace ∨
        line = 1 ∧ headerStart t brace = 1) := by
  have line := (startsLineOf_lineStart t (brace + 1)).of_succ notBreak
  refine ⟨_, line, ?_⟩
  unfold headerStart
  unfold lineStart at line ⊢
  cases last : Text.lastIndex? '\n' (t.take (brace + 1)) with
  | none =>
      rw [last] at line
      exact .inl ⟨Nat.zero_ne_one, 0, line, .inl ⟨rfl, rfl⟩⟩
  | some lineBreak =>
      rw [last] at line
      cases lineBreak with
      | zero => exact .inr ⟨rfl, rfl⟩
      | succ lineBreak =>
          exact .inl ⟨Nat.succ_succ_ne_one lineBreak, _, line,
            .inr ⟨_, rfl, startsLineOf_lineStart t (lineBreak + 1)⟩⟩

theorem StartsLineAbove.isLineStart (h : StartsLineAbove t start position) :
    IsLineStart t start ∧ start ≤ position := by
  obtain ⟨line, ofLine, ⟨-, rfl⟩ | ⟨lineBreak, rfl, above⟩⟩ := h
  · exact ⟨.inl rfl, Nat.zero_le position⟩
  · have := above.le
    have := ofLine.le
    exact ⟨above.isLineStart, by omega⟩

theorem headerStart_isLineStart (notBreak : t[brace]? ≠ some ('\n' : CodePoint)) :
    IsLineStart t (headerStart t brace) ∧ headerStart t brace ≤ brace := by
  obtain ⟨line, ofLine, ⟨-, above⟩ | ⟨rfl, eq⟩⟩ := headerStart_cases notBreak
  · exact above.isLineStart
  · rw [eq]
    exact ⟨ofLine.isLineStart, ofLine.le⟩

end

/-! ### The block that is shown -/

/-- The block before the last closing brace: `close` is the closing brace before that one,
and has its partner at `brace`. -/
structure IsLastBlock (above : Text) (brace close stray : Nat) : Prop
    extends AreLastBraces above close stray where
  partner : Brace.partner above close = .ok (some brace)

/-- The hint shows the text from `start` to the opening brace, a placeholder for the body,
and the text from the closing brace to the stray one, which the fixed text leaves out. -/
structure ShowsBlock (above : Text) (start brace close stray : Nat) (original fixed : Text) :
    Prop where
  isLineStart : IsLineStart above start
  le : start ≤ brace
  original_eq : original = above.slice start (brace + 1) ++
    (bodyPlaceholder ++ above.slice close (stray + 1))
  fixed_append : fixed ++ [('}' : CodePoint)] = original
  /-- The closing brace of the block is the last one of the fixed text. -/
  last : ∃ rest, fixed = above.slice start (brace + 1) ++
    (bodyPlaceholder ++ ('}' : CodePoint) :: rest) ∧ ('}' : CodePoint) ∉ rest

section

variable {above : Text} {brace close stray : Nat}

theorem extraneousClosingBrace_eq (h : AreLastBraces above close stray) :
    extraneousClosingBrace above = .ok ((Brace.openerOf above close).map fun brace =>
      let snippet := above.slice (headerStart above brace) (brace + 1) ++
        bodyPlaceholder ++ above.slice close (stray + 1)
      .extraneousClosingBrace snippet snippet.dropLast) := by
  obtain ⟨last, before⟩ := areLastBraces_iff.mp h
  unfold extraneousClosingBrace
  rw [last]
  dsimp only
  rw [before]
  dsimp only
  rw [Brace.partner_of_isCloser h.atClose rfl]
  cases Brace.openerOf above close with
  | none => rfl
  | some brace => rfl

theorem extraneousClosingBrace_eq_none (h : ∀ close stray, ¬ AreLastBraces above close stray) :
    extraneousClosingBrace above = .ok none := by
  unfold extraneousClosingBrace
  split
  · rfl
  split
  · rfl
  · next stray last _ close before =>
      exact absurd (areLastBraces_iff.mpr ⟨last, before⟩) (h close stray)

theorem IsLastBlock.openerOf_eq (h : IsLastBlock above brace close stray) :
    Brace.openerOf above close = some brace :=
  Except.ok.inj ((Brace.partner_of_isCloser h.atClose rfl).symm.trans h.partner)

/-- The partner of a closing brace is an opener, so it ends no line. -/
theorem IsLastBlock.notBreak (h : IsLastBlock above brace close stray) :
    above[brace]? ≠ some ('\n' : CodePoint) := by
  obtain ⟨opened | ⟨-, c, there, opener⟩, -⟩ :=
    Brace.of_mem_pairs ((Brace.mem_pairs_iff_openerOf h.atClose rfl).mpr h.openerOf_eq)
  · cases opened
  · rw [Nat.sub_zero] at there
    rw [there]
    rintro ⟨rfl⟩
    revert opener
    decide

/-- The end of the snippet: the closing brace of the block, what follows it, and the stray
brace. -/
theorem AreLastBraces.slice_eq (h : AreLastBraces above close stray) :
    above.slice close (stray + 1) =
      ('}' : CodePoint) :: (above.slice (close + 1) stray ++ [('}' : CodePoint)]) := by
  rw [Text.slice_succ (Nat.le_of_lt h.lt) h.atStray, Text.slice_eq_cons h.lt h.atClose,
    List.cons_append]

theorem AreLastBraces.notMem_slice (h : AreLastBraces above close stray) :
    ('}' : CodePoint) ∉ above.slice (close + 1) stray := by
  intro mem
  obtain ⟨k, there⟩ := List.mem_iff_getElem?.mp mem
  rw [Text.getElem?_slice] at there
  obtain ⟨before, there⟩ := Option.ite_none_right_eq_some.mp there
  have := h.last _ there
  omega

theorem IsLastBlock.exists_hint (h : IsLastBlock above brace close stray) :
    ∃ original fixed,
      extraneousClosingBrace above = .ok (some (.extraneousClosingBrace original fixed)) ∧
        ShowsBlock above (headerStart above brace) brace close stray original fixed := by
  obtain ⟨isLineStart, le⟩ := headerStart_isLineStart h.notBreak
  have whole : above.slice (headerStart above brace) (brace + 1) ++ bodyPlaceholder ++
      above.slice close (stray + 1) = above.slice (headerStart above brace) (brace + 1) ++
        (bodyPlaceholder ++ ('}' : CodePoint) :: above.slice (close + 1) stray) ++
          [('}' : CodePoint)] := by
    rw [h.slice_eq]
    simp only [List.append_assoc, List.cons_append]
  refine ⟨_, _, ?_, isLineStart, le, List.append_assoc _ _ _, whole.symm, _, rfl, h.notMem_slice⟩
  rw [extraneousClosingBrace_eq h.toAreLastBraces, h.openerOf_eq, Option.map_some]
  dsimp only
  rw [whole, List.dropLast_concat]

theorem exists_isLastBlock {hint : Hint} (h : extraneousClosingBrace above = .ok (some hint)) :
    ∃ brace close stray, IsLastBlock above brace close stray := by
  by_cases braces : ∃ close stray, AreLastBraces above close stray
  · obtain ⟨close, stray, last⟩ := braces
    rw [extraneousClosingBrace_eq last, Except.ok.injEq, Option.map_eq_some_iff] at h
    obtain ⟨brace, found, -⟩ := h
    exact ⟨brace, close, stray, last, by rw [Brace.partner_of_isCloser last.atClose rfl, found]⟩
  · rw [extraneousClosingBrace_eq_none fun close stray last => braces ⟨close, stray, last⟩] at h
    cases h

/-- With one brace behind it, the last closing brace of a text is the one before the last. -/
theorem areLastBraces_append {front plain : Text} (last : Text.lastIndex? '}' front = some close)
    (noBrace : ∀ c ∈ plain, ¬ c.isOpener = true ∧ ¬ c.isCloser = true) :
    AreLastBraces (front ++ (plain ++ [('}' : CodePoint)])) close
      (front.length + plain.length) := by
  obtain ⟨there, last⟩ := Text.lastIndex?_eq_some_iff.mp last
  have inside := (List.getElem?_eq_some_iff.mp there).1
  refine ⟨?_, ?_, Nat.lt_of_lt_of_le inside (Nat.le_add_right _ _), fun k here => ?_⟩
  · rw [List.getElem?_append_left inside, there]
  · rw [Text.getElem?_length_add_append, List.getElem?_concat_length]
  · rcases Nat.lt_or_ge k front.length with first | second
    · rw [List.getElem?_append_left first] at here
      exact .inl (last k here)
    · obtain ⟨m, rfl⟩ := Nat.exists_eq_add_of_le second
      rw [Text.getElem?_length_add_append] at here
      rcases Nat.lt_trichotomy m plain.length with lt | rfl | gt
      · rw [List.getElem?_append_left lt] at here
        exact absurd rfl (noBrace _ (List.mem_of_getElem? here)).2
      · exact .inr rfl
      · rw [List.getElem?_eq_none (by rw [List.length_append]; exact gt)] at here
        cases here

/-- The block before a stray brace behind nested text, with what stands around it. -/
theorem exists_group_of_isNested {nested plain : Text} (isNested : Brace.IsNested nested)
    (mem : ('}' : CodePoint) ∈ nested)
    (noBrace : ∀ c ∈ plain, ¬ c.isOpener = true ∧ ¬ c.isCloser = true) :
    ∃ front inner behind,
      nested = front ++ ('{' : CodePoint) :: (inner ++ ('}' : CodePoint) :: behind) ∧
        Brace.IsNested inner ∧
        IsLastBlock (nested ++ (plain ++ [('}' : CodePoint)])) front.length
          (front.length + (1 + inner.length)) (nested.length + plain.length) := by
  obtain ⟨close, last⟩ := Option.ne_none_iff_exists'.mp
    fun none => Text.lastIndex?_eq_none_iff.mp none mem
  have braces := areLastBraces_append last noBrace
  have closes : nested[close]? = some Brace.Kind.curly.closer := Text.getElem?_of_lastIndex? last
  obtain ⟨front, inner, behind, rfl, rfl, within⟩ := isNested.exists_group closes
  refine ⟨front, inner, behind, rfl, within, braces, ?_⟩
  simp only [List.append_assoc, List.cons_append]
  exact Brace.partner_group_append within .curly front _

/-- The block before a stray brace that follows nested text is the last one of that. -/
theorem exists_isLastBlock_of_isNested {nested plain : Text} (h : Brace.IsNested nested)
    (mem : ('}' : CodePoint) ∈ nested)
    (noBrace : ∀ c ∈ plain, ¬ c.isOpener = true ∧ ¬ c.isCloser = true) :
    ∃ brace close, IsLastBlock (nested ++ (plain ++ [('}' : CodePoint)])) brace close
        (nested.length + plain.length) ∧
      (nested ++ (plain ++ [('}' : CodePoint)]))[brace]? = some ('{' : CodePoint) := by
  obtain ⟨front, inner, behind, rfl, -, block⟩ := exists_group_of_isNested h mem noBrace
  refine ⟨_, _, block, ?_⟩
  rw [List.append_assoc, List.getElem?_append_right (Nat.le_refl _), Nat.sub_self]
  rfl

/-- There is a hint for a stray brace if and only if the closing brace before the last one
has a partner, and then the hint shows the block of those two. Behind nested text with a
closing brace there always is one, and the block opens with a brace. -/
theorem extraneousClosingBrace_shows (above : Text) :
    ∃ found, extraneousClosingBrace above = .ok found ∧
      (found.isSome = true ↔ 2 ≤ above.count ('}' : CodePoint) ∧
        ∀ close stray : Nat, AreLastBraces above close stray →
          ∃ brace, Brace.partner above close = .ok (some brace)) ∧
      (∀ hint ∈ found, ∃ start brace close stray original fixed,
        IsLastBlock above brace close stray ∧ hint = .extraneousClosingBrace original fixed ∧
          ShowsBlock above start brace close stray original fixed) ∧
      ∀ nested plain : Text, above = nested ++ (plain ++ [('}' : CodePoint)]) →
        Brace.IsNested nested → ('}' : CodePoint) ∈ nested →
        (∀ c ∈ plain, ¬ c.isOpener = true ∧ ¬ c.isCloser = true) →
          found.isSome = true ∧ ∃ brace close stray, IsLastBlock above brace close stray ∧
            above[brace]? = some ('{' : CodePoint) := by
  obtain ⟨found, hint_eq, -⟩ := exists_extraneousClosingBrace above
  have isSome_of_block {brace close stray : Nat} (block : IsLastBlock above brace close stray) :
      found.isSome = true := by
    obtain ⟨original, fixed, shown, -⟩ := block.exists_hint
    rw [Except.ok.inj (hint_eq.symm.trans shown), Option.isSome_some]
  refine ⟨found, hint_eq, ⟨fun some => ?_, fun ⟨two, partner⟩ => ?_⟩, fun hint mem => ?_,
    fun nested plain eq isNested mem noBrace => ?_⟩
  · obtain ⟨hint, eq⟩ := Option.isSome_iff_exists.mp some
    obtain ⟨brace, close, stray, block⟩ := exists_isLastBlock (eq ▸ hint_eq)
    refine ⟨block.two_le_count, fun close' stray' last => ?_⟩
    obtain ⟨rfl, -⟩ := last.unique block.toAreLastBraces
    exact ⟨brace, block.partner⟩
  · obtain ⟨close, stray, last⟩ := exists_areLastBraces two
    obtain ⟨brace, matched⟩ := partner close stray last
    exact isSome_of_block ⟨last, matched⟩
  · rw [Option.mem_def.mp mem] at hint_eq
    obtain ⟨brace, close, stray, block⟩ := exists_isLastBlock hint_eq
    obtain ⟨original, fixed, shown, shows'⟩ := block.exists_hint
    exact ⟨_, brace, close, stray, original, fixed, block,
      Option.some.inj (Except.ok.inj (hint_eq.symm.trans shown)), shows'⟩
  · subst eq
    obtain ⟨brace, close, block, opened⟩ := exists_isLastBlock_of_isNested isNested mem noBrace
    exact ⟨isSome_of_block block, brace, close, _, block, opened⟩

theorem extraneousClosingBrace_shows_block :
    ∃ found, extraneousClosingBrace (Text.ofString "f() \x7bx\x7d\n \x7d") = .ok found ∧
      found.isSome = true ∧ ∃ brace close stray : Nat,
        (Text.ofString "f() \x7bx\x7d\n \x7d")[brace]? = some ('{' : CodePoint) ∧
          IsLastBlock (Text.ofString "f() \x7bx\x7d\n \x7d") brace close stray := by
  obtain ⟨found, eq, -, -, behind⟩ :=
    extraneousClosingBrace_shows (Text.ofString "f() \x7bx\x7d\n \x7d")
  have nested : Brace.IsNested (Text.ofString "f() \x7bx\x7d") := by
    refine .plain (by decide) (by decide) (.group .round .nil (.plain (by decide) (by decide) ?_))
    exact .group .curly (.plain (by decide) (by decide) .nil) .nil
  obtain ⟨isSome, brace, close, stray, block, opened⟩ :=
    behind (Text.ofString "f() \x7bx\x7d") (Text.ofString "\n ") rfl nested (by decide) (by decide)
  exact ⟨found, eq, isSome, brace, close, stray, opened, block⟩

/-- The header that is shown begins with the line above the one that holds the opening
brace, unless that one begins right behind a line break at offset zero: then it begins
there itself. -/
theorem header_startsLineAbove {hint : Hint}
    (h : extraneousClosingBrace above = .ok (some hint)) :
    ∃ brace close stray line start original fixed, IsLastBlock above brace close stray ∧
      StartsLineOf above line brace ∧ hint = .extraneousClosingBrace original fixed ∧
      original = above.slice start (brace + 1) ++
        (bodyPlaceholder ++ above.slice close (stray + 1)) ∧
      (line ≠ 1 ∧ StartsLineAbove above start brace ∨ line = 1 ∧ start = 1) := by
  obtain ⟨brace, close, stray, block⟩ := exists_isLastBlock h
  obtain ⟨original, fixed, shown, shows'⟩ := block.exists_hint
  obtain ⟨line, ofLine, start⟩ := headerStart_cases block.notBreak
  exact ⟨brace, close, stray, line, _, original, fixed, block, ofLine,
    Option.some.inj (Except.ok.inj (h.symm.trans shown)), shows'.original_eq, start⟩

theorem header_startsLineAbove_emptyLine :
    let above := Text.ofString "g();\n\nf() \x7bx\x7d\n\x7d"
    ∃ brace close stray line start original fixed, IsLastBlock above brace close stray ∧
      StartsLineOf above line brace ∧
      extraneousClosingBrace above = .ok (some (.extraneousClosingBrace original fixed)) ∧
      original = above.slice start (brace + 1) ++
        (bodyPlaceholder ++ above.slice close (stray + 1)) ∧
      (line ≠ 1 ∧ StartsLineAbove above start brace ∨ line = 1 ∧ start = 1) := by
  intro above
  obtain ⟨hint, shown⟩ : ∃ hint, extraneousClosingBrace above = .ok (some hint) := ⟨_, rfl⟩
  obtain ⟨brace, close, stray, line, start, original, fixed, block, ofLine, rfl, shows'⟩ :=
    header_startsLineAbove shown
  exact ⟨brace, close, stray, line, start, original, fixed, block, ofLine, shown, shows'⟩

/-- The empty first line above a block is not shown. -/
theorem not_startsLineAbove_leadingBreak :
    let above := Text.ofString "\n\x7b\x7d\n\x7d"
    IsLastBlock above 1 2 4 ∧ StartsLineAbove above 0 1 ∧
      ∃ original fixed,
        extraneousClosingBrace above = .ok (some (.extraneousClosingBrace original fixed)) ∧
          ∀ start, StartsLineAbove above start 1 → original ≠
            above.slice start 2 ++ (bodyPlaceholder ++ above.slice 2 5) := by
  intro above
  have lineAbove : StartsLineAbove above 0 1 :=
    ⟨1, ⟨.inr ⟨0, rfl, rfl⟩, Nat.le_refl 1, fun _ le _ => le⟩,
      .inr ⟨0, rfl, .inl rfl, Nat.le_refl 0, fun _ le _ => le⟩⟩
  refine ⟨⟨areLastBraces_iff.mpr ⟨by decide, by decide⟩, rfl⟩, lineAbove, _, _, rfl,
    fun start shown => ?_⟩
  obtain rfl := shown.unique lineAbove
  decide

end

end SketchHelp.SketchError
