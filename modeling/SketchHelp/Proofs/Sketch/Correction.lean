import SketchHelp.Proofs.Sketch.StrayBrace

/-!
Whether the corrected snippet is correct. For a stray brace behind nested text the snippet
joins whole lines above a block to the block's closing brace and what follows that. Nested
text may be taken out of any text without making it nested or not, so the body of the block
does not matter, and neither does what stands behind it. What matters is where the header
begins: the corrected snippet is nested if and only if no group is open there. Whole lines
may begin inside a block, and the line above a block does whenever it closes another one.
-/

namespace SketchHelp.Brace

/-! ### Taking nested text out -/

section

variable {c : CodePoint} {rest : Text} {kind : Kind} {kinds : List Kind}

theorem isNested_cons_iff : IsNested (c :: rest) ↔
    (¬ c.isOpener = true ∧ ¬ c.isCloser = true ∧ IsNested rest) ∨
      ∃ (kind : Kind) (inner behind : Text), c = kind.opener ∧
        rest = inner ++ kind.closer :: behind ∧ IsNested inner ∧ IsNested behind := by
  constructor
  · intro h
    cases h with
    | plain hopener hcloser nested => exact .inl ⟨hopener, hcloser, nested⟩
    | group kind within behind => exact .inr ⟨kind, _, _, rfl, rfl, within, behind⟩
  · rintro (⟨hopener, hcloser, nested⟩ | ⟨kind, inner, behind, rfl, rfl, within, outside⟩)
    · exact .plain hopener hcloser nested
    · exact .group kind within outside

theorem not_isNested_closer_cons : ¬ IsNested (kind.closer :: rest) := by
  rw [isNested_cons_iff]
  rintro (⟨-, hcloser, -⟩ | ⟨other, _, _, same, -⟩)
  · exact hcloser kind.isCloser_closer
  · exact other.opener_ne_closer kind same.symm

theorem closes_cons_of_plain (hopener : ¬ c.isOpener = true) (hcloser : ¬ c.isCloser = true) :
    Closes kinds (c :: rest) ↔ Closes kinds rest := by
  have of_cons {t : Text} (h : IsNested (c :: t)) : IsNested t := by
    rcases isNested_cons_iff.mp h with ⟨-, -, nested⟩ | ⟨kind, _, _, rfl, -⟩
    · exact nested
    · exact absurd kind.isOpener_opener hopener
  refine ⟨fun h => ?_, .plain hopener hcloser⟩
  cases kinds with
  | nil => exact of_cons h
  | cons kind kinds =>
      obtain ⟨inner, behind, eq, nested, later⟩ := h
      cases inner with
      | nil =>
          obtain ⟨rfl, -⟩ := List.cons.inj eq
          exact absurd kind.isCloser_closer hcloser
      | cons first inner =>
          obtain ⟨rfl, rfl⟩ := List.cons.inj eq
          exact ⟨inner, behind, rfl, of_cons nested, later⟩

theorem closes_cons_of_opener :
    Closes kinds (kind.opener :: rest) ↔ Closes (kind :: kinds) rest := by
  have of_cons {t : Text} (h : IsNested (kind.opener :: t)) :
      ∃ inner behind, t = inner ++ kind.closer :: behind ∧ IsNested inner ∧ IsNested behind := by
    rcases isNested_cons_iff.mp h with ⟨hopener, -⟩ | ⟨other, inner, behind, same, parts⟩
    · exact absurd kind.isOpener_opener hopener
    · obtain rfl := Kind.opener_inj.mp same
      exact ⟨inner, behind, parts⟩
  refine ⟨fun h => ?_, .group⟩
  cases kinds with
  | nil => exact of_cons h
  | cons outer kinds =>
      obtain ⟨front, later, eq, nested, outside⟩ := h
      cases front with
      | nil => exact absurd (List.cons.inj eq).1 (kind.opener_ne_closer outer)
      | cons first front =>
          obtain ⟨rfl, rfl⟩ := List.cons.inj eq
          obtain ⟨inner, behind, rfl, within, after⟩ := of_cons nested
          exact ⟨inner, behind ++ outer.closer :: later, List.append_assoc _ _ _, within,
            behind, later, rfl, after, outside⟩

theorem closes_cons_of_closer : Closes kinds (kind.closer :: rest) ↔
    ∃ below, kinds = kind :: below ∧ Closes below rest := by
  constructor
  · intro h
    cases kinds with
    | nil => exact absurd h not_isNested_closer_cons
    | cons top below =>
        obtain ⟨inner, behind, eq, nested, later⟩ := h
        cases inner with
        | nil =>
            obtain ⟨same, rfl⟩ := List.cons.inj eq
            obtain rfl := Kind.closer_inj.mp same
            exact ⟨below, rfl, later⟩
        | cons first inner =>
            obtain ⟨rfl, -⟩ := List.cons.inj eq
            exact absurd nested not_isNested_closer_cons
  · rintro ⟨below, rfl, later⟩
    exact ⟨[], rest, rfl, .nil, later⟩

/-- Nested text in front closes nothing. -/
theorem IsNested.closes_append_iff {t : Text} (h : IsNested t) (after : Text) :
    Closes kinds (t ++ after) ↔ Closes kinds after := by
  induction h generalizing kinds after with
  | nil => rfl
  | plain hopener hcloser _ ih => rw [List.cons_append, closes_cons_of_plain hopener hcloser, ih]
  | @group kind inner rest _ _ withinIh behindIh =>
      rw [List.cons_append, List.append_assoc, List.cons_append, closes_cons_of_opener,
        withinIh, closes_cons_of_closer]
      constructor
      · rintro ⟨below, eq, later⟩
        obtain ⟨-, rfl⟩ := List.cons.inj eq
        exact (behindIh after).mp later
      · exact fun later => ⟨kinds, rfl, (behindIh after).mpr later⟩

/-- What follows a text closes what is open behind it, and no more is asked of it. -/
theorem closes_append_congr {more less : Text} (same : ∀ kinds, Closes kinds more ↔ Closes kinds less)
    (t : Text) : Closes kinds (t ++ more) ↔ Closes kinds (t ++ less) := by
  induction t generalizing kinds with
  | nil => exact same kinds
  | cons c rest ih =>
      rw [List.cons_append, List.cons_append]
      rcases Kind.opener_or_closer_or_plain c with ⟨kind, rfl⟩ | ⟨kind, rfl⟩ | ⟨hopener, hcloser⟩
      · rw [closes_cons_of_opener, closes_cons_of_opener, ih]
      · rw [closes_cons_of_closer, closes_cons_of_closer]
        exact exists_congr fun below => and_congr_right fun _ => ih
      · rw [closes_cons_of_plain hopener hcloser, closes_cons_of_plain hopener hcloser, ih]

/-- Nested text may be taken out anywhere. -/
theorem IsNested.isNested_append_append_iff {part : Text} (h : IsNested part) (t after : Text) :
    IsNested (t ++ (part ++ after)) ↔ IsNested (t ++ after) := by
  show Closes [] (t ++ (part ++ after)) ↔ Closes [] (t ++ after)
  exact closes_append_congr (fun _ => h.closes_append_iff after) t

theorem IsNested.isNested_append_left_iff {t : Text} (h : IsNested t) (after : Text) :
    IsNested (t ++ after) ↔ IsNested after :=
  h.isNested_append_append_iff [] after

theorem IsNested.isNested_append_right_iff {t : Text} (h : IsNested t) (before : Text) :
    IsNested (before ++ t) ↔ IsNested before := by
  have out := h.isNested_append_append_iff before []
  rwa [List.append_nil, List.append_nil] at out

/-- So may a group with nested text inside. -/
theorem IsNested.isNested_group_append_iff {inner : Text} (within : IsNested inner)
    (kind : Kind) (front behind : Text) :
    IsNested (front ++ kind.opener :: (inner ++ kind.closer :: behind)) ↔
      IsNested (front ++ behind) := by
  have out := (IsNested.group kind within .nil).isNested_append_append_iff front behind
  rwa [List.cons_append, List.append_assoc, List.cons_append, List.nil_append] at out

/-- Nested text is cut into nested parts anywhere that no group is open. -/
theorem IsNested.isNested_middle_iff {front middle behind : Text}
    (h : IsNested (front ++ (middle ++ behind))) :
    IsNested (middle ++ behind) ↔ IsNested front :=
  ⟨fun nested => (nested.isNested_append_right_iff front).mp h,
    fun nested => (nested.isNested_append_left_iff _).mp h⟩

end

end SketchHelp.Brace

namespace SketchHelp.SketchError

/-! ### The corrected snippet -/

section

variable {nested plain : Text}

/-- The fixed text shows the end of what stands before the block, and all that stands
behind it but the stray brace. -/
theorem ShowsBlock.fixed_eq {above front inner behind original fixed : Text} {start stray : Nat}
    (h : ShowsBlock above start front.length (front.length + (1 + inner.length)) stray
      original fixed)
    (parts : above = front ++ ('{' : CodePoint) :: (inner ++ ('}' : CodePoint) ::
      (behind ++ [('}' : CodePoint)]))) (atEnd : above.length ≤ stray + 1) :
    fixed = front.drop start ++
      ('{' : CodePoint) :: (bodyPlaceholder ++ ('}' : CodePoint) :: behind) := by
  have header : above.slice start (front.length + 1) = front.drop start ++ [('{' : CodePoint)] := by
    rw [Text.slice, parts, List.take_length_add_append, List.drop_append_of_le_length h.le]
    rfl
  have tail : above.slice (front.length + (1 + inner.length)) (stray + 1) =
      ('}' : CodePoint) :: (behind ++ [('}' : CodePoint)]) := by
    rw [Text.slice, List.take_of_length_le atEnd, parts, List.drop_length_add_append,
      Nat.add_comm, List.drop_succ_cons, List.drop_left]
  refine List.append_cancel_right (h.fixed_append.trans ?_)
  rw [h.original_eq, header, tail]
  simp only [List.append_assoc, List.cons_append, List.nil_append]

/-- Behind nested text the corrected snippet is nested if and only if no group is open
where the header begins. -/
theorem isNested_fixed_iff (isNested : Brace.IsNested nested)
    (mem : ('}' : CodePoint) ∈ nested)
    (noBrace : ∀ c ∈ plain, ¬ c.isOpener = true ∧ ¬ c.isCloser = true) :
    let above := nested ++ (plain ++ [('}' : CodePoint)])
    ∃ brace close stray line start original fixed, IsLastBlock above brace close stray ∧
      StartsLineOf above line brace ∧
      (line ≠ 1 ∧ StartsLineAbove above start brace ∨ line = 1 ∧ start = 1) ∧
      extraneousClosingBrace above = .ok (some (.extraneousClosingBrace original fixed)) ∧
      ShowsBlock above start brace close stray original fixed ∧
      (Brace.IsNested fixed ↔ Brace.IsNested (above.take start)) := by
  intro above
  obtain ⟨front, inner, behind, rfl, within, block⟩ :=
    exists_group_of_isNested isNested mem noBrace
  obtain ⟨original, fixed, hint_eq, shown⟩ := block.exists_hint
  obtain ⟨line, ofLine, header⟩ := headerStart_cases block.notBreak
  refine ⟨_, _, _, line, _, original, fixed, block, ofLine, header, hint_eq, shown, ?_⟩
  have parts : above = front ++ ('{' : CodePoint) :: (inner ++ ('}' : CodePoint) ::
      ((behind ++ plain) ++ [('}' : CodePoint)])) := by
    simp only [above, List.append_assoc, List.cons_append]
  have atEnd : above.length ≤ (front ++ ('{' : CodePoint) :: (inner ++ ('}' : CodePoint) ::
      behind)).length + plain.length + 1 := by
    simp only [above, List.length_append, List.length_singleton, Nat.add_assoc, Nat.le_refl]
  rw [shown.fixed_eq parts atEnd, parts, List.take_append_of_le_length shown.le]
  -- Without the block and its body there is left what stands above the header, the rest of
  -- the header's lines and what stands behind the block.
  have placeholder : Brace.IsNested bodyPlaceholder :=
    Brace.isNested_of_forall_plain (by decide)
  refine (placeholder.isNested_group_append_iff .curly _ _).trans
    (Brace.IsNested.isNested_middle_iff ?_)
  rw [← List.append_assoc, List.take_append_drop, ← List.append_assoc,
    (Brace.isNested_of_forall_plain noBrace).isNested_append_right_iff]
  exact (within.isNested_group_append_iff .curly front behind).mp isNested

theorem isNested_fixed_iff_emptyLine :
    let nested := Text.ofString "f() \x7bx\x7d\n\ng() \x7by\x7d"
    let above := nested ++ (Text.ofString "\n" ++ [('}' : CodePoint)])
    Brace.IsNested nested ∧ ('}' : CodePoint) ∈ nested ∧
      ∃ brace close stray line start original fixed, IsLastBlock above brace close stray ∧
        StartsLineOf above line brace ∧
        (line ≠ 1 ∧ StartsLineAbove above start brace ∨ line = 1 ∧ start = 1) ∧
        extraneousClosingBrace above = .ok (some (.extraneousClosingBrace original fixed)) ∧
        ShowsBlock above start brace close stray original fixed ∧
        (Brace.IsNested fixed ↔ Brace.IsNested (above.take start)) := by
  intro nested above
  have isNested : Brace.IsNested nested := by decide
  have mem : ('}' : CodePoint) ∈ nested := by decide
  exact ⟨isNested, mem, isNested_fixed_iff isNested mem (by decide)⟩

/-- Two methods without an empty line between them: the header begins with the closing
brace of the first, and so does the fixed text. -/
theorem not_isNested_fixed_adjacent :
    let nested := Text.ofString "void a() \x7b\n\x7d\nvoid b() \x7b\n\x7d"
    let plain := Text.ofString "\n"
    Brace.IsNested nested ∧ ('}' : CodePoint) ∈ nested ∧
      (∀ c ∈ plain, ¬ c.isOpener = true ∧ ¬ c.isCloser = true) ∧
      ∃ original fixed, extraneousClosingBrace (nested ++ (plain ++ [('}' : CodePoint)])) =
        .ok (some (.extraneousClosingBrace original fixed)) ∧ ¬ Brace.IsNested fixed := by
  intro nested plain
  have isNested : Brace.IsNested nested := by decide
  exact ⟨isNested, by decide, by decide, _, _, rfl, by decide⟩

end

end SketchHelp.SketchError
