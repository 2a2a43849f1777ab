import SketchHelp.SketchError

/-!
What the hints for sketch errors rest on. Every search for a partner starts at a brace, so
none of them fails, whatever the text and the offset are. A hint is read off the text above
the error and the first statement behind it, and for a stray brace or a misplaced method
off the text above alone. The text behind those parts has no influence.
-/

namespace SketchHelp

/-! ### Declarators -/

namespace Declarator

theorem flatten_lastPiece (rest : Text) : (lastPiece rest).flatten = rest := by
  cases rest with
  | nil => rfl
  | cons c rest => exact List.append_nil _

/-- A statement is always cut into pieces, and they make up the whole of it. -/
theorem exists_splitFrom (statement : Text) {start position : Nat} (le : start ≤ position) :
    ∃ pieces, splitFrom statement start position = .ok pieces ∧
      pieces.flatten = statement.drop start := by
  fun_induction splitFrom statement start position with
  | case1 => exact ⟨_, rfl, flatten_lastPiece _⟩
  | case2 start position fault matched here =>
      rw [Brace.partner_of_isOpener here rfl] at matched
      cases matched
  | case3 => exact ⟨_, rfl, flatten_lastPiece _⟩
  | case4 start position close matched here ih =>
      have := Brace.lt_of_partner_of_isOpener here rfl matched
      exact ih (by omega)
  | case5 start position here _ ih =>
      obtain ⟨pieces, cut, whole⟩ := ih (Nat.le_refl _)
      have bound := (List.getElem?_eq_some_iff.mp here).1
      have inside : start ≤ (statement.take (position + 1)).length := by
        rw [List.length_take]
        omega
      refine ⟨statement.slice start (position + 1) :: pieces, by rw [cut]; rfl, ?_⟩
      rw [List.flatten_cons, whole, Text.slice, ← List.drop_append_of_le_length inside,
        List.take_append_drop]
  | case6 start position c here _ _ ih => exact ih (Nat.le_succ_of_le le)

theorem exists_split (statement : Text) :
    ∃ pieces, split statement = .ok pieces ∧ pieces.flatten = statement :=
  exists_splitFrom statement (Nat.le_refl 0)

end Declarator

namespace SketchError

/-! ### What a hint is -/

/-- The hints for sketch errors. A type in them is the last segment of what was read. -/
inductive IsSketchHint : Hint → Prop
  | extraneousClosingBrace (snippet fixed : Text) :
      IsSketchHint (.extraneousClosingBrace snippet fixed)
  | incorrectVariableDeclaration (word name : Text) :
      IsSketchHint (.incorrectVariableDeclaration word.trimType name)
  | incorrectMethodDeclaration (name : Text) : IsSketchHint (.incorrectMethodDeclaration name)
  | unexpectedToken (token : Text) : IsSketchHint (.unexpectedToken token.trimType)

theorem exists_extraneousClosingBrace (above : Text) :
    ∃ found, extraneousClosingBrace above = .ok found ∧ ∀ hint ∈ found, IsSketchHint hint := by
  unfold extraneousClosingBrace
  split
  · exact ⟨none, rfl, nofun⟩
  split
  · exact ⟨none, rfl, nofun⟩
  · rename_i stray _ _ close before
    have there : above[close]? = some '}' := by
      have found := Text.getElem?_of_lastIndex? before
      rw [List.getElem?_take] at found
      exact (Option.ite_none_right_eq_some.mp found).2
    rw [Brace.partner_of_isCloser there rfl]
    cases Brace.openerOf above close with
    | none => exact ⟨none, rfl, nofun⟩
    | some brace =>
        refine ⟨some _, rfl, fun hint h => ?_⟩
        cases h
        exact .extraneousClosingBrace _ _

theorem exists_incorrectVariableDeclaration (source : Text) (offset : Int) :
    ∃ found, incorrectVariableDeclaration source offset = .ok found ∧
      ∀ hint ∈ found, IsSketchHint hint := by
  obtain ⟨pieces, cut, -⟩ := Declarator.exists_split
    (firstStatement (source.drop (Text.cutPoint source.length offset)))
  rw [incorrectVariableDeclaration, cut]
  refine ⟨_, rfl, fun hint h => ?_⟩
  obtain ⟨invalid, -, rfl⟩ := Option.map_eq_some_iff.mp h
  exact .incorrectVariableDeclaration _ _

theorem isSketchHint_of_incorrectMethodDeclaration {above : Text} {hint : Hint}
    (h : incorrectMethodDeclaration above = some hint) : IsSketchHint hint := by
  obtain ⟨paren, -, rfl⟩ := Option.map_eq_some_iff.mp h
  exact .incorrectMethodDeclaration _

theorem isSketchHint_of_unexpectedToken? {token : Text} {hint : Hint}
    (h : Hint.unexpectedToken? token = some hint) : IsSketchHint hint := by
  obtain ⟨-, eq⟩ := Option.ite_none_right_eq_some.mp h
  cases eq
  exact .unexpectedToken _

/-- Every message is classified, without a fault. -/
theorem exists_classify (message source : Text) (offset : Int) :
    ∃ found, classify message source offset = .ok found ∧ ∀ hint ∈ found, IsSketchHint hint := by
  unfold classify
  split
  · exact exists_extraneousClosingBrace _
  split
  · exact exists_incorrectVariableDeclaration _ _
  split
  · exact ⟨_, rfl, fun hint => isSketchHint_of_incorrectMethodDeclaration⟩
  split
  · exact ⟨_, rfl, fun hint => isSketchHint_of_unexpectedToken?⟩
  · exact ⟨none, rfl, nofun⟩

/-! ### What is read -/

theorem firstStatement_append_of_mem {front : Text} (h : (';' : CodePoint) ∈ front)
    (behind : Text) : firstStatement (front ++ behind) = firstStatement front := by
  induction front with
  | nil => cases h
  | cons c rest ih =>
      rw [List.cons_append, firstStatement, firstStatement]
      split
      · rfl
      · rename_i other
        rw [ih ((List.mem_cons.mp h).resolve_left (Ne.symm other))]

section

variable {message source other : Text} {n : Nat}

/-- The hint depends on the text above the error and the first statement behind it. -/
theorem classify_congr (hn : n ≤ source.length) (hn' : n ≤ other.length)
    (above : source.take n = other.take n)
    (statement : firstStatement (source.drop n) = firstStatement (other.drop n)) :
    classify message source n = classify message other n := by
  have cut {t : Text} (h : n ≤ t.length) : min (n : Int).toNat t.length = n := by omega
  have point {t : Text} (h : n ≤ t.length) : Text.cutPoint t.length n = n := by
    rw [Text.cutPoint, if_pos (Int.natCast_nonneg n), cut h]
  simp only [classify, incorrectVariableDeclaration, cut hn, cut hn', point hn, point hn',
    above, statement]

/-- For a stray brace or a misplaced method the text above is enough. -/
theorem classify_congr_above (hn : n ≤ source.length) (hn' : n ≤ other.length)
    (above : source.take n = other.take n)
    (message_eq : message = strayBraceMessage ∨ message = mixedModesMessage) :
    classify message source n = classify message other n := by
  have cut {t : Text} (h : n ≤ t.length) : min (n : Int).toNat t.length = n := by omega
  rcases message_eq with rfl | rfl
  · rw [classify, classify, if_pos rfl, if_pos rfl, cut hn, cut hn', above]
  · have notStray : ¬ mixedModesMessage = strayBraceMessage := by decide
    have notDot : ¬ expectingDot.isPrefixOf mixedModesMessage = true := by decide
    rw [classify, classify, if_neg notStray, if_neg notDot, if_pos rfl, if_neg notStray,
      if_neg notDot, if_pos rfl, cut hn, cut hn', above]

end

/-! ### The text behind is replaced -/

section

variable {source : Text} {n m : Nat} (le : n ≤ m) (bound : m ≤ source.length) (other : Text)

include le bound

theorem le_length_take_append : n ≤ (source.take m ++ other).length := by
  rw [List.length_append, List.length_take]
  omega

theorem take_take_append : (source.take m ++ other).take n = source.take n := by
  have inside : n ≤ (source.take m).length := by
    rw [List.length_take]
    omega
  rw [List.take_append_of_le_length inside, List.take_take, Nat.min_eq_left le]

/-- The first statement is the old one if it ends before the text that is replaced. -/
theorem firstStatement_drop_take_append
    (ended : (';' : CodePoint) ∈ (source.take m).drop n) :
    firstStatement ((source.take m ++ other).drop n) = firstStatement (source.drop n) := by
  have same (behind : Text) : firstStatement ((source.take m ++ behind).drop n) =
      firstStatement ((source.take m).drop n) := by
    rw [List.drop_append_of_le_length (by rw [List.length_take]; omega)]
    exact firstStatement_append_of_mem ended behind
  calc
    firstStatement ((source.take m ++ other).drop n) =
        firstStatement ((source.take m).drop n) := same other
    _ = firstStatement ((source.take m ++ source.drop m).drop n) := (same _).symm
    _ = firstStatement (source.drop n) := by rw [List.take_append_drop]

end

/-- Every message about every source is classified at every offset. An offset beyond an
end of the source stands for that end. The text from the offset on has no influence on the
hint for a stray brace or a misplaced method, and the text behind a semicolon at or after
the offset has none on any hint. -/
theorem classify_isLocal (message source : Text) :
    (∀ offset, ∃ found, classify message source offset = .ok found) ∧
      (∀ offset ≤ 0, classify message source offset = classify message source 0) ∧
      (∀ offset ≥ (source.length : Int),
        classify message source offset = classify message source source.length) ∧
      (∀ n ≤ source.length, message = strayBraceMessage ∨ message = mixedModesMessage →
        ∀ other, classify message (source.take n ++ other) n = classify message source n) ∧
      ∀ n p, n ≤ p → source[p]? = some (';' : CodePoint) →
        ∀ other, classify message (source.take (p + 1) ++ other) n =
          classify message source n := by
  refine ⟨fun offset => ?_, fun offset le => ?_, fun offset ge => ?_,
    fun n bound message_eq other => ?_, fun n p le there other => ?_⟩
  · obtain ⟨found, classified, -⟩ := exists_classify message source offset
    exact ⟨found, classified⟩
  · rw [classify, classify, show offset.toNat = (0 : Int).toNat by omega]
  · rw [classify, classify,
      show min offset.toNat source.length = min (source.length : Int).toNat source.length by omega]
  · have le := Nat.le_refl n
    exact classify_congr_above (le_length_take_append le bound other) bound
      (take_take_append le bound other) message_eq
  · have inside := (List.getElem?_eq_some_iff.mp there).1
    have bound : p + 1 ≤ source.length := inside
    have le' : n ≤ p + 1 := Nat.le_succ_of_le le
    have ended : (';' : CodePoint) ∈ (source.take (p + 1)).drop n := by
      refine List.mem_of_getElem? (i := p - n) ?_
      rw [List.getElem?_drop, List.getElem?_take, if_pos (by omega), Nat.add_sub_cancel' le,
        there]
    exact classify_congr (le_length_take_append le' bound other) (by omega)
      (take_take_append le' bound other) (firstStatement_drop_take_append le' bound other ended)

theorem classify_isLocal_at_ends :
    let block := Text.ofString "void f() \x7b \x7d\n\x7d"
    let array := Text.ofString "int[] a = 5;"
    classify strayBraceMessage block (-3) = classify strayBraceMessage block 0 ∧
      classify strayBraceMessage block 99 = classify strayBraceMessage block 14 ∧
      (∃ snippet fixed, classify strayBraceMessage block 14 =
        .ok (some (.extraneousClosingBrace snippet fixed))) ∧
      classify strayBraceMessage (block ++ Text.ofString " g(") 14 =
        classify strayBraceMessage block 14 ∧
      classify expectingDot (array ++ Text.ofString " b = (") 5 =
        classify expectingDot array 5 := by
  intro block array
  obtain ⟨-, below, behind, stray, -⟩ := classify_isLocal strayBraceMessage block
  obtain ⟨-, -, -, -, declaration⟩ := classify_isLocal expectingDot array
  exact ⟨below (-3) (by decide), behind 99 (by decide), ⟨_, _, rfl⟩,
    stray 14 (by decide) (.inl rfl) (Text.ofString " g("),
    declaration 5 11 (by decide) (by decide) (Text.ofString " b = (")⟩

end SketchError

end SketchHelp
