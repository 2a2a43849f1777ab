import SketchHelp.Proofs.Problem.Classification
import SketchHelp.SketchError

/-!
Tokens that nobody expected. A sketch error names one in its message, behind a colon and
between blanks; a compiler problem has it as its first argument. The hint depends on the
token alone, so it is the same from both sides, and there is one just for the tokens that
could name a type. Such a token has no dot, so the page shows all of it: nothing is taken for
a qualifier.
-/

namespace SketchHelp

theorem Hint.unexpectedToken?_eq_some_iff {token : Text} {hint : Hint} :
    unexpectedToken? token = some hint ↔
      token.couldBeType = true ∧ hint = .unexpectedToken token := by
  rw [unexpectedToken?]
  split
  · rename_i type
    rw [Text.trimType_of_couldBeType type]
    simp [type, eq_comm]
  · rename_i other
    simp [other]

/-- A token with a code point that no identifier has is not cut down but refused. -/
theorem Hint.unexpectedToken?_eq_none {token : Text} {c : CodePoint} (mem : c ∈ token)
    (foreign : ¬ c.isIdentifierPart = true) : unexpectedToken? token = none := by
  rw [unexpectedToken?, if_neg fun type => Text.notMem_of_couldBeType type foreign mem]

/-! ### The two sides -/

namespace SketchError

/-- What stands behind the first colon of a message. -/
def behindColon (message : Text) : Text :=
  (message.dropWhile (· ≠ CodePoint.ofChar ':')).tail

theorem behindColon_unexpectedTokenMessage (rest : Text) :
    behindColon (unexpectedTokenMessage ++ rest) = rest :=
  rfl

/-- A message about a token names what stands behind its first colon. -/
theorem classify_unexpectedTokenMessage (rest source : Text) (offset : Int) :
    classify (unexpectedTokenMessage ++ rest) source offset =
      .ok (Hint.unexpectedToken? (behindColon (unexpectedTokenMessage ++ rest)).strip) := by
  have other {message : Text} (differs : message.head? ≠ unexpectedTokenMessage.head?) :
      unexpectedTokenMessage ++ rest ≠ message := by
    rintro rfl
    exact differs rfl
  have notDot : ¬ expectingDot.isPrefixOf (unexpectedTokenMessage ++ rest) = true := nofun
  rw [classify, if_neg (other (by decide)), if_neg notDot, if_neg (other (by decide)),
    if_pos (by simp), List.drop_left, behindColon_unexpectedTokenMessage]

end SketchError

namespace Diagnostic

variable {diagnostic : Diagnostic}

theorem hintAt_of_deleteToken (code : diagnostic.code = .known .parsingErrorDeleteToken)
    (tree : Tree) (node : Node) :
    diagnostic.hintAt tree node = .ok (Hint.unexpectedToken? (diagnostic.argument 0)) := by
  rw [hintAt, code]
  rfl

theorem classify_of_deleteToken (code : diagnostic.code = .known .parsingErrorDeleteToken)
    {spec : Spec} {source : Text} {offset : Option Int} {tree : Tree}
    (built : spec.toTree source offset = .ok tree) :
    diagnostic.classify tree = .ok (Hint.unexpectedToken? (diagnostic.argument 0)) := by
  obtain ⟨start, outline, -, rfl⟩ := spec.exists_placed built
  obtain ⟨node, located, -⟩ := Tree.nodeAt_yields outline source diagnostic.span.toRange
  rw [classify, located]
  exact hintAt_of_deleteToken code _ node

/-- A token that ends with a currency sign is to be deleted. -/
def deletedToken : Diagnostic :=
  ⟨.known .parsingErrorDeleteToken, [Text.ofString "prix€"], unknownCall.span⟩

end Diagnostic

namespace SketchError

/-- A sketch error and a compiler problem about the same token have the same hint, wherever
they are. There is one if and only if the token is a nonempty run of identifier characters,
and it shows the token as it is; a token with a colon or a dot has none. -/
theorem classify_eq_unexpectedToken? {token front behind : Text} (bare : token.IsBare)
    (before : ∀ c ∈ front, c.isBlank = true) (after : ∀ c ∈ behind, c.isBlank = true)
    (source : Text) (offset : Int) :
    classify (unexpectedTokenMessage ++ (front ++ (token ++ behind))) source offset =
        .ok (Hint.unexpectedToken? token) ∧
      (∀ (spec : Spec) (unit : Text) (start : Option Int) (tree : Tree),
        spec.toTree unit start = .ok tree → ∀ diagnostic : Diagnostic,
          diagnostic.code = .known .parsingErrorDeleteToken → diagnostic.argument 0 = token →
            diagnostic.classify tree = .ok (Hint.unexpectedToken? token) ∧
            ∀ node, diagnostic.hintAt tree node = .ok (Hint.unexpectedToken? token)) ∧
      ((Hint.unexpectedToken? token).isSome = true ↔
        token ≠ [] ∧ ∀ c ∈ token, c.isIdentifierPart = true) ∧
      (∀ hint, Hint.unexpectedToken? token = some hint → hint = .unexpectedToken token) ∧
      ((':' : CodePoint) ∈ token ∨ ('.' : CodePoint) ∈ token →
        Hint.unexpectedToken? token = none) := by
  refine ⟨?_, fun spec unit start tree built diagnostic code first => ?_, ?_,
    fun hint given => (Hint.unexpectedToken?_eq_some_iff.mp given).2, fun mem => ?_⟩
  · rw [classify_unexpectedTokenMessage, behindColon_unexpectedTokenMessage,
      bare.strip_append before after]
  · rw [← first]
    exact ⟨Diagnostic.classify_of_deleteToken code built,
      Diagnostic.hintAt_of_deleteToken code tree⟩
  · rw [Option.isSome_iff_exists, ← Text.couldBeType_iff]
    simp [Hint.unexpectedToken?_eq_some_iff]
  · rcases mem with colon | dot
    · exact Hint.unexpectedToken?_eq_none colon (by decide)
    · exact Hint.unexpectedToken?_eq_none dot (by decide)

theorem classify_eq_unexpectedToken?_euro :
    let token := Text.ofString "prix€"
    classify (Text.ofString "unexpected token: \tprix€\n") (Text.ofString "prix€ x;") 3 =
        .ok (some (.unexpectedToken token)) ∧
      ∃ tree, Spec.repeatedArgument.toTree (Text.ofString "f(x, x)") none = .ok tree ∧
        Diagnostic.deletedToken.classify tree = .ok (some (.unexpectedToken token)) := by
  intro token
  have bare : token.IsBare := by decide
  have before : ∀ c ∈ Text.ofString " \t", c.isBlank = true := by decide
  have after : ∀ c ∈ Text.ofString "\n", c.isBlank = true := by decide
  obtain ⟨named, problem, some_iff, shown, -⟩ :=
    classify_eq_unexpectedToken? bare before after (Text.ofString "prix€ x;") 3
  obtain ⟨hint, given⟩ := Option.isSome_iff_exists.mp (some_iff.mpr (by decide +kernel))
  obtain rfl := shown hint given
  rw [given] at named problem
  have built : Spec.repeatedArgument.toTree (Text.ofString "f(x, x)") none = .ok _ := rfl
  exact ⟨named, _, built, (problem _ _ _ _ built Diagnostic.deletedToken rfl rfl).1⟩

end SketchError

end SketchHelp
