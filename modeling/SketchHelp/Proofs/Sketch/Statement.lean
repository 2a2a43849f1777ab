import SketchHelp.Proofs.Sketch.Nested
import SketchHelp.Proofs.Sketch.Splitting

/-!
Statements that are put together of declarators. A declarator that closes its brace groups
and holds no comma outside them is cut off as it was written, with its separator behind it,
since a group that is closed hides nothing of what follows. So the hint for a malformed
array declaration names the first declarator that the pattern refuses, and what stands
behind that one does not matter. The type is the last word of the text above the error.
-/

namespace SketchHelp

/-! ### Partners in a text of two parts -/

namespace Brace

variable {a b : Text} {i j : Nat} {c : CodePoint}

theorem closerOf_append (h : closerOf a i = some j) (b : Text) :
    closerOf (a ++ b) i = some j := by
  have part : Text.slice (a ++ b) 0 a.length = a := by
    rw [Text.slice, List.take_left, List.drop_zero]
  have whole := closerOf_of_slice (part.symm ▸ h)
  rwa [Nat.zero_add, Nat.zero_add] at whole

theorem closerOf_length_add_append (a b : Text) (i : Nat) :
    closerOf (a ++ b) (a.length + i) = (closerOf b i).map (a.length + ·) := by
  rw [closerOf, closerOf, Nat.add_assoc, List.drop_length_add_append, Option.map_map]
  exact Option.map_congr fun n _ => Nat.add_assoc a.length (i + 1) n

/-- An opener with a partner keeps it, whatever follows. -/
theorem partner_append (there : a[i]? = some c) (opener : c.isOpener = true)
    (h : partner a i = .ok (some j)) (b : Text) : partner (a ++ b) i = .ok (some j) := by
  have inside := (List.getElem?_eq_some_iff.mp there).1
  rw [partner_of_isOpener there opener] at h
  rw [partner_of_isOpener ((List.getElem?_append_left inside).trans there) opener,
    closerOf_append (Except.ok.inj h)]

/-- An opener's partner is counted from where its part begins. -/
theorem partner_length_add_append (there : b[i]? = some c) (opener : c.isOpener = true)
    (a : Text) :
    partner (a ++ b) (a.length + i : Nat) = .ok (some j) ↔
      ∃ close, partner b i = .ok (some close) ∧ a.length + close = j := by
  have there' := (Text.getElem?_length_add_append a b i).trans there
  rw [partner_of_isOpener there' opener, partner_of_isOpener there opener,
    closerOf_length_add_append, Except.ok.injEq, Option.map_eq_some_iff]
  simp only [Except.ok.injEq]

/-- The ends of a group with nested text inside are partners, whatever stands around it. -/
theorem partner_group_append {inner : Text} (h : IsNested inner) (kind : Kind)
    (front behind : Text) :
    partner (front ++ kind.opener :: (inner ++ kind.closer :: behind))
      (front.length + (1 + inner.length) : Nat) = .ok (some front.length) := by
  refine (isPairedBy_pairs _).symm front.length _ ?_
  exact (partner_length_add_append (i := 0) rfl kind.isOpener_opener front).mpr
    ⟨_, partner_group h kind behind, rfl⟩

end Brace

namespace Declarator

/-! ### Closed texts -/

/-- Every brace group that the text opens is closed in it. -/
def IsClosed (t : Text) : Prop :=
  ∀ brace : Nat, t[brace]? = some ('{' : CodePoint) →
    ∃ close, Brace.partner t brace = .ok (some close)

theorem isClosed_of_notMem {t : Text} (h : ('{' : CodePoint) ∉ t) : IsClosed t :=
  fun _ there => absurd (List.mem_of_getElem? there) h

section

variable {a b : Text} {n p : Nat} {pieces others : List Text}

theorem IsClosed.exists_partner (closed : IsClosed a) {brace : Nat}
    (there : a[brace]? = some ('{' : CodePoint)) (b : Text) :
    ∃ close < a.length, Brace.partner a brace = .ok (some close) ∧
      Brace.partner (a ++ b) brace = .ok (some close) := by
  obtain ⟨close, matched⟩ := closed brace there
  refine ⟨close, ?_, matched, Brace.partner_append there rfl matched b⟩
  rw [Brace.partner_of_isOpener there rfl] at matched
  exact (Brace.closerOf_gt (Except.ok.inj matched)).2

/-- Behind a closed text one is outside all groups as one is without it. -/
theorem IsClosed.isOutside_append_iff (closed : IsClosed a) :
    IsOutside (a ++ b) (a.length + n) ↔ IsOutside b n := by
  constructor
  · intro outside brace lt there
    obtain ⟨_, before, whole⟩ := outside _ (Nat.add_lt_add_left lt _)
      ((Text.getElem?_length_add_append a b brace).trans there)
    obtain ⟨close, matched, rfl⟩ := (Brace.partner_length_add_append there rfl a).mp whole
    exact ⟨close, Nat.lt_of_add_lt_add_left before, matched⟩
  · intro outside brace lt there
    rcases Nat.lt_or_ge brace a.length with first | second
    · obtain ⟨close, before, -, matched⟩ :=
        closed.exists_partner ((List.getElem?_append_left first).symm.trans there) b
      exact ⟨close, by omega, matched⟩
    · obtain ⟨brace, rfl⟩ := Nat.exists_eq_add_of_le second
      rw [Text.getElem?_length_add_append] at there
      obtain ⟨close, before, matched⟩ := outside brace (Nat.lt_of_add_lt_add_left lt) there
      exact ⟨a.length + close, Nat.add_lt_add_left before _,
        (Brace.partner_length_add_append there rfl a).mpr ⟨close, matched, rfl⟩⟩

theorem IsClosed.isTopComma_append_iff (closed : IsClosed a) :
    IsTopComma (a ++ b) (a.length + n) ↔ IsTopComma b n := by
  refine and_congr ?_ closed.isOutside_append_iff
  rw [Text.getElem?_length_add_append]

/-- What follows a closed text makes no comma of it one outside all groups. -/
theorem IsClosed.isTopComma_of_append (closed : IsClosed a) (h : IsTopComma (a ++ b) p)
    (lt : p < a.length) : IsTopComma a p := by
  obtain ⟨here, outside⟩ := h
  refine ⟨(List.getElem?_append_left lt).symm.trans here, fun brace before there => ?_⟩
  have there' : (a ++ b)[brace]? = some ('{' : CodePoint) :=
    (List.getElem?_append_left (Nat.lt_trans before lt)).trans there
  obtain ⟨close, -, matched, whole⟩ := closed.exists_partner there b
  obtain ⟨close', before', matched'⟩ := outside brace before there'
  obtain rfl := Option.some.inj (Except.ok.inj (whole.symm.trans matched'))
  exact ⟨close, before', matched⟩

theorem IsClosed.append (ha : IsClosed a) (hb : IsClosed b) : IsClosed (a ++ b) := by
  intro brace there
  rcases Nat.lt_or_ge brace a.length with first | second
  · obtain ⟨close, -, -, matched⟩ :=
      ha.exists_partner ((List.getElem?_append_left first).symm.trans there) b
    exact ⟨close, matched⟩
  · obtain ⟨brace, rfl⟩ := Nat.exists_eq_add_of_le second
    rw [Text.getElem?_length_add_append] at there
    obtain ⟨close, matched⟩ := hb brace there
    exact ⟨a.length + close,
      (Brace.partner_length_add_append there rfl a).mpr ⟨close, matched, rfl⟩⟩

/-- Behind a closed text the pieces are those of the rest. -/
theorem IsCut.append_left {start : Nat} (h : IsCut b start pieces) (closed : IsClosed a) :
    IsCut (a ++ b) (a.length + start) pieces := by
  -- A comma outside all groups from `start` on is one of the rest.
  have of_whole {start p : Nat} (low : a.length + start ≤ p) (top : IsTopComma (a ++ b) p) :
      ∃ q, p = a.length + q ∧ start ≤ q ∧ IsTopComma b q := by
    obtain ⟨q, rfl⟩ := Nat.exists_eq_add_of_le (Nat.le_trans (Nat.le_add_right _ start) low)
    exact ⟨q, rfl, by omega, closed.isTopComma_append_iff.mp top⟩
  induction h with
  | nil =>
      rw [← List.length_append]
      exact .nil
  | @last start more noComma =>
      rw [← List.drop_length_add_append]
      refine .last (by rw [List.length_append]; omega) fun p low top => ?_
      obtain ⟨q, rfl, low', top'⟩ := of_whole low top
      exact noComma q low' top'
  | @cons start comma pieces le here first rest ih =>
      have part : b.slice start (comma + 1) =
          (a ++ b).slice (a.length + start) (a.length + comma + 1) := by
        rw [Text.slice, Text.slice, Nat.add_assoc, List.take_length_add_append,
          List.drop_length_add_append]
      rw [part]
      refine .cons (by omega) (closed.isTopComma_append_iff.mpr here) (fun p low top => ?_) ih
      obtain ⟨q, rfl, low', top'⟩ := of_whole low top
      exact Nat.add_le_add_left (first q low' top') _

/-- There is one way to cut. -/
theorem IsCut.unique {statement : Text} {start : Nat} (h : IsCut statement start pieces)
    (h' : IsCut statement start others) : pieces = others := by
  induction h generalizing others with
  | nil => exact (h'.eq_nil rfl).symm
  | last more noComma =>
      cases h' with
      | nil => exact absurd more (Nat.lt_irrefl _)
      | last => rfl
      | cons le here => exact absurd here (noComma _ le)
  | cons le here first rest ih =>
      cases h' with
      | nil => exact absurd here.lt_length (Nat.not_lt_of_le le)
      | last more noComma => exact absurd here (noComma _ le)
      | cons le' here' first' rest' =>
          obtain rfl := Nat.le_antisymm (first _ le' here') (first' _ le here)
          rw [ih rest']

end

/-! ### Joined declarators -/

/-- A text that may stand between two separators: no comma of it is outside its groups, and
it leaves no group open and ends no statement. -/
structure IsSingle (t : Text) : Prop where
  noComma : ∀ p, ¬ IsTopComma t p
  closed : IsClosed t
  noSemicolon : (';' : CodePoint) ∉ t

/-- Declarators with commas between them and a semicolon at the end. -/
def joined (declarators : List Text) : Text :=
  List.intercalate [(',' : CodePoint)] declarators ++ [(';' : CodePoint)]

/-- What stands behind a declarator that is followed by others. -/
def separator (behind : List Text) : CodePoint :=
  if behind.isEmpty then ';' else ','

/-- The declarators with the separators that stand behind them. -/
def separated : List Text → List Text
  | [] => []
  | d :: behind => (d ++ [separator behind]) :: separated behind

section

variable {a b d : Text} {declarators front behind : List Text}

theorem separator_eq (behind : List Text) : separator behind = ',' ∨ separator behind = ';' := by
  unfold separator
  split
  · exact .inr rfl
  · exact .inl rfl

theorem isSingle_of_notMem (noBrace : ('{' : CodePoint) ∉ a) (noComma : (',' : CodePoint) ∉ a)
    (noSemicolon : (';' : CodePoint) ∉ a) : IsSingle a where
  noComma _ top := noComma (List.mem_of_getElem? top.1)
  closed := isClosed_of_notMem noBrace
  noSemicolon := noSemicolon

theorem IsSingle.append (ha : IsSingle a) (hb : IsSingle b) : IsSingle (a ++ b) where
  noComma p top := by
    rcases Nat.lt_or_ge p a.length with first | second
    · exact ha.noComma p (ha.closed.isTopComma_of_append top first)
    · obtain ⟨q, rfl⟩ := Nat.exists_eq_add_of_le second
      exact hb.noComma q (ha.closed.isTopComma_append_iff.mp top)
  closed := ha.closed.append hb.closed
  noSemicolon mem := (List.mem_append.mp mem).elim ha.noSemicolon hb.noSemicolon

/-- A group with nested text in it is one part of a declarator. -/
theorem isSingle_group {body : Text} (nested : Brace.IsNested body)
    (noSemicolon : (';' : CodePoint) ∉ body) :
    IsSingle (('{' : CodePoint) :: (body ++ [('}' : CodePoint)])) where
  noComma p top := by
    have inside := top.lt_length
    rw [List.length_cons, List.length_append, List.length_singleton] at inside
    -- The first and the last code point are no commas, and the others are in the group.
    have matched := Brace.partner_group nested .curly []
    rcases Nat.eq_zero_or_pos p with rfl | pos
    · cases top.1
    · obtain ⟨close, lt, matched'⟩ := top.2 0 pos rfl
      obtain rfl := Option.some.inj (Except.ok.inj (matched.symm.trans matched'))
      omega
  closed brace there := by
    have whole := Brace.IsNested.group .curly nested .nil
    obtain ⟨found, -, matching, -⟩ := Brace.partner_of_isNested whole
    obtain ⟨other, mem | mem⟩ := matching.all brace _ there (.inl rfl)
    · exact ⟨other, (matching.partners _ _ mem).1⟩
    · exact ⟨other, (matching.partners _ _ mem).2⟩
  noSemicolon mem := by
    rcases List.mem_cons.mp mem with eq | mem
    · cases eq
    · rcases List.mem_append.mp mem with mem | mem
      · exact noSemicolon mem
      · exact absurd mem (by decide)

theorem joined_singleton (d : Text) : joined [d] = d ++ [(';' : CodePoint)] := by
  rw [joined, List.intercalate_singleton]

theorem joined_cons_cons (d e : Text) (behind : List Text) :
    joined (d :: e :: behind) = d ++ [(',' : CodePoint)] ++ joined (e :: behind) := by
  rw [joined, List.intercalate_cons_cons, List.append_assoc, joined]

theorem separated_append_cons (front : List Text) (d : Text) (behind : List Text) :
    separated (front ++ d :: behind) =
      front.map (· ++ [(',' : CodePoint)]) ++ separated (d :: behind) := by
  induction front with
  | nil => rfl
  | cons first front ih =>
      have more : separator (front ++ d :: behind) = ',' := if_neg (by simp)
      rw [List.cons_append, separated, more, ih, List.map_cons, List.cons_append]

theorem split_comma {pieces : List Text} (single : IsSingle d) (h : split b = .ok pieces) :
    split (d ++ [(',' : CodePoint)] ++ b) = .ok ((d ++ [(',' : CodePoint)]) :: pieces) := by
  obtain ⟨_, same, isCut⟩ := split_isCut b
  obtain rfl := Except.ok.inj (h.symm.trans same)
  obtain ⟨whole, cut, isCut'⟩ := split_isCut (d ++ [(',' : CodePoint)] ++ b)
  rw [cut]
  have closed : IsClosed (d ++ [(',' : CodePoint)]) :=
    single.closed.append (isClosed_of_notMem (by decide))
  have later := isCut.append_left closed
  rw [List.length_append, List.length_singleton, Nat.add_zero] at later
  -- The comma behind the declarator is the first one outside all groups.
  have here : IsTopComma (d ++ [(',' : CodePoint)] ++ b) d.length := by
    have top : IsTopComma ((',' : CodePoint) :: b) 0 := ⟨rfl, isOutside_zero _⟩
    rw [List.append_assoc]
    exact single.closed.isTopComma_append_iff.mpr top
  have first (p : Nat) (_ : 0 ≤ p) (top : IsTopComma (d ++ [(',' : CodePoint)] ++ b) p) :
      d.length ≤ p := by
    rw [List.append_assoc] at top
    exact Nat.le_of_not_lt fun lt =>
      single.noComma p (single.closed.isTopComma_of_append top lt)
  have part : Text.slice (d ++ [(',' : CodePoint)] ++ b) 0 (d.length + 1) =
      d ++ [(',' : CodePoint)] := by
    rw [Text.slice, List.drop_zero]
    exact List.take_left' (by rw [List.length_append, List.length_singleton])
  have isCut := IsCut.cons (Nat.zero_le _) here first later
  rw [part] at isCut
  exact congrArg _ (isCut'.unique isCut)

theorem split_semicolon (single : IsSingle d) :
    split (d ++ [(';' : CodePoint)]) = .ok [d ++ [(';' : CodePoint)]] := by
  have noComma (p : Nat) : ¬ IsTopComma (d ++ [(';' : CodePoint)]) p := by
    intro top
    have inside := top.lt_length
    rw [List.length_append, List.length_singleton] at inside
    rcases Nat.lt_succ_iff_lt_or_eq.mp inside with lt | rfl
    · exact single.noComma p (single.closed.isTopComma_of_append top lt)
    · have comma := top.1
      rw [List.getElem?_concat_length] at comma
      cases comma
  obtain ⟨pieces, cut, isCut⟩ := split_isCut (d ++ [(';' : CodePoint)])
  rw [cut, isCut.eq_singleton (by simp) fun p top => absurd top (noComma p)]

/-- Joined declarators are cut as they were joined. -/
theorem split_joined (more : declarators ≠ []) (single : ∀ d ∈ declarators, IsSingle d) :
    split (joined declarators) = .ok (separated declarators) := by
  induction declarators with
  | nil => exact absurd rfl more
  | cons d behind ih =>
      obtain ⟨first, others⟩ := List.forall_mem_cons.mp single
      cases behind with
      | nil =>
          rw [joined_singleton]
          exact split_semicolon first
      | cons e behind =>
          rw [joined_cons_cons]
          exact split_comma first (ih (List.cons_ne_nil _ _) others)

end

end Declarator

/-! ### Words and names -/

/-- What stands behind the last dot of a name. -/
def Text.IsLastSegment (name segment : Text) : Prop :=
  ∃ qualifier, name = qualifier ++ segment ∧ ('.' : CodePoint) ∉ segment ∧
    ∀ c ∈ qualifier.getLast?, c = ('.' : CodePoint)

theorem Text.isLastSegment_trimType (name : Text) : name.IsLastSegment name.trimType := by
  refine ⟨_, (dropWhileEnd_append_takeWhileEnd _ name).symm, dot_notMem_trimType name,
    fun c last => ?_⟩
  simpa using not_of_mem_getLast?_dropWhileEnd last

namespace SketchError

/-- The last longest run of code points that are neither blanks nor square brackets; it is
empty if there is none. -/
def IsLastWord (t word : Text) : Prop :=
  ∃ front behind, t = front ++ (word ++ behind) ∧ (∀ c ∈ word, ¬ isTypeEdge c = true) ∧
    (∀ c ∈ front.getLast?, isTypeEdge c = true) ∧ (∀ c ∈ behind, isTypeEdge c = true) ∧
    (word = [] → front = [])

theorem isLastWord_lastWord (t : Text) : IsLastWord t (lastWord t) := by
  -- `inner` ends with the word, if there is one.
  let inner := t.dropWhileEnd isTypeEdge
  let front := inner.dropWhileEnd fun c => !isTypeEdge c
  have parts : front ++ lastWord t = inner := Text.dropWhileEnd_append_takeWhileEnd _ inner
  refine ⟨front, t.takeWhileEnd isTypeEdge, ?_, fun c mem => ?_, fun c last => ?_,
    fun c => Text.of_mem_takeWhileEnd, fun none => ?_⟩
  · rw [← List.append_assoc, parts, Text.dropWhileEnd_append_takeWhileEnd]
  · simpa using Text.of_mem_takeWhileEnd mem
  · simpa using Text.not_of_mem_getLast?_dropWhileEnd last
  · rw [none, List.append_nil] at parts
    cases last : front.getLast? with
    | none => exact List.getLast?_eq_none_iff.mp last
    | some c =>
        have edge := Text.not_of_mem_getLast?_dropWhileEnd last
        exact absurd (parts ▸ last) fun last' =>
          edge (by simpa using Text.not_of_mem_getLast?_dropWhileEnd last')

end SketchError

namespace Declarator

def IsBlank (t : Text) : Prop :=
  ∀ c ∈ t, c.isBlank = true

instance (t : Text) : Decidable (IsBlank t) :=
  inferInstanceAs (Decidable (∀ c ∈ t, c.isBlank = true))

def IsName (t : Text) : Prop :=
  t ≠ [] ∧ ∀ c ∈ t, isNameCharacter c = true

instance (t : Text) : Decidable (IsName t) :=
  inferInstanceAs (Decidable (t ≠ [] ∧ ∀ c ∈ t, isNameCharacter c = true))

/-- The text begins with the name: blanks may stand before it, and no character of a name
stands behind it. -/
def BeginsWith (t name : Text) : Prop :=
  IsName name ∧ ∃ blanks behind, t = blanks ++ (name ++ behind) ∧ IsBlank blanks ∧
    ∀ c ∈ behind.head?, ¬ isNameCharacter c = true

theorem IsName.not_isBlank_of_head? {name : Text} (h : IsName name) (rest : Text) :
    ∀ c ∈ (name ++ rest).head?, ¬ c.isBlank = true := by
  obtain ⟨more, inside⟩ := h
  intro c head blank
  rw [List.head?_append_of_ne_nil _ more] at head
  exact not_isNameCharacter_of_isBlank blank (inside c (List.mem_of_mem_head? head))

/-- The name is read off the declarator with its separator. -/
theorem BeginsWith.takeWhile_strip {d name : Text} (h : BeginsWith d name) (behind : List Text) :
    (Text.strip (d ++ [separator behind])).takeWhile isNameCharacter = name := by
  obtain ⟨isName, blanks, tail, rfl, blank, edge⟩ := h
  have neither : ¬ (separator behind).isBlank = true ∧
      ¬ isNameCharacter (separator behind) = true := by
    rcases separator_eq behind with eq | eq
    · rw [eq]
      decide
    · rw [eq]
      decide
  have last (c : CodePoint) (mem : c ∈ (name ++ (tail ++ [separator behind])).getLast?) :
      ¬ c.isBlank = true := by
    rw [← List.append_assoc, List.getLast?_concat] at mem
    obtain rfl := Option.some.inj mem
    exact neither.1
  rw [Text.strip, List.append_assoc, List.append_assoc,
    Text.dropWhile_append_of_head? blank (isName.not_isBlank_of_head? _),
    Text.dropWhileEnd_eq_self last, Text.takeWhile_append_of_head? isName.2]
  intro c head
  cases tail with
  | nil =>
      obtain rfl := Option.some.inj head
      exact neither.2
  | cons d tail => exact edge c head

/-! ### The first malformed declarator -/

/-- The first declarator that is not well-formed with its separator, and what is behind
it. -/
structure IsFirstRejected (declarators : List Text) (d : Text) (behind : List Text) : Prop where
  split : ∃ front, declarators = front ++ d :: behind ∧
    ∀ f ∈ front, isWellFormed (f ++ [(',' : CodePoint)]) = true
  rejected : ¬ isWellFormed (d ++ [separator behind]) = true

theorem IsFirstRejected.find?_separated {declarators behind : List Text} {d : Text}
    (h : IsFirstRejected declarators d behind) :
    (separated declarators).find? (fun d => !isWellFormed d) = some (d ++ [separator behind]) := by
  obtain ⟨⟨front, rfl, accepted⟩, rejected⟩ := h
  rw [List.find?_eq_some_iff_append]
  refine ⟨by simpa using rejected, front.map (· ++ [(',' : CodePoint)]), separated behind,
    separated_append_cons front d behind, fun piece mem => ?_⟩
  obtain ⟨f, inFront, rfl⟩ := List.mem_map.mp mem
  simpa using accepted f inFront

end Declarator

namespace SketchError

open Declarator

theorem firstStatement_append_semicolon {front : Text} (h : (';' : CodePoint) ∉ front)
    (behind : Text) : firstStatement (front ++ [(';' : CodePoint)] ++ behind) =
      front ++ [(';' : CodePoint)] := by
  induction front with
  | nil => rfl
  | cons c rest ih =>
      obtain ⟨first, later⟩ := List.ne_and_not_mem_of_not_mem_cons h
      rw [List.cons_append, List.cons_append, firstStatement, if_neg (Ne.symm first), ih later]

theorem notMem_intercalate {declarators : List Text} (single : ∀ d ∈ declarators, IsSingle d) :
    (';' : CodePoint) ∉ List.intercalate [(',' : CodePoint)] declarators := by
  induction declarators with
  | nil => exact List.not_mem_nil
  | cons d others ih =>
      obtain ⟨first, later⟩ := List.forall_mem_cons.mp single
      cases others with
      | nil => exact List.intercalate_singleton ▸ first.noSemicolon
      | cons e others =>
          rw [List.intercalate_cons_cons, List.mem_append, List.mem_append]
          rintro ((mem | mem) | mem)
          · exact first.noSemicolon mem
          · exact absurd mem (by decide)
          · exact ih later mem

/-- The hint names the first piece that the pattern refuses. -/
theorem incorrectVariableDeclaration_joined (above behind : Text) {declarators : List Text}
    (more : declarators ≠ []) (single : ∀ d ∈ declarators, IsSingle d) :
    incorrectVariableDeclaration (above ++ (joined declarators ++ behind)) above.length =
      .ok (((separated declarators).find? fun d => !isWellFormed d).map fun invalid =>
        .incorrectVariableDeclaration (lastWord above).trimType
          (invalid.strip.takeWhile isNameCharacter)) := by
  have cut : Text.cutPoint (above ++ (joined declarators ++ behind)).length above.length =
      above.length := by
    rw [Text.cutPoint, if_pos (Int.natCast_nonneg _), Int.toNat_natCast, List.length_append]
    exact Nat.min_eq_left (Nat.le_add_right _ _)
  rw [incorrectVariableDeclaration, cut, List.drop_left, List.take_left, joined,
    firstStatement_append_semicolon (notMem_intercalate single), ← joined, split_joined more single]
  rfl

theorem incorrectVariableDeclaration_joined_eq_none_iff (above behind : Text)
    {declarators : List Text} (more : declarators ≠ []) (single : ∀ d ∈ declarators, IsSingle d) :
    incorrectVariableDeclaration (above ++ (joined declarators ++ behind)) above.length =
      .ok none ↔ ∀ d ∈ separated declarators, isWellFormed d = true := by
  rw [incorrectVariableDeclaration_joined above behind more single, Except.ok.injEq,
    Option.map_eq_none_iff, List.find?_eq_none]
  simp

/-- Where a statement of declarators follows the text above the error, there is no hint if
and only if each of them is well-formed with its separator. If one is not, the hint has the
name of the first of them, and the last segment of the last word above. -/
theorem names_first_rejected (above behind : Text) {declarators : List Text}
    (more : declarators ≠ []) (single : ∀ d ∈ declarators, IsSingle d) :
    let hint := incorrectVariableDeclaration (above ++ (joined declarators ++ behind)) above.length
    (hint = .ok none ↔ ∀ d ∈ separated declarators, isWellFormed d = true) ∧
      ∀ d others name, IsFirstRejected declarators d others → BeginsWith d name →
        ∃ word type, IsLastWord above word ∧ word.IsLastSegment type ∧
          hint = .ok (some (.incorrectVariableDeclaration type name)) := by
  intro hint
  refine ⟨incorrectVariableDeclaration_joined_eq_none_iff above behind more single,
    fun d others name first begins =>
      ⟨lastWord above, _, isLastWord_lastWord above, Text.isLastSegment_trimType _, ?_⟩⟩
  rw [show hint = _ from incorrectVariableDeclaration_joined above behind more single,
    first.find?_separated, Option.map_some, begins.takeWhile_strip]

theorem names_first_rejected_secondOfThree :
    let above := Text.ofString "java.lang.String[] "
    let declarators :=
      [Text.ofString "a = \x7bx, y\x7d", Text.ofString " b = 3", Text.ofString "c"]
    let hint := incorrectVariableDeclaration
      (above ++ (joined declarators ++ Text.ofString " g();")) above.length
    hint ≠ .ok none ∧ ∃ word type, IsLastWord above word ∧ word.IsLastSegment type ∧
      hint = .ok (some (.incorrectVariableDeclaration type (Text.ofString "b"))) := by
  intro above declarators hint
  have plain (t : Text) (h : ('{' : CodePoint) ∉ t ∧ (',' : CodePoint) ∉ t ∧
      (';' : CodePoint) ∉ t) : IsSingle t :=
    isSingle_of_notMem h.1 h.2.1 h.2.2
  have nested : Brace.IsNested (Text.ofString "x, y") :=
    Brace.isNested_of_forall_plain (by decide)
  have single : ∀ d ∈ declarators, IsSingle d := by
    refine List.forall_mem_cons.mpr ⟨?_, List.forall_mem_cons.mpr ⟨plain _ (by decide),
      List.forall_mem_singleton.mpr (plain _ (by decide))⟩⟩
    exact (plain (Text.ofString "a = ") (by decide)).append (isSingle_group nested (by decide))
  obtain ⟨none_iff, named⟩ := names_first_rejected above (Text.ofString " g();")
    (List.cons_ne_nil _ _) single
  refine ⟨fun h => ?_, named (Text.ofString " b = 3") [Text.ofString "c"] (Text.ofString "b")
    ⟨⟨[Text.ofString "a = \x7bx, y\x7d"], rfl, by decide⟩, by decide⟩
    ⟨by decide, Text.ofString " ", Text.ofString " = 3", rfl, by decide, by decide⟩⟩
  exact absurd (none_iff.mp h (Text.ofString " b = 3,") (by decide)) (by decide)

end SketchError

end SketchHelp
