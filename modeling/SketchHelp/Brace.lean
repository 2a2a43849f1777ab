import SketchHelp.Text.Decimal
import SketchHelp.Text.Search

/-!
Matching braces in raw sketch text. Braces and parentheses share one nesting
counter, which in properly nested code finds the same partner as a stack that
watches the kinds. An opener looks for its partner to the right and a closer to the
left; the two searches are one scan with the roles of openers and closers swapped.
-/

namespace SketchHelp

namespace CodePoint

def isOpener (c : CodePoint) : Bool :=
  c = '{' || c = '('

def isCloser (c : CodePoint) : Bool :=
  c = '}' || c = ')'

theorem not_isCloser_of_isOpener {c : CodePoint} (h : c.isOpener = true) :
    ¬ c.isCloser = true := by
  simp only [isOpener, Bool.or_eq_true, decide_eq_true_eq] at h
  rcases h with rfl | rfl <;> decide

theorem not_isOpener_of_isCloser {c : CodePoint} (h : c.isCloser = true) :
    ¬ c.isOpener = true :=
  fun opener => not_isCloser_of_isOpener opener h

end CodePoint

namespace Brace

/-- Why a position cannot be asked for its partner. -/
inductive Fault where
  | outside (index : Int) (length : Nat)
  | notBrace (index : Nat)
  deriving DecidableEq, Repr

def Fault.message : Fault → Text
  | .outside index length => Text.orLimit do
    return Text.ofString "Index " ++ (← Text.ofInt? index) ++
      Text.ofString " is outside text of length " ++ Text.ofNat length
  | .notBrace index =>
    Text.ofString "Character at index " ++ Text.ofNat index ++
      Text.ofString " is not a brace or parenthesis"

/-- Distance to the code point that closes the innermost open group, where `depth`
groups are open inside that one. -/
def distance (opens closes : CodePoint → Bool) : (depth : Nat) → Text → Option Nat
  | _, [] => none
  | depth, c :: rest =>
    if opens c then (distance opens closes (depth + 1) rest).map (· + 1)
    else if closes c then
      match depth with
      | 0 => some 0
      | depth + 1 => (distance opens closes depth rest).map (· + 1)
    else (distance opens closes depth rest).map (· + 1)

/-- Partner of the opener at offset `i`. -/
def closerOf (t : Text) (i : Nat) : Option Nat :=
  (distance CodePoint.isOpener CodePoint.isCloser 0 (t.drop (i + 1))).map (i + 1 + ·)

/-- Partner of the closer at offset `i`. -/
def openerOf (t : Text) (i : Nat) : Option Nat :=
  (distance CodePoint.isCloser CodePoint.isOpener 0 (t.take i).reverse).map (i - 1 - ·)

/-- Partner of the brace or parenthesis `c` at offset `i`. -/
def partnerOf? (t : Text) (i : Nat) (c : CodePoint) : Except Fault (Option Nat) :=
  if c.isOpener then .ok (closerOf t i)
  else if c.isCloser then .ok (openerOf t i)
  else .error (.notBrace i)

/-- Partner of the brace or parenthesis at `index`, or `none` where the depth never
returns to zero. -/
def partner (t : Text) (index : Int) : Except Fault (Option Nat) :=
  if index < 0 then .error (.outside index t.length)
  else
    match t[index.toNat]? with
    | some c => partnerOf? t index.toNat c
    | none => .error (.outside index t.length)

theorem partner_natCast {t : Text} {i : Nat} {c : CodePoint} (h : t[i]? = some c) :
    partner t i = partnerOf? t i c := by
  rw [partner, if_neg (Int.not_lt.mpr (Int.natCast_nonneg i)), Int.toNat_natCast, h]

theorem partner_of_isOpener {t : Text} {i : Nat} {c : CodePoint} (h : t[i]? = some c)
    (opener : c.isOpener = true) : partner t i = .ok (closerOf t i) := by
  rw [partner_natCast h, partnerOf?, if_pos opener]

theorem partner_of_isCloser {t : Text} {i : Nat} {c : CodePoint} (h : t[i]? = some c)
    (closer : c.isCloser = true) : partner t i = .ok (openerOf t i) := by
  rw [partner_natCast h, partnerOf?, if_neg (CodePoint.not_isOpener_of_isCloser closer),
    if_pos closer]

section Distance

variable {opens closes : CodePoint → Bool} {c : CodePoint} (depth : Nat) (rest : Text)

theorem distance_of_opens (h : opens c = true) :
    distance opens closes depth (c :: rest) =
      (distance opens closes (depth + 1) rest).map (· + 1) := by
  cases depth <;> simp [distance, h]

theorem distance_zero_of_closes (hopen : ¬ opens c = true) (hclose : closes c = true) :
    distance opens closes 0 (c :: rest) = some 0 := by
  simp [distance, hopen, hclose]

theorem distance_succ_of_closes (hopen : ¬ opens c = true) (hclose : closes c = true) :
    distance opens closes (depth + 1) (c :: rest) =
      (distance opens closes depth rest).map (· + 1) := by
  simp [distance, hopen, hclose]

theorem distance_of_plain (hopen : ¬ opens c = true) (hclose : ¬ closes c = true) :
    distance opens closes depth (c :: rest) =
      (distance opens closes depth rest).map (· + 1) := by
  cases depth <;> simp [distance, hopen, hclose]

end Distance

theorem distance_lt {opens closes : CodePoint → Bool} {depth k : Nat} {t : Text}
    (h : distance opens closes depth t = some k) : k < t.length := by
  induction t generalizing depth k with
  | nil => simp [distance] at h
  | cons c rest ih =>
    unfold distance at h
    split at h
    · obtain ⟨j, hj, rfl⟩ := Option.map_eq_some_iff.mp h
      simpa using ih hj
    · split at h
      · split at h
        · simp only [Option.some.injEq] at h
          simp [← h]
        · obtain ⟨j, hj, rfl⟩ := Option.map_eq_some_iff.mp h
          simpa using ih hj
      · obtain ⟨j, hj, rfl⟩ := Option.map_eq_some_iff.mp h
        simpa using ih hj

theorem closerOf_gt {t : Text} {i j : Nat} (h : closerOf t i = some j) :
    i < j ∧ j < t.length := by
  obtain ⟨k, hk, rfl⟩ := Option.map_eq_some_iff.mp h
  have := distance_lt hk
  simp only [List.length_drop] at this
  omega

theorem lt_of_partner_of_isOpener {t : Text} {i j : Nat} {c : CodePoint}
    (h : t[i]? = some c) (opener : c.isOpener = true) (matched : partner t i = .ok (some j)) :
    i < j := by
  rw [partner_of_isOpener h opener] at matched
  exact (closerOf_gt (Except.ok.inj matched)).1

end Brace

end SketchHelp
