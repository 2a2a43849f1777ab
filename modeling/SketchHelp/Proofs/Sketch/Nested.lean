import SketchHelp.Proofs.Sketch.Pairing

/-!
Properly nested text. Braces close with braces and parentheses with parentheses there, and
a pass that watches the kinds pairs every one of them; it goes through no other text. The
search for a partner does not see the kinds, and finds the same pairs; so it does where an
opener too many stands in front of the text or a closer too many behind it, and that one
has no partner.
-/

namespace SketchHelp.Brace

/-! ### Kinds -/

inductive Kind where
  | curly
  | round
  deriving DecidableEq, Repr

namespace Kind

def opener : Kind → CodePoint
  | curly => '{'
  | round => '('

def closer : Kind → CodePoint
  | curly => '}'
  | round => ')'

/-- The kind of group that a code point opens. -/
def ofOpener? (c : CodePoint) : Option Kind :=
  if c = '{' then some .curly else if c = '(' then some .round else none

/-- The kind of group that a code point closes. -/
def ofCloser? (c : CodePoint) : Option Kind :=
  if c = '}' then some .curly else if c = ')' then some .round else none

theorem ofOpener?_eq_some_iff {c : CodePoint} {kind : Kind} :
    ofOpener? c = some kind ↔ c = kind.opener := by
  constructor
  · intro h
    unfold ofOpener? at h
    split at h
    · rename_i eq
      cases h
      exact eq
    split at h
    · rename_i eq
      cases h
      exact eq
    · cases h
  · rintro rfl
    cases kind <;> decide

theorem ofCloser?_eq_some_iff {c : CodePoint} {kind : Kind} :
    ofCloser? c = some kind ↔ c = kind.closer := by
  constructor
  · intro h
    unfold ofCloser? at h
    split at h
    · rename_i eq
      cases h
      exact eq
    split at h
    · rename_i eq
      cases h
      exact eq
    · cases h
  · rintro rfl
    cases kind <;> decide

theorem isOpener_opener (kind : Kind) : kind.opener.isOpener = true := by
  cases kind <;> decide

theorem isCloser_closer (kind : Kind) : kind.closer.isCloser = true := by
  cases kind <;> decide

theorem isSome_ofOpener? (c : CodePoint) : (ofOpener? c).isSome = c.isOpener := by
  unfold ofOpener? CodePoint.isOpener
  split
  · simp [*]
  split <;> simp [*]

theorem isSome_ofCloser? (c : CodePoint) : (ofCloser? c).isSome = c.isCloser := by
  unfold ofCloser? CodePoint.isCloser
  split
  · simp [*]
  split <;> simp [*]

theorem opener_inj {kind other : Kind} : kind.opener = other.opener ↔ kind = other := by
  cases kind <;> cases other <;> decide

theorem closer_inj {kind other : Kind} : kind.closer = other.closer ↔ kind = other := by
  cases kind <;> cases other <;> decide

theorem opener_ne_closer (kind other : Kind) : kind.opener ≠ other.closer := by
  cases kind <;> cases other <;> decide

theorem opener_or_closer_or_plain (c : CodePoint) :
    (∃ kind : Kind, c = kind.opener) ∨ (∃ kind : Kind, c = kind.closer) ∨
      (¬ c.isOpener = true ∧ ¬ c.isCloser = true) := by
  rw [← isSome_ofOpener?, ← isSome_ofCloser?]
  cases opens : ofOpener? c with
  | some kind => exact .inl ⟨kind, ofOpener?_eq_some_iff.mp opens⟩
  | none =>
      cases closes : ofCloser? c with
      | some kind => exact .inr (.inl ⟨kind, ofCloser?_eq_some_iff.mp closes⟩)
      | none => exact .inr (.inr ⟨nofun, nofun⟩)

end Kind

/-! ### The pass that watches the kinds -/

/-- The pairs of an opener and a closer in the text from `position` on, where the stack
holds the open openers with their kinds. There are none if a closer meets no open opener
or one of the other kind, or if an opener stays open. -/
def pairsByKind? : (stack : List (Nat × Kind)) → (position : Nat) → Text →
    Option (List (Nat × Nat))
  | [], _, [] => some []
  | _ :: _, _, [] => none
  | stack, position, c :: rest =>
    match Kind.ofOpener? c, Kind.ofCloser? c with
    | some kind, _ => pairsByKind? ((position, kind) :: stack) (position + 1) rest
    | none, some kind =>
      match stack with
      | [] => none
      | (i, opened) :: stack =>
        if opened = kind then
          (pairsByKind? stack (position + 1) rest).map ((i, position) :: ·)
        else none
    | none, none => pairsByKind? stack (position + 1) rest

section

variable {stack : List (Nat × Kind)} {position i j : Nat} {kind : Kind} {c : CodePoint}
  {rest t : Text} {found : List (Nat × Nat)}

theorem pairsByKind?_opener (stack : List (Nat × Kind)) (position : Nat) (kind : Kind)
    (rest : Text) : pairsByKind? stack position (kind.opener :: rest) =
      pairsByKind? ((position, kind) :: stack) (position + 1) rest := by
  cases kind <;> cases stack <;> rfl

theorem pairsByKind?_closer (stack : List (Nat × Kind)) (i position : Nat) (kind : Kind)
    (rest : Text) : pairsByKind? ((i, kind) :: stack) position (kind.closer :: rest) =
      (pairsByKind? stack (position + 1) rest).map ((i, position) :: ·) := by
  cases kind <;> rfl

theorem pairsByKind?_plain (stack : List (Nat × Kind)) (position : Nat)
    (hopener : ¬ c.isOpener = true) (hcloser : ¬ c.isCloser = true) (rest : Text) :
    pairsByKind? stack position (c :: rest) = pairsByKind? stack (position + 1) rest := by
  have noOpener : Kind.ofOpener? c = none := by
    rwa [← Option.not_isSome_iff_eq_none, Kind.isSome_ofOpener?]
  have noCloser : Kind.ofCloser? c = none := by
    rwa [← Option.not_isSome_iff_eq_none, Kind.isSome_ofCloser?]
  cases stack <;> simp only [pairsByKind?, noOpener, noCloser]

/-- What the first code point is where the pass goes through. -/
theorem pairsByKind?_cons_eq_some (h : pairsByKind? stack position (c :: rest) = some found) :
    (∃ kind, c = kind.opener ∧
      pairsByKind? ((position, kind) :: stack) (position + 1) rest = some found) ∨
    (∃ kind i below later, c = kind.closer ∧ stack = (i, kind) :: below ∧
      pairsByKind? below (position + 1) rest = some later ∧
      found = (i, position) :: later) ∨
    (¬ c.isOpener = true ∧ ¬ c.isCloser = true ∧
      pairsByKind? stack (position + 1) rest = some found) := by
  cases opens : Kind.ofOpener? c with
  | some kind =>
      obtain rfl := Kind.ofOpener?_eq_some_iff.mp opens
      rw [pairsByKind?_opener] at h
      exact .inl ⟨kind, rfl, h⟩
  | none =>
      cases closes : Kind.ofCloser? c with
      | some kind =>
          obtain rfl := Kind.ofCloser?_eq_some_iff.mp closes
          cases stack with
          | nil => simp [pairsByKind?, opens, closes] at h
          | cons top below =>
              obtain ⟨i, opened⟩ := top
              simp only [pairsByKind?, opens, closes] at h
              split at h
              · rename_i same
                subst same
                obtain ⟨later, hl, rfl⟩ := Option.map_eq_some_iff.mp h
                exact .inr (.inl ⟨opened, i, below, later, rfl, rfl, hl, rfl⟩)
              · cases h
      | none =>
          have notOpener : ¬ c.isOpener = true := by
            rw [← Kind.isSome_ofOpener?, opens]
            decide
          have notCloser : ¬ c.isCloser = true := by
            rw [← Kind.isSome_ofCloser?, closes]
            decide
          rw [pairsByKind?_plain stack position notOpener notCloser] at h
          exact .inr (.inr ⟨notOpener, notCloser, h⟩)

/-- The pass without kinds makes the same pairs, whatever else is open below the stack and
whatever follows. -/
theorem pairs_append_of_pairsByKind? (h : pairsByKind? stack position t = some found)
    (below : List Nat) (after : Text) :
    pairs (stack.map (·.1) ++ below) position (t ++ after) =
      found ++ pairs below (position + t.length) after := by
  induction t generalizing stack position found with
  | nil =>
      cases stack with
      | nil =>
          cases h
          rfl
      | cons top stack => cases h
  | cons c rest ih =>
      rw [List.cons_append, List.length_cons,
        show position + (rest.length + 1) = position + 1 + rest.length by omega]
      rcases pairsByKind?_cons_eq_some h with ⟨kind, rfl, later⟩ |
        ⟨kind, i, others, laterPairs, rfl, rfl, later, rfl⟩ | ⟨notOpener, notCloser, later⟩
      · have opener := kind.isOpener_opener
        rw [pairs_cons_of_isOpener opener]
        exact ih later
      · have closer := kind.isCloser_closer
        rw [pairs_cons_of_isCloser closer, stackAfter_of_isCloser closer]
        exact congrArg ((i, position) :: ·) (ih later)
      · rw [pairs_cons_of_not_isCloser notCloser, stackAfter_of_plain notOpener notCloser]
        exact ih later

/-- The two ends of a pair are of one kind. -/
theorem kind_of_mem_pairsByKind? (h : pairsByKind? stack position t = some found)
    (mem : (i, j) ∈ found) :
    ∃ kind : Kind, (position ≤ j ∧ t[j - position]? = some kind.closer) ∧
      ((i, kind) ∈ stack ∨ position ≤ i ∧ t[i - position]? = some kind.opener) := by
  induction t generalizing stack position found with
  | nil =>
      cases stack with
      | nil =>
          cases h
          cases mem
      | cons top stack => cases h
  | cons c rest ih =>
      have next {k : Nat} (le : position + 1 ≤ k) :
          (c :: rest)[k - position]? = rest[k - (position + 1)]? := by
        rw [show k - position = k - (position + 1) + 1 by omega, List.getElem?_cons_succ]
      have here : (c :: rest)[position - position]? = some c := by
        rw [Nat.sub_self, List.getElem?_cons_zero]
      have behind {stack' : List (Nat × Kind)} {later : List (Nat × Nat)}
          (h : pairsByKind? stack' (position + 1) rest = some later) (mem : (i, j) ∈ later) :
          ∃ kind : Kind, (position ≤ j ∧ (c :: rest)[j - position]? = some kind.closer) ∧
            ((i, kind) ∈ stack' ∨
              position ≤ i ∧ (c :: rest)[i - position]? = some kind.opener) := by
        obtain ⟨kind, ⟨le, closer⟩, opened⟩ := ih h mem
        refine ⟨kind, ⟨Nat.le_of_succ_le le, by rwa [next le]⟩, opened.imp_right ?_⟩
        rintro ⟨le, opener⟩
        exact ⟨Nat.le_of_succ_le le, by rwa [next le]⟩
      rcases pairsByKind?_cons_eq_some h with ⟨own, rfl, later⟩ |
        ⟨own, top, others, laterPairs, rfl, rfl, later, rfl⟩ | ⟨-, -, later⟩
      · obtain ⟨kind, closed, opened | opened⟩ := behind later mem
        · rcases List.mem_cons.mp opened with same | old
          · cases same
            exact ⟨own, closed, .inr ⟨Nat.le_refl _, here⟩⟩
          · exact ⟨kind, closed, .inl old⟩
        · exact ⟨kind, closed, .inr opened⟩
      · rcases List.mem_cons.mp mem with same | laterMem
        · cases same
          exact ⟨own, ⟨Nat.le_refl _, here⟩, .inl List.mem_cons_self⟩
        · obtain ⟨kind, closed, opened⟩ := behind later laterMem
          exact ⟨kind, closed, opened.imp_left (List.mem_cons_of_mem _)⟩
      · exact behind later mem

/-- The pass leaves nothing alone: every open opener of the stack and every brace of the
text is in a pair. -/
theorem exists_mem_pairsByKind? (h : pairsByKind? stack position t = some found) :
    (∀ top ∈ stack, ∃ j, (top.1, j) ∈ found) ∧
      ∀ k c, t[k]? = some c → c.isOpener = true ∨ c.isCloser = true →
        ∃ other, (position + k, other) ∈ found ∨ (other, position + k) ∈ found := by
  induction t generalizing stack position found with
  | nil =>
      cases stack with
      | nil => exact ⟨fun top h => (nomatch h), fun k c h => nomatch h⟩
      | cons top stack => cases h
  | cons c rest ih =>
      have braces {others : List (Nat × Kind)} {later : List (Nat × Nat)}
          (h : pairsByKind? others (position + 1) rest = some later)
          (sub : ∀ pair ∈ later, pair ∈ found)
          (first : c.isOpener = true ∨ c.isCloser = true →
            ∃ other, (position, other) ∈ found ∨ (other, position) ∈ found) :
          ∀ k d, (c :: rest)[k]? = some d → d.isOpener = true ∨ d.isCloser = true →
            ∃ other, (position + k, other) ∈ found ∨ (other, position + k) ∈ found := by
        intro k d there brace
        cases k with
        | zero =>
            cases there
            exact first brace
        | succ k =>
            obtain ⟨other, mem⟩ := (ih h).2 k d there brace
            rw [show position + (k + 1) = position + 1 + k by omega]
            exact ⟨other, mem.imp (sub _) (sub _)⟩
      rcases pairsByKind?_cons_eq_some h with ⟨own, rfl, later⟩ |
        ⟨own, i, others, laterPairs, rfl, rfl, later, rfl⟩ | ⟨notOpener, notCloser, later⟩
      · obtain ⟨first, old⟩ := List.forall_mem_cons.mp (ih later).1
        refine ⟨old, braces later (fun _ h => h) fun _ => ?_⟩
        obtain ⟨j, mem⟩ := first
        exact ⟨j, .inl mem⟩
      · refine ⟨List.forall_mem_cons.mpr ⟨⟨position, List.mem_cons_self⟩, ?_⟩,
          braces later (fun _ => List.mem_cons_of_mem _) fun _ => ?_⟩
        · intro top mem
          obtain ⟨j, paired⟩ := (ih later).1 top mem
          exact ⟨j, List.mem_cons_of_mem _ paired⟩
        · exact ⟨i, .inr List.mem_cons_self⟩
      · exact ⟨(ih later).1, braces later (fun _ h => h) fun brace =>
          absurd brace (not_or.mpr ⟨notOpener, notCloser⟩)⟩

end

/-! ### Nested text -/

/-- Groups are closed by the closer of their kind, and nothing else is opened or closed. -/
inductive IsNested : Text → Prop
  | nil : IsNested []
  | plain {c : CodePoint} {rest : Text} (hopener : ¬ c.isOpener = true)
      (hcloser : ¬ c.isCloser = true) (nested : IsNested rest) : IsNested (c :: rest)
  | group (kind : Kind) {inner rest : Text} (within : IsNested inner)
      (behind : IsNested rest) :
      IsNested (kind.opener :: (inner ++ kind.closer :: rest))

theorem isNested_of_forall_plain {t : Text}
    (h : ∀ c ∈ t, ¬ c.isOpener = true ∧ ¬ c.isCloser = true) : IsNested t := by
  induction t with
  | nil => exact .nil
  | cons c rest ih =>
      obtain ⟨first, later⟩ := List.forall_mem_cons.mp h
      exact .plain first.1 first.2 (ih later)

/-- The pass goes through nested text and is left with the stack that it came with. -/
theorem IsNested.pairsByKind?_append {t : Text} (h : IsNested t)
    (stack : List (Nat × Kind)) (position : Nat) :
    ∃ found, ∀ after, pairsByKind? stack position (t ++ after) =
      (pairsByKind? stack (position + t.length) after).map (found ++ ·) := by
  induction h generalizing stack position with
  | nil => exact ⟨[], fun after => by simp⟩
  | @plain c rest hopener hcloser _ ih =>
      obtain ⟨found, all⟩ := ih stack (position + 1)
      refine ⟨found, fun after => ?_⟩
      rw [List.cons_append, pairsByKind?_plain stack position hopener hcloser, all,
        List.length_cons, show position + 1 + rest.length = position + (rest.length + 1) by omega]
  | @group kind inner rest _ _ withinIh behindIh =>
      obtain ⟨inside, within⟩ := withinIh ((position, kind) :: stack) (position + 1)
      obtain ⟨outside, behind⟩ := behindIh stack (position + 1 + inner.length + 1)
      refine ⟨inside ++ (position, position + 1 + inner.length) :: outside, fun after => ?_⟩
      rw [List.cons_append, List.append_assoc, List.cons_append, pairsByKind?_opener, within,
        pairsByKind?_closer, behind, Option.map_map, Option.map_map]
      have length : position + 1 + inner.length + 1 + rest.length =
          position + (kind.opener :: (inner ++ kind.closer :: rest)).length := by
        simp
        omega
      rw [length]
      refine Option.map_congr fun later _ => ?_
      simp

/-- The text closes the open groups in turn, with nested text before each closer and
behind the last one. -/
def Closes : List Kind → Text → Prop
  | [], t => IsNested t
  | kind :: kinds, t =>
    ∃ inner rest, t = inner ++ kind.closer :: rest ∧ IsNested inner ∧ Closes kinds rest

theorem Closes.plain {kinds : List Kind} {c : CodePoint} {rest : Text}
    (hopener : ¬ c.isOpener = true) (hcloser : ¬ c.isCloser = true) (h : Closes kinds rest) :
    Closes kinds (c :: rest) := by
  cases kinds with
  | nil => exact IsNested.plain hopener hcloser h
  | cons kind kinds =>
      obtain ⟨inner, behind, rfl, nested, later⟩ := h
      exact ⟨c :: inner, behind, rfl, IsNested.plain hopener hcloser nested, later⟩

theorem Closes.group {kinds : List Kind} {kind : Kind} {rest : Text}
    (h : Closes (kind :: kinds) rest) : Closes kinds (kind.opener :: rest) := by
  obtain ⟨inner, behind, rfl, nested, later⟩ := h
  cases kinds with
  | nil => exact IsNested.group kind nested later
  | cons outer kinds =>
      obtain ⟨front, rest, rfl, frontNested, outside⟩ := later
      refine ⟨kind.opener :: (inner ++ kind.closer :: front), rest, ?_,
        IsNested.group kind nested frontNested, outside⟩
      rw [List.cons_append, List.append_assoc, List.cons_append]

theorem closes_of_pairsByKind? {t : Text} {stack : List (Nat × Kind)} {position : Nat}
    {found : List (Nat × Nat)} (h : pairsByKind? stack position t = some found) :
    Closes (stack.map (·.2)) t := by
  induction t generalizing stack position found with
  | nil =>
      cases stack with
      | nil => exact .nil
      | cons top stack => cases h
  | cons c rest ih =>
      rcases pairsByKind?_cons_eq_some h with ⟨kind, rfl, later⟩ |
        ⟨kind, i, others, laterPairs, rfl, rfl, later, rfl⟩ | ⟨notOpener, notCloser, later⟩
      · exact .group (ih later)
      · exact ⟨[], rest, rfl, .nil, ih later⟩
      · exact .plain notOpener notCloser (ih later)

/-- The pass goes through nested text and no other. -/
theorem isNested_iff_exists_pairsByKind? {t : Text} :
    IsNested t ↔ ∃ found, pairsByKind? [] 0 t = some found := by
  constructor
  · intro h
    obtain ⟨found, all⟩ := h.pairsByKind?_append [] 0
    have whole := all []
    rw [List.append_nil, pairsByKind?, Option.map_some, List.append_nil] at whole
    exact ⟨found, whole⟩
  · rintro ⟨found, passed⟩
    exact closes_of_pairsByKind? passed

instance (t : Text) : Decidable (IsNested t) :=
  decidable_of_iff ((pairsByKind? [] 0 t).isSome = true)
    (Option.isSome_iff_exists.trans isNested_iff_exists_pairsByKind?.symm)

/-! ### Partners in nested text -/

/-- Each of two positions is the partner of the other. -/
def ArePartners (t : Text) (i j : Nat) : Prop :=
  partner t i = .ok (some j) ∧ partner t j = .ok (some i)

/-- The pairs are those of partners, each with its ends of one kind, and leave no brace of
the text alone. -/
structure IsMatching (t : Text) (found : List (Nat × Nat)) : Prop where
  all : ∀ i c, t[i]? = some c → c.isOpener = true ∨ c.isCloser = true →
    ∃ j, (i, j) ∈ found ∨ (j, i) ∈ found
  kinds : ∀ i j, (i, j) ∈ found →
    ∃ kind : Kind, t[i]? = some kind.opener ∧ t[j]? = some kind.closer
  partners : ∀ i j, (i, j) ∈ found → ArePartners t i j

theorem pairs_append_of_isNested {t : Text} {found : List (Nat × Nat)}
    (h : pairsByKind? [] 0 t = some found) (after : Text) :
    pairs [] 0 (t ++ after) = found ++ pairs [] t.length after := by
  have both := pairs_append_of_pairsByKind? h [] after
  rwa [List.map_nil, List.append_nil, Nat.zero_add] at both

theorem isMatching_of_pairsByKind? {t : Text} {found : List (Nat × Nat)}
    (h : pairsByKind? [] 0 t = some found) : IsMatching t found where
  all i c there brace := by
    obtain ⟨j, mem⟩ := (exists_mem_pairsByKind? h).2 i c there brace
    rw [Nat.zero_add] at mem
    exact ⟨j, mem⟩
  kinds i j mem := by
    obtain ⟨kind, ⟨-, closed⟩, old | ⟨-, opened⟩⟩ := kind_of_mem_pairsByKind? h mem
    · cases old
    · exact ⟨kind, opened, closed⟩
  partners i j mem := by
    refine partner_of_mem_pairs ?_
    have same := pairs_append_of_isNested h []
    rw [List.append_nil] at same
    rw [same]
    exact List.mem_append_left _ mem

/-- The group that a closer of nested text ends. -/
theorem IsNested.exists_group {t : Text} (h : IsNested t) {close : Nat} {kind : Kind}
    (there : t[close]? = some kind.closer) :
    ∃ front inner behind, t = front ++ kind.opener :: (inner ++ kind.closer :: behind) ∧
      close = front.length + (1 + inner.length) ∧ IsNested inner := by
  induction h generalizing close with
  | nil => cases there
  | @plain c rest _ hcloser _ ih =>
      cases close with
      | zero =>
          obtain rfl := Option.some.inj there
          exact absurd kind.isCloser_closer hcloser
      | succ close =>
          obtain ⟨front, inner, behind, rfl, rfl, nested⟩ := ih there
          refine ⟨c :: front, inner, behind, rfl, ?_, nested⟩
          rw [List.length_cons]
          omega
  | @group own inner rest within behind withinIh behindIh =>
      cases close with
      | zero => exact absurd (Option.some.inj there) (own.opener_ne_closer kind)
      | succ close =>
          rw [List.getElem?_cons_succ] at there
          rcases Nat.lt_or_ge close inner.length with inside | outside
          · rw [List.getElem?_append_left inside] at there
            obtain ⟨front, part, later, rfl, rfl, nested⟩ := withinIh there
            refine ⟨own.opener :: front, part, later ++ own.closer :: rest, ?_, ?_, nested⟩
            · simp only [List.append_assoc, List.cons_append]
            · rw [List.length_cons]
              omega
          · obtain ⟨k, rfl⟩ := Nat.exists_eq_add_of_le outside
            rw [Text.getElem?_length_add_append] at there
            cases k with
            | zero =>
                obtain rfl := Kind.closer_inj.mp (Option.some.inj there)
                refine ⟨[], inner, rest, rfl, ?_, within⟩
                rw [List.length_nil]
                omega
            | succ k =>
                obtain ⟨front, part, later, rfl, rfl, nested⟩ := behindIh there
                refine ⟨own.opener :: (inner ++ own.closer :: front), part, later, ?_, ?_,
                  nested⟩
                · simp only [List.append_assoc, List.cons_append]
                · simp only [List.length_cons, List.length_append]
                  omega

/-- The pass does not depend on where the text starts. -/
theorem pairsByKind?_succ {t : Text} {stack : List (Nat × Kind)} {position : Nat}
    {found : List (Nat × Nat)} (h : pairsByKind? stack position t = some found) :
    pairsByKind? (stack.map fun top => (top.1 + 1, top.2)) (position + 1) t =
      some (found.map fun pair => (pair.1 + 1, pair.2 + 1)) := by
  induction t generalizing stack position found with
  | nil =>
      cases stack with
      | nil =>
          cases h
          rfl
      | cons top stack => cases h
  | cons c rest ih =>
      rcases pairsByKind?_cons_eq_some h with ⟨kind, rfl, later⟩ |
        ⟨kind, i, others, laterPairs, rfl, rfl, later, rfl⟩ | ⟨notOpener, notCloser, later⟩
      · rw [pairsByKind?_opener]
        exact ih later
      · rw [List.map_cons, pairsByKind?_closer, ih later]
        rfl
      · rw [pairsByKind?_plain _ _ notOpener notCloser]
        exact ih later

/-- An opener in front of nested text stays open: it has no partner, and every pair of the
text moves on by one. -/
theorem partner_cons_of_pairsByKind? {t : Text} {found : List (Nat × Nat)}
    (h : pairsByKind? [] 0 t = some found) (kind : Kind) :
    partner (kind.opener :: t) 0 = .ok none ∧
      ∀ i j, (i, j) ∈ found → ArePartners (kind.opener :: t) (i + 1) (j + 1) := by
  have opener := kind.isOpener_opener
  have made : pairs [] 0 (kind.opener :: t) = found.map fun pair => (pair.1 + 1, pair.2 + 1) := by
    have rest := pairs_append_of_pairsByKind? (pairsByKind?_succ h) [0] []
    rw [List.append_nil, pairs, List.append_nil] at rest
    rw [pairs_cons_of_isOpener opener]
    exact rest
  constructor
  · refine partner_of_forall_not_mem_pairs (i := 0) rfl (.inl opener) fun j => ?_
    rw [made]
    constructor <;> simp
  · intro i j mem
    refine partner_of_mem_pairs ?_
    rw [made]
    exact List.mem_map_of_mem mem

/-- A closer behind nested text meets nothing open: it has no partner, and every pair of
the text stays. -/
theorem partner_concat_of_pairsByKind? {t : Text} {found : List (Nat × Nat)}
    (h : pairsByKind? [] 0 t = some found) (kind : Kind) :
    partner (t ++ [kind.closer]) t.length = .ok none ∧
      ∀ i j, (i, j) ∈ found → ArePartners (t ++ [kind.closer]) i j := by
  have closer := kind.isCloser_closer
  have made : pairs [] 0 (t ++ [kind.closer]) = found := by
    rw [pairs_append_of_isNested h, pairs_cons_of_isCloser closer]
    exact List.append_nil found
  constructor
  · refine partner_of_forall_not_mem_pairs (c := kind.closer) ?_ (.inr closer) fun j => ?_
    · rw [List.getElem?_append_right (Nat.le_refl _), Nat.sub_self]
      rfl
    · -- Pairs of the text have both ends in it.
      have outside {other : Kind} : ¬ t[t.length]? = some other.closer ∧
          ¬ t[t.length]? = some other.opener := by
        rw [List.getElem?_eq_none (Nat.le_refl _)]
        exact ⟨nofun, nofun⟩
      rw [made]
      constructor
      · intro mem
        obtain ⟨own, opened, -⟩ := (isMatching_of_pairsByKind? h).kinds _ _ mem
        exact outside.2 opened
      · intro mem
        obtain ⟨own, -, closed⟩ := (isMatching_of_pairsByKind? h).kinds _ _ mem
        exact outside.1 closed
  · intro i j mem
    refine partner_of_mem_pairs ?_
    rwa [made]

/-- The ends of a group with nested text inside are partners. -/
theorem partner_group {inner : Text} (h : IsNested inner) (kind : Kind) (rest : Text) :
    partner (kind.opener :: (inner ++ kind.closer :: rest)) 0 =
      .ok (some (1 + inner.length)) := by
  obtain ⟨found, passed⟩ := isNested_iff_exists_pairsByKind?.mp h
  have within := pairs_append_of_pairsByKind? (pairsByKind?_succ passed) [0] (kind.closer :: rest)
  rw [List.map_nil, List.map_nil, List.nil_append,
    pairs_cons_of_isCloser kind.isCloser_closer] at within
  refine (partner_of_mem_pairs (i := 0) ?_).1
  rw [pairs_cons_of_isOpener kind.isOpener_opener, within]
  exact List.mem_append_right _ List.mem_cons_self

/-- In nested text the pass that watches the kinds makes a pair of every brace and the one
that the search finds for it. Around the text an opener or a closer too many is left alone
and leaves the pairs as they are. -/
theorem partner_of_isNested {t : Text} (h : IsNested t) :
    ∃ found, pairsByKind? [] 0 t = some found ∧ IsMatching t found ∧
      (∀ kind : Kind, partner (kind.opener :: t) 0 = .ok none ∧
        ∀ i j, (i, j) ∈ found → ArePartners (kind.opener :: t) (i + 1) (j + 1)) ∧
      ∀ kind : Kind, partner (t ++ [kind.closer]) t.length = .ok none ∧
        ∀ i j, (i, j) ∈ found → ArePartners (t ++ [kind.closer]) i j := by
  obtain ⟨found, passed⟩ := isNested_iff_exists_pairsByKind?.mp h
  exact ⟨found, passed, isMatching_of_pairsByKind? passed, partner_cons_of_pairsByKind? passed,
    partner_concat_of_pairsByKind? passed⟩

theorem isNested_block : IsNested (Text.ofString "\x7bg(x)\x7d") :=
  .group .curly
    (.plain (by decide) (by decide)
      (.group .round (.plain (by decide) (by decide) .nil) .nil))
    .nil

theorem isMatching_block :
    IsMatching (Text.ofString "\x7bg(x)\x7d") [(2, 4), (0, 5)] ∧
      partner (Text.ofString "(\x7bg(x)\x7d") 0 = .ok none ∧
      ArePartners (Text.ofString "(\x7bg(x)\x7d") 1 6 ∧
      partner (Text.ofString "\x7bg(x)\x7d)") 6 = .ok none := by
  obtain ⟨found, passed, matching, front, behind⟩ := partner_of_isNested isNested_block
  obtain rfl : [(2, 4), (0, 5)] = found :=
    Option.some.inj ((show _ = some [(2, 4), (0, 5)] by decide).symm.trans passed)
  exact ⟨matching, (front .round).1, (front .round).2 0 5 (by decide), (behind .round).1⟩

end SketchHelp.Brace
