import SketchHelp.Proofs.Page.Fallback
import SketchHelp.Proofs.Page.Selection
import SketchHelp.Proofs.Session.History

/-!
Whether a particular page is shown. A session knows only the address of the page that it
shows, which may have been written under another font size. Still it can tell the page of a
hint from a default page: all addresses begin with the base address, and only behind that of
a hint's page comes a category. So whatever was asked for on the way, a page is shown if and
only if the last request for one found a hint that could be written.
-/

namespace SketchHelp

/-! ### How addresses end -/

namespace Query

theorem join_singleton (parameter : Text × Text) : join [parameter] = pair parameter := by
  rw [join, List.map_singleton, List.intercalate_singleton]

theorem join_cons_cons (first second : Text × Text) (rest : Parameters) :
    join (first :: second :: rest) =
      pair first ++ CodePoint.ofChar '&' :: join (second :: rest) := by
  rw [join, List.map_cons, List.map_cons, List.intercalate_cons_cons, List.append_assoc]
  rfl

theorem join_append {parameters others : Parameters} (nonempty : parameters ≠ [])
    (nonempty' : others ≠ []) :
    join (parameters ++ others) = join parameters ++ CodePoint.ofChar '&' :: join others := by
  obtain ⟨next, others, rfl⟩ := List.exists_cons_of_ne_nil nonempty'
  induction parameters with
  | nil => exact absurd rfl nonempty
  | cons first rest ih =>
      cases rest with
      | nil => rw [join_singleton, List.singleton_append, join_cons_cons]
      | cons second rest =>
          rw [List.cons_append, List.cons_append, join_cons_cons, join_cons_cons,
            ← List.cons_append, ih (List.cons_ne_nil _ _), List.append_assoc, List.cons_append]

end Query

namespace Config

variable (config : Config) {hint : Hint}

/-- What comes behind `sign` in the address of an embedded page. Other addresses end
before it. -/
def ending (fontSize : Nat) (sign : CodePoint) : Text :=
  if config.embed then sign :: (Text.ofString "embed=true&fontsize=" ++ Text.ofNat fontSize)
  else []

theorem join_embedded (fontSize : Text) :
    Query.join [(embedKey, Text.ofString "true"), (fontSizeKey, fontSize)] =
      Text.ofString "embed=true&fontsize=" ++ fontSize := by
  rw [Query.join_cons_cons, Query.join_singleton]
  rfl

theorem defaultIdentifier_eq :
    config.defaultIdentifier = config.base ++ config.ending config.fontSize '?' := by
  rw [defaultIdentifier, globalParameters, ending]
  split
  · rw [join_embedded]
    rfl
  · exact (List.append_nil _).symm

theorem resolve_fst_of_isWritable (writable : hint.IsWritable) :
    (config.resolve hint).1 = config.base ++ (hint.category.toText ++ CodePoint.ofChar '?' ::
      (Query.join (hint.parameters.map Query.write) ++ config.ending config.fontSize '&')) := by
  have nonempty : hint.parameters.map Query.write ≠ [] := by
    simpa using hint.parameters_ne_nil
  rw [config.resolve_eq_of_isWritable writable, List.map_append, map_write_globalParameters,
    globalParameters, ending]
  split
  · rw [Query.join_append nonempty (List.cons_ne_nil _ _), join_embedded]
  · rw [List.append_nil, List.append_nil]

theorem resolve_fst_of_not_isWritable (unwritable : ¬ hint.IsWritable) :
    (config.resolve hint).1 = config.defaultIdentifier := by
  obtain ⟨parameter, first⟩ := Query.exists_isFirstUnwritable unwritable
  rw [config.resolve_eq_of_isFirstUnwritable first]

end Config

theorem Batch.identifierFor_fst {config : Config} {batch : List Diagnostic} {tree : Tree}
    {startOffset : Int} {result : Option Hint}
    (selected : (selectHint batch tree startOffset).1 = .ok result) :
    (identifierFor config batch tree startOffset).1 = .ok (pageFor config result).1 := by
  rw [identifierFor]
  generalize selectHint batch tree startOffset = selection at selected ⊢
  obtain ⟨_, log⟩ := selection
  obtain rfl := selected
  rfl

namespace Session

/-! ### Requests of an editor -/

/-- What an editor asks for by itself: a page for the problems on a tree that was built, the
default page, or another font size, which may be rejected. -/
inductive Action.IsRoutine : Action → Prop
  | updateFrom {spec : Spec} {source : Text} {offset : Option Int} {tree : Tree}
      (batch : List Diagnostic) (startOffset : Int) :
      spec.toTree source offset = .ok tree → IsRoutine (.updateFrom batch tree startOffset)
  | reset : IsRoutine .reset
  | setFontSize (value : Value) : IsRoutine (.setFontSize value)

instance Action.decidableAsksForPage : (action : Action) → Decidable action.AsksForPage
  | .update _ | .updateFrom .. | .reset => .isTrue trivial
  | .add .. | .remove _ | .setFontSize _ | .note | .fail _ => .isFalse id

/-- The problems of the request come to this hint. -/
def Action.Finds (hint : Hint) : Action → Prop
  | .updateFrom batch tree startOffset =>
    (Batch.selectHint batch tree startOffset).1 = .ok (some hint)
  | _ => False

/-- The request comes to a hint, and the hint's page has an address. -/
def Action.FindsPage (action : Action) : Prop :=
  ∃ hint, action.Finds hint ∧ hint.IsWritable

/-- The font size that a request sets, unless it is rejected. -/
def Action.acceptedSize? : Action → Option Nat
  | .setFontSize (.int n) => if 0 < n then some n.toNat else none
  | _ => none

/-- The font size that was accepted last, or else the one there was at first. -/
def lastAccepted (fontSize : Nat) (actions : List Action) : Nat :=
  (actions.filterMap Action.acceptedSize?).getLastD fontSize

/-- The last request that asked for a page. -/
def lastAsking? (actions : List Action) : Option Action :=
  (actions.filter (·.AsksForPage)).getLast?

/-- What an address says of the request that led to it: the hint's page if there is one and
the bare base address otherwise, and behind either what embedded pages are told. -/
structure IsAddressFor (config : Config) (fontSize : Nat) (action : Action) (address : Text) :
    Prop where
  found : ∀ hint, action.Finds hint → hint.IsWritable →
    address = config.base ++ (hint.category.toText ++ CodePoint.ofChar '?' ::
      (Query.join (hint.parameters.map Query.write) ++ config.ending fontSize '&'))
  missing : ¬ action.FindsPage → address = config.base ++ config.ending fontSize '?'

/-! ### One request -/

theorem State.hasPage_of_last {state : State} {rest : Text}
    (shown : state.last = state.config.base ++ rest) :
    state.hasPage = true ↔ ∃ c path, rest = c :: path ∧ c ≠ '?' := by
  rw [State.hasPage, shown, List.drop_left,
    if_pos (List.isPrefixOf_iff_prefix.mpr (List.prefix_append _ _))]
  cases rest with
  | nil => simp
  | cons c path => simp

section

variable {config : Config} {fontSize : Nat} {action : Action} {address : Text}

/-- Behind the base address a default page goes on with a question mark or not at all. -/
theorem IsAddressFor.hasPage_iff {state : State}
    (shown : IsAddressFor config fontSize action state.last)
    (base : state.config.base = config.base) :
    state.hasPage = true ↔ action.FindsPage := by
  by_cases found : action.FindsPage
  · obtain ⟨hint, finds, writable⟩ := found
    obtain ⟨c, path, category, letter⟩ := hint.category.exists_toText_eq_cons
    have last := shown.found hint finds writable
    rw [← base, category] at last
    exact iff_of_true ((State.hasPage_of_last last).mpr ⟨c, _, rfl, letter⟩)
      ⟨hint, finds, writable⟩
  · have last := shown.missing found
    rw [← base] at last
    refine iff_of_false (fun particular => ?_) found
    obtain ⟨c, path, rest, letter⟩ := (State.hasPage_of_last last).mp particular
    rw [Config.ending] at rest
    split at rest
    · exact letter (List.cons.inj rest).1.symm
    · cases rest

theorem IsAddressFor.congr {other : Config} (base : config.base = other.base)
    (embed : config.embed = other.embed) (h : IsAddressFor config fontSize action address) :
    IsAddressFor other fontSize action address := by
  have ending (sign : CodePoint) : config.ending fontSize sign = other.ending fontSize sign := by
    rw [Config.ending, Config.ending, embed]
  constructor
  · simpa only [base, ending] using h.found
  · simpa only [base, ending] using h.missing

end

theorem isAddressFor_pageFor (config : Config) {batch : List Diagnostic} {tree : Tree}
    {startOffset : Int} {result : Option Hint}
    (selected : (Batch.selectHint batch tree startOffset).1 = .ok result) :
    IsAddressFor config config.fontSize (.updateFrom batch tree startOffset)
      (Batch.pageFor config result).1 where
  found hint finds writable := by
    obtain rfl := Except.ok.inj (selected.symm.trans finds)
    exact config.resolve_fst_of_isWritable writable
  missing nothing := by
    cases result with
    | none => exact config.defaultIdentifier_eq
    | some hint =>
        have unwritable : ¬ hint.IsWritable := fun writable => nothing ⟨hint, selected, writable⟩
        exact (config.resolve_fst_of_not_isWritable unwritable).trans config.defaultIdentifier_eq

/-- A routine request for a page comes to one. -/
theorem Action.IsRoutine.exists_page {action : Action} (routine : action.IsRoutine)
    (asks : action.AsksForPage) (config : Config) :
    ∃ address, action.page? config = some address ∧
      IsAddressFor config config.fontSize action address := by
  cases routine with
  | @updateFrom spec _ _ tree batch startOffset built =>
      have selected : (Batch.selectHint batch tree startOffset).1 = .ok _ :=
        Batch.selectHint_eq_chosen? (spec.exists_classify built)
      refine ⟨_, ?_, isAddressFor_pageFor config selected⟩
      rw [Action.page?, Batch.identifierFor_fst selected]
      rfl
  | reset =>
      refine ⟨_, rfl, ?_, fun _ => config.defaultIdentifier_eq⟩
      exact fun hint finds => finds.elim
  | setFontSize value => exact asks.elim

theorem acceptedSize?_of_withFontSize (config : Config) (value : Value) :
    match config.withFontSize value with
    | .ok changed => changed.base = config.base ∧ changed.embed = config.embed ∧
        (Action.setFontSize value).acceptedSize? = some changed.fontSize
    | .error _ => (Action.setFontSize value).acceptedSize? = none := by
  cases value with
  | int n =>
      rw [Config.withFontSize, Config.fontSizeOf]
      by_cases positive : 0 < n
      · rw [dif_pos positive]
        exact ⟨rfl, rfl, if_pos positive⟩
      · rw [dif_neg positive]
        exact if_neg positive
  | _ => rfl

/-- Of the configuration only the font size changes. -/
theorem State.next_config (state : State) (action : Action) :
    (state.next action).2.config.base = state.config.base ∧
      (state.next action).2.config.embed = state.config.embed ∧
      (state.next action).2.config.fontSize = action.acceptedSize?.getD state.config.fontSize := by
  cases action with
  | setFontSize value =>
      have accepted := acceptedSize?_of_withFontSize state.config value
      rw [State.next]
      cases changed : state.config.withFontSize value with
      | ok config =>
          rw [changed] at accepted
          obtain ⟨base, embed, size⟩ := accepted
          rw [size]
          exact ⟨base, embed, rfl⟩
      | error fault =>
          rw [changed] at accepted
          rw [accepted]
          exact ⟨rfl, rfl, rfl⟩
  | updateFrom batch tree startOffset =>
      rw [State.next]
      split
      · rw [visit_config]
        exact ⟨rfl, rfl, rfl⟩
      · exact ⟨rfl, rfl, rfl⟩
  | update page => simp [State.next, Action.acceptedSize?]
  | reset => simp [State.next, Action.acceptedSize?]
  | remove name =>
      rw [State.next, State.unregister]
      split
      · exact ⟨rfl, rfl, rfl⟩
      · exact ⟨rfl, rfl, rfl⟩
  | _ => exact ⟨rfl, rfl, rfl⟩

/-! ### Runs -/

/-- What requests leave of a session that began on the default page of a configuration. -/
structure Follows (config : Config) (actions : List Action) (state : State) : Prop where
  passive : state.IsPassive
  base : state.config.base = config.base
  embed : state.config.embed = config.embed
  fontSize : state.config.fontSize = lastAccepted config.fontSize actions
  hasPage : state.hasPage = true ↔
    ∃ action, lastAsking? actions = some action ∧ action.FindsPage

theorem Action.IsRoutine.isPassive {action : Action} (routine : action.IsRoutine) :
    action.IsPassive := by
  cases routine <;> exact trivial

theorem lastAccepted_concat (fontSize : Nat) (actions : List Action) (action : Action) :
    lastAccepted fontSize (actions ++ [action]) =
      action.acceptedSize?.getD (lastAccepted fontSize actions) := by
  rw [lastAccepted, List.filterMap_append, List.filterMap_cons, List.filterMap_nil]
  cases action.acceptedSize? with
  | none => exact congrArg (List.getLastD · fontSize) (List.append_nil _)
  | some size => exact List.getLastD_concat

theorem lastAsking?_concat_of_asks {action : Action} (asks : action.AsksForPage)
    (actions : List Action) : lastAsking? (actions ++ [action]) = some action := by
  rw [lastAsking?, List.filter_append, List.filter_cons_of_pos (by simpa using asks),
    List.filter_nil, List.getLast?_concat]

theorem lastAsking?_concat_of_not_asks {action : Action} (quiet : ¬ action.AsksForPage)
    (actions : List Action) : lastAsking? (actions ++ [action]) = lastAsking? actions := by
  rw [lastAsking?, List.filter_append, List.filter_cons_of_neg (by simpa using quiet),
    List.filter_nil, List.append_nil, lastAsking?]

section

variable {config : Config} {actions : List Action} {state : State} {action : Action}

theorem Follows.isAddressFor (h : Follows config actions state) (routine : action.IsRoutine)
    (asks : action.AsksForPage) :
    IsAddressFor config (lastAccepted config.fontSize actions) action
      (request state action).2.last := by
  obtain ⟨address, page, written⟩ := routine.exists_page asks state.config
  obtain ⟨log, eq⟩ := state.next_of_page page
  rw [request_eq_next h.passive, eq, State.visit_last, ← h.fontSize]
  exact written.congr h.base h.embed

theorem Follows.request (h : Follows config actions state) (routine : action.IsRoutine) :
    Follows config (actions ++ [action]) (request state action).2 := by
  obtain ⟨base, embed, fontSize⟩ := state.next_config action
  rw [← request_eq_next h.passive] at base embed fontSize
  refine ⟨h.passive.request routine.isPassive, base.trans h.base, embed.trans h.embed, ?_, ?_⟩
  · rw [fontSize, lastAccepted_concat, h.fontSize]
  · by_cases asks : action.AsksForPage
    · rw [(h.isAddressFor routine asks).hasPage_iff (base.trans h.base),
        lastAsking?_concat_of_asks asks]
      simp
    · have quiet : action.page? state.config = none := by
        cases routine with
        | setFontSize value => rfl
        | _ => exact absurd trivial asks
      have shown := ((isStep_request h.passive action).quiet quiet).1
      rw [lastAsking?_concat_of_not_asks asks, ← h.hasPage, State.hasPage, State.hasPage, shown,
        base]

end

end Session

end SketchHelp
