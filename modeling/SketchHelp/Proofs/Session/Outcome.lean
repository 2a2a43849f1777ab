import SketchHelp.Session

/-!
How requests to a session come out. A run is a function from the session before to an
answer and the session after; the equations here say so for its building blocks and for
each request, so that no proof has to open the monad.
-/

namespace SketchHelp.Session

variable {α β : Type} {state : State}

/-- What a run comes to from a state. -/
def outcome (run : Run α) (state : State) : Except Fault α × State :=
  run.run.run state

/-- A run that hands on what comes of another. -/
def andThen (first : Except Fault α × State) (next : α → State → Except Fault β × State) :
    Except Fault β × State :=
  match first with
  | (.ok a, state) => next a state
  | (.error fault, state) => (.error fault, state)

@[simp] theorem andThen_ok (a : α) (next : α → State → Except Fault β × State) :
    andThen (.ok a, state) next = next a state := rfl

@[simp] theorem andThen_error (fault : Fault) (next : α → State → Except Fault β × State) :
    andThen (.error fault, state) next = (.error fault, state) := rfl

@[simp] theorem andThen_andThen {γ : Type} (first : Except Fault α × State)
    (next : α → State → Except Fault β × State)
    (last : β → State → Except Fault γ × State) :
    andThen (andThen first next) last =
      andThen first fun a between => andThen (next a between) last := by
  obtain ⟨fault | a, between⟩ := first <;> rfl

theorem andThen_eq_ok_iff {first : Except Fault α × State}
    {next : α → State → Except Fault β × State} {b : β} {after : State} :
    andThen first next = (.ok b, after) ↔
      ∃ a between, first = (.ok a, between) ∧ next a between = (.ok b, after) := by
  constructor
  · intro h
    obtain ⟨fault | a, between⟩ := first
    · cases h
    · exact ⟨a, between, rfl, h⟩
  · rintro ⟨a, between, rfl, h⟩
    exact h

@[simp] theorem outcome_pure (a : α) : outcome (pure a) state = (.ok a, state) := rfl

@[simp] theorem outcome_get : outcome get state = (.ok state, state) := rfl

@[simp] theorem outcome_set (next : State) : outcome (set next) state = (.ok (), next) := rfl

@[simp] theorem outcome_modify (f : State → State) :
    outcome (modify f) state = (.ok (), f state) := rfl

@[simp] theorem outcome_bind (run : Run α) (next : α → Run β) :
    outcome (run >>= next) state = andThen (outcome run state) fun a => outcome (next a) := by
  rw [outcome, ExceptT.run_bind, StateT.run_bind]
  rcases h : outcome run state with ⟨fault | a, after⟩
  all_goals
    rw [outcome] at h
    rw [h]
    rfl

@[simp] theorem outcome_map (f : α → β) (run : Run α) :
    outcome (f <$> run) state = andThen (outcome run state) fun a after => (.ok (f a), after) := by
  rw [map_eq_pure_bind, outcome_bind]
  rfl

@[simp] theorem outcome_discard (run : Run α) :
    outcome (discard run) state = andThen (outcome run state) fun _ after => (.ok (), after) := by
  rw [discard, map_const]
  exact outcome_map ..

@[simp] theorem outcome_forM_nil (act : α → Run Unit) :
    outcome (forM [] act) state = (.ok (), state) := rfl

@[simp] theorem outcome_forM_cons (act : α → Run Unit) (a : α) (rest : List α) :
    outcome (forM (a :: rest) act) state =
      andThen (outcome (act a) state) fun _ => outcome (forM rest act) := by
  rw [List.forM_cons, outcome_bind]

theorem outcome_publish (tell : Listener → Run Unit) (identifier : Text) :
    outcome (publish tell identifier) state =
      if identifier = state.last then (.ok false, state)
      else andThen (outcome (forM state.registered tell) (state.store identifier))
        fun _ after => (.ok true, after) := by
  rw [publish]
  simp only [outcome_bind, outcome_get, andThen_ok]
  split
  · rfl
  · simp

theorem outcome_tellWith (act : Action → Run Reply) (identifier : Text) (listener : Listener) :
    outcome (tellWith act identifier listener) state =
      outcome
        (forM (listener.script state.trace identifier) fun action => discard (act action))
        (state.record [.heard listener.name identifier]) := by
  simp [tellWith]

theorem outcome_pageFor (batch : List Diagnostic) (tree : Tree) (startOffset : Int) :
    outcome (pageFor batch tree startOffset) state =
      let (result, log) := Batch.identifierFor state.config batch tree startOffset
      (result.mapError .tree, state.write log) := by
  rw [pageFor]
  simp only [outcome_bind, outcome_get, andThen_ok, outcome_modify]
  rcases Batch.identifierFor state.config batch tree startOffset with ⟨fault | identifier, log⟩
  · rfl
  · rfl

theorem outcome_changeFontSize (value : Value) :
    outcome (changeFontSize value) state =
      match state.config.withFontSize value with
      | .ok config => (.ok (), { state with config })
      | .error fault => (.error (.config fault), state) := by
  rw [changeFontSize, outcome_bind, outcome_get, andThen_ok]
  rcases state.config.withFontSize value with fault | config
  · rfl
  · rfl

/-! ### Requests -/

/-- Publishing inside a run that may nest `limit` more rounds. -/
abbrev publishWithin (limit : Nat) (identifier : Text) : Run Bool :=
  publish (tellWith (perform limit) identifier) identifier

section

variable (limit : Nat)

@[simp] theorem outcome_zero (action : Action) :
    outcome (perform 0 action) state = (.error .nesting, state) := rfl

@[simp] theorem outcome_add (name : Text) (script : Script) :
    outcome (perform (limit + 1) (.add name script)) state =
      (.ok .done, state.register name script) := rfl

@[simp] theorem outcome_remove (name : Text) :
    outcome (perform (limit + 1) (.remove name)) state =
      (.ok .done, state.unregister name) := rfl

@[simp] theorem outcome_note :
    outcome (perform (limit + 1) .note) state =
      (.ok .done, state.record [.noted state.last]) := rfl

@[simp] theorem outcome_fail (fault : Fault) :
    outcome (perform (limit + 1) (.fail fault)) state = (.error fault, state) := rfl

theorem outcome_update (identifier : Text) :
    outcome (perform (limit + 1) (.update identifier)) state =
      andThen (outcome (publishWithin limit identifier) state)
        fun yes after => (.ok (.changed yes), after) := by
  rw [perform]
  simp

theorem outcome_updateFrom (batch : List Diagnostic) (tree : Tree) (startOffset : Int) :
    outcome (perform (limit + 1) (.updateFrom batch tree startOffset)) state =
      andThen (outcome (pageFor batch tree startOffset) state) fun identifier between =>
        andThen (outcome (publishWithin limit identifier) between)
          fun _ after => (.ok (.page identifier), after) := by
  rw [perform, outcome_bind]
  congr 1
  funext identifier between
  simp

theorem outcome_reset :
    outcome (perform (limit + 1) .reset) state =
      andThen (outcome (publishWithin limit state.config.defaultIdentifier) state)
        fun yes after => (.ok (.changed yes), after) := by
  rw [perform]
  simp

theorem outcome_setFontSize (value : Value) :
    outcome (perform (limit + 1) (.setFontSize value)) state =
      andThen (outcome (changeFontSize value) state) fun _ after => (.ok .done, after) := by
  rw [perform]
  simp

end

theorem request_eq (action : Action) :
    request state action = outcome (perform (nestingLimit + 1) action) state := rfl

/-! ### Who hears what -/

/-- Who heard what, in order. -/
def hearings (events : List Event) : List (Text × Text) :=
  events.filterMap fun
    | .heard listener page => some (listener, page)
    | _ => none

/-- The pages that the listener called `name` heard of, in order. -/
def heardBy (name : Text) (events : List Event) : List Text :=
  ((hearings events).filter (·.1 = name)).map (·.2)

/-- The pages that the session turned to, in order. -/
def turns (events : List Event) : List Text :=
  events.filterMap fun
    | .turned page => some page
    | _ => none

section

variable (name other page : Text) (events more : List Event)

@[simp] theorem hearings_nil : hearings [] = [] := rfl

@[simp] theorem hearings_append :
    hearings (events ++ more) = hearings events ++ hearings more :=
  List.filterMap_append

@[simp] theorem hearings_heard :
    hearings (.heard name page :: events) = (name, page) :: hearings events := rfl

@[simp] theorem hearings_noted : hearings (.noted page :: events) = hearings events := rfl

@[simp] theorem hearings_added : hearings (.added name :: events) = hearings events := rfl

@[simp] theorem hearings_removed : hearings (.removed name :: events) = hearings events := rfl

@[simp] theorem hearings_replicate_noted (n : Nat) :
    hearings (List.replicate n (.noted page)) = [] := by
  induction n with
  | zero => rfl
  | succ n ih => exact ih

@[simp] theorem heardBy_nil : heardBy name [] = [] := rfl

@[simp] theorem heardBy_heard :
    heardBy name (.heard other page :: events) =
      if other = name then page :: heardBy name events else heardBy name events := by
  by_cases mine : other = name <;> simp [heardBy, mine]

@[simp] theorem heardBy_turned :
    heardBy name (.turned page :: events) = heardBy name events := rfl

@[simp] theorem heardBy_append :
    heardBy name (events ++ more) = heardBy name events ++ heardBy name more := by
  simp [heardBy]

theorem mem_heardBy_iff {name page : Text} {events : List Event} :
    page ∈ heardBy name events ↔ .heard name page ∈ events := by
  simp only [heardBy, hearings, List.mem_map, List.mem_filter, List.mem_filterMap]
  constructor
  · rintro ⟨⟨other, _⟩, ⟨⟨event, mem, eq⟩, mine⟩, rfl⟩
    cases event with
    | heard listener identifier =>
        obtain ⟨rfl, rfl⟩ := Prod.mk.inj (Option.some.inj eq)
        exact of_decide_eq_true mine ▸ mem
    | noted | added | removed | turned => cases eq
  · exact fun mem => ⟨(name, page), ⟨⟨_, mem, rfl⟩, decide_eq_true rfl⟩, rfl⟩

/-- Who heard of a page was called for the last time at some point. -/
theorem exists_last_call {name : Text} {events : List Event} (called : heardBy name events ≠ []) :
    ∃ before told later, events = before ++ .heard name told :: later ∧
      heardBy name later = [] := by
  induction events with
  | nil => exact absurd rfl called
  | cons event rest ih =>
      by_cases again : heardBy name rest = []
      · obtain ⟨page, heard⟩ := List.exists_mem_of_ne_nil _ called
        rcases List.mem_cons.mp (mem_heardBy_iff.mp heard) with rfl | later
        · exact ⟨[], page, rest, rfl, again⟩
        · exact absurd (mem_heardBy_iff.mpr later) (by simp [again])
      · obtain ⟨before, told, later, split, unheard⟩ := ih again
        exact ⟨event :: before, told, later, by simp [split], unheard⟩

@[simp] theorem turns_nil : turns [] = [] := rfl

@[simp] theorem turns_heard : turns (.heard name page :: events) = turns events := rfl

@[simp] theorem turns_append : turns (events ++ more) = turns events ++ turns more :=
  List.filterMap_append

end

/-! ### Requests that ask for no page -/

/-- Asks the session to show a page. -/
def Action.AsksForPage : Action → Prop
  | .update _ | .updateFrom .. | .reset => True
  | _ => False

/-- What an action that asks for no page does unless it fails, with what happened then. -/
inductive Deed (state : State) : Action → List Event → State → Prop
  | add (name : Text) (script : Script) :
      Deed state (.add name script) [.added name] (state.register name script)
  | remove {name : Text} :
      (∃ listener ∈ state.registered, listener.name = name) →
      Deed state (.remove name) [.removed name] (state.unregister name)
  | absent {name : Text} :
      (∀ listener ∈ state.registered, listener.name ≠ name) →
      Deed state (.remove name) [] state
  | setFontSize {value : Value} {config : Config} :
      state.config.withFontSize value = .ok config →
      Deed state (.setFontSize value) [] { state with config }
  | note : Deed state .note [.noted state.last] (state.record [.noted state.last])

theorem State.listenerNamed_name (state : State) (name : Text) (script : Script) :
    (state.listenerNamed name script).name = name := by
  rw [State.listenerNamed]
  cases found : state.known.find? (·.name = name) with
  | none => rfl
  | some listener => simpa using List.find?_some found

theorem State.unregister_of_present {name : Text}
    (present : ∃ listener ∈ state.registered, listener.name = name) :
    state.unregister name = { state with
      registered := state.registered.eraseP (·.name = name) }.record [.removed name] :=
  if_pos (by simpa using present)

theorem State.unregister_of_absent {name : Text}
    (absent : ∀ listener ∈ state.registered, listener.name ≠ name) :
    state.unregister name = state :=
  if_neg (by simpa using absent)

/-- Nobody is called, the page stays, and what happened is recorded. -/
structure IsQuiet (state : State) (events : List Event) (after : State) : Prop where
  last : after.last = state.last
  log : after.log = state.log
  trace : after.trace = state.trace ++ events
  unheard : hearings events = []
  unturned : turns events = []

theorem IsQuiet.nil (state : State) : IsQuiet state [] state :=
  ⟨rfl, rfl, (List.append_nil _).symm, rfl, rfl⟩

theorem IsQuiet.append {between after : State} {events more : List Event}
    (first : IsQuiet state events between) (second : IsQuiet between more after) :
    IsQuiet state (events ++ more) after where
  last := second.last.trans first.last
  log := second.log.trans first.log
  trace := by rw [second.trace, first.trace, List.append_assoc]
  unheard := by rw [hearings_append, first.unheard, second.unheard, List.append_nil]
  unturned := by rw [turns_append, first.unturned, second.unturned, List.append_nil]

theorem Deed.isQuiet {action : Action} {events : List Event} {after : State}
    (deed : Deed state action events after) : IsQuiet state events after := by
  cases deed with
  | remove present =>
      rw [State.unregister_of_present present]
      exact ⟨rfl, rfl, rfl, rfl, rfl⟩
  | absent => exact .nil state
  | setFontSize => exact ⟨rfl, rfl, (List.append_nil _).symm, rfl, rfl⟩
  | add | note => exact ⟨rfl, rfl, rfl, rfl, rfl⟩

theorem exists_deed_of_outcome {limit : Nat} {action : Action} {after : State} {reply : Reply}
    (quiet : ¬ action.AsksForPage)
    (run : outcome (perform limit action) state = (.ok reply, after)) :
    ∃ events, Deed state action events after := by
  cases limit with
  | zero => simp at run
  | succ limit =>
      cases action with
      | add name script =>
          obtain rfl : state.register name script = after := congrArg Prod.snd run
          exact ⟨_, .add name script⟩
      | remove name =>
          obtain rfl : state.unregister name = after := congrArg Prod.snd run
          by_cases present : ∃ listener ∈ state.registered, listener.name = name
          · exact ⟨_, .remove present⟩
          · have absent : ∀ listener ∈ state.registered, listener.name ≠ name := by
              simpa using present
            rw [State.unregister_of_absent absent]
            exact ⟨_, .absent absent⟩
      | note =>
          obtain rfl : state.record [.noted state.last] = after := congrArg Prod.snd run
          exact ⟨_, .note⟩
      | setFontSize value =>
          rw [outcome_setFontSize, outcome_changeFontSize] at run
          cases valid : state.config.withFontSize value with
          | error fault => simp [valid] at run
          | ok config =>
              simp only [valid, andThen_ok, Prod.mk.injEq] at run
              obtain ⟨-, rfl⟩ := run
              exact ⟨_, .setFontSize valid⟩
      | fail fault => simp at run
      | update | updateFrom | reset => exact absurd trivial quiet

/-- A new session on pages that are not embedded. -/
def bare : State :=
  .start ⟨"http://help/", false, 12, List.cons_ne_nil _ _, Nat.succ_pos 11⟩

end SketchHelp.Session
