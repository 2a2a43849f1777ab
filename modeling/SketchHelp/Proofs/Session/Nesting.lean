import SketchHelp.Proofs.Session.Outcome

/-!
Listeners that use the session they listen to. A listener that is told of a page may ask
for another one, which starts a round inside the round. Listeners further down the outer
round then hear of the inner page first and of the outer one, which is not shown any more,
last. Even so all that are not taken away hear of the page that is shown in the end, and
all are called for the last time when it is shown already. Those with nobody ahead of them
who asks for pages hear of it last.
-/

namespace SketchHelp.Session

/-! ### Rounds inside rounds

An effect says how a session may change when somebody asks for a page: from what, with what
happening, to what. From the effect of inner rounds follows what a script may do, from that
what an outer round may do, and an effect that takes in what its own rounds do holds at
every depth. -/

abbrev Effect := State → List Event → State → Prop

section

variable (effect : Effect)

/-- What a script may do, if asking for a page has the effect. -/
inductive Acts : List Action → Effect
  | nil (state : State) : Acts [] state [] state
  | deed {action : Action} {script : List Action} {state between after : State}
      {own events : List Event} :
      Deed state action own between → Acts script between events after →
        Acts (action :: script) state (own ++ events) after
  | ask {action : Action} {script : List Action} {state between after : State}
      {own events : List Event} :
      action.AsksForPage → between.trace = state.trace ++ own → effect state own between →
        Acts script between events after → Acts (action :: script) state (own ++ events) after

/-- What happens while listeners are told of a page. -/
inductive Round (told : Text) : List Listener → Effect
  | nil (state : State) : Round told [] state [] state
  | cons {listener : Listener} {listeners : List Listener} {state between after : State}
      {own events : List Event} :
      Acts effect (listener.script state.trace told)
        (state.record [.heard listener.name told]) own between →
      Round told listeners between events after →
        Round told (listener :: listeners) state
          (.heard listener.name told :: (own ++ events)) after

/-- Whoever asks for the page that is shown has the effect, and so does whoever asks for
one that all are told of. What is logged has no part in it. -/
structure Effect.IsClosed : Prop where
  nil : ∀ state, effect state [] state
  write : ∀ {state after : State} {events : List Event} {log : Log},
    effect (state.write log) events after → effect state events after
  round : ∀ {state after : State} {page : Text} {events : List Event},
    Round effect page state.registered (state.store page) events after →
      effect state (.turned page :: events) after

end

section

variable {effect : Effect} {script : List Action} {told : Text} {listeners : List Listener}
  {state after : State} {events : List Event}

theorem Acts.trace (h : Acts effect script state events after) :
    after.trace = state.trace ++ events := by
  induction h with
  | nil state => exact (List.append_nil _).symm
  | deed deed _ ih => rw [ih, deed.isQuiet.trace, List.append_assoc]
  | ask _ own _ _ ih => rw [ih, own, List.append_assoc]

theorem Round.trace (h : Round effect told listeners state events after) :
    after.trace = state.trace ++ events := by
  induction h with
  | nil state => exact (List.append_nil _).symm
  | cons acts _ ih =>
      rw [ih, acts.trace]
      simp [State.record]

end

section

variable {effect : Effect} {limit : Nat}
  (asks : ∀ {action : Action} {state after : State} {reply : Reply}, action.AsksForPage →
    outcome (perform limit action) state = (.ok reply, after) →
      ∃ events, after.trace = state.trace ++ events ∧ effect state events after)

include asks

theorem exists_acts_of_outcome {script : List Action} {state after : State}
    (run : outcome (forM script fun action => discard (perform limit action)) state =
      (.ok (), after)) :
    ∃ events, Acts effect script state events after := by
  induction script generalizing state with
  | nil =>
      obtain rfl : state = after := congrArg Prod.snd run
      exact ⟨[], .nil state⟩
  | cons action script ih =>
      simp only [outcome_forM_cons, outcome_discard, andThen_andThen, andThen_ok,
        andThen_eq_ok_iff] at run
      obtain ⟨reply, between, first, rest⟩ := run
      obtain ⟨events, acts⟩ := ih rest
      by_cases asking : action.AsksForPage
      · obtain ⟨own, trace, done⟩ := asks asking first
        exact ⟨own ++ events, .ask asking trace done acts⟩
      · obtain ⟨own, deed⟩ := exists_deed_of_outcome asking first
        exact ⟨own ++ events, .deed deed acts⟩

theorem exists_round_of_outcome {told : Text} {listeners : List Listener}
    {state after : State}
    (run : outcome (forM listeners (tellWith (perform limit) told)) state = (.ok (), after)) :
    ∃ events, Round effect told listeners state events after := by
  induction listeners generalizing state with
  | nil =>
      obtain rfl : state = after := congrArg Prod.snd run
      exact ⟨[], .nil state⟩
  | cons listener listeners ih =>
      simp only [outcome_forM_cons, outcome_tellWith, andThen_eq_ok_iff] at run
      obtain ⟨_, between, first, rest⟩ := run
      obtain ⟨own, acts⟩ := exists_acts_of_outcome asks first
      obtain ⟨events, round⟩ := ih rest
      exact ⟨_, .cons acts round⟩

theorem exists_effect_of_publish (closed : effect.IsClosed) {page : Text}
    {state after : State} {changed : Bool}
    (run : outcome (publishWithin limit page) state = (.ok changed, after)) :
    ∃ events, after.trace = state.trace ++ events ∧ effect state events after := by
  rw [outcome_publish] at run
  split at run
  · obtain rfl : state = after := congrArg Prod.snd run
    exact ⟨[], (List.append_nil _).symm, closed.nil state⟩
  · obtain ⟨_, between, told, done⟩ := andThen_eq_ok_iff.mp run
    obtain rfl : between = after := congrArg Prod.snd done
    obtain ⟨events, round⟩ := exists_round_of_outcome asks told
    refine ⟨.turned page :: events, ?_, closed.round round⟩
    rw [round.trace]
    simp [State.store, State.write, State.record]

end

/-- Whoever asks for a page has every closed effect, however deep the rounds nest. -/
theorem exists_effect_of_asksForPage {effect : Effect} (closed : effect.IsClosed) (limit : Nat)
    {action : Action} {state after : State} {reply : Reply} (asking : action.AsksForPage)
    (run : outcome (perform limit action) state = (.ok reply, after)) :
    ∃ events, after.trace = state.trace ++ events ∧ effect state events after := by
  induction limit generalizing action state after reply with
  | zero => simp at run
  | succ limit ih =>
      cases action with
      | update page =>
          rw [outcome_update] at run
          obtain ⟨changed, between, published, done⟩ := andThen_eq_ok_iff.mp run
          obtain rfl : between = after := congrArg Prod.snd done
          exact exists_effect_of_publish ih closed published
      | updateFrom batch tree startOffset =>
          rw [outcome_updateFrom, outcome_pageFor] at run
          obtain ⟨page, found, located, run⟩ := andThen_eq_ok_iff.mp run
          obtain ⟨changed, between, published, done⟩ := andThen_eq_ok_iff.mp run
          obtain rfl : between = after := congrArg Prod.snd done
          obtain rfl : state.write _ = found := congrArg Prod.snd located
          obtain ⟨events, trace, done⟩ := exists_effect_of_publish ih closed published
          exact ⟨events, trace, closed.write done⟩
      | reset =>
          rw [outcome_reset] at run
          obtain ⟨changed, between, published, done⟩ := andThen_eq_ok_iff.mp run
          obtain rfl : between = after := congrArg Prod.snd done
          exact exists_effect_of_publish ih closed published
      | add | remove | setFontSize | note | fail => exact absurd asking id

/-! ### Scripts and rounds -/

/-- Effects that deeds have and that lead from one to the next. -/
structure Effect.Composes (effect : Effect) : Prop where
  nil : ∀ state, effect state [] state
  deed : ∀ {state after : State} {action : Action} {events : List Event},
    Deed state action events after → effect state events after
  append : ∀ {state between after : State} {events more : List Event},
    between.trace = state.trace ++ events → effect state events between →
      effect between more after → effect state (events ++ more) after

variable {effect : Effect} {script : List Action} {told page : Text}
  {listeners : List Listener} {state after : State} {events more : List Event}

theorem Acts.composed (composes : effect.Composes) (h : Acts effect script state events after) :
    effect state events after := by
  induction h with
  | nil state => exact composes.nil state
  | deed deed _ ih => exact composes.append deed.isQuiet.trace (composes.deed deed) ih
  | ask _ trace own _ ih => exact composes.append trace own ih

/-- Everyone in a round hears of the page that it is about. -/
theorem Round.told_mem {listener : Listener} (mem : listener ∈ listeners)
    (h : Round effect told listeners state events after) :
    told ∈ heardBy listener.name events := by
  induction h with
  | nil => cases mem
  | cons _ _ ih =>
      rcases List.mem_cons.mp mem with rfl | later
      · simp
      · have := ih later
        rw [heardBy_heard]
        split <;> simp [this]

/-! ### What all hear of -/

/-- A listener has heard of the page, and no page was stored after one of its calls. -/
structure HasCaughtUp (name : Text) (events : List Event) (page : Text) : Prop where
  heard : page ∈ heardBy name events
  settled : ∃ before told later, events = before ++ .heard name told :: later ∧ turns later = []

/-- A listener that is not taken away stays, and catches up with the session, or nothing
happens to either. -/
def KeepsUp (listener : Listener) : Effect := fun state events after =>
  listener ∈ state.registered → .removed listener.name ∉ events →
    listener ∈ after.registered ∧
      ((heardBy listener.name events = [] ∧ turns events = [] ∧ after.last = state.last) ∨
        HasCaughtUp listener.name events after.last)

section

variable {name : Text}

theorem HasCaughtUp.prepend (h : HasCaughtUp name more page) (events : List Event) :
    HasCaughtUp name (events ++ more) page := by
  obtain ⟨heard, before, told, later, split, turned⟩ := h
  exact ⟨by simp [heard], events ++ before, told, later, by simp [split], turned⟩

theorem HasCaughtUp.append (h : HasCaughtUp name events page) (quiet : turns more = []) :
    HasCaughtUp name (events ++ more) page := by
  obtain ⟨heard, before, told, later, split, turned⟩ := h
  exact ⟨by simp [heard], before, told, later ++ more, by simp [split], by simp [turned, quiet]⟩

theorem HasCaughtUp.last_call (h : HasCaughtUp name events page) :
    ∃ before told later, events = before ++ .heard name told :: later ∧
      heardBy name later = [] ∧ turns later = [] := by
  obtain ⟨-, before, told, later, rfl, unturned⟩ := h
  have called : heardBy name (.heard name told :: later) ≠ [] := by simp
  obtain ⟨front, last, rest, split, unheard⟩ := exists_last_call called
  have quiet : turns (front ++ .heard name last :: rest) = [] := split ▸ unturned
  rw [turns_append, turns_heard] at quiet
  exact ⟨before ++ front, last, rest, by simp [split], unheard,
    (List.append_eq_nil_iff.mp quiet).2⟩

theorem Deed.mem_registered {action : Action} {listener : Listener}
    (deed : Deed state action events after) (mem : listener ∈ state.registered)
    (kept : .removed listener.name ∉ events) : listener ∈ after.registered := by
  cases deed with
  | add => exact List.mem_append_left _ mem
  | @remove other present =>
      have apart : listener.name ≠ other := by
        rintro rfl
        exact kept List.mem_cons_self
      rw [State.unregister_of_present present]
      exact (List.mem_eraseP_of_neg (by simpa using apart)).mpr mem
  | absent | setFontSize | note => exact mem

theorem KeepsUp.composes (listener : Listener) : (KeepsUp listener).Composes where
  nil state mem _ := ⟨mem, .inl ⟨rfl, rfl, rfl⟩⟩
  deed deed mem kept := by
    have quiet := deed.isQuiet
    exact ⟨deed.mem_registered mem kept, .inl ⟨by simp [heardBy, quiet.unheard], quiet.unturned,
      quiet.last⟩⟩
  append := by
    intro state between after events more _ first second mem kept
    rw [List.mem_append, not_or] at kept
    obtain ⟨mem, start⟩ := first mem kept.1
    obtain ⟨mem, rest⟩ := second mem kept.2
    refine ⟨mem, ?_⟩
    rcases rest with ⟨unheard, unturned, shown⟩ | caught
    · rcases start with ⟨unheard', unturned', shown'⟩ | caught
      · exact .inl ⟨by simp [unheard, unheard'], by simp [unturned, unturned'],
          shown.trans shown'⟩
      · exact .inr (shown ▸ caught.append unturned)
    · exact .inr (caught.prepend events)

/-- The listener knows of the page shown, or at least no other one was stored. -/
def IsUpToDate (name : Text) : Effect := fun state events after =>
  (turns events = [] ∧ after.last = state.last) ∨ HasCaughtUp name events after.last

theorem IsUpToDate.append {between : State} (first : IsUpToDate name state events between)
    (second : IsUpToDate name between more after) :
    IsUpToDate name state (events ++ more) after := by
  rcases second with ⟨unturned, shown⟩ | caught
  · rcases first with ⟨unturned', shown'⟩ | caught
    · exact .inl ⟨by simp [unturned, unturned'], shown.trans shown'⟩
    · exact .inr (shown ▸ caught.append unturned)
  · exact .inr (caught.prepend events)

/-- While a round goes on, a listener may be behind the session only by the page that the
round is about. -/
theorem Round.isUpToDate {listener : Listener} (mem : listener ∈ state.registered)
    (kept : .removed listener.name ∉ events)
    (h : Round (KeepsUp listener) told listeners state events after) :
    listener ∈ after.registered ∧ IsUpToDate listener.name state events after := by
  induction h with
  | nil => exact ⟨mem, .inl ⟨rfl, rfl⟩⟩
  | @cons other others state between after own events acts _ ih =>
      rw [List.mem_cons, List.mem_append, not_or, not_or] at kept
      obtain ⟨mem, acted⟩ := acts.composed (KeepsUp.composes listener) mem kept.2.1
      obtain ⟨mem, rest⟩ := ih mem kept.2.2
      have called : IsUpToDate listener.name state [.heard other.name told]
          (state.record [.heard other.name told]) := .inl ⟨rfl, rfl⟩
      exact ⟨mem, (called.append (acted.imp_left And.right)).append rest⟩

end

/-- A round leaves everyone who is told caught up with the session. -/
theorem KeepsUp.isClosed (listener : Listener) : (KeepsUp listener).IsClosed where
  nil := (KeepsUp.composes listener).nil
  write h := h
  round {state after page events} h mem kept := by
    have mem' : listener ∈ (state.store page).registered := mem
    have kept' : .removed listener.name ∉ events := fun removed =>
      kept (List.mem_cons_of_mem _ removed)
    obtain ⟨stays, ⟨unturned, shown⟩ | caught⟩ := h.isUpToDate mem' kept'
    · -- Nobody turned to another page, so that the one of the round is the one to hear of.
      have heard := h.told_mem mem
      obtain ⟨before, later, split⟩ := List.append_of_mem (mem_heardBy_iff.mp heard)
      have settled : turns later = [] := by
        rw [split, turns_append, turns_heard] at unturned
        exact (List.append_eq_nil_iff.mp unturned).2
      have caught : HasCaughtUp listener.name events page :=
        ⟨heard, before, page, later, split, settled⟩
      exact ⟨stays, .inr (shown ▸ caught.prepend [_])⟩
    · exact ⟨stays, .inr (caught.prepend [_])⟩

/-! ### What a listener hears of last -/

/-- The listener asks for no page whenever it is called during these events. -/
def Listener.IsIdleDuring (listener : Listener) (past events : List Event) : Prop :=
  ∀ before told later, events = before ++ .heard listener.name told :: later →
    ∀ action ∈ listener.script (past ++ before) told, ¬ action.AsksForPage

theorem Listener.IsIdleDuring.of_append {listener : Listener} {past : List Event}
    (h : listener.IsIdleDuring past (events ++ more)) :
    listener.IsIdleDuring past events ∧ listener.IsIdleDuring (past ++ events) more := by
  constructor
  · rintro before told later rfl
    exact h before told (later ++ more) (by simp)
  · rintro before told later rfl
    rw [List.append_assoc]
    exact h (events ++ before) told later (by simp)

/-- The listener is registered, and ahead of its last registration there are none but some
of the leaders. -/
def IsLed (listener : Listener) (leaders : List Listener) (state : State) : Prop :=
  ∃ ahead behind, state.registered = ahead ++ listener :: behind ∧
    (∀ other ∈ behind, other.name ≠ listener.name) ∧ ∀ other ∈ ahead, other ∈ leaders

/-- What the leaders leave a listener to hear: it stays where it is, and none of them asks
for a page. -/
structure IsUndisturbed (listener : Listener) (leaders : List Listener) (state : State)
    (events : List Event) : Prop where
  led : IsLed listener leaders state
  kept : .removed listener.name ∉ events
  once : .added listener.name ∉ events
  idle : ∀ leader ∈ leaders, leader.IsIdleDuring state.trace events

/-- The page shown last is the one that the listener heard of last, unless it heard of
none. -/
def HearsLast (listener : Listener) (leaders : List Listener) : Effect :=
  fun state events after => IsUndisturbed listener leaders state events →
    IsLed listener leaders after ∧ (heardBy listener.name events).getLastD state.last = after.last

section

variable {listener : Listener} {leaders : List Listener}

theorem IsUndisturbed.left (h : IsUndisturbed listener leaders state (events ++ more)) :
    IsUndisturbed listener leaders state events where
  led := h.led
  kept mem := h.kept (List.mem_append_left _ mem)
  once mem := h.once (List.mem_append_left _ mem)
  idle leader mem := (h.idle leader mem).of_append.1

theorem IsUndisturbed.right {between : State}
    (h : IsUndisturbed listener leaders state (events ++ more))
    (trace : between.trace = state.trace ++ events) (led : IsLed listener leaders between) :
    IsUndisturbed listener leaders between more where
  led := led
  kept mem := h.kept (List.mem_append_right _ mem)
  once mem := h.once (List.mem_append_right _ mem)
  idle leader mem := trace ▸ (h.idle leader mem).of_append.2

theorem Deed.isLed {action : Action} (deed : Deed state action events after)
    (undisturbed : IsUndisturbed listener leaders state events) :
    IsLed listener leaders after := by
  obtain ⟨⟨ahead, behind, split, others, led⟩, kept, once, -⟩ := undisturbed
  cases deed with
  | add name script =>
      have apart : name ≠ listener.name := by
        rintro rfl
        exact once List.mem_cons_self
      refine ⟨ahead, behind ++ [state.listenerNamed name script], ?_, ?_, led⟩
      · simp [State.register, State.record, split]
      · refine List.forall_mem_append.mpr ⟨others, List.forall_mem_singleton.mpr ?_⟩
        rwa [state.listenerNamed_name]
  | @remove name present =>
      have apart : listener.name ≠ name := by
        rintro rfl
        exact kept List.mem_cons_self
      rw [State.unregister_of_present present, IsLed, State.record, split]
      by_cases front : ∃ other ∈ ahead, other.name = name
      · obtain ⟨other, mem, found⟩ := front
        refine ⟨ahead.eraseP (·.name = name), behind, ?_, others, fun leader mem =>
          led leader (List.mem_of_mem_eraseP mem)⟩
        exact List.eraseP_append_left (by simpa using found) _ mem
      · refine ⟨ahead, behind.eraseP (·.name = name), ?_, fun other mem =>
          others other (List.mem_of_mem_eraseP mem), led⟩
        have passed : ∀ other ∈ ahead, ¬ decide (other.name = name) := by simpa using front
        rw [List.eraseP_append_right _ passed, List.eraseP_cons_of_neg (by simpa using apart)]
  | absent | setFontSize | note => exact ⟨ahead, behind, split, others, led⟩

theorem HearsLast.composes (listener : Listener) (leaders : List Listener) :
    (HearsLast listener leaders).Composes where
  nil state undisturbed := ⟨undisturbed.led, rfl⟩
  deed deed undisturbed := by
    have quiet := deed.isQuiet
    exact ⟨deed.isLed undisturbed, by simp [heardBy, quiet.unheard, quiet.last]⟩
  append := by
    intro state between after events more trace first second undisturbed
    obtain ⟨led, shown⟩ := first undisturbed.left
    obtain ⟨led, shown'⟩ := second (undisturbed.right trace led)
    refine ⟨led, ?_⟩
    rw [← shown', ← shown]
    simp [List.getLastD_eq_getLast?]

/-- One listener is told, and then the others. -/
theorem HearsLast.cons {other : Listener} {between : State} {own : List Event}
    (shown : other.name = listener.name → state.last = told)
    (acts : Acts (HearsLast listener leaders) script (state.record [.heard other.name told]) own
      between)
    (rest : HearsLast listener leaders between events after) :
    HearsLast listener leaders state (.heard other.name told :: (own ++ events)) after := by
  have composes := HearsLast.composes listener leaders
  have called : HearsLast listener leaders state [.heard other.name told]
      (state.record [.heard other.name told]) := by
    refine fun undisturbed => ⟨undisturbed.led, ?_⟩
    by_cases mine : other.name = listener.name
    · simp [mine, shown mine, State.record]
    · simp [mine, State.record]
  have started := composes.append rfl called (acts.composed composes)
  refine composes.append ?_ started rest
  rw [acts.trace]
  simp [State.record]

/-- A round among others. -/
theorem Round.last_of_others (others : ∀ other ∈ listeners, other.name ≠ listener.name)
    (h : Round (HearsLast listener leaders) told listeners state events after) :
    HearsLast listener leaders state events after := by
  induction h with
  | nil state => exact (HearsLast.composes listener leaders).nil state
  | cons acts _ ih =>
      obtain ⟨apart, others⟩ := List.forall_mem_cons.mp others
      exact .cons (fun mine => absurd mine apart) acts (ih others)

theorem Acts.last_of_idle (idle : ∀ action ∈ script, ¬ action.AsksForPage)
    (h : Acts effect script state events after) : after.last = state.last := by
  induction h with
  | nil state => rfl
  | deed deed _ ih => exact (ih (List.forall_mem_cons.mp idle).2).trans deed.isQuiet.last
  | ask asking => exact absurd asking (List.forall_mem_cons.mp idle).1

/-- As long as idle listeners are told, the page shown is the one they are told of. -/
theorem Round.last_of_idle {ahead behind : List Listener}
    (others : ∀ other ∈ behind, other.name ≠ listener.name)
    (led : ∀ other ∈ ahead, other ∈ leaders) (shown : state.last = told)
    (h : Round (HearsLast listener leaders) told (ahead ++ listener :: behind) state events
      after) :
    HearsLast listener leaders state events after := by
  induction ahead generalizing state events with
  | nil =>
      cases h with
      | cons acts rest => exact .cons (fun _ => shown) acts (rest.last_of_others others)
  | cons other ahead ih =>
      obtain ⟨first, led⟩ := List.forall_mem_cons.mp led
      cases h with
      | cons acts rest =>
          intro undisturbed
          -- The leader is idle when it is called, right at the beginning.
          have idle := undisturbed.idle other first [] told _ rfl
          rw [List.append_nil] at idle
          have shown' := (acts.last_of_idle idle).trans shown
          exact HearsLast.cons (fun _ => shown) acts (ih led shown' rest) undisturbed

theorem HearsLast.isClosed (listener : Listener) (leaders : List Listener) :
    (HearsLast listener leaders).IsClosed where
  nil := (HearsLast.composes listener leaders).nil
  write h undisturbed := h ⟨undisturbed.led, undisturbed.kept, undisturbed.once, undisturbed.idle⟩
  round {state after page events} h undisturbed := by
    obtain ⟨ahead, behind, split, others, led⟩ := undisturbed.led
    rw [split] at h
    have undisturbed : IsUndisturbed listener leaders state ([.turned page] ++ events) :=
      undisturbed
    have inside : IsUndisturbed listener leaders (state.store page) events :=
      undisturbed.right rfl undisturbed.led
    obtain ⟨led, last⟩ := h.last_of_idle others led rfl inside
    -- The listener is told of the page of the round, so that it hears of some page.
    have called : heardBy listener.name events ≠ [] :=
      List.ne_nil_of_mem (h.told_mem (List.mem_append_right _ List.mem_cons_self))
    refine ⟨led, ?_⟩
    rw [heardBy_turned, ← last]
    simp [List.getLastD_eq_getLast?, List.getLast?_eq_some_getLast called]

end

/-! ### A request from outside -/

/-- When a request for a page is done, every listener that was registered before it and not
taken away in the meantime is registered still. If it was called, it has heard of the page
that is shown, and that page was shown already when it was called for the last time. It has
heard of it last if it was not registered anew and nobody ahead of its last registration
asked for a page. -/
theorem hears_last_of_request {limit : Nat} {state after : State} {action : Action}
    {reply : Reply} (asking : action.AsksForPage)
    (run : requestWithin limit state action = (.ok reply, after)) :
    ∃ events, after.trace = state.trace ++ events ∧
      ∀ listener ∈ state.registered, .removed listener.name ∉ events →
        listener ∈ after.registered ∧
        (heardBy listener.name events ≠ [] →
          after.last ∈ heardBy listener.name events ∧
          (∃ before told later, events = before ++ .heard listener.name told :: later ∧
            heardBy listener.name later = [] ∧ turns later = []) ∧
          ∀ ahead behind, state.registered = ahead ++ listener :: behind →
            (∀ other ∈ behind, other.name ≠ listener.name) →
            .added listener.name ∉ events →
            (∀ other ∈ ahead, other.IsIdleDuring state.trace events) →
              (heardBy listener.name events).getLast? = some after.last) := by
  have effects {effect : Effect} (closed : effect.IsClosed) :
      ∃ events, after.trace = state.trace ++ events ∧ effect state events after :=
    exists_effect_of_asksForPage closed (limit + 1) asking run
  have anything : Effect.IsClosed fun _ _ _ => True :=
    ⟨fun _ => trivial, fun h => h, fun _ => trivial⟩
  obtain ⟨events, trace, -⟩ := effects anything
  have same {effect : Effect} (closed : effect.IsClosed) : effect state events after := by
    obtain ⟨others, trace', done⟩ := effects closed
    exact List.append_cancel_left (trace.symm.trans trace') ▸ done
  refine ⟨events, trace, fun listener mem kept => ?_⟩
  obtain ⟨stays, kept_up⟩ := same (KeepsUp.isClosed listener) mem kept
  refine ⟨stays, fun called => ?_⟩
  have caught := kept_up.resolve_left fun idle => called idle.1
  refine ⟨caught.heard, caught.last_call, fun ahead behind split others once idle => ?_⟩
  have undisturbed : IsUndisturbed listener ahead state events :=
    ⟨⟨ahead, behind, split, others, fun _ mem => mem⟩, kept, once, idle⟩
  obtain ⟨-, last⟩ := same (HearsLast.isClosed listener ahead) undisturbed
  rw [← last, List.getLastD_eq_getLast?, List.getLast?_eq_some_getLast called, Option.getD_some]

/-- A listener that asks for another page, ahead of one that only listens. -/
def forwarding : State :=
  (bare.register "first" fun _ _ => [.update "b"]).register "second" fun _ _ => []

/-- The same session when it was asked for a page. -/
def forwarded : State :=
  (request forwarding (.update "a")).2

theorem request_forwarding :
    request forwarding (.update "a") = (.ok (.changed true), forwarded) := rfl

theorem trace_forwarded :
    forwarded.trace = forwarding.trace ++
      [.turned "a", .heard "first" "a", .turned "b", .heard "first" "b", .heard "second" "b",
        .heard "second" "a"] := rfl

/-- The second listener is called for the last time with a page that is not shown. -/
theorem getLast?_heardBy_forwarding :
    ¬ ∀ (state after : State) (action : Action) (reply : Reply), action.AsksForPage →
      (∀ listener ∈ state.registered, ∀ earlier told, ∀ action ∈ listener.script earlier told,
        (∃ page, action = .update page) ∨ action = .reset) →
      request state action = (.ok reply, after) →
        ∀ events, after.trace = state.trace ++ events →
          ∀ listener ∈ state.registered, .removed listener.name ∉ events →
            heardBy listener.name events ≠ [] →
              (heardBy listener.name events).getLast? = some after.last := by
  intro all
  have registered : forwarding.registered =
      [⟨"first", fun _ _ => [.update "b"]⟩, ⟨"second", fun _ _ => []⟩] := rfl
  have scripts : ∀ listener ∈ forwarding.registered, ∀ earlier told,
      ∀ action ∈ listener.script earlier told,
        (∃ page, action = .update page) ∨ action = .reset := by
    simp [registered]
  have second : ⟨"second", fun _ _ => []⟩ ∈ forwarding.registered := by simp [registered]
  have last := all forwarding forwarded (.update "a") (.changed true) trivial scripts
    request_forwarding _ trace_forwarded _ second (by decide) (by decide)
  exact absurd last (by decide)

/-- Goes on from one page to the next, and sends the guest away on the way. -/
def leadsOn : Script := fun _ told =>
  if told = "a" then [.update "b"]
  else if told = "b" then [.update "c", .remove "guest"]
  else []

/-- Asks for a page when it is called for the first time. -/
def asksOnce : Script := fun earlier _ =>
  if heardBy "second" earlier = [] then [.update "d"] else []

/-- A guest, and two listeners that ask for pages depending on what they hear. -/
def leading : State :=
  ((bare.register "guest" fun _ _ => [.note]).register "first" leadsOn).register "second" asksOnce

/-- The same session when it was asked for a page. -/
def led : State :=
  (request leading (.update "a")).2

theorem request_leading : request leading (.update "a") = (.ok (.changed true), led) := rfl

/-- What happened on the way. -/
def ledEvents : List Event :=
  [.turned "a", .heard "guest" "a", .noted "a", .heard "first" "a",
    .turned "b", .heard "guest" "b", .noted "b", .heard "first" "b",
    .turned "c", .heard "guest" "c", .noted "c", .heard "first" "c", .heard "second" "c",
    .turned "d", .heard "guest" "d", .noted "d", .heard "first" "d", .heard "second" "d",
    .removed "guest", .heard "second" "b", .heard "second" "a"]

theorem trace_led : led.trace = leading.trace ++ ledEvents := rfl

/-- Rounds nest four deep, and only the guest is taken away. The first listener hears of the
last page last, the second one does not, but is called for the last time after it. -/
theorem hears_last_of_request_leading :
    led.last = Text.ofString "d" ∧ ⟨"second", asksOnce⟩ ∈ led.registered ∧
      led.last ∈ heardBy "second" ledEvents ∧
      (heardBy "first" ledEvents).getLast? = some led.last := by
  have registered : leading.registered =
      [⟨"guest", fun _ _ => [.note]⟩, ⟨"first", leadsOn⟩, ⟨"second", asksOnce⟩] := rfl
  have asking : (Action.update "a").AsksForPage := trivial
  obtain ⟨events, trace, each⟩ := hears_last_of_request asking request_leading
  obtain rfl : ledEvents = events := List.append_cancel_left (trace_led.symm.trans trace)
  have first : ⟨"first", leadsOn⟩ ∈ leading.registered := by simp [registered]
  have second : ⟨"second", asksOnce⟩ ∈ leading.registered := by simp [registered]
  obtain ⟨-, last⟩ := each _ first (by decide)
  obtain ⟨stays, heard⟩ := each _ second (by decide)
  refine ⟨rfl, stays, (heard (by decide)).1, ?_⟩
  refine (last (by decide)).2.2 [_] [_] registered ?_ (by decide) ?_
  · simp [Text.ofString_inj]
  · simp [Listener.IsIdleDuring, Action.AsksForPage]

end SketchHelp.Session
