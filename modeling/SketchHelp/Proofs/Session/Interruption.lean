import SketchHelp.Proofs.Session.History

/-!
Rounds that are cut off. Listeners that ask for no page may register and take away others
while they are told of a page, and may give up. The round goes through the registrations of
the moment when it began, and ends with the first of them that gives up; what was done until
then stays done, the page included. So the listeners behind that one never hear of the page:
asked for again it is the one that is shown already.

What a listener does depends on what happened before it was called, so everything is said of
the sessions that the round passes through.
-/

namespace SketchHelp.Session

/-! ### What an idle listener does -/

/-- Why an action that asks for no page fails, whatever the session. -/
def Action.fault? : Action → Option Fault
  | .setFontSize value =>
    match Config.fontSizeOf value with
    | .ok _ => none
    | .error fault => some (.config fault)
  | .fail fault => some fault
  | _ => none

namespace Listener

/-- Asks for no page, whatever happened and whatever it is told. -/
def IsIdle (listener : Listener) : Prop :=
  ∀ earlier page, ∀ action ∈ listener.script earlier page, ¬ action.AsksForPage

variable (earlier : List Event) (page : Text) (listener : Listener)

/-- Why the listener gives up, unless it acts out all of its script. -/
def fault? : Option Fault :=
  (listener.script earlier page).findSome? Action.fault?

/-- What the listener does until it gives up. -/
def deeds : List Action :=
  (listener.script earlier page).takeWhile fun action => action.fault?.isNone

end Listener

/-- How a stretch of actions comes out that may have met a fault. -/
def verdict : Option Fault → Except Fault Unit
  | none => .ok ()
  | some fault => .error fault

namespace State

/-- The session after some actions that ask for no page. -/
def follow (state : State) (actions : List Action) : State :=
  actions.foldl (fun state action => (state.next action).2) state

/-- The session after an idle listener was told of a page. -/
def tell (page : Text) (state : State) (listener : Listener) : State :=
  (state.record [.heard listener.name page]).follow (listener.deeds state.trace page)

/-- What idle listeners do when they are told of a page one after the other. -/
def deeds (page : Text) (state : State) : List Listener → List Action
  | [] => []
  | listener :: told =>
    listener.deeds state.trace page ++ (state.tell page listener).deeds page told

/-- All that were ever registered, and those that are. -/
def listeners (state : State) : List Listener × List Listener :=
  (state.known, state.registered)

end State

section

variable {state other : State} {action : Action} {fault : Fault} {script : List Action}
  {listener : Listener} {told : List Listener} {page : Text}

theorem next_of_fault? (h : action.fault? = some fault) :
    state.next action = (.error fault, state) := by
  cases action with
  | setFontSize value =>
      rw [Action.fault?] at h
      rw [State.next, Config.withFontSize]
      cases size : Config.fontSizeOf value with
      | ok size => simp [size] at h
      | error reason =>
          simp only [size, Option.some.injEq] at h
          subst h
          rfl
  | fail reason =>
      cases h
      rfl
  | _ => cases h

theorem exists_next_eq (state : State) (idle : ¬ action.AsksForPage) (free : action.fault? = none) :
    ∃ reply, state.next action = (.ok reply, (state.next action).2) := by
  cases action with
  | add | remove | note => exact ⟨_, rfl⟩
  | setFontSize value =>
      rw [Action.fault?] at free
      rw [State.next, Config.withFontSize]
      cases size : Config.fontSizeOf value with
      | ok size => exact ⟨_, rfl⟩
      | error reason => simp [size] at free
  | fail reason => cases free
  | update | updateFrom | reset => exact absurd trivial idle

theorem outcome_of_not_asksForPage (idle : ¬ action.AsksForPage) (limit : Nat) :
    outcome (perform (limit + 1) action) state = state.next action := by
  cases action with
  | setFontSize value =>
      rw [outcome_setFontSize, outcome_changeFontSize, State.next]
      cases state.config.withFontSize value with
      | error fault => rfl
      | ok config => rfl
  | update | updateFrom | reset => exact absurd trivial idle
  | add | remove | note | fail => rfl

theorem exists_deed_next (state : State) (idle : ¬ action.AsksForPage)
    (free : action.fault? = none) :
    ∃ events, Deed state action events (state.next action).2 := by
  obtain ⟨reply, eq⟩ := exists_next_eq state idle free
  exact exists_deed_of_outcome idle ((outcome_of_not_asksForPage idle 0).trans eq)

/-- Which listeners there are afterwards depends on which there were, and on nothing else. -/
theorem listeners_next_congr (idle : ¬ action.AsksForPage)
    (same : state.listeners = other.listeners) :
    (state.next action).2.listeners = (other.next action).2.listeners := by
  obtain ⟨known, registered⟩ := Prod.mk.inj same
  cases action with
  | add name script =>
      simp only [State.next, State.register, State.record, State.listeners, State.listenerNamed,
        known, registered]
  | remove name =>
      simp only [State.next, State.unregister, State.record, registered]
      split <;> simp only [State.listeners, known, registered]
  | setFontSize value =>
      rw [State.next, State.next, Config.withFontSize, Config.withFontSize]
      cases Config.fontSizeOf value with
      | ok size => exact same
      | error reason => exact same
  | note | fail => exact same
  | update | updateFrom | reset => exact absurd trivial idle

theorem listeners_follow_congr (idle : ∀ action ∈ script, ¬ action.AsksForPage)
    (same : state.listeners = other.listeners) :
    (state.follow script).listeners = (other.follow script).listeners := by
  induction script generalizing state other with
  | nil => exact same
  | cons action script ih =>
      obtain ⟨idle, others⟩ := List.forall_mem_cons.mp idle
      exact ih others (listeners_next_congr idle same)

theorem State.follow_append (state : State) (first second : List Action) :
    state.follow (first ++ second) = (state.follow first).follow second :=
  List.foldl_append

theorem exists_isQuiet_follow (state : State) (idle : ∀ action ∈ script, ¬ action.AsksForPage)
    (free : ∀ action ∈ script, action.fault? = none) :
    ∃ events, IsQuiet state events (state.follow script) := by
  induction script generalizing state with
  | nil => exact ⟨[], .nil state⟩
  | cons action script ih =>
      obtain ⟨idle, idles⟩ := List.forall_mem_cons.mp idle
      obtain ⟨free, frees⟩ := List.forall_mem_cons.mp free
      obtain ⟨own, deed⟩ := exists_deed_next state idle free
      obtain ⟨events, rest⟩ := ih (state.next action).2 idles frees
      exact ⟨own ++ events, deed.isQuiet.append rest⟩

/-- A script is acted out up to the first action that fails. -/
theorem outcome_script (idle : ∀ action ∈ script, ¬ action.AsksForPage) (limit : Nat) :
    outcome (forM script fun action => discard (perform (limit + 1) action)) state =
      (verdict (script.findSome? Action.fault?),
        state.follow (script.takeWhile fun action => action.fault?.isNone)) := by
  induction script generalizing state with
  | nil => rfl
  | cons action script ih =>
      obtain ⟨idle, others⟩ := List.forall_mem_cons.mp idle
      rw [outcome_forM_cons, outcome_discard, outcome_of_not_asksForPage idle]
      cases failed : action.fault? with
      | some fault =>
          rw [next_of_fault? failed, List.findSome?_cons_of_isSome (by rw [failed]; rfl),
            List.takeWhile_cons_of_neg (by simp [failed]), failed]
          rfl
      | none =>
          obtain ⟨reply, eq⟩ := exists_next_eq state idle failed
          rw [eq, andThen_ok, andThen_ok, ih others,
            List.findSome?_cons_of_isNone (by rw [failed]; rfl),
            List.takeWhile_cons_of_pos (by simp [failed])]
          rfl

/-! ### Rounds -/

theorem Listener.IsIdle.deeds (idle : listener.IsIdle) (earlier : List Event) (page : Text) :
    (∀ action ∈ listener.deeds earlier page, ¬ action.AsksForPage) ∧
      ∀ action ∈ listener.deeds earlier page, action.fault? = none :=
  ⟨fun action mem => idle earlier page action (List.takeWhile_subset _ mem),
    fun action mem =>
      Option.isNone_iff_eq_none.mp (List.all_eq_true.mp List.all_takeWhile action mem)⟩

theorem not_asksForPage_of_mem_deeds (idle : ∀ listener ∈ told, listener.IsIdle)
    (state : State) : ∀ action ∈ state.deeds page told, ¬ action.AsksForPage := by
  induction told generalizing state with
  | nil => exact List.forall_mem_nil _
  | cons listener told ih =>
      obtain ⟨idle, idles⟩ := List.forall_mem_cons.mp idle
      exact List.forall_mem_append.mpr ⟨(idle.deeds ..).1, ih idles _⟩

theorem outcome_tellWith_of_isIdle (idle : listener.IsIdle) (limit : Nat) (page : Text) :
    outcome (tellWith (perform (limit + 1)) page listener) state =
      (verdict (listener.fault? state.trace page), state.tell page listener) := by
  rw [outcome_tellWith, outcome_script (idle _ _)]
  rfl

/-- What a round makes of a session that shows the page already. -/
theorem exists_foldl_tell_eq (state : State) (page : Text)
    (idle : ∀ listener ∈ told, listener.IsIdle) :
    let after := told.foldl (State.tell page) state
    after.last = state.last ∧ after.log = state.log ∧
      after.listeners = (state.follow (state.deeds page told)).listeners ∧
      ∃ events, after.trace = state.trace ++ events ∧
        hearings events = told.map fun listener => (listener.name, page) := by
  induction told generalizing state with
  | nil => exact ⟨rfl, rfl, rfl, [], (List.append_nil _).symm, rfl⟩
  | cons listener told ih =>
      obtain ⟨idle, idles⟩ := List.forall_mem_cons.mp idle
      obtain ⟨quiet, free⟩ := idle.deeds state.trace page
      obtain ⟨own, done⟩ :=
        exists_isQuiet_follow (state.record [.heard listener.name page]) quiet free
      obtain ⟨last, log, listeners, events, trace, heard⟩ := ih (state.tell page listener) idles
      refine ⟨last.trans done.last, log.trans done.log, listeners.trans ?_,
        .heard listener.name page :: (own ++ events), ?_, ?_⟩
      · rw [State.deeds, State.follow_append]
        exact listeners_follow_congr (not_asksForPage_of_mem_deeds idles _)
          (listeners_follow_congr quiet rfl)
      · rw [List.foldl_cons, trace, State.tell, done.trace]
        simp [State.record]
      · simp [heard, done.unheard]

/-- None of the listeners gives up when they are told one after the other. -/
def Completes (page : Text) (state : State) (listeners : List Listener) : Prop :=
  ∀ ahead listener behind, listeners = ahead ++ listener :: behind →
    listener.fault? (ahead.foldl (State.tell page) state).trace page = none

/-- A round over the listeners calls the first of them in order, all of them if none gives
up, and otherwise up to the first that does, whose fault ends the round. -/
structure IsCut (page : Text) (state : State) (listeners called uncalled : List Listener)
    (fault : Option Fault) : Prop where
  split : listeners = called ++ uncalled
  whole : fault = none → uncalled = [] ∧ Completes page state called
  broken : ∀ reason, fault = some reason → ∃ ahead last, called = ahead ++ [last] ∧
    Completes page state ahead ∧
    last.fault? (ahead.foldl (State.tell page) state).trace page = some reason

theorem Completes.nil (page : Text) (state : State) : Completes page state [] := by
  simp [Completes]

theorem Completes.cons (free : listener.fault? state.trace page = none)
    (h : Completes page (state.tell page listener) told) :
    Completes page state (listener :: told) := by
  intro ahead other behind split
  cases ahead with
  | nil =>
      cases split
      exact free
  | cons first ahead =>
      cases split
      exact h ahead other behind rfl

theorem IsCut.cons {called uncalled : List Listener} {fault : Option Fault}
    (free : listener.fault? state.trace page = none)
    (h : IsCut page (state.tell page listener) told called uncalled fault) :
    IsCut page state (listener :: told) (listener :: called) uncalled fault where
  split := congrArg (listener :: ·) h.split
  whole none := (h.whole none).imp_right (.cons free)
  broken reason eq := by
    obtain ⟨ahead, last, rfl, completes, failed⟩ := h.broken reason eq
    exact ⟨listener :: ahead, last, rfl, completes.cons free, failed⟩

theorem exists_outcome_round (state : State) (idle : ∀ listener ∈ told, listener.IsIdle)
    (limit : Nat) (page : Text) :
    ∃ called uncalled fault, IsCut page state told called uncalled fault ∧
      outcome (forM told (tellWith (perform (limit + 1)) page)) state =
        (verdict fault, called.foldl (State.tell page) state) := by
  induction told generalizing state with
  | nil => exact ⟨[], [], none, ⟨rfl, fun _ => ⟨rfl, .nil page state⟩, nofun⟩, rfl⟩
  | cons listener told ih =>
      obtain ⟨idle, idles⟩ := List.forall_mem_cons.mp idle
      rw [outcome_forM_cons, outcome_tellWith_of_isIdle idle]
      cases failed : listener.fault? state.trace page with
      | some fault =>
          refine ⟨[listener], told, some fault, ⟨rfl, nofun, fun reason eq => ?_⟩, rfl⟩
          cases eq
          exact ⟨[], listener, rfl, .nil page state, failed⟩
      | none =>
          obtain ⟨called, uncalled, fault, cut, eq⟩ := ih (state.tell page listener) idles
          exact ⟨listener :: called, uncalled, fault, cut.cons failed, eq⟩

/-! ### Updates -/

/-- What an update to another page leaves of a session, if the listeners `called` were told:
the page was stored before any of them was called, each was called once for its registration
and in order, and whatever it did with the registrations is done, but nothing else. -/
structure IsRound (state : State) (page : Text) (called : List Listener) (after : State) :
    Prop where
  last : after.last = page
  heard : ∃ events, after.trace = state.trace ++ .turned page :: events ∧
    hearings events = called.map fun listener => (listener.name, page)
  listeners :
    after.listeners = (state.follow ((state.store page).deeds page called)).listeners
  told : after = called.foldl (State.tell page) (state.store page)
  log : after.log = state.log ++ [.pageChanged page]

theorem isRound_foldl_tell (idle : ∀ listener ∈ told, listener.IsIdle) :
    IsRound state page told (told.foldl (State.tell page) (state.store page)) := by
  obtain ⟨last, log, listeners, events, trace, heard⟩ :=
    exists_foldl_tell_eq (state.store page) page idle
  refine ⟨last, ⟨events, ?_, heard⟩, ?_, rfl, log⟩
  · rw [trace]
    simp [State.store, State.record, State.write]
  · have stored : (state.store page).listeners = state.listeners := rfl
    exact listeners.trans (listeners_follow_congr (not_asksForPage_of_mem_deeds idle _) stored)

/-- How an update to another page ends. -/
def updateReply : Option Fault → Except Fault Reply
  | none => .ok (.changed true)
  | some fault => .error fault

/-- An update to another page calls the registrations of the moment when it was asked for,
in order, all of them or up to the first that gives up. In either case the page stays, and
asking for it again changes nothing and calls nobody. -/
theorem exists_round_of_update (differs : page ≠ state.last)
    (idle : ∀ listener ∈ state.registered, listener.IsIdle) :
    ∃ called uncalled fault after,
      IsCut page (state.store page) state.registered called uncalled fault ∧
      request state (.update page) = (updateReply fault, after) ∧
      IsRound state page called after ∧
      request after (.update page) = (.ok (.changed false), after) := by
  -- Idle listeners need no more than one round inside another.
  obtain ⟨called, uncalled, fault, cut, round⟩ :=
    exists_outcome_round (state.store page) idle 299 page
  have calledIdle : ∀ listener ∈ called, listener.IsIdle := fun listener mem =>
    idle listener (cut.split ▸ List.mem_append_left _ mem)
  have isRound : IsRound state page called _ := isRound_foldl_tell calledIdle
  refine ⟨called, uncalled, fault, _, cut, ?_, isRound, ?_⟩
  · rw [request_eq, outcome_update, publishWithin, outcome_publish, if_neg differs]
    have round' : outcome (forM state.registered (tellWith (perform nestingLimit) page))
        (state.store page) = _ := round
    rw [round']
    cases fault <;> rfl
  · rw [request_eq, outcome_update, publishWithin, outcome_publish, if_pos isRound.last.symm]
    rfl

end

/-- What the first listener does: it takes the second one away when it is told for the first
time. -/
def replacing : Script := fun earlier _ =>
  if heardBy "first" earlier = [] then [.add "late" fun _ _ => [], .remove "second"] else []

/-- What the second listener does: it gives up on the page `a`. -/
def stopping : Script := fun _ page =>
  if page = "a" then [.note, .fail (.listener "stop"), .remove "third"] else []

/-- The second of three listeners gives up, and the first takes it away beforehand. -/
def interrupted : State :=
  ((bare.register "first" replacing).register "second" stopping).register "third" fun _ _ => []

theorem exists_round_of_update_interrupted :
    ∃ after, request interrupted (.update "a") = (.error (.listener "stop"), after) ∧
      after.last = Text.ofString "a" ∧
      hearings after.trace =
        [(Text.ofString "first", Text.ofString "a"), (Text.ofString "second", Text.ofString "a")] ∧
      after.registered.map (·.name) =
        [Text.ofString "first", Text.ofString "third", Text.ofString "late"] ∧
      request after (.update "a") = (.ok (.changed false), after) := by
  have idle : ∀ listener ∈ interrupted.registered, listener.IsIdle := by
    have registered : interrupted.registered =
        [⟨"first", replacing⟩, ⟨"second", stopping⟩, ⟨"third", fun _ _ => []⟩] := rfl
    rw [registered]
    simp only [List.forall_mem_cons, Listener.IsIdle]
    refine ⟨fun earlier page => ?_, fun earlier page => ?_, by simp⟩
    · rw [replacing]
      split <;> simp [Action.AsksForPage]
    · rw [stopping]
      split <;> simp [Action.AsksForPage]
  have differs : ("a" : Text) ≠ interrupted.last := by decide
  obtain ⟨called, uncalled, fault, after, -, eq, round, again⟩ :=
    exists_round_of_update differs idle
  obtain ⟨replied, same⟩ : Except.error (.listener "stop") = updateReply fault ∧
      (request interrupted (.update "a")).2 = after := Prod.mk.inj eq
  refine ⟨after, by rw [eq, ← replied], round.last, ?_, ?_, again⟩
  · rw [← same]
    rfl
  · rw [← same]
    rfl

end SketchHelp.Session
