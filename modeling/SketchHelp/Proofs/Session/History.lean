import Mathlib.Data.List.Destutter
import SketchHelp.Proofs.Session.Outcome

/-!
What listeners that only listen get to hear. Such a listener may note the page that is
shown but does nothing else with the session. One request then tells each registration
once, in order, and only if the page changes; over a run, a listener that stays registered
hears every page that the session turns to, each once and in order.
-/

namespace SketchHelp.Session

/-- A listener that notes the page at most, however often. -/
def Listener.IsPassive (listener : Listener) : Prop :=
  ∀ earlier page, ∀ action ∈ listener.script earlier page, action = .note

/-- Registers no listener but a passive one. -/
def Action.IsPassive : Action → Prop
  | .add name script => Listener.IsPassive ⟨name, script⟩
  | _ => True

/-- All listeners are passive, those to be registered again included. -/
structure State.IsPassive (state : State) : Prop where
  known : ∀ listener ∈ state.known, listener.IsPassive
  registered : ∀ listener ∈ state.registered, listener.IsPassive

/-- What comes of telling a passive listener. -/
def Listener.announcement (listener : Listener) (earlier : List Event) (page : Text) :
    List Event :=
  .heard listener.name page :: (listener.script earlier page).map fun _ => .noted page

namespace State

/-- The session after a passive listener was told. -/
def announce (page : Text) (state : State) (listener : Listener) : State :=
  state.record (listener.announcement state.trace page)

/-- All are told of another page. -/
def turnTo (state : State) (page : Text) : State :=
  state.registered.foldl (announce page) (state.store page)

/-- The page is shown from now on. -/
def visit (state : State) (page : Text) : State :=
  if page = state.last then state else state.turnTo page

theorem record_record (state : State) (events more : List Event) :
    (state.record events).record more = state.record (events ++ more) := by
  simp [record]

theorem exists_foldl_announce (page : Text) (listeners : List Listener) (state : State) :
    ∃ events, listeners.foldl (announce page) state = state.record events ∧
      hearings events = listeners.map fun listener => (listener.name, page) := by
  induction listeners generalizing state with
  | nil => exact ⟨[], by simp [record], rfl⟩
  | cons listener listeners ih =>
      obtain ⟨events, eq, heard⟩ := ih (state.announce page listener)
      refine ⟨listener.announcement state.trace page ++ events, ?_, ?_⟩
      · rw [List.foldl_cons, eq, announce, record_record]
      · simp [heard, Listener.announcement]

/-- Everybody is told once the page is stored. -/
theorem exists_turnTo_eq (state : State) (page : Text) :
    ∃ events, state.turnTo page = (state.store page).record events ∧
      hearings events = state.registered.map fun listener => (listener.name, page) :=
  exists_foldl_announce page state.registered (state.store page)

variable (state : State)

/-- Visiting a page stores it and adds to what is recorded. -/
theorem exists_visit_eq (page : Text) :
    ∃ events log, state.visit page =
      { state with last := page, trace := state.trace ++ events, log := state.log ++ log } := by
  rw [visit]
  split
  · next same => exact ⟨[], [], by simp [same]⟩
  · obtain ⟨events, eq, -⟩ := state.exists_turnTo_eq page
    exact ⟨.turned page :: events, [.pageChanged page], by simp [eq, store, record, write]⟩

@[simp] theorem visit_config (page : Text) : (state.visit page).config = state.config := by
  obtain ⟨events, log, eq⟩ := state.exists_visit_eq page
  rw [eq]

@[simp] theorem visit_last (page : Text) : (state.visit page).last = page := by
  obtain ⟨events, log, eq⟩ := state.exists_visit_eq page
  rw [eq]

@[simp] theorem visit_registered (page : Text) :
    (state.visit page).registered = state.registered := by
  obtain ⟨events, log, eq⟩ := state.exists_visit_eq page
  rw [eq]

@[simp] theorem visit_known (page : Text) : (state.visit page).known = state.known := by
  obtain ⟨events, log, eq⟩ := state.exists_visit_eq page
  rw [eq]

/-- What a request comes to if all listeners are passive. -/
def next : Action → Except Fault Reply × State
  | .add name script => (.ok .done, state.register name script)
  | .remove name => (.ok .done, state.unregister name)
  | .update page => (.ok (.changed (page ≠ state.last)), state.visit page)
  | .updateFrom batch tree startOffset =>
    match Batch.identifierFor state.config batch tree startOffset with
    | (.ok page, log) => (.ok (.page page), (state.write log).visit page)
    | (.error fault, log) => (.error (.tree fault), state.write log)
  | .reset =>
    (.ok (.changed (state.config.defaultIdentifier ≠ state.last)),
      state.visit state.config.defaultIdentifier)
  | .setFontSize value =>
    match state.config.withFontSize value with
    | .ok config => (.ok .done, { state with config })
    | .error fault => (.error (.config fault), state)
  | .note => (.ok .done, state.record [.noted state.last])
  | .fail fault => (.error fault, state)

end State

section

variable {state : State} (limit : Nat)

theorem outcome_notes {script : List Action} (notes : ∀ action ∈ script, action = .note) :
    outcome (forM script fun action => discard (perform (limit + 1) action)) state =
      (.ok (), state.record (script.map fun _ => .noted state.last)) := by
  induction script generalizing state with
  | nil => simp [State.record]
  | cons action script ih =>
      obtain ⟨rfl, others⟩ := List.forall_mem_cons.mp notes
      simp [ih others, State.record]

theorem outcome_tell {listener : Listener} (passive : listener.IsPassive) (page : Text)
    (shown : state.last = page) :
    outcome (tellWith (perform (limit + 1)) page listener) state =
      (.ok (), state.announce page listener) := by
  rw [outcome_tellWith, outcome_notes limit (passive _ _)]
  simp [State.record, State.announce, Listener.announcement, shown]

theorem outcome_round {listeners : List Listener}
    (passive : ∀ listener ∈ listeners, listener.IsPassive) (page : Text)
    (shown : state.last = page) :
    outcome (forM listeners (tellWith (perform (limit + 1)) page)) state =
      (.ok (), listeners.foldl (State.announce page) state) := by
  induction listeners generalizing state with
  | nil => rfl
  | cons listener listeners ih =>
      obtain ⟨first, others⟩ := List.forall_mem_cons.mp passive
      rw [outcome_forM_cons, outcome_tell limit first page shown, andThen_ok, List.foldl_cons]
      exact ih others shown

theorem outcome_publishWithin (passive : state.IsPassive) (page : Text) :
    outcome (publishWithin (limit + 1) page) state =
      (.ok (page ≠ state.last : Bool), state.visit page) := by
  rw [outcome_publish, State.visit]
  split
  · next same => simp [same]
  · next differs =>
      rw [outcome_round limit passive.registered page rfl]
      simp [differs, State.turnTo]

theorem State.IsPassive.write (passive : state.IsPassive) (log : Log) :
    (state.write log).IsPassive :=
  ⟨passive.known, passive.registered⟩

theorem request_eq_next (passive : state.IsPassive) (action : Action) :
    request state action = state.next action := by
  -- Notes need no more than one round inside another.
  have published {state : State} (passive : state.IsPassive) (page : Text) :
      outcome (publishWithin nestingLimit page) state =
        (.ok (page ≠ state.last : Bool), state.visit page) :=
    outcome_publishWithin 299 passive page
  rw [request_eq]
  cases action with
  | add name script => exact outcome_add ..
  | remove name => exact outcome_remove ..
  | update page =>
      rw [outcome_update, published passive]
      rfl
  | updateFrom batch tree startOffset =>
      rw [outcome_updateFrom, outcome_pageFor, State.next]
      cases Batch.identifierFor state.config batch tree startOffset with
      | mk result log =>
          cases result with
          | error fault => rfl
          | ok page =>
              show andThen (.ok page, state.write log) _ = _
              rw [andThen_ok, published (passive.write log)]
              rfl
  | reset =>
      rw [outcome_reset, published passive]
      rfl
  | setFontSize value =>
      rw [outcome_setFontSize, outcome_changeFontSize, State.next]
      cases state.config.withFontSize value with
      | error fault => rfl
      | ok config => rfl
  | note => exact outcome_note ..
  | fail fault => exact outcome_fail ..

end

/-! ### What a request changes -/

namespace Action

/-- The page that an action asks for, if it comes to one. -/
def page? (config : Config) : Action → Option Text
  | .update page => some page
  | .updateFrom batch tree startOffset =>
    (Batch.identifierFor config batch tree startOffset).1.toOption
  | .reset => some config.defaultIdentifier
  | _ => none

/-- The answer of an action that asks for a page. -/
def answer (page : Text) (changed : Bool) : Action → Reply
  | .updateFrom .. => .page page
  | _ => .changed changed

end Action

theorem heardBy_of_hearings {events : List Event} {listeners : List Listener} {page : Text}
    (h : hearings events = listeners.map fun listener => (listener.name, page)) (name : Text) :
    heardBy name events = List.replicate (listeners.countP (·.name = name)) page := by
  rw [heardBy, h, List.filter_map, List.map_map, List.countP_eq_length_filter]
  exact List.map_const' ..

/-- What a session with passive listeners makes of a request. -/
structure IsStep (state : State) (action : Action) (reply : Except Fault Reply)
    (after : State) : Prop where
  /-- The page that is shown already is no news: nothing changes, nobody is called. -/
  same : ∀ page, action.page? state.config = some page → page = state.last →
    reply = .ok (action.answer page false) ∧ { after with log := state.log } = state
  /-- Another page is stored, and each registration is called with it once, in order. -/
  other : ∀ page, action.page? state.config = some page → page ≠ state.last →
    reply = .ok (action.answer page true) ∧
      { after with trace := state.trace, log := state.log } = { state with last := page } ∧
      ∃ events, after.trace = state.trace ++ .turned page :: events ∧
        (hearings events = state.registered.map fun listener => (listener.name, page)) ∧
        ∀ name, heardBy name events =
          List.replicate (state.registered.countP (·.name = name)) page
  /-- Whatever asks for no page leaves the one that is shown, and calls nobody. -/
  quiet : action.page? state.config = none →
    after.last = state.last ∧ hearings after.trace = hearings state.trace
  failed : ∀ fault, reply = .error fault → { after with log := state.log } = state
  added : ∀ name script, action = .add name script →
    reply = .ok .done ∧
      ∃ listener known, listener.name = name ∧
        after = { state with
          known, registered := state.registered ++ [listener]
          trace := state.trace ++ [.added name] }
  /-- The earliest registration goes, if there is one. -/
  removed : ∀ name, action = .remove name →
    reply = .ok .done ∧
      ((∀ listener ∈ state.registered, listener.name ≠ name) → after = state) ∧
      ∀ ahead earliest behind, state.registered = ahead ++ earliest :: behind →
        (∀ listener ∈ ahead, listener.name ≠ name) → earliest.name = name →
          after = { state with
            registered := ahead ++ behind, trace := state.trace ++ [.removed name] }
  sized : ∀ value, action = .setFontSize value →
    (∀ config, state.config.withFontSize value = .ok config →
      reply = .ok .done ∧ after = { state with config }) ∧
    ∀ fault, state.config.withFontSize value = .error fault →
      reply = .error (.config fault) ∧ after = state

namespace State

variable (state : State)

/-- An action that asks for a page may leave records before the page is visited. -/
theorem next_of_page {action : Action} {page : Text}
    (asks : action.page? state.config = some page) :
    ∃ log, state.next action =
      (.ok (action.answer page (page ≠ state.last)), (state.write log).visit page) := by
  cases action with
  | update page =>
      cases asks
      exact ⟨[], by simp [next, Action.answer, write]⟩
  | updateFrom batch tree startOffset =>
      rw [Action.page?] at asks
      rw [next]
      cases found : Batch.identifierFor state.config batch tree startOffset with
      | mk result log =>
          cases result with
          | error fault => simp [found, Except.toOption] at asks
          | ok page =>
              simp only [found, Except.toOption, Option.some.injEq] at asks
              subst asks
              exact ⟨log, rfl⟩
  | reset =>
      cases asks
      exact ⟨[], by simp [next, Action.answer, write]⟩
  | _ => cases asks

theorem hearings_next_of_no_page {action : Action}
    (quiet : action.page? state.config = none) :
    (state.next action).2.last = state.last ∧
      hearings (state.next action).2.trace = hearings state.trace := by
  cases action with
  | updateFrom batch tree startOffset =>
      rw [Action.page?] at quiet
      rw [next]
      cases found : Batch.identifierFor state.config batch tree startOffset with
      | mk result log =>
          cases result with
          | error fault => exact ⟨rfl, rfl⟩
          | ok page => simp [found, Except.toOption] at quiet
  | update page => cases quiet
  | reset => cases quiet
  | setFontSize value =>
      rw [next]
      split
      · exact ⟨rfl, rfl⟩
      · exact ⟨rfl, rfl⟩
  | note => exact ⟨rfl, by simp [next, record]⟩
  | add name script => exact ⟨rfl, by simp [next, register, record]⟩
  | remove name =>
      rw [next, unregister]
      split
      · exact ⟨rfl, by simp [record]⟩
      · exact ⟨rfl, rfl⟩
  | fail fault => exact ⟨rfl, rfl⟩

theorem next_of_error {action : Action} {fault : Fault}
    (h : (state.next action).1 = .error fault) :
    { (state.next action).2 with log := state.log } = state := by
  cases action with
  | updateFrom batch tree startOffset =>
      revert h
      rw [next]
      split
      · exact fun h => nomatch h
      · exact fun _ => rfl
  | setFontSize value =>
      revert h
      rw [next]
      split
      · exact fun h => nomatch h
      · exact fun _ => rfl
  | fail fault => rfl
  | _ => cases h

theorem unregister_of_split {name : Text} {ahead behind : List Listener} {earliest : Listener}
    (registered : state.registered = ahead ++ earliest :: behind)
    (others : ∀ listener ∈ ahead, listener.name ≠ name) (mine : earliest.name = name) :
    state.unregister name =
      { state with registered := ahead ++ behind, trace := state.trace ++ [.removed name] } := by
  rw [unregister, registered, if_pos (by simp [mine]), List.eraseP_append_right,
    List.eraseP_cons_of_pos]
  · rfl
  · simpa using mine
  · simpa using others

theorem unregister_of_forall {name : Text}
    (others : ∀ listener ∈ state.registered, listener.name ≠ name) :
    state.unregister name = state := by
  rw [unregister, if_neg]
  simpa using others

theorem isStep_next (action : Action) :
    IsStep state action (state.next action).1 (state.next action).2 where
  same page asks shown := by
    obtain ⟨log, eq⟩ := state.next_of_page asks
    subst shown
    rw [eq]
    simp [visit, write]
  other page asks differs := by
    obtain ⟨log, eq⟩ := state.next_of_page asks
    have turned : (state.write log).visit page = (state.write log).turnTo page := if_neg differs
    obtain ⟨events, told, heard⟩ := (state.write log).exists_turnTo_eq page
    rw [eq, turned, told]
    refine ⟨by simp [differs], rfl, events, ?_, heard, heardBy_of_hearings heard⟩
    simp [record, store, write]
  quiet := state.hearings_next_of_no_page
  failed fault := state.next_of_error
  added := by
    rintro name script rfl
    exact ⟨rfl, _, _, state.listenerNamed_name name script, rfl⟩
  removed := by
    rintro name rfl
    exact ⟨rfl, state.unregister_of_forall,
      fun ahead earliest behind => state.unregister_of_split⟩
  sized := by
    rintro value rfl
    refine ⟨fun config valid => ?_, fun fault rejected => ?_⟩
    · simp [next, valid]
    · simp [next, rejected]

end State

/-! ### Runs -/

section

variable {state : State} (passive : state.IsPassive)

include passive

theorem State.IsPassive.visit (page : Text) : (state.visit page).IsPassive where
  known := by simpa using passive.known
  registered := by simpa using passive.registered

theorem State.IsPassive.register {name : Text} {script : Script}
    (quiet : (Action.add name script).IsPassive) : (state.register name script).IsPassive := by
  have listener : (state.listenerNamed name script).IsPassive := by
    rw [State.listenerNamed]
    cases found : state.known.find? (·.name = name) with
    | none => exact quiet
    | some listener => exact passive.known listener (List.mem_of_find?_eq_some found)
  have append {listeners : List Listener} (h : ∀ listener ∈ listeners, listener.IsPassive) :
      ∀ listener ∈ listeners ++ [state.listenerNamed name script], listener.IsPassive :=
    List.forall_mem_append.mpr ⟨h, List.forall_mem_singleton.mpr listener⟩
  refine ⟨?_, append passive.registered⟩
  rw [State.register]
  split
  · exact passive.known
  · exact append passive.known

theorem State.IsPassive.request {action : Action} (quiet : action.IsPassive) :
    (request state action).2.IsPassive := by
  rw [request_eq_next passive]
  cases action with
  | add name script => exact passive.register quiet
  | remove name =>
      rw [State.next, State.unregister]
      split
      · exact ⟨passive.known, fun listener h =>
          passive.registered listener (List.mem_of_mem_eraseP h)⟩
      · exact passive
  | update page => exact passive.visit page
  | updateFrom batch tree startOffset =>
      rw [State.next]
      split
      · exact (passive.write _).visit _
      · exact passive.write _
  | reset => exact passive.visit _
  | setFontSize value =>
      rw [State.next]
      split
      · exact ⟨passive.known, passive.registered⟩
      · exact passive
  | note => exact ⟨passive.known, passive.registered⟩
  | fail fault => exact passive

theorem isStep_request (action : Action) :
    IsStep state action (request state action).1 (request state action).2 := by
  rw [request_eq_next passive]
  exact state.isStep_next action

end

end SketchHelp.Session
