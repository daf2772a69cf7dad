import Versatile.Diversity.Steps
import Versatile.ResolverPer.Handlers

/-!
# How the handlers end

A message is `Settled` when its handler failed, changed no row and emitted error 1, or committed
everything at once and emitted error 0. `Join`, `Leave` and `Request` settle every message they
can decode, whatever the database does: their work is quiet up to the one commit, and nothing
after the commit fails. `Update` has two more ends, which `Updates` has the theorems about.
-/

namespace Versatile.ResolverPer

open Py Diversity

variable {srv : Server} {faults : Faults} {py : Interpreter}

/-! ## Answers -/

/-- The state a handler starts from. -/
def start (w : World) : State := ⟨w, [], []⟩

/-- The answers of a kind among some events. -/
def acks (m : Message) (log : List Event) : List Value :=
  log.filterMap fun
    | .emitted event payload => if event = m.ack then some payload else none
    | .committed _ => none

/-- Was something committed? That is also the case where `ALTER TABLE` changed what was stored. -/
def Committed (w : World) (s : State) : Prop :=
  (∃ changes, Event.committed changes ∈ s.log) ∨ s.world.stored ≠ w.stored

@[simp] theorem acks_append (m : Message) (log log' : List Event) :
    acks m (log ++ log') = acks m log ++ acks m log' := List.filterMap_append

@[simp] theorem acks_answer (m : Message) (payload : Value) :
    acks m [.emitted m.ack payload] = [payload] := by simp [acks]

@[simp] theorem acks_committed (m : Message) (changes : List Change) :
    acks m [.committed changes] = [] := rfl

/-- How the handler of a message ends that is one transaction. -/
inductive Settled (srv : Server) (m : Message) (s : State) : Except Exc Value × State → Prop
  | failed {s' : State} {payload : Value} (hkept : Kept s s') (herror : errorOf payload = some 1) :
      Settled srv m s (.ok .none, s'.shown (.emitted m.ack payload))
  | done {s' : State} {others : List Event} {payload : Value} (hkept : Kept s s')
      (hacks : acks m others = []) (herror : errorOf payload = some 0) :
      Settled srv m s (.ok .none,
        { s'.commit srv with log := (s'.commit srv).log ++ others ++ [.emitted m.ack payload] })

/-! ## Which operations the parts perform -/

theorem only_joinRows {P : Act → Prop} {content : Value} {deviceID : String}
    (hneighbor : ∀ v row, neighborRow deviceID v = .ok row → P (.execute (.insert .Neighbor row)))
    (hdevice : ∀ relay v row, deviceRow "NULL" deviceID relay v = .ok row →
      P (.execute (.insert .Device row))) :
    Prog.Only P (joinRows content deviceID) := by
  refine Prog.only_lift_bind fun _ _ => ?_
  refine Prog.only_lift_bind fun relay _ => ?_
  refine Prog.only_lift_bind fun neighbors _ => ?_
  refine Prog.only_bind (only_insertAll fun v _ => hneighbor v) fun _ => ?_
  refine Prog.only_lift_bind fun uniqueCodes _ => ?_
  exact only_insertAll fun v _ => hdevice relay v

theorem only_leaveRows {P : Act → Prop} {content : Value} (hconnect : P .connect)
    (hdelete : ∀ t deviceID, deviceIDOf content = .ok deviceID →
      P (.execute (.delete t deviceID))) :
    Prog.Only P (leaveRows content) := by
  refine Prog.only_lift_bind fun deviceID hdeviceID => ?_
  refine Prog.only_bind (only_connect hconnect) fun _ => ?_
  refine Prog.only_bind (only_execute (hdelete _ _ hdeviceID)) fun _ => ?_
  refine Prog.only_bind (only_execute (hdelete _ _ hdeviceID)) fun _ => ?_
  exact only_execute (hdelete _ _ hdeviceID)

theorem only_anyService {P : Act → Prop} (hmax : P (.execute (.maxText .Service "serviceID"))) :
    Prog.Only P anyService := by
  refine Prog.only_bind (only_execute hmax) fun serviceID => ?_
  cases serviceID <;> trivial

theorem only_requestRows {P : Act → Prop} {content : Value} (hconnect : P .connect)
    (hmaxID : P (.execute (.maxSigned .Request "requestID")))
    (hmax : P (.execute (.maxText .Service "serviceID")))
    (hrequest : ∀ requestID deviceID serviceID, requesterOf content = .ok deviceID →
      P (.execute (.insert .Request
        [("requestID", requestID), ("deviceID", deviceID), ("serviceID", serviceID)])))
    (hqos : ∀ row, P (.execute (.insert .QosRequirement row))) :
    Prog.Only P (requestRows content) := by
  refine Prog.only_bind (only_connect hconnect) fun _ => ?_
  refine Prog.only_bind (only_execute hmaxID) fun maxID => ?_
  refine Prog.only_bind (only_anyService hmax) fun serviceID => ?_
  refine Prog.only_lift_bind fun deviceID hdevice => ?_
  refine Prog.only_lift_bind fun _ _ => ?_
  refine Prog.only_lift_bind fun _ _ => ?_
  refine Prog.only_lift_bind fun _ _ => ?_
  refine Prog.only_lift_bind fun _ _ => ?_
  refine Prog.only_lift_bind fun _ _ => ?_
  refine Prog.only_bind (only_execute (hrequest _ _ _ hdevice)) fun _ => ?_
  refine Prog.only_lift_bind fun _ _ => ?_
  refine Prog.only_bind (only_insertAll fun _ _ row _ => hqos row) fun _ => ?_
  trivial

theorem only_findDevice {P : Act → Prop} {content : Value} (hconnect : P .connect)
    (hexist : ∀ deviceID, P (.execute (.exist deviceID))) :
    Prog.Only P (findDevice content) := by
  refine Prog.only_bind (only_connect hconnect) fun _ => ?_
  refine Prog.only_lift_bind fun deviceID _ => ?_
  exact Prog.only_bind (only_execute (hexist deviceID)) fun _ => trivial

/-! ## What follows a commit -/

/-- Only the answers that are looked for were sent. -/
theorem perform_sendMatching (results : List Value) (s : State) :
    perform srv faults (sendMatching results) s =
      (.ok (), { s with log := s.log ++ results.map (Event.emitted "MatchingRequest") }) := by
  induction results generalizing s with
  | nil => simp [sendMatching]
  | cons r results ih =>
    rw [sendMatching, perform_bind_ok (perform_emit _ _ _), ih]
    simp [State.shown]

theorem acks_matching (results : List Value) :
    acks .Request (results.map (Event.emitted "MatchingRequest")) = [] := by
  induction results with
  | nil => rfl
  | cons r results ih => exact ih

/-- What the handlers do with a message they have decoded. -/
def decoded : Message → Value → Handler Value
  | .Join, content => do
      Prog.tryExcept (joinTry content) fun e => emit "Jack" (joinAnswer 1 e.2)
      return .none
  | .Update, content => Prog.tryExcept (updateBody content) fun _ => do
      emit "Uack" (answerOf 1)
      return .none
  | .Leave, content => do
      Prog.tryExcept (leaveBody content) fun _ => emit "Lack" (answerOf 1)
      return .none
  | .Request, content => do
      Prog.tryExcept (requestBody content) fun _ => emit "Rack" (answerOf 1)
      return .none

theorem handler_eq (py : Interpreter) (m : Message) (js : String) :
    handler py m js = (liftM (py.loads js) : Handler Value) >>= decoded m := by
  cases m <;> rfl

/-- A message is decoded before anything is done. -/
theorem handle_eq (m : Message) (js : String) (w : World) :
    handle srv faults py m js w = match py.loads js with
      | .ok content => perform srv faults (decoded m content) (start w)
      | .error e => (.error e, start w) := by
  rw [handle, handler_eq, perform_bind, perform_lift, start]
  cases py.loads js <;> rfl

/-! ## Transactions that settle a message -/

/-- The events behind a commit: some that answer nothing, and the answer. -/
def Answers (m : Message) (s s' : State) : Prop :=
  ∃ others payload, acks m others = [] ∧ errorOf payload = some 0 ∧
    s' = { s with log := s.log ++ others ++ [.emitted m.ack payload] }

/-- A `try` block and its `except` branch, which answers with error 1. -/
def tryAnswer {ε : Type} (m : Message) (block : Prog Act Act.Res ε Unit) (failure : ε → Value) :
    Handler Value := do
  Prog.tryExcept block fun e => emit m.ack (failure e)
  return .none

section Try

variable {ε : Type} {m : Message} {block : Prog Act Act.Res ε Unit} {failure : ε → Value}
  {s s' : State}

theorem tryAnswer_error {e : ε} (h : perform srv faults block s = (.error e, s')) :
    perform srv faults (tryAnswer m block failure) s =
      (.ok .none, s'.shown (.emitted m.ack (failure e))) :=
  perform_bind_ok ((perform_try_error h).trans (perform_emit _ _ _))

theorem tryAnswer_ok (h : perform srv faults block s = (.ok (), s')) :
    perform srv faults (tryAnswer m block failure) s = (.ok .none, s') :=
  perform_bind_ok (perform_try_ok h)

theorem settled_of_error {e : ε} (h : perform srv faults block s = (.error e, s'))
    (hkept : Kept s s') (hfailure : ∀ e, errorOf (failure e) = some 1) :
    Settled srv m s (perform srv faults (tryAnswer m block failure) s) := by
  rw [tryAnswer_error h]
  exact Settled.failed hkept (hfailure e)

theorem settled_of_done {s'' : State} (h : perform srv faults block s = (.ok (), s''))
    (hkept : Kept s s') (hanswer : Answers m (s'.tick.commit srv) s'') :
    Settled srv m s (perform srv faults (tryAnswer m block failure) s) := by
  obtain ⟨others, payload, hacks, h0, rfl⟩ := hanswer
  rw [tryAnswer_ok h]
  have htick : Kept s s'.tick := ⟨hkept.stored, hkept.log⟩
  exact Settled.done htick hacks h0

end Try

/-- **A `try` block that is one transaction settles its message.** -/
theorem settled_transaction {α : Type} {m : Message} {work : Handler α} {answer : α → Handler Unit}
    {s : State} (failure : Exc → Value) (hwork : Kept s (perform srv faults work s).2)
    (hanswer : ∀ a s', ∃ s'', perform srv faults (answer a) s' = (.ok (), s'') ∧ Answers m s' s'')
    (hfailure : ∀ e, errorOf (failure e) = some 1) :
    Settled srv m s (perform srv faults
      (tryAnswer m (work >>= fun a => commit >>= fun _ => answer a) failure) s) := by
  rcases transaction_cases answer hwork with ⟨e, s', hrun, hkept⟩ |
    ⟨a, s', _, hkept, hcommit⟩
  · exact settled_of_error hrun hkept hfailure
  · obtain ⟨s'', hok, hans⟩ := hanswer a (s'.tick.commit srv)
    exact settled_of_done (hcommit.trans hok) hkept hans

/-- An answer by one event. -/
theorem answers_emit (srv : Server) (faults : Faults) (m : Message) {event : String}
    {payload : Value} (hevent : event = m.ack) (h : errorOf payload = some 0) (s : State) :
    ∃ s'', perform srv faults (emit event payload : Handler Unit) s = (.ok (), s'') ∧
      Answers m s s'' :=
  ⟨_, perform_emit _ _ _, [], payload, rfl, h, by simp [State.shown, hevent]⟩

theorem leave_settled (content : Value) (s : State) :
    Settled srv .Leave s (perform srv faults (decoded .Leave content) s) := by
  have hquiet : Prog.Only Act.quiet (leaveRows content) :=
    only_leaveRows trivial fun _ _ _ => trivial
  exact settled_transaction (fun _ => answerOf 1) (keeps_quiet srv faults hquiet s).toKept
    (fun _ s' => answers_emit srv faults .Leave rfl (errorOf_answerOf 0) s') fun _ => rfl

/-- The events behind the commit of a request. -/
theorem answers_request (serviceType : String) (s : State) :
    ∃ s'', perform srv faults (do
        sendMatching (matching serviceType)
        emit "Rack" (answerOf 0)) s = (.ok (), s'') ∧ Answers .Request s s'' := by
  have hrun : perform srv faults (sendMatching (matching serviceType)) s = _ :=
    perform_sendMatching _ s
  exact ⟨_, (perform_bind_ok hrun).trans (perform_emit _ _ _), _, answerOf 0,
    acks_matching (matching serviceType), rfl, rfl⟩

theorem request_settled (content : Value) (s : State) :
    Settled srv .Request s (perform srv faults (decoded .Request content) s) := by
  have hquiet : Prog.Only Act.quiet (requestRows content) :=
    only_requestRows trivial trivial trivial (fun _ _ _ _ => trivial) fun _ => trivial
  exact settled_transaction (fun _ => answerOf 1) (keeps_quiet srv faults hquiet s).toKept
    answers_request fun _ => rfl

/-- An exception with the ID: the state is the one the part left. -/
theorem perform_withID {α : Type} (deviceID : String) (part : Handler α) (s : State) :
    perform srv faults (withID deviceID part) s = match perform srv faults part s with
      | (.ok a, s') => (.ok a, s')
      | (.error e, s') => (.error (e, deviceID), s') := by
  rw [withID, perform_tryExcept]
  rcases perform srv faults part s with ⟨r, s'⟩
  cases r <;> rfl

/-- The largest device ID as the server casts it. -/
def maxDevice (srv : Server) (w : World) : Option Int :=
  ((Rows.cells w.rows .Device "deviceID").map srv.castSigned).max?

/-- A new device ID, or nothing. -/
theorem newDeviceID_cases (srv : Server) (faults : Faults) (s : State) :
    (∃ e s', perform srv faults newDeviceID s = (.error e, s') ∧ Quiet s s') ∨
      perform srv faults newDeviceID s =
        (.ok (nextID (maxDevice srv s.world)), s.tick.opened.tick) := by
  have htick : Quiet s s.tick := ⟨rfl, rfl, rfl⟩
  rw [newDeviceID, perform_bind, perform_connect]
  cases faults s.world.asked with
  | some code => exact Or.inl ⟨_, s.tick, rfl, htick⟩
  | none =>
    simp only [perform_bind, perform_maxSigned]
    cases faults s.tick.opened.world.asked with
    | some code => exact Or.inl ⟨_, s.tick.opened.tick, rfl, ⟨rfl, rfl, rfl⟩⟩
    | none => exact Or.inr rfl

/-- **The `try` block of `Join`**: it stops and keeps all rows, or commits the rows of the next
device ID and answers with that. -/
theorem joinTry_cases (srv : Server) (faults : Faults) (content : Value) (s : State) :
    (∃ e s', perform srv faults (joinTry content) s = (.error e, s') ∧ Kept s s') ∨
    ∃ s', perform srv faults (joinRows content (nextID (maxDevice srv s.world)))
        s.tick.opened.tick = (.ok (), s') ∧ Kept s s' ∧
      perform srv faults (joinTry content) s = (.ok (), (s'.tick.commit srv).shown
        (.emitted "Jack" (joinAnswer 0 (nextID (maxDevice srv s.world))))) := by
  have hblock : perform srv faults (joinTry content) s = _ := perform_bind _ _ s
  rw [perform_withID] at hblock
  rcases newDeviceID_cases srv faults s with ⟨e, s', hnew, hquiet⟩ | hnew
  · rw [hnew] at hblock
    exact Or.inl ⟨_, s', hblock, hquiet.toKept⟩
  · generalize nextID (maxDevice srv s.world) = deviceID at hnew ⊢
    rw [hnew] at hblock
    have hstart : Kept s s.tick.opened.tick := ⟨rfl, rfl⟩
    have hquiet : Prog.Only Act.quiet (joinRows content deviceID) :=
      only_joinRows (fun _ _ _ => trivial) fun _ _ _ _ => trivial
    have hwork := (keeps_quiet srv faults hquiet s.tick.opened.tick).toKept
    rcases transaction_cases (fun _ => emit "Jack" (joinAnswer 0 deviceID)) hwork with
      ⟨e, s', hrun, hkept⟩ | ⟨_, s', hrows, hkept, hcommit⟩
    · have hbody : perform srv faults (joinBody content deviceID) s.tick.opened.tick =
          (.error e, s') := hrun
      refine Or.inl ⟨(e, deviceID), s', ?_, hstart.trans hkept⟩
      rw [hblock]
      exact (perform_withID _ _ _).trans (by rw [hbody])
    · have hbody : perform srv faults (joinBody content deviceID) s.tick.opened.tick = _ :=
        hcommit.trans (perform_emit _ _ _)
      refine Or.inr ⟨s', hrows, hstart.trans hkept, ?_⟩
      rw [hblock]
      exact (perform_withID _ _ _).trans (by rw [hbody])

theorem decoded_join (content : Value) : decoded .Join content =
    tryAnswer .Join (joinTry content) fun e => joinAnswer 1 e.2 := rfl

theorem join_error {content : Value} {s s' : State} {e : Exc × String}
    (h : perform srv faults (joinTry content) s = (.error e, s')) :
    perform srv faults (decoded .Join content) s =
      (.ok .none, s'.shown (.emitted "Jack" (joinAnswer 1 e.2))) := by
  rw [decoded_join, tryAnswer_error h]
  rfl

theorem join_ok {content : Value} {s s' : State}
    (h : perform srv faults (joinTry content) s = (.ok (), s')) :
    perform srv faults (decoded .Join content) s = (.ok .none, s') := by
  rw [decoded_join, tryAnswer_ok h]

theorem join_settled (content : Value) (s : State) :
    Settled srv .Join s (perform srv faults (decoded .Join content) s) := by
  have hfailure : ∀ e : Exc × String, errorOf (joinAnswer 1 e.2) = some 1 := fun _ => rfl
  rcases joinTry_cases srv faults content s with ⟨e, s', hrun, hkept⟩ | ⟨s', _, hkept, hrun⟩
  · exact settled_of_error hrun hkept hfailure
  · exact settled_of_done hrun hkept ⟨[], joinAnswer 0 (nextID (maxDevice srv s.world)), rfl, rfl,
      by simp [State.shown, Message.ack]⟩

end Versatile.ResolverPer
