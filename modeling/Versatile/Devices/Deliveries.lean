import Versatile.Concurrent.Lasting
import Versatile.Resolver.ServiceIDs
import Versatile.ResolverPer.Fresh

/-!
# Devices, and the services that belong to them

Both resolvers serve one database, message after message, none of whose texts breaks the literal
it is pasted into. Which resolver a message goes to is left
open, and so is the management number it finds there, since either process may have been started
anew; and the database fails any of its calls. What a message does to the rows is one of four
things (`Does`), whichever resolver has it: a join adds devices under the next number, an update
adds services of a registered device, a request adds to its own two tables, and a leave deletes a
device together with its services.
-/

namespace Versatile.Devices

open Py Diversity
open Calls (Process Endpoint ExcText Success leaveChanges)
open ResolverPer (Interpreter Carries largestID start deviceIDOf JoinUnbroken UpdateUnbroken
  InterfacesUnbroken)

/-! ## Messages -/

/-- A message: the resolver it goes to, the number that resolver has counted to, and the calls the
database fails. -/
structure Delivery where
  process : Process
  call : process.Call
  manageNum : Nat
  faults : Faults

/-- How the message ends, and the state it leaves. -/
def Delivery.outcome (srv : Server) (w : World) (m : Delivery) : Except Exc Value × State :=
  perform srv m.faults (m.process.program m.call) (start { w with manageNum := m.manageNum })

/-- The world behind a message. -/
def deliver (srv : Server) (w : World) (m : Delivery) : World := (m.outcome srv w).2.world

/-- What the message shows. -/
def Delivery.shown (srv : Server) (w : World) (m : Delivery) : List Event := (m.outcome srv w).2.log

/-- No text of the call breaks a literal: those of a join are the fields of its interfaces and, at
`resolver_per.py`, of its neighbors, those of an update the types and attributes of its services. -/
def Unbroken : (p : Process) → p.Call → Prop
  | .sockets py, (.Join, js) => ∀ content, py.loads js = .ok content → JoinUnbroken content
  | .sockets py, (.Update, js) => ∀ content, py.loads js = .ok content → UpdateUnbroken content
  | .http _, (.Join, body) => ∀ content, body = .ok content → InterfacesUnbroken content
  | .http _, (.Update, body) => ∀ content, body = .ok content → UpdateUnbroken content
  | _, _ => True

/-- A join is answered with error 0 and this ID. -/
def JoinedAs (deviceID : String) (log : List Event) : Prop :=
  ∃ event payload, Event.emitted event payload ∈ log ∧ errorOf payload = some 0 ∧
    idOf payload = some deviceID

/-- A message is answered with success. -/
def Acknowledged (log : List Event) : Prop :=
  ∃ event payload, Event.emitted event payload ∈ log ∧ Success payload

/-- The device has a row. -/
def Registered (srv : Server) (rows : Rows) (deviceID : String) : Prop :=
  ∃ e ∈ rows, e.1 = .Device ∧ srv.names deviceID e.2 = true

/-- **What a message does to the rows.** -/
inductive Does (srv : Server) (rows : Rows) (log : List Event) (rows' : Rows) : Prop where
  | joins (new : Rows) (hrows : rows' = rows ++ new)
      (hnew : ∀ e ∈ new, (e.1 = .Device ∨ e.1 = .Neighbor) ∧
        Carries (toString (largestID srv rows + 1)) e.2)
      (hack : JoinedAs (toString (largestID srv rows + 1)) log)
  | offers (new : Rows) (hrows : rows' = rows ++ new)
      (hnew : ∀ e ∈ new, e.1 = .Service ∧ ∃ n : Int, Carries (toString n) e.2 ∧
        Registered srv rows (toString n))
  | asks (new : Rows) (hrows : rows' = rows ++ new)
      (hnew : ∀ e ∈ new, e.1 = .Request ∨ e.1 = .QosRequirement)
  | leaves (tables : List Table) (n : Int) (hdevice : .Device ∈ tables)
      (hservice : .Service ∈ tables)
      (hrows : rows' = applyAll srv (leaveChanges tables (toString n)) rows)

variable {srv : Server} {faults : Faults} {rows rows' : Rows} {log : List Event}

/-- A message that changes nothing. -/
theorem does_nothing (h : rows' = rows) : Does srv rows log rows' :=
  .asks [] (h.trans (List.append_nil _).symm) fun e he => absurd he (by simp)

/-! ## The handlers of `resolver_per.py` -/

section Sockets

variable {py : Interpreter} {js : String} {w : World}

theorem does_perJoin (hunbroken : ∀ content, py.loads js = .ok content → JoinUnbroken content) :
    Does srv w.rows (ResolverPer.handle srv faults py .Join js w).2.log
    (ResolverPer.handle srv faults py .Join js w).2.world.rows := by
  rw [ResolverPer.handle_eq]
  cases hjs : py.loads js with
  | error e => exact does_nothing rfl
  | ok content =>
    rcases ResolverPer.joinTry_cases srv faults content (start w) with ⟨e, s', hfail, hkept⟩ |
      ⟨s', hwork, hkept, hdone⟩
    · simp only [ResolverPer.join_error hfail]
      exact does_nothing hkept.rows
    · obtain ⟨neighbors, devices, hjoin, hconn⟩ :=
        ResolverPer.joinRows_ok (ResolverPer.plain_nextID _) (hunbroken content hjs) hwork
      have hw : s'.world.rows = w.rows := hkept.rows
      have hid : nextID (ResolverPer.maxDevice srv (start w).world) =
          toString (largestID srv w.rows + 1) := ResolverPer.nextID_eq srv w
      rw [hid] at hdone hjoin
      simp only [ResolverPer.join_ok hdone]
      refine .joins ((neighbors.map fun r => (Table.Neighbor, r)) ++
        devices.map fun r => (Table.Device, r)) ?_ ?_ ?_
      · rw [ResolverPer.commit_join hconn, hw, List.append_assoc]
      · intro e he
        rcases List.mem_append.mp he with he | he
        · obtain ⟨r, hr, rfl⟩ := List.mem_map.mp he
          exact ⟨Or.inr rfl, hjoin.neighborIDs r hr⟩
        · obtain ⟨r, hr, rfl⟩ := List.mem_map.mp he
          exact ⟨Or.inl rfl, hjoin.deviceIDs r hr⟩
      · exact ⟨_, _, List.mem_append_right _ (List.mem_singleton_self _), rfl, rfl⟩

theorem does_perLeave : Does srv w.rows (ResolverPer.handle srv faults py .Leave js w).2.log
    (ResolverPer.handle srv faults py .Leave js w).2.world.rows := by
  rcases ResolverPer.leave_rows srv faults py js w with hrows | ⟨content, deviceID, _, hd, hrows⟩
  · exact does_nothing hrows
  · obtain ⟨n, rfl⟩ := Concurrent.deviceIDOf_number hd
    exact .leaves [.Device, .Service, .Neighbor] n (by simp) (by simp) hrows

/-- **What a message of `resolver_per.py` does.** -/
theorem does_per (m : ResolverPer.Message) (hunbroken : Unbroken (.sockets py) (m, js)) :
    Does srv w.rows (ResolverPer.handle srv faults py m js w).2.log
      (ResolverPer.handle srv faults py m js w).2.world.rows := by
  cases m with
  | Join => exact does_perJoin hunbroken
  | Update =>
    obtain ⟨new, hrows, hnew⟩ := ResolverPer.update_rows srv faults w hunbroken
    refine .offers new hrows fun e he => ?_
    obtain ⟨ht, n, hservice, hreg⟩ := hnew e he
    exact ⟨ht, n, hservice.carries, hreg⟩
  | Leave => exact does_perLeave
  | Request =>
    obtain ⟨new, hrows, hnew⟩ := ResolverPer.request_adds srv faults py js w
    exact .asks new hrows hnew

end Sockets

/-! ## The handlers of `resolver.py` -/

section Http

variable {exc : ExcText} {body : Resolver.Body} {w : World}

/-- What a handler returns is sent, and nothing else happens to it. -/
theorem respond_state (srv : Server) (faults : Faults) (handler : Handler Value) (s : State) :
    (perform srv faults (Resolver.respond handler) s).2.world =
        (perform srv faults handler s).2.world ∧
      ∀ answer, (perform srv faults handler s).1 = .ok answer →
        (perform srv faults (Resolver.respond handler) s).2.log =
          (perform srv faults handler s).2.log ++ [.emitted "response" answer] := by
  rw [Resolver.respond, perform_bind]
  rcases perform srv faults handler s with ⟨r, s'⟩
  cases r with
  | error e => exact ⟨rfl, fun answer h => absurd h (by simp)⟩
  | ok answer =>
    refine ⟨rfl, fun answer' h => ?_⟩
    obtain rfl := Except.ok.inj h
    rfl

theorem quiet_joinRows (body : Resolver.Body) (deviceID : String) :
    Prog.Only Act.quiet (Resolver.joinRows body deviceID) := by
  refine (Concurrent.writes_joinRows body deviceID).mono ?_
  intro o hwrites
  obtain ⟨t, row, rfl, _⟩ := hwrites
  trivial

/-- Its inserts are devices of the number it drew. -/
theorem adds_joinBody {deviceID : String} (hid : Plain deviceID)
    (hunbroken : ∀ content, body = .ok content → InterfacesUnbroken content) :
    Prog.Only (Act.adds srv fun e => e.1 = .Device ∧ Carries deviceID e.2)
      (Resolver.joinBody body deviceID) := by
  refine Prog.only_bind ?_ fun _ => Prog.only_bind (only_commit trivial) fun _ => trivial
  refine Prog.only_lift_bind fun content hbody => ?_
  refine Prog.only_lift_bind fun _ _ => ?_
  refine Prog.only_lift_bind fun relay hrelay => ?_
  refine Prog.only_lift_bind fun codes hget => ?_
  refine Prog.only_lift_bind fun us hiter => ?_
  have hcodes : ResolverPer.uniqueCodesOf content = .ok us :=
    Except.bind_eq_ok.mpr ⟨codes, hget, hiter⟩
  refine only_insertAll fun v hv row hrow => ?_
  have hread := ResolverPer.unbroken_deviceRow (Plain.unbroken (by decide)) hid
    (Resolver.plain_relayText hrelay) (hunbroken content hbody us hcodes v hv) hrow
  exact adds_of_exact (exact_of_unbroken hread) fun r hr =>
    ⟨rfl, (ResolverPer.carries_deviceRow hrow).read hid hr⟩

/-- A join at `resolver.py` adds devices and answers with their ID, or changes nothing. -/
theorem httpJoin_cases (srv : Server) (faults : Faults) (w : World)
    (hunbroken : ∀ content, body = .ok content → InterfacesUnbroken content) :
    (perform srv faults (Resolver.Join body) (start w)).2.world.rows = w.rows ∨
    ∃ new, (perform srv faults (Resolver.Join body) (start w)).2.world.rows = w.rows ++ new ∧
      (∀ e ∈ new, e.1 = .Device ∧ Carries (toString (largestID srv w.rows + 1)) e.2) ∧
      (perform srv faults (Resolver.Join body) (start w)).1 =
        .ok (joinAnswer 0 (toString (largestID srv w.rows + 1))) := by
  have hid : nextID (ResolverPer.maxDevice srv (start w).world) =
      toString (largestID srv w.rows + 1) := ResolverPer.nextID_eq srv w
  rcases ResolverPer.newDeviceID_cases srv faults (start w) with ⟨e, s', hnew, hquiet⟩ | hnew
  · have htry : perform srv faults (Prog.tryExcept newDeviceID fun _ =>
        (Prog.raise Resolver.unbound : Handler String)) (start w) = (.error Resolver.unbound, s') :=
      (perform_try_error hnew).trans (perform_raise _ _)
    rw [Resolver.Join, perform_bind_error htry]
    exact Or.inl hquiet.rows
  · rw [hid] at hnew
    rw [Resolver.Join, perform_bind_ok (perform_try_ok hnew)]
    have hplain : Plain (toString (largestID srv w.rows + 1)) := plain_toString_int _
    generalize toString (largestID srv w.rows + 1) = deviceID at hplain ⊢
    have hwork := (keeps_quiet srv faults (quiet_joinRows body deviceID)
      (start w).tick.opened.tick).toKept
    rcases transaction_cases (fun _ => pure (joinAnswer 0 deviceID)) hwork with
      ⟨e, s', hrun, hkept⟩ | ⟨_, s', _, _, hrun⟩
    · have hbody : perform srv faults (Resolver.joinBody body deviceID)
          (start w).tick.opened.tick = (.error e, s') := hrun
      rw [perform_try_error hbody]
      exact Or.inl hkept.rows
    · have hbody : perform srv faults (Resolver.joinBody body deviceID)
          (start w).tick.opened.tick = (.ok (joinAnswer 0 deviceID), s'.tick.commit srv) := hrun
      have hadded : ∃ new, (perform srv faults (Resolver.joinBody body deviceID)
          (start w).tick.opened.tick).2.world.rows = w.rows ++ new ∧
            ∀ e ∈ new, e.1 = .Device ∧ Carries deviceID e.2 :=
        ResolverPer.rows_of_adds (adds_joinBody hplain hunbroken) rfl
      obtain ⟨new, hrows, hnewRows⟩ := hadded
      rw [perform_try_ok hbody]
      rw [hbody] at hrows
      exact Or.inr ⟨new, hrows, hnewRows, rfl⟩

/-- The rows of an update at `resolver.py` are services of its device. -/
theorem adds_updateRows {content : Value} {deviceID : String} (hid : Plain deviceID)
    (hunbroken : UpdateUnbroken content) :
    Prog.Only (Act.adds srv fun e => e.1 = .Service ∧ Carries deviceID e.2)
      (Resolver.updateRows content deviceID) := by
  refine Prog.only_lift_bind fun a ha => ?_
  refine Prog.only_bind (only_execute trivial) fun columns => ?_
  refine Prog.only_lift_bind fun services hiter => ?_
  have hservices := hunbroken a services ha hiter
  clear hiter
  induction services with
  | nil => trivial
  | cons v vs ih =>
    obtain ⟨hfirst, hrest⟩ := List.forall_mem_cons.mp hservices
    refine Prog.only_bind ?_ fun _ => ih hrest
    refine Prog.only_lift_bind fun t ht => ?_
    have hgen : Prog.Only (Act.adds srv fun e => e.1 = .Service ∧ Carries deviceID e.2)
        (Resolver.genServiceID t) := Prog.only_bind (only_nextManageNum trivial) fun _ => trivial
    have hyields : Prog.Yields (fun id => Plain id.text) (Resolver.genServiceID t) :=
      Prog.yields_rest fun manageNum => Resolver.plain_serviceID manageNum t
    refine Prog.only_bind_yields hgen hyields fun id hserviceID => ?_
    refine Prog.only_lift_bind fun attributes hattributes => ?_
    refine Prog.only_lift_bind fun _ _ => ?_
    refine Prog.only_bind (ResolverPer.only_addColumns (fun _ => trivial) _ _) fun _ => ?_
    refine Prog.only_lift_bind fun texts htexts => ?_
    refine Prog.only_lift_bind fun serviceType htype => ?_
    obtain rfl := Value.asStr_eq_ok.mp htype
    have hread := ResolverPer.unbroken_serviceRow hserviceID hid
      (hfirst.serviceType "serviceType" (by simp) serviceType ht)
      (hfirst.attributes attributes texts hattributes htexts)
    have hcarries : Carries deviceID
        (ResolverPer.serviceRow id.text deviceID serviceType texts) := rfl
    exact only_execute (adds_of_exact (exact_of_unbroken hread) fun r hr =>
      ⟨rfl, hcarries.read hid hr⟩)

/-- An `except` branch that only returns leaves the state of the block. -/
theorem catch_state {ε : Type} (block : Prog Act Act.Res ε Value) (answer : ε → Value) (s : State) :
    (perform srv faults (Prog.tryExcept block fun e => (pure (answer e) : Handler Value)) s).2 =
      (perform srv faults block s).2 := by
  rw [perform_tryExcept]
  rcases perform srv faults block s with ⟨r, s'⟩
  cases r <;> rfl

/-- An update at `resolver.py` adds services of a registered device. -/
theorem httpUpdate_rows (srv : Server) (faults : Faults) (w : World)
    (hunbroken : ∀ content, body = .ok content → UpdateUnbroken content) :
    ∃ new, (perform srv faults (Resolver.Update body) (start w)).2.world.rows = w.rows ++ new ∧
      ∀ e ∈ new, e.1 = .Service ∧ ∃ n : Int, Carries (toString n) e.2 ∧
        Registered srv w.rows (toString n) := by
  have hsame : ∀ s : State, s.world.rows = w.rows → ∃ new, s.world.rows = w.rows ++ new ∧
      ∀ e ∈ new, e.1 = .Service ∧ ∃ n : Int, Carries (toString n) e.2 ∧
        Registered srv w.rows (toString n) :=
    fun s hs => ⟨[], hs.trans (List.append_nil _).symm, fun e he => absurd he (by simp)⟩
  rw [Resolver.Update, catch_state, Resolver.updateBody, perform_bind, perform_connect]
  cases faults (start w).world.asked with
  | some code => exact hsame _ rfl
  | none =>
    simp only [perform_bind, perform_lift]
    cases body with
    | error e => exact hsame _ rfl
    | ok content =>
      simp only []
      cases hd : deviceIDOf content with
      | error e => exact hsame _ rfl
      | ok deviceID =>
        simp only [perform_exist]
        cases faults (start w).tick.opened.world.asked with
        | some code => exact hsame _ rfl
        | none =>
          simp only []
          split
          · exact hsame _ rfl
          · rename_i hcount
            -- the device has a row, and the rest only inserts services under its ID
            have hreg : Registered srv w.rows deviceID := by
              by_contra hnone
              exact hcount (ResolverPer.rowsOfDevice_eq_zero.mpr hnone)
            obtain ⟨n, rfl⟩ := Concurrent.deviceIDOf_number hd
            have hadds : Prog.Only (Act.adds srv fun e => e.1 = .Service ∧ Carries (toString n) e.2)
                (do Resolver.updateRows content (toString n); commit; return answerOf 0) :=
              Prog.only_bind (adds_updateRows (plain_toString_int n) (hunbroken content rfl))
                fun _ => Prog.only_bind (only_commit trivial) fun _ => trivial
            obtain ⟨new, hrows, hnew⟩ :=
              @ResolverPer.rows_of_adds _ faults _ _ _ _ hadds (start w).tick.opened.tick rfl
            exact ⟨new, hrows, fun e he => ⟨(hnew e he).1, n, (hnew e he).2, hreg⟩⟩

/-- The deletions of a leave at `resolver.py`. -/
theorem leaveRows_ok {body : Resolver.Body} {s s' : State}
    (h : perform srv faults (Resolver.leaveRows body) s = (.ok (), s')) : ∃ content deviceID,
      body = .ok content ∧ deviceIDOf content = .ok deviceID ∧
        s'.conn = leaveChanges [.Device, .Service] deviceID := by
  obtain ⟨content, s0, hbody, h⟩ := perform_bind_eq_ok.mp h
  obtain ⟨deviceID, s1, hd, h⟩ := perform_bind_eq_ok.mp h
  obtain ⟨_, s2, hconnect, h⟩ := perform_bind_eq_ok.mp h
  obtain ⟨_, s3, h3, h4⟩ := perform_bind_eq_ok.mp h
  rw [perform_lift] at hbody hd
  have hopened : s2.conn = [] := by
    rw [connect_ok hconnect]
    rfl
  refine ⟨content, deviceID, (Prod.mk.inj hbody).1, (Prod.mk.inj hd).1, ?_⟩
  rw [delete_ok h4, delete_ok h3, hopened]
  rfl

/-- A leave at `resolver.py` deletes a device and its services and answers with error 0, or changes
nothing and answers with error 1. -/
theorem httpLeave_cases (srv : Server) (faults : Faults) (body : Resolver.Body) (w : World) :
    ((perform srv faults (Resolver.Leave body) (start w)).2.world.rows = w.rows ∧
      (perform srv faults (Resolver.Leave body) (start w)).2.log = [] ∧
      (perform srv faults (Resolver.Leave body) (start w)).1 = .ok (answerOf 1)) ∨
    ∃ content deviceID, body = .ok content ∧ deviceIDOf content = .ok deviceID ∧
      (perform srv faults (Resolver.Leave body) (start w)).2.world.rows =
        applyAll srv (leaveChanges [.Device, .Service] deviceID) w.rows := by
  have hquiet : Prog.Only Act.quiet (Resolver.leaveRows body) := by
    refine Prog.only_lift_bind fun _ _ => ?_
    refine Prog.only_lift_bind fun _ _ => ?_
    refine Prog.only_bind (only_connect trivial) fun _ => ?_
    exact Prog.only_bind (only_execute trivial) fun _ => only_execute trivial
  rcases transaction_cases (fun _ => pure (answerOf 0))
    (keeps_quiet srv faults hquiet (start w)).toKept with ⟨e, s', hrun, hkept⟩ |
    ⟨_, s', hwork, hkept, hrun⟩
  · have hblock : perform srv faults (Resolver.leaveBody body) (start w) = (.error e, s') := hrun
    rw [Resolver.Leave, perform_try_error hblock]
    exact Or.inl ⟨hkept.rows, hkept.log, rfl⟩
  · have hblock : perform srv faults (Resolver.leaveBody body) (start w) =
        (.ok (answerOf 0), s'.tick.commit srv) := hrun
    obtain ⟨content, deviceID, hbody, hd, hconn⟩ := leaveRows_ok hwork
    refine Or.inr ⟨content, deviceID, hbody, hd, ?_⟩
    have hw : s'.world.rows = w.rows := hkept.rows
    have hview : (s'.tick.commit srv).world.rows = applyAll srv s'.conn s'.world.rows := rfl
    rw [Resolver.Leave, perform_try_ok hblock]
    exact hview.trans (by rw [hconn, hw])

/-- The inserts of a request are its own. -/
theorem adds_requestBody (body : Resolver.Body) :
    Prog.Only (Act.adds srv fun e => e.1 = .Request ∨ e.1 = .QosRequirement)
      (Resolver.requestBody body) := by
  refine Prog.only_bind ?_ fun _ => Prog.only_bind (only_commit trivial) fun _ => trivial
  refine Prog.only_bind (only_connect trivial) fun _ => ?_
  refine Prog.only_bind ?_ fun requestID => ?_
  · refine Prog.only_bind (only_execute trivial) fun maxID => ?_
    cases maxID with
    | none => trivial
    | some maxID => exact Prog.only_lift_bind fun _ _ => trivial
  refine Prog.only_bind (ResolverPer.only_anyService trivial) fun serviceID => ?_
  refine Prog.only_lift_bind fun _ _ => ?_
  refine Prog.only_lift_bind fun _ _ => ?_
  refine Prog.only_lift_bind fun _ _ => ?_
  refine Prog.only_lift_bind fun _ _ => ?_
  refine Prog.only_bind (only_execute fun _ _ _ _ _ => Or.inl rfl) fun _ => ?_
  exact Prog.only_lift_bind fun _ _ => only_insertAll fun _ _ _ _ _ _ _ _ _ => Or.inr rfl

/-- **What a call of `resolver.py` does.** -/
theorem does_http (e : Endpoint) (hunbroken : Unbroken (.http exc) (e, body)) : Does srv w.rows
    (perform srv faults (Resolver.respond (Calls.handler exc e body)) (start w)).2.log
    (perform srv faults (Resolver.respond (Calls.handler exc e body)) (start w)).2.world.rows := by
  obtain ⟨hworld, hsent⟩ :=
    respond_state srv faults (Calls.handler exc e body) (start w)
  rw [hworld]
  cases e with
  | Join =>
    rcases httpJoin_cases srv faults w hunbroken with hrows | ⟨new, hrows, hnew, hanswer⟩
    · exact does_nothing hrows
    · refine .joins new hrows (fun e he => ⟨Or.inl (hnew e he).1, (hnew e he).2⟩) ?_
      refine ⟨"response", joinAnswer 0 (toString (largestID srv w.rows + 1)), ?_, rfl, rfl⟩
      rw [hsent _ hanswer]
      exact List.mem_append_right _ (List.mem_singleton_self _)
  | Update =>
    obtain ⟨new, hrows, hnew⟩ := httpUpdate_rows srv faults w hunbroken
    exact .offers new hrows hnew
  | Leave =>
    rcases httpLeave_cases srv faults body w with ⟨hrows, _⟩ | ⟨content, deviceID, _, hd, hrows⟩
    · exact does_nothing hrows
    · obtain ⟨n, rfl⟩ := Concurrent.deviceIDOf_number hd
      exact .leaves [.Device, .Service] n (by simp) (by simp) hrows
  | Request =>
    have hadded : ∃ new, (perform srv faults (Resolver.requestBody body) (start w)).2.world.rows =
        w.rows ++ new ∧ ∀ e ∈ new, e.1 = .Request ∨ e.1 = .QosRequirement :=
      ResolverPer.rows_of_adds (adds_requestBody body) rfl
    obtain ⟨new, hrows, hnew⟩ := hadded
    refine .asks new ?_ hnew
    show (perform srv faults (Resolver.Request exc.text body) (start w)).2.world.rows = _
    rw [Resolver.Request, catch_state]
    exact hrows

end Http

/-- **What a message does**, whichever resolver it goes to. -/
theorem does_message (srv : Server) (w : World) (m : Delivery)
    (hunbroken : Unbroken m.process m.call) :
    Does srv w.rows (m.shown srv w) (deliver srv w m).rows := by
  obtain ⟨process, call, manageNum, faults⟩ := m
  cases process with
  | sockets py => exact does_per (w := { w with manageNum }) call.1 hunbroken
  | http exc => exact does_http (w := { w with manageNum }) call.1 hunbroken

end Versatile.Devices
