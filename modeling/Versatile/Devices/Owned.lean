import Versatile.Lib.Run
import Versatile.Devices.Deliveries

/-!
# Services belong to devices

The invariant of the database that both resolvers serve, over every sequence of messages: services
carry the number of a device that has a row. A device that left has no row, so no service can come
back under its number before a join is answered with it.
-/

namespace Versatile.Devices

open Py Diversity
open Calls (Process Endpoint Success leaveChanges)
open ResolverPer (Carries start deviceIDOf)

variable {srv : Server} {faults : Faults} {rows rows' : Rows} {log : List Event}

/-! ## The invariant -/

/-- Devices have numbers, and each service carries the number of a device that has a row. -/
structure Owned (rows : Rows) : Prop where
  devices : ∀ row, (Table.Device, row) ∈ rows → ∃ n : Int, Carries (toString n) row
  services : ∀ row, (Table.Service, row) ∈ rows → ∃ n : Int, Carries (toString n) row ∧
    ∃ device, (Table.Device, device) ∈ rows ∧ Carries (toString n) device

/-- A row that carries a number matches that number only. -/
theorem names_number {row : Row} {n k : Int} (h : Carries (toString n) row) :
    srv.names (toString k) row = true ↔ n = k := by
  have hnames : srv.names (toString k) row = srv.same (toString n) (toString k) := by
    rw [Server.names, show Row.cell row "deviceID" = some (toString n) from h]
  rw [hnames]
  refine ⟨srv.same_int n k, ?_⟩
  intro heq
  obtain rfl := heq
  exact srv.same_refl _

/-- Where devices have numbers, a registered number is that of a row. -/
theorem Owned.registered (h : Owned rows) {n : Int} (hreg : Registered srv rows (toString n)) :
    ∃ device, (Table.Device, device) ∈ rows ∧ Carries (toString n) device := by
  obtain ⟨⟨t, row⟩, hmem, rfl, hnames⟩ := hreg
  obtain ⟨m, hm⟩ := h.devices row hmem
  obtain rfl := (names_number hm).mp hnames
  exact ⟨row, hmem, hm⟩

/-- What a leave keeps. -/
theorem mem_leaveChanges {tables : List Table} {deviceID : String} {e : Table × Row} :
    e ∈ applyAll srv (leaveChanges tables deviceID) rows ↔
      e ∈ rows ∧ (e.1 ∈ tables → srv.names deviceID e.2 = false) := by
  induction tables generalizing rows with
  | nil => simp [leaveChanges, applyAll]
  | cons t tables ih =>
    have hcons : applyAll srv (leaveChanges (t :: tables) deviceID) rows =
        applyAll srv (leaveChanges tables deviceID)
          (Change.apply srv rows (.delete t deviceID)) := rfl
    rw [hcons, ih]
    simp only [Change.apply, List.mem_filter, Bool.not_eq_true', Bool.and_eq_false_iff,
      decide_eq_false_iff_not, List.mem_cons]
    cases srv.names deviceID e.2 with
    | true => simp; tauto
    | false => simp

/-- **Rows that are added** keep services and devices together, if a device has a number and a
service that of a device that is there. -/
theorem Owned.append (h : Owned rows) {new : Rows}
    (hdevices : ∀ row, (Table.Device, row) ∈ new → ∃ n : Int, Carries (toString n) row)
    (hservices : ∀ row, (Table.Service, row) ∈ new → ∃ n : Int, Carries (toString n) row ∧
      ∃ device, (Table.Device, device) ∈ rows ∧ Carries (toString n) device) :
    Owned (rows ++ new) := by
  refine ⟨fun row hmem => ?_, fun row hmem => ?_⟩
  · rcases List.mem_append.mp hmem with hold | hnew
    · exact h.devices row hold
    · exact hdevices row hnew
  · have hservice : ∃ n : Int, Carries (toString n) row ∧
        ∃ device, (Table.Device, device) ∈ rows ∧ Carries (toString n) device := by
      rcases List.mem_append.mp hmem with hold | hnew
      · exact h.services row hold
      · exact hservices row hnew
    obtain ⟨n, hn, device, hdevice, hcarries⟩ := hservice
    exact ⟨n, hn, device, List.mem_append_left _ hdevice, hcarries⟩

/-- **One message keeps services and devices together.** -/
theorem Owned.step (h : Owned rows) (hdoes : Does srv rows log rows') : Owned rows' := by
  cases hdoes with
  | joins new hrows hnew _ =>
    subst hrows
    refine h.append (fun row hmem => ⟨_, (hnew _ hmem).2⟩) fun row hmem => ?_
    exact absurd (hnew _ hmem).1 (by simp)
  | offers new hrows hnew =>
    subst hrows
    refine h.append (fun row hmem => absurd (hnew _ hmem).1 (by simp)) fun row hmem => ?_
    obtain ⟨_, n, hn, hreg⟩ := hnew _ hmem
    exact ⟨n, hn, h.registered hreg⟩
  | asks new hrows hnew =>
    subst hrows
    refine h.append (fun row hmem => ?_) fun row hmem => ?_
    · exact absurd (hnew _ hmem) (by simp)
    · exact absurd (hnew _ hmem) (by simp)
  | leaves tables n hdevice hservice hrows =>
    subst hrows
    refine ⟨fun row hmem => h.devices row (mem_leaveChanges.mp hmem).1, ?_⟩
    intro row hmem
    obtain ⟨hmem, hkept⟩ := mem_leaveChanges.mp hmem
    obtain ⟨k, hk, device, hin, hcarries⟩ := h.services row hmem
    have hnot : srv.names (toString n) device = false := by
      rw [ResolverPer.names_congr hcarries hk]
      exact hkept hservice
    exact ⟨k, hk, device, mem_leaveChanges.mpr ⟨hin, fun _ => hnot⟩, hcarries⟩

theorem owned_run (srv : Server) {w : World} (h : Owned w.rows) {ms : List Delivery}
    (hunbroken : ∀ m ∈ ms, Unbroken m.process m.call) : Owned (ms.foldl (deliver srv) w).rows := by
  induction ms generalizing w with
  | nil => exact h
  | cons m ms ih =>
    obtain ⟨hfirst, hrest⟩ := List.forall_mem_cons.mp hunbroken
    exact ih (h.step (does_message srv w m hfirst)) hrest

/--
**Every service belongs to a device.**

Messages of both resolvers come one after another to a database that was empty, in any order, with
any calls failed and any payloads no text of which breaks its literal. Then each row of `Service`
carries the number of a device that has a row, also behind an update that was torn apart.
-/
theorem services_owned (srv : Server) (w : World) (hempty : w.rows = []) (ms : List Delivery)
    (hunbroken : ∀ m ∈ ms, Unbroken m.process m.call) (row : Row)
    (hrow : (Table.Service, row) ∈ (ms.foldl (deliver srv) w).rows) :
    ∃ n : Int, Carries (toString n) row ∧
      ∃ device, (Table.Device, device) ∈ (ms.foldl (deliver srv) w).rows ∧
        Carries (toString n) device := by
  have howned : Owned w.rows := by
    rw [hempty]
    exact ⟨fun _ h => absurd h (by simp), fun _ h => absurd h (by simp)⟩
  exact (owned_run srv howned hunbroken).services row hrow

/-- A message for `resolver.py`, all of whose calls are taken. -/
def request (endpoint : Endpoint) (content : Value) (manageNum : Nat) : Delivery :=
  ⟨Calls.plainHttp, (endpoint, .ok content), manageNum, fun _ => none⟩

/-- An offer of a service by device 1. -/
def offer (manageNum : Nat) : Delivery :=
  request .Update (.dict [("deviceID", .int 1), ("services", .list [.dict
    [("serviceType", .str "Web"), ("attributes", .list [])]])]) manageNum

/-- A device joins and offers a service. -/
def joinsAndOffers : List Delivery :=
  [request .Join (.dict [("uniqueCodes", .list [.dict [("hwAddress", .str "m")]])]) 0, offer 0]

theorem unbroken_offer (manageNum : Nat) :
    Unbroken (offer manageNum).process (offer manageNum).call := by
  intro content hcontent a vs ha hvs v hv
  obtain rfl := Except.ok.inj hcontent
  obtain rfl := Except.ok.inj ha
  obtain rfl := Except.ok.inj hvs
  obtain rfl := List.mem_singleton.mp hv
  refine ⟨ResolverPer.fieldsUnbroken_dict ?_, fun a texts ha htexts => ?_⟩
  · intro e he text htext
    simp only [List.mem_cons, List.not_mem_nil, or_false] at he
    rcases he with rfl | rfl
    · obtain rfl := Value.str.inj htext
      exact Plain.unbroken (by decide)
    · exact absurd htext (by simp)
  · obtain rfl := Except.ok.inj ha
    obtain rfl := Except.ok.inj htexts
    simp

theorem unbroken_joinsAndOffers : ∀ m ∈ joinsAndOffers, Unbroken m.process m.call := by
  refine List.forall_mem_cons.mpr ⟨?_, List.forall_mem_singleton.mpr (unbroken_offer 0)⟩
  intro content hcontent us hus v hv
  obtain rfl := Except.ok.inj hcontent
  obtain rfl := Except.ok.inj hus
  obtain rfl := List.mem_singleton.mp hv
  refine ResolverPer.fieldsUnbroken_dict fun e he text htext => ?_
  obtain rfl := List.mem_singleton.mp he
  obtain rfl := Value.str.inj htext
  exact Plain.unbroken (by decide)

theorem joined_offered : joinsAndOffers.foldl (deliver .plain) ⟨[], 0, 0, 0⟩ =
    ⟨[(.Device, Concurrent.deviceOf "1"),
      (.Service, [("serviceID", "100010"), ("deviceID", "1"), ("serviceType", "Web")])], 0, 9,
        1⟩ := by
  decide +kernel

/-- The theorem on its service. -/
theorem services_owned_offer : ∃ n : Int,
    Carries (toString n) [("serviceID", "100010"), ("deviceID", "1"), ("serviceType", "Web")] ∧
      ∃ device, (Table.Device, device) ∈
          (joinsAndOffers.foldl (deliver .plain) ⟨[], 0, 0, 0⟩).rows ∧
        Carries (toString n) device := by
  exact services_owned .plain ⟨[], 0, 0, 0⟩ rfl joinsAndOffers unbroken_joinsAndOffers _
    (by rw [joined_offered]; simp)

/-! ## A device that left -/

/-- The tables a leave clears. -/
def leftTables : Process → List Table
  | .sockets _ => [.Device, .Service, .Neighbor]
  | .http _ => [.Device, .Service]

theorem mem_leftTables {p : Process} {t : Table} (h : t ∈ leftTables p) :
    t = .Device ∨ t = .Service ∨ t = .Neighbor := by
  cases p with
  | sockets py => simpa [leftTables] using h
  | http exc =>
    have hcase : t = .Device ∨ t = .Service := by simpa [leftTables] using h
    exact hcase.imp_right Or.inl

theorem device_mem_leftTables (p : Process) : Table.Device ∈ leftTables p := by
  cases p <;> simp [leftTables]

/-- No row of the tables matches the device. -/
def Gone (srv : Server) (tables : List Table) (deviceID : String) (rows : Rows) : Prop :=
  ∀ e ∈ rows, e.1 ∈ tables → srv.names deviceID e.2 = false

/-- A leave at `resolver_per.py` clears its tables, or answers with error 1. -/
theorem perLeave_cases (srv : Server) (faults : Faults) {content : Value} {deviceID : String}
    (hd : deviceIDOf content = .ok deviceID) (w : World) :
    (perform srv faults (ResolverPer.decoded .Leave content) (start w)).2.log =
        [.emitted "Lack" (answerOf 1)] ∨
      (perform srv faults (ResolverPer.decoded .Leave content) (start w)).2.world.rows =
        applyAll srv (leaveChanges [.Device, .Service, .Neighbor] deviceID) w.rows := by
  have hquiet : Prog.Only Act.quiet (ResolverPer.leaveRows content) :=
    ResolverPer.only_leaveRows trivial fun _ _ _ => trivial
  have hdecoded : ResolverPer.decoded .Leave content =
      ResolverPer.tryAnswer .Leave (ResolverPer.leaveBody content) fun _ => answerOf 1 := rfl
  rw [hdecoded]
  rcases transaction_cases (fun _ => emit "Lack" (answerOf 0))
    (keeps_quiet srv faults hquiet (start w)).toKept with ⟨e, s', hrun, hkept⟩ |
    ⟨_, s', hwork, hkept, hrun⟩
  · have hblock : perform srv faults (ResolverPer.leaveBody content) (start w) = (.error e, s') :=
      hrun
    have hlog : s'.log = [] := hkept.log
    rw [ResolverPer.tryAnswer_error hblock]
    refine Or.inl ?_
    rw [State.shown, hlog]
    rfl
  · have hblock : perform srv faults (ResolverPer.leaveBody content) (start w) = _ :=
      hrun.trans (perform_emit _ _ _)
    obtain ⟨deviceID', hd', hconn⟩ := ResolverPer.leaveRows_ok hwork
    obtain rfl := Except.ok.inj (hd'.symm.trans hd)
    have hw : s'.world.rows = w.rows := hkept.rows
    have hview : (s'.tick.commit srv).world.rows = applyAll srv s'.conn s'.world.rows := rfl
    rw [ResolverPer.tryAnswer_ok hblock]
    exact Or.inr (hview.trans (by rw [hconn, hw]; rfl))

/-- Error 1 is no success. -/
theorem not_acknowledged_error {event : String} :
    ¬ Acknowledged [.emitted event (answerOf 1)] := by
  intro hsome
  obtain ⟨event', payload, hmem, hok⟩ := hsome
  obtain ⟨_, rfl⟩ := Event.emitted.inj (List.mem_singleton.mp hmem)
  exact Calls.not_success_error (by decide) hok

/-- A leave that is answered with success cleared its tables. -/
theorem leave_done {w : World} {m : Delivery} {deviceID : String}
    (hleave : m.process.Leaves m.call deviceID) (hack : Acknowledged (m.shown srv w)) :
    (deliver srv w m).rows =
      applyAll srv (leaveChanges (leftTables m.process) deviceID) w.rows := by
  obtain ⟨process, call, manageNum, faults⟩ := m
  cases process with
  | sockets py =>
    obtain ⟨message, js⟩ := call
    obtain ⟨rfl, content, hjs, hd⟩ := hleave
    have hhandle : ResolverPer.handle srv faults py .Leave js { w with manageNum } =
        perform srv faults (ResolverPer.decoded .Leave content) (start { w with manageNum }) := by
      rw [ResolverPer.handle_eq, hjs]
    have hack' : Acknowledged
        (ResolverPer.handle srv faults py .Leave js { w with manageNum }).2.log := hack
    show (ResolverPer.handle srv faults py .Leave js { w with manageNum }).2.world.rows = _
    rw [hhandle] at hack' ⊢
    rcases perLeave_cases srv faults hd { w with manageNum } with
      hlog | hrows
    · rw [hlog] at hack'
      exact absurd hack' not_acknowledged_error
    · exact hrows
  | http exc =>
    obtain ⟨endpoint, body⟩ := call
    obtain ⟨rfl, content, rfl, hd⟩ := hleave
    show (perform srv faults (Resolver.respond (Resolver.Leave (.ok content)))
      (start { w with manageNum })).2.world.rows = _
    have hack' : Acknowledged (perform srv faults
        (Resolver.respond (Resolver.Leave (.ok content))) (start { w with manageNum })).2.log :=
      hack
    obtain ⟨hworld, hsent⟩ := respond_state srv faults (Resolver.Leave (.ok content))
      (start { w with manageNum })
    rw [hworld]
    rcases httpLeave_cases srv faults (.ok content) { w with manageNum } with
      ⟨_, hlog, hanswer⟩ | ⟨content', deviceID', hbody, hd', hrows⟩
    · rw [hsent _ hanswer, hlog] at hack'
      exact absurd hack' not_acknowledged_error
    · obtain rfl := Except.ok.inj hbody
      obtain rfl := Except.ok.inj (hd'.symm.trans hd)
      exact hrows

/-- **No message but a join that is answered with its ID brings a device back.** -/
theorem Gone.step {p : Process} {n : Int} (h : Gone srv (leftTables p) (toString n) rows)
    (howned : Owned rows) (hdoes : Does srv rows log rows') (hnone : ¬ JoinedAs (toString n) log) :
    Gone srv (leftTables p) (toString n) rows' := by
  intro e he ht
  cases hdoes with
  | joins new hrows hnew hack =>
    subst hrows
    rcases List.mem_append.mp he with he | he
    · exact h e he ht
    · by_contra hnames
      have heq := (names_number (hnew e he).2).mp (Bool.not_eq_false _ ▸ hnames)
      exact hnone (heq ▸ hack)
  | offers new hrows hnew =>
    subst hrows
    rcases List.mem_append.mp he with he | he
    · exact h e he ht
    · -- a service of this device would need a device that is registered
      obtain ⟨_, k, hk, hreg⟩ := hnew e he
      by_contra hnames
      obtain rfl := (names_number hk).mp (Bool.not_eq_false _ ▸ hnames)
      obtain ⟨device, hmem, hcarries⟩ := howned.registered hreg
      have hgone : srv.names (toString k) device = false :=
        h (.Device, device) hmem (device_mem_leftTables p)
      rw [(names_number hcarries).mpr rfl] at hgone
      exact absurd hgone (by simp)
  | asks new hrows hnew =>
    subst hrows
    rcases List.mem_append.mp he with he | he
    · exact h e he ht
    · have hcase := mem_leftTables ht
      rcases hnew e he with ht' | ht' <;> rw [ht'] at hcase <;> exact absurd hcase (by simp)
  | leaves tables' k _ _ hrows =>
    subst hrows
    exact h e (mem_leaveChanges.mp he).1 ht

/--
**A device that left is gone until its number is given to a new one.**

Behind a leave that is answered with success, and whatever messages either resolver gets after it,
no row of the tables it cleared matches the device, up to the first join that is answered with its
ID. So no update brings back a service of it, however stale. No text of a message before or after
breaks its literal.
-/
theorem left_until_joined (srv : Server) (w : World) (hempty : w.rows = [])
    (before after : List Delivery) (m : Delivery) (deviceID : String)
    (hunbroken : ∀ m ∈ before ++ after, Unbroken m.process m.call)
    (hleave : m.process.Leaves m.call deviceID)
    (hack : Acknowledged (m.shown srv (before.foldl (deliver srv) w)))
    (hrun : Machine.Along (deliver srv) (fun w m => ¬ JoinedAs deviceID (m.shown srv w))
      (deliver srv (before.foldl (deliver srv) w) m) after) :
    ∀ e ∈ (after.foldl (deliver srv) (deliver srv (before.foldl (deliver srv) w) m)).rows,
      e.1 ∈ leftTables m.process → srv.names deviceID e.2 = false := by
  have howned : Owned w.rows := by
    rw [hempty]
    exact ⟨fun _ h => absurd h (by simp), fun _ h => absurd h (by simp)⟩
  obtain ⟨hbefore, hafter⟩ := List.forall_mem_append.mp hunbroken
  have hthen := owned_run srv howned hbefore
  obtain ⟨n, rfl⟩ : ∃ n : Int, deviceID = toString n := by
    obtain ⟨process, call, manageNum, faults⟩ := m
    cases process with
    | sockets py => exact Concurrent.deviceIDOf_number hleave.2.choose_spec.2
    | http exc => exact Concurrent.deviceIDOf_number hleave.2.choose_spec.2
  have hleft : Gone srv (leftTables m.process) (toString n)
      (deliver srv (before.foldl (deliver srv) w) m).rows := by
    intro e he ht
    rw [leave_done hleave hack] at he
    exact (mem_leaveChanges.mp he).2 ht
  have hleaves : Unbroken m.process m.call := by
    obtain ⟨process, call, manageNum, faults⟩ := m
    cases process with
    | sockets py =>
      obtain ⟨message, js⟩ := call
      obtain ⟨rfl, _⟩ := hleave
      trivial
    | http exc =>
      obtain ⟨endpoint, body⟩ := call
      obtain ⟨rfl, _⟩ := hleave
      trivial
  have hstep : ∀ w (m' : Delivery), Owned w.rows ∧ Gone srv (leftTables m.process) (toString n)
      w.rows → ¬ JoinedAs (toString n) (m'.shown srv w) ∧ Unbroken m'.process m'.call →
        Owned (deliver srv w m').rows ∧
          Gone srv (leftTables m.process) (toString n) (deliver srv w m').rows := by
    intro w m' hboth hm'
    have hdoes := does_message srv w m' hm'.2
    exact ⟨hboth.1.step hdoes, hboth.2.step hboth.1 hdoes hm'.1⟩
  have hboth : Machine.Along (deliver srv) (fun w m' => ¬ JoinedAs (toString n) (m'.shown srv w) ∧
      Unbroken m'.process m'.call) (deliver srv (before.foldl (deliver srv) w) m) after :=
    Machine.along_and hrun (Machine.along_of_forall hafter)
  exact (Machine.along_invariant hstep hboth
    ⟨hthen.step (does_message srv _ m hleaves), hleft⟩).2

/-- A leave of the device, and an update of it that comes too late. -/
def leaves : Delivery := request .Leave (.dict [("deviceID", .int 1)]) 1

@[inherit_doc leaves]
def lateOffer : Delivery := offer 1

/-- The theorem on them. -/
theorem left_until_joined_late :
    Gone .plain (leftTables leaves.process) "1" ([lateOffer].foldl (deliver .plain)
      (deliver .plain (joinsAndOffers.foldl (deliver .plain) ⟨[], 0, 0, 0⟩) leaves)).rows := by
  refine left_until_joined .plain ⟨[], 0, 0, 0⟩ rfl joinsAndOffers [lateOffer] leaves "1"
    ?_ ⟨rfl, _, rfl, rfl⟩ ?_ ⟨?_, trivial⟩
  · exact List.forall_mem_append.mpr
      ⟨unbroken_joinsAndOffers, List.forall_mem_singleton.mpr (unbroken_offer 1)⟩
  · rw [joined_offered]
    exact ⟨"response", answerOf 0, List.mem_cons_of_mem _ (List.mem_singleton_self _), Or.inl rfl⟩
  · rw [joined_offered]
    have hleft : deliver .plain ⟨[(.Device, Concurrent.deviceOf "1"), (.Service,
        [("serviceID", "100010"), ("deviceID", "1"), ("serviceType", "Web")])], 0, 9, 1⟩ leaves =
          ⟨[], 0, 13, 1⟩ := by decide +kernel
    have hshown : lateOffer.shown .plain ⟨[], 0, 13, 1⟩ = [.emitted "response" (answerOf 1)] := rfl
    rw [hleft]
    intro hsome
    obtain ⟨_, payload, hmem, hzero, _⟩ := hsome
    rw [hshown] at hmem
    obtain ⟨_, rfl⟩ := Event.emitted.inj (List.mem_singleton.mp hmem)
    exact absurd hzero (by simp)

end Versatile.Devices
