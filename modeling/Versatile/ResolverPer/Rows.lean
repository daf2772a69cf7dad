import Mathlib.Data.List.Forall2
import Versatile.ResolverPer.Updates

/-!
# The rows a message writes

What each handler does to the committed rows, whatever the database fails. `Join` adds the rows of
the next device ID or nothing; `Update` adds rows of `Service` of a registered device; `Request`
adds a row that names the device of the message, and requirements; `Leave` deletes the rows of one
device from three tables or nothing. Which columns the rows have is known for every message, what
stands in them for one whose texts do not break their literals.
-/

namespace Versatile.ResolverPer

open Py Diversity

variable {srv : Server} {faults : Faults} {py : Interpreter} {js : String} {w : World}

/-- The row carries the device ID. -/
def Carries (deviceID : String) (row : Row) : Prop := Row.cell row "deviceID" = some deviceID

/-- A row that carries an ID in digits is stored with it. -/
theorem Carries.read {deviceID : String} {row r : Row} (h : Carries deviceID row)
    (hplain : Plain deviceID) (hread : readTexts row = some r) : Carries deviceID r := by
  have hget : Dict.get row "deviceID" = some deviceID := h
  rw [Carries, Row.cell, readTexts_get hread, hget]
  exact readText_plain hplain

/-! ## Texts -/

/-- The texts under these names do not break their literals. -/
def FieldsUnbroken (names : List String) (v : Value) : Prop :=
  ∀ name ∈ names, ∀ text, v.get name = .ok (.str text) → Unbroken text

/-- So is a dictionary none of whose texts does. -/
theorem fieldsUnbroken_dict {names : List String} {kvs : List (String × Value)}
    (h : ∀ e ∈ kvs, ∀ text, e.2 = .str text → Unbroken text) :
    FieldsUnbroken names (.dict kvs) := by
  intro name _ text htext
  have hget : (Dict.get kvs name).getD .none = .str text := Except.ok.inj htext
  cases hvalue : Dict.get kvs name with
  | none => rw [hvalue] at hget; exact absurd hget (by simp)
  | some v =>
    rw [hvalue] at hget
    exact h (name, v) (Dict.mem_of_get hvalue) text hget

/-- The fields of a neighbor that are stored. -/
def neighborFields : List String := ["neighborIface", "neighborIpv4", "neighborHwAddress"]

/-- The fields of an interface that are stored. -/
def interfaceFields : List String := ["ifaceType", "hwAddress", "ipv4", "wifiSSID"]

/-- No text of an interface breaks its literal. -/
def InterfacesUnbroken (content : Value) : Prop :=
  ∀ us, uniqueCodesOf content = .ok us → ∀ v ∈ us, FieldsUnbroken interfaceFields v

/-- No text a join lists breaks its literal. -/
structure JoinUnbroken (content : Value) : Prop where
  neighbors : ∀ vs, neighborsOf content = .ok vs → ∀ v ∈ vs, FieldsUnbroken neighborFields v
  interfaces : InterfacesUnbroken content

/-- The texts of a service do not break their literals. -/
structure ServiceUnbroken (v : Value) : Prop where
  serviceType : FieldsUnbroken ["serviceType"] v
  attributes : ∀ a texts, v.get "attributes" = .ok a → a.items = .ok texts →
    ∀ text ∈ texts, Unbroken text

/-- No text an update lists breaks its literal. -/
def UpdateUnbroken (content : Value) : Prop :=
  ∀ a vs, content.get "services" = .ok a → a.iter = .ok vs → ∀ v ∈ vs, ServiceUnbroken v

/-- A placeholder, or a text of the message. -/
theorem unbroken_orElse {p : Prop} [Decidable p] {placeholder text : String} {v : Value}
    (hplain : Unbroken placeholder)
    (h : (if p then Value.str placeholder else v).asStr = .ok text)
    (hv : ∀ text, v = .str text → Unbroken text) : Unbroken text := by
  have heq := Value.asStr_eq_ok.mp h
  split at heq
  · obtain rfl := Value.str.inj heq
    exact hplain
  · exact hv _ heq

/-! ## Join -/

theorem carries_neighborRow {deviceID : String} {v : Value} {row : Row}
    (h : neighborRow deviceID v = .ok row) : Carries deviceID row := by
  simp only [neighborRow, Except.bind_eq_ok] at h
  obtain ⟨_, _, _, _, _, _, _, _, _, _, _, _, h⟩ := h
  obtain rfl := Except.pure_eq_ok.mp h
  rfl

theorem carries_deviceRow {placeholder deviceID relay : String} {v : Value} {row : Row}
    (h : deviceRow placeholder deviceID relay v = .ok row) : Carries deviceID row := by
  simp only [deviceRow, Except.bind_eq_ok] at h
  obtain ⟨_, _, _, _, _, _, _, _, _, _, _, _, _, _, _, _, h⟩ := h
  obtain rfl := Except.pure_eq_ok.mp h
  rfl

/-- A relay is stored as `none` or as a number. -/
theorem plain_relayText {v : Value} {relay : String} (h : relayText v = .ok relay) :
    Plain relay := by
  unfold relayText at h
  split at h
  · obtain rfl := Except.pure_eq_ok.mp h
    decide
  · obtain ⟨n, _, h⟩ := Except.bind_eq_ok.mp h
    obtain rfl := Except.pure_eq_ok.mp h
    exact plain_toString_int n

theorem unbroken_neighborRow {deviceID : String} {v : Value} {row : Row} (hid : Plain deviceID)
    (hv : FieldsUnbroken neighborFields v) (h : neighborRow deviceID v = .ok row) :
    ∀ c ∈ row, Unbroken c.2 := by
  have hnone : Unbroken "NULL" := Plain.unbroken (by decide)
  simp only [neighborRow, Except.bind_eq_ok] at h
  obtain ⟨iface, hiface, ipv4, hipv4, mac, hmac, t1, h1, t2, h2, t3, h3, h⟩ := h
  obtain rfl := Except.pure_eq_ok.mp h
  have hif : Unbroken t1 := unbroken_orElse hnone h1 fun text heq =>
    hv "neighborIface" (by simp [neighborFields]) text (heq ▸ hiface)
  have hip : Unbroken t2 := unbroken_orElse hnone h2 fun text heq =>
    hv "neighborIpv4" (by simp [neighborFields]) text (heq ▸ hipv4)
  have hhw : Unbroken t3 := unbroken_orElse hnone h3 fun text heq =>
    hv "neighborHwAddress" (by simp [neighborFields]) text (heq ▸ hmac)
  simp [hid.unbroken, hif, hip, hhw]

theorem unbroken_deviceRow {placeholder deviceID relay : String} {v : Value} {row : Row}
    (hplaceholder : Unbroken placeholder) (hid : Plain deviceID) (hrelay : Plain relay)
    (hv : FieldsUnbroken interfaceFields v) (h : deviceRow placeholder deviceID relay v = .ok row) :
    ∀ c ∈ row, Unbroken c.2 := by
  simp only [deviceRow, Except.bind_eq_ok] at h
  obtain ⟨iface, hiface, mac, hmac, ip, hip, ssid, hssid, t1, h1, t2, h2, t3, h3, t4, h4, h⟩ := h
  obtain rfl := Except.pure_eq_ok.mp h
  have hif : Unbroken t1 := by
    refine unbroken_orElse hplaceholder h1 fun text heq => ?_
    exact unbroken_orElse hplaceholder (Value.asStr_eq_ok.mpr heq) fun text heq =>
      hv "ifaceType" (by simp [interfaceFields]) text (heq ▸ hiface)
  have hhw : Unbroken t2 := by
    refine hv "hwAddress" (by simp [interfaceFields]) t2 ?_
    rw [hmac, Value.asStr_eq_ok.mp h2]
  have hipv4 : Unbroken t3 := unbroken_orElse hplaceholder h3 fun text heq =>
    hv "ipv4" (by simp [interfaceFields]) text (heq ▸ hip)
  have hwifi : Unbroken t4 := unbroken_orElse hplaceholder h4 fun text heq =>
    hv "wifiSSID" (by simp [interfaceFields]) text (heq ▸ hssid)
  simp [hid.unbroken, hrelay.unbroken, hif, hhw, hipv4, hwifi]

/-- The device a message names is a number. -/
theorem plain_deviceIDOf {content : Value} {deviceID : String}
    (h : deviceIDOf content = .ok deviceID) : Plain deviceID := by
  obtain ⟨v, _, h⟩ := Except.bind_eq_ok.mp h
  obtain ⟨n, _, h⟩ := Except.bind_eq_ok.mp h
  obtain rfl := Except.pure_eq_ok.mp h
  exact plain_toString_int n

/-- **Insertions that went through**: the rows their texts are read as, all of them open. -/
theorem insertAll_ok {t : Table} {rowOf : Value → Except Exc Row} {vs : List Value} {s s' : State}
    (hexact : ∀ v ∈ vs, ∀ row, rowOf v = .ok row → srv.Exact t row)
    (h : perform srv faults (insertAll t rowOf vs) s = (.ok (), s')) :
    ∃ rows read, vs.mapM rowOf = .ok rows ∧
      List.Forall₂ (fun row r => readTexts row = some r) rows read ∧
      s'.conn = s.conn ++ read.map (Change.insert t) := by
  induction vs generalizing s with
  | nil =>
    obtain ⟨_, rfl⟩ := Prod.mk.inj h
    exact ⟨[], [], rfl, .nil, by simp⟩
  | cons v vs ih =>
    obtain ⟨hfirst, hrest⟩ := List.forall_mem_cons.mp hexact
    rw [insertAll, perform_bind, perform_lift] at h
    cases hrow : rowOf v with
    | error e => rw [hrow] at h; exact absurd (congrArg Prod.fst h) (by simp)
    | ok row =>
      simp only [hrow] at h
      obtain ⟨_, s1, hins, hloop⟩ := perform_bind_eq_ok.mp h
      obtain ⟨rows, read, hrows, hread, hconn⟩ := ih hrest hloop
      obtain ⟨new, hnew, hpush⟩ : ∃ new, srv.reads (s.tick.view srv) t row = .ok new ∧
          s1.conn = s.conn ++ new.map (Change.insert t) := by
        have heval := execute_ok hins
        rcases eval_insert_cases srv t row s.tick with ⟨code, hcase⟩ | ⟨new, hnew, _, hcase⟩
        · rw [hcase] at heval
          exact absurd (congrArg Prod.fst heval) (by simp)
        · rw [hcase] at heval
          obtain ⟨_, rfl⟩ := Prod.mk.inj heval
          exact ⟨new, hnew, rfl⟩
      obtain ⟨r, hr, rfl⟩ := hfirst row hrow _ _ hnew
      refine ⟨row :: rows, r :: read, Except.mapM_cons_eq_ok.mpr ⟨row, rows, hrow, hrows, rfl⟩,
        .cons hr hread, ?_⟩
      rw [hconn, hpush, List.append_assoc]
      rfl

/-- The rows of a join are exactly what their texts are read as. -/
structure JoinExact (srv : Server) (content : Value) (deviceID : String) : Prop where
  neighbors : ∀ vs, neighborsOf content = .ok vs → ∀ v ∈ vs, ∀ row,
    neighborRow deviceID v = .ok row → srv.Exact .Neighbor row
  interfaces : ∀ us, uniqueCodesOf content = .ok us → ∀ v ∈ us, ∀ relay row, Plain relay →
    deviceRow "NULL" deviceID relay v = .ok row → srv.Exact .Device row

theorem JoinUnbroken.exact {content : Value} {deviceID : String} (h : JoinUnbroken content)
    (hid : Plain deviceID) : JoinExact srv content deviceID where
  neighbors := fun vs hvs v hv _ hrow =>
    exact_of_unbroken (unbroken_neighborRow hid (h.neighbors vs hvs v hv) hrow)
  interfaces := fun us hus v hv _ _ hrelay hrow => exact_of_unbroken
    (unbroken_deviceRow (Plain.unbroken (by decide)) hid hrelay (h.interfaces us hus v hv) hrow)

/-- The rows of a join: of one ID, a neighbor for each it lists, and an interface for each. -/
structure JoinRows (content : Value) (deviceID : String) (neighbors devices : List Row) : Prop where
  neighborIDs : ∀ row ∈ neighbors, Carries deviceID row
  deviceIDs : ∀ row ∈ devices, Carries deviceID row
  listed : ∃ vs, neighborsOf content = .ok vs ∧ vs.length = neighbors.length
  interfaces : ∃ vs, uniqueCodesOf content = .ok vs ∧ vs.length = devices.length

/-- The rows of a join that went through, each read of what is built of the message. -/
theorem joinRows_built {content : Value} {deviceID : String} {s s' : State}
    (hexact : JoinExact srv content deviceID)
    (h : perform srv faults (joinRows content deviceID) s = (.ok (), s')) :
    ∃ vs us relay built built' neighbors devices, (∃ v, relayText v = .ok relay) ∧
      neighborsOf content = .ok vs ∧ uniqueCodesOf content = .ok us ∧
      vs.mapM (neighborRow deviceID) = .ok built ∧
      us.mapM (deviceRow "NULL" deviceID relay) = .ok built' ∧
      List.Forall₂ (fun row r => readTexts row = some r) built neighbors ∧
      List.Forall₂ (fun row r => readTexts row = some r) built' devices ∧
      s'.conn = s.conn ++ neighbors.map (Change.insert .Neighbor) ++
        devices.map (Change.insert .Device) := by
  obtain ⟨relay, _, hrelay, h⟩ := perform_bind_eq_ok.mp h
  obtain ⟨relay', _, hrelay', h⟩ := perform_bind_eq_ok.mp h
  obtain ⟨vs, _, hvs, h⟩ := perform_bind_eq_ok.mp h
  obtain ⟨_, s1, hneighbors, h⟩ := perform_bind_eq_ok.mp h
  obtain ⟨us, _, hus, hdevices⟩ := perform_bind_eq_ok.mp h
  rw [perform_lift] at hrelay hrelay' hvs hus
  obtain ⟨_, rfl⟩ := Prod.mk.inj hrelay
  obtain ⟨htext, rfl⟩ := Prod.mk.inj hrelay'
  obtain ⟨hlist, rfl⟩ := Prod.mk.inj hvs
  obtain ⟨hcodes, rfl⟩ := Prod.mk.inj hus
  obtain ⟨built, neighbors, hn, hread, hconn⟩ := insertAll_ok (hexact.neighbors vs hlist) hneighbors
  obtain ⟨built', devices, hd, hread', hconn'⟩ := insertAll_ok (fun v hv row hrow =>
    hexact.interfaces us hcodes v hv relay' row (plain_relayText htext) hrow) hdevices
  exact ⟨vs, us, relay', built, built', neighbors, devices, ⟨relay, htext⟩, hlist, hcodes, hn, hd,
    hread, hread', by rw [hconn', hconn]⟩

/-- Rows that are read carry what the built ones do. -/
theorem carries_of_read {deviceID : String} {built read : List Row} (hid : Plain deviceID)
    (hbuilt : ∀ row ∈ built, Carries deviceID row)
    (h : List.Forall₂ (fun row r => readTexts row = some r) built read) :
    ∀ r ∈ read, Carries deviceID r := by
  induction h with
  | nil => simp
  | cons hread _ ih =>
    obtain ⟨hfirst, hrest⟩ := List.forall_mem_cons.mp hbuilt
    exact List.forall_mem_cons.mpr ⟨hfirst.read hid hread, ih hrest⟩

theorem joinRows_ok {content : Value} {deviceID : String} {s s' : State} (hid : Plain deviceID)
    (hunbroken : JoinUnbroken content)
    (h : perform srv faults (joinRows content deviceID) s = (.ok (), s')) :
    ∃ neighbors devices, JoinRows content deviceID neighbors devices ∧
      s'.conn = s.conn ++ neighbors.map (Change.insert .Neighbor) ++
        devices.map (Change.insert .Device) := by
  obtain ⟨vs, us, relay, built, built', neighbors, devices, _, hlist, hcodes, hn, hd, hread,
    hread', hconn⟩ := joinRows_built (hunbroken.exact hid) h
  refine ⟨neighbors, devices, ⟨carries_of_read hid ?_ hread, carries_of_read hid ?_ hread',
    ⟨vs, hlist, ?_⟩, us, hcodes, ?_⟩, hconn⟩
  · intro row hrow
    obtain ⟨v, _, hv⟩ := Except.mem_mapM hn hrow
    exact carries_neighborRow hv
  · intro row hrow
    obtain ⟨v, _, hv⟩ := Except.mem_mapM hd hrow
    exact carries_deviceRow hv
  · rw [← hread.length_eq, Except.length_mapM hn]
  · rw [← hread'.length_eq, Except.length_mapM hd]

/-- The next ID is a number. -/
theorem plain_nextID (n : Option Int) : Plain (nextID n) := by
  cases n with
  | none => exact (by decide : Plain "1")
  | some n => exact plain_toString_int (n + 1)

/-- The rows behind the commit of a join. -/
theorem commit_join {s : State} {neighbors devices : List Row}
    (hconn : s.conn =
      neighbors.map (Change.insert .Neighbor) ++ devices.map (Change.insert .Device))
    (e : Event) : ((s.tick.commit srv).shown e).world.rows = s.world.rows ++
      (neighbors.map fun r => (Table.Neighbor, r)) ++ devices.map fun r => (Table.Device, r) := by
  have hview : ((s.tick.commit srv).shown e).world.rows = applyAll srv s.conn s.world.rows := rfl
  rw [hview, hconn, applyAll_append, applyAll_inserts, applyAll_inserts]

/-- **What a join does to the rows**, if its texts do not break their literals. -/
theorem join_rows (srv : Server) (faults : Faults) (w : World)
    (hunbroken : ∀ content, py.loads js = .ok content → JoinUnbroken content) :
    (handle srv faults py .Join js w).2.world.rows = w.rows ∨
    ∃ content neighbors devices, py.loads js = .ok content ∧
      JoinRows content (nextID (maxDevice srv w)) neighbors devices ∧
      (handle srv faults py .Join js w).2.world.rows = w.rows ++
        (neighbors.map fun r => (Table.Neighbor, r)) ++ devices.map fun r => (Table.Device, r) := by
  rw [handle_eq]
  cases hjs : py.loads js with
  | error e => exact Or.inl rfl
  | ok content =>
    rcases joinTry_cases srv faults content (start w) with ⟨e, s', hfail, hkept⟩ |
      ⟨s', hrows, hkept, hdone⟩
    · simp only [join_error hfail]
      exact Or.inl hkept.rows
    · obtain ⟨neighbors, devices, hjoin, hconn⟩ :=
        joinRows_ok (plain_nextID _) (hunbroken content hjs) hrows
      refine Or.inr ⟨content, neighbors, devices, rfl, hjoin, ?_⟩
      have hw : s'.world.rows = w.rows := hkept.rows
      simp only [join_ok hdone]
      rw [commit_join hconn, hw]

/-- A join is answered with error 0 and this ID. -/
def Joined (log : List Event) (deviceID : String) : Prop :=
  ∃ payload ∈ acks .Join log, errorOf payload = some 0 ∧ idOf payload = some deviceID

/-- A join that is answered with error 0 is answered with the next ID. -/
theorem join_answer {deviceID : String}
    (h : Joined (handle srv faults py .Join js w).2.log deviceID) :
    deviceID = nextID (maxDevice srv w) := by
  obtain ⟨payload, hmem, hzero, hid⟩ := h
  rw [handle_eq] at hmem
  cases hjs : py.loads js with
  | error e => rw [hjs] at hmem; exact absurd hmem (by simp [start, acks])
  | ok content =>
    simp only [hjs] at hmem
    rcases joinTry_cases srv faults content (start w) with ⟨e, s', hfail, hkept⟩ |
      ⟨s', _, hkept, hdone⟩
    · have hlog : s'.log = [] := hkept.log
      have hone : payload = joinAnswer 1 e.2 := by
        simpa [join_error hfail, State.shown, hlog, acks, Message.ack] using hmem
      rw [hone] at hzero
      exact absurd hzero (by simp)
    · have hlog : s'.log = [] := hkept.log
      have hpayload : payload = joinAnswer 0 (nextID (maxDevice srv (start w).world)) := by
        simpa [join_ok hdone, State.shown, State.commit, State.tick, hlog, acks, Message.ack]
          using hmem
      rw [hpayload, idOf_joinAnswer] at hid
      exact (Option.some.inj hid).symm

/-! ## Update, Request and Leave -/

/-- A program that starts with nothing open and only adds rows in `P`. -/
theorem rows_of_adds {P : Table × Row → Prop} {ε α : Type} {p : Prog Act Act.Res ε α}
    (hp : Prog.Only (Act.adds srv P) p) {s : State} (hconn : s.conn = []) :
    ∃ new, (perform srv faults p s).2.world.rows = s.world.rows ++ new ∧ ∀ e ∈ new, P e :=
  (keeps_grows srv faults hp s (by simp [hconn])).2

theorem only_addColumns {P : Act → Prop} (halter : ∀ n, P (.execute (.alter n))) (n count : Nat) :
    Prog.Only P (addColumns n count) := by
  induction count generalizing n with
  | zero => trivial
  | succ count ih => exact Prog.only_bind (only_execute (halter n)) fun _ => ih (n + 1)

/-- The inserts of one service are its row under some number. -/
theorem only_updateService {P : Act → Prop} {deviceID : String} {v : Value} (hmanage : P .manage)
    (halter : ∀ n, P (.execute (.alter n))) (hinsert : ∀ manageNum row,
      InsertedAs deviceID manageNum v row → P (.execute (.insert .Service row)))
    (attrs : Nat) : Prog.Only P (updateService deviceID attrs v) := by
  refine Prog.only_lift_bind fun t ht => ?_
  have honly : Prog.Only P (genServiceID t) :=
    Prog.only_bind (only_nextManageNum hmanage) fun _ => Prog.only_lift _
  have hyields : Prog.Yields (fun id => ∃ manageNum, serviceIDOf manageNum t = .ok id)
      (genServiceID t) := Prog.yields_rest fun manageNum =>
    Prog.yields_lift fun _ hid => ⟨manageNum, hid⟩
  refine Prog.only_bind_yields honly hyields fun id hsome => ?_
  obtain ⟨manageNum, hid⟩ := hsome
  refine Prog.only_lift_bind fun a ha => ?_
  refine Prog.only_lift_bind fun _ _ => ?_
  refine Prog.only_bind (only_addColumns halter _ _) fun _ => ?_
  refine Prog.only_lift_bind fun texts htexts => ?_
  refine Prog.only_lift_bind fun serviceID hserviceID => ?_
  refine Prog.only_lift_bind fun serviceType hserviceType => ?_
  obtain rfl := Value.asStr_eq_ok.mp hserviceID
  obtain rfl := Value.asStr_eq_ok.mp hserviceType
  exact only_execute (hinsert manageNum _ (insertedAs_of_id ht hid ha htexts))

theorem only_updateRows {P : Act → Prop} {content : Value} {deviceID : String}
    (hcount : P (.execute .columnCount)) (hmanage : P .manage)
    (halter : ∀ n, P (.execute (.alter n))) (hinsert : ∀ a vs, content.get "services" = .ok a →
      a.iter = .ok vs → ∀ v ∈ vs, ∀ manageNum row, InsertedAs deviceID manageNum v row →
        P (.execute (.insert .Service row))) :
    Prog.Only P (updateRows content deviceID) := by
  refine Prog.only_lift_bind fun a ha => ?_
  refine Prog.only_bind (only_execute hcount) fun columns => ?_
  refine Prog.only_lift_bind fun vs hvs => ?_
  have hservices := hinsert a vs ha hvs
  clear hvs
  induction vs with
  | nil => trivial
  | cons v vs ih =>
    obtain ⟨hfirst, hrest⟩ := List.forall_mem_cons.mp hservices
    exact Prog.only_bind (only_updateService hmanage halter hfirst _) fun _ => ih hrest

theorem unbroken_serviceRow {serviceID deviceID serviceType : String} {texts : List String}
    (hserviceID : Plain serviceID) (hid : Plain deviceID) (htype : Unbroken serviceType)
    (htexts : ∀ text ∈ texts, Unbroken text) :
    ∀ c ∈ serviceRow serviceID deviceID serviceType texts, Unbroken c.2 := by
  intro c hc
  rcases List.mem_append.mp hc with hc | hc
  · simp only [List.mem_cons, List.not_mem_nil, or_false] at hc
    rcases hc with rfl | rfl | rfl
    · exact hserviceID.unbroken
    · exact hid.unbroken
    · exact htype
  · obtain ⟨i, hi, rfl⟩ := List.mem_mapIdx.mp hc
    exact htexts _ (List.getElem_mem hi)

/-- The texts of a service that is inserted. -/
theorem ServiceUnbroken.row {deviceID : String} {manageNum : Nat} {v : Value} {row : Row}
    (hid : Plain deviceID) (h : ServiceUnbroken v) (hrow : InsertedAs deviceID manageNum v row) :
    ∀ c ∈ row, Unbroken c.2 := by
  obtain ⟨t, digits, a, texts, ht, hdigits, ha, hitems, rfl⟩ := hrow
  exact unbroken_serviceRow (plain_serviceID hdigits manageNum) hid
    (h.serviceType "serviceType" (by simp) t ht) (h.attributes a texts ha hitems)

/-- A service under an ID of digits, which carries its device. -/
structure ServiceOf (deviceID : String) (row : Row) : Prop where
  carries : Carries deviceID row
  serviceID : ∀ text, Row.cell row "serviceID" = some text → Plain text

/-- Such a service is stored. -/
theorem serviceOf_read {deviceID : String} {manageNum : Nat} {v : Value} {row r : Row}
    (hid : Plain deviceID) (hrow : InsertedAs deviceID manageNum v row)
    (hread : readTexts row = some r) : ServiceOf deviceID r := by
  obtain ⟨t, digits, _, texts, _, hdigits, _, _, rfl⟩ := hrow
  have hcarries : Carries deviceID
      (serviceRow (digits.1 ++ manageStr manageNum ++ digits.2) deviceID t texts) := rfl
  refine ⟨hcarries.read hid hread, fun text htext => ?_⟩
  have hplain := plain_serviceID hdigits manageNum
  have hvalue : (Dict.get (serviceRow (digits.1 ++ manageStr manageNum ++ digits.2) deviceID t
      texts) "serviceID").bind readText = some text := (readTexts_get hread _).symm.trans htext
  obtain rfl : digits.1 ++ manageStr manageNum ++ digits.2 = text :=
    Option.some.inj ((readText_plain hplain).symm.trans hvalue)
  exact hplain

/-- **What an update does to the rows**, whole or torn, if its texts do not break their literals:
it adds services of a registered device. -/
theorem update_rows (srv : Server) (faults : Faults) (w : World)
    (hunbroken : ∀ content, py.loads js = .ok content → UpdateUnbroken content) :
    ∃ new, (handle srv faults py .Update js w).2.world.rows = w.rows ++ new ∧
      ∀ e ∈ new, e.1 = .Service ∧ ∃ n : Int, ServiceOf (toString n) e.2 ∧
        Registered srv w (toString n) := by
  rw [handle_eq]
  cases hjs : py.loads js with
  | error e => exact ⟨[], by simp [start], by simp⟩
  | ok content =>
    have hbody : ∃ new, (perform srv faults (updateBody content) (start w)).2.world.rows =
        w.rows ++ new ∧ ∀ e ∈ new, e.1 = .Service ∧ ∃ n : Int, ServiceOf (toString n) e.2 ∧
          Registered srv w (toString n) := by
      rw [updateBody, perform_bind]
      rcases findDevice_cases srv faults content (start w) with ⟨e, s', hfind, hquiet⟩ |
        ⟨deviceID, hd, hfind⟩
      · rw [hfind]
        exact ⟨[], by simp [hquiet.rows, start], by simp⟩
      · rw [hfind]
        by_cases hreg : Registered srv w deviceID
        · have hne : rowsOfDevice srv (start w).world deviceID ≠ 0 :=
            fun hzero => rowsOfDevice_eq_zero.mp hzero hreg
          obtain ⟨v, _, hd⟩ := Except.bind_eq_ok.mp hd
          obtain ⟨n, _, hn⟩ := Except.bind_eq_ok.mp hd
          obtain rfl := Except.pure_eq_ok.mp hn
          have hid : Plain (toString n) := plain_toString_int n
          simp only [if_neg hne]
          refine rows_of_adds ?_ rfl
          refine Prog.only_bind (only_updateRows trivial trivial (fun _ => trivial) ?_) fun _ => ?_
          · intro a vs ha hvs v hv manageNum row hrow
            exact adds_of_exact
              (exact_of_unbroken ((hunbroken content hjs a vs ha hvs v hv).row hid hrow))
              fun r hread => ⟨rfl, n, serviceOf_read hid hrow hread, hreg⟩
          · refine Prog.only_bind (only_commit trivial) fun _ => ?_
            exact Prog.only_bind (only_emit trivial) fun _ => trivial
        · have hzero : rowsOfDevice srv (start w).world deviceID = 0 :=
            rowsOfDevice_eq_zero.mpr hreg
          simp only [hzero]
          exact ⟨[], by simp [start, State.tick, State.opened], by simp⟩
    rcases hexec : perform srv faults (updateBody content) (start w) with ⟨r, s'⟩
    rw [hexec] at hbody
    cases r with
    | ok v =>
      simp only [update_ok hexec]
      exact hbody
    | error e =>
      simp only [update_error hexec]
      exact hbody

/-- What a request adds is in its own two tables. -/
theorem request_adds (srv : Server) (faults : Faults) (py : Interpreter) (js : String)
    (w : World) : ∃ new, (handle srv faults py .Request js w).2.world.rows = w.rows ++ new ∧
      ∀ e ∈ new, e.1 = .Request ∨ e.1 = .QosRequirement := by
  rw [handle_eq]
  cases hjs : py.loads js with
  | error e => exact ⟨[], by simp [start], by simp⟩
  | ok content =>
    refine rows_of_adds ?_ rfl
    refine Prog.only_bind ?_ fun _ => trivial
    refine Prog.only_tryExcept ?_ fun _ => only_emit trivial
    refine Prog.only_bind (only_requestRows trivial trivial trivial ?_ ?_) fun _ => ?_
    · intro requestID deviceID serviceID _ rows new _ r _
      exact Or.inl rfl
    · intro row rows new _ r _
      exact Or.inr rfl
    · refine Prog.only_bind (only_commit trivial) fun _ => ?_
      refine Prog.only_bind ?_ fun _ => only_emit trivial
      generalize matching _ = results
      induction results with
      | nil => trivial
      | cons r results ih => exact Prog.only_bind (only_emit trivial) fun _ => ih

/-- The largest of some texts is one of them. -/
theorem maxText_mem {texts : List String} {text : String} (h : maxText texts = some text) :
    text ∈ texts := by
  cases texts with
  | nil => exact absurd h (by simp [maxText])
  | cons a as =>
    have hfold : ∀ (as : List String) (a : String),
        as.foldl (fun a b => if a < b then b else a) a ∈ a :: as := by
      intro as
      induction as with
      | nil => simp
      | cons b as ih =>
        intro a
        rw [List.foldl_cons]
        rcases List.mem_cons.mp (ih (if a < b then b else a)) with hhead | htail
        · rw [hhead]
          split <;> simp
        · exact List.mem_cons_of_mem _ (List.mem_cons_of_mem _ htail)
    obtain rfl := Option.some.inj h
    exact hfold as a

theorem anyService_ok {serviceID : String} {s s' : State}
    (h : perform srv faults anyService s = (.ok serviceID, s')) :
    serviceID ∈ Rows.cells (s.view srv) .Service "serviceID" ∧ s' = s.tick := by
  obtain ⟨found, s1, hmax, h⟩ := perform_bind_eq_ok.mp h
  obtain ⟨hfound, rfl⟩ := Prod.mk.inj (execute_ok hmax)
  cases found with
  | none => exact absurd (congrArg Prod.fst h) (by simp)
  | some text =>
    obtain ⟨htext, rfl⟩ := Prod.mk.inj h
    obtain rfl : text = serviceID := Except.ok.inj htext
    exact ⟨maxText_mem (Except.ok.inj hfound), rfl⟩

/-- A sequence whose first part is a computation. -/
theorem perform_lift_bind_ok {α β : Type} {x : Except Exc α} {f : α → Handler β} {s s' : State}
    {b : β} (h : perform srv faults ((liftM x : Handler α) >>= f) s = (.ok b, s')) :
    ∃ a, x = .ok a ∧ perform srv faults (f a) s = (.ok b, s') := by
  obtain ⟨a, s1, hx, h⟩ := perform_bind_eq_ok.mp h
  rw [perform_lift] at hx
  obtain ⟨hvalue, rfl⟩ := Prod.mk.inj hx
  exact ⟨a, hvalue, h⟩

/-- The rows of a request that went through: what its own row is read as, and requirements. -/
theorem requestRows_ok {content : Value} {serviceType : String} {s s' : State}
    (h : perform srv faults (requestRows content) s = (.ok serviceType, s')) :
    ∃ requestID deviceID serviceID new, Plain requestID ∧ requesterOf content = .ok deviceID ∧
      serviceID ∈ Rows.cells s.world.rows .Service "serviceID" ∧
      (∃ rows, srv.reads rows .Request
        [("requestID", requestID), ("deviceID", deviceID), ("serviceID", serviceID)] = .ok new) ∧
      ∀ c ∈ s'.conn, c.Adds fun e =>
        e.1 = .QosRequirement ∨ (e.1 = .Request ∧ e.2 ∈ new) := by
  obtain ⟨_, s1, hconnect, h⟩ := perform_bind_eq_ok.mp h
  obtain ⟨maxID, s2, hmax, h⟩ := perform_bind_eq_ok.mp h
  obtain ⟨serviceID, s3, hservice, h⟩ := perform_bind_eq_ok.mp h
  obtain ⟨deviceID, hdevice, h⟩ := perform_lift_bind_ok h
  obtain ⟨_, _, h⟩ := perform_lift_bind_ok h
  obtain ⟨_, _, h⟩ := perform_lift_bind_ok h
  obtain ⟨_, _, h⟩ := perform_lift_bind_ok h
  obtain ⟨_, _, h⟩ := perform_lift_bind_ok h
  obtain ⟨_, _, h⟩ := perform_lift_bind_ok h
  obtain ⟨_, s4, hins, h⟩ := perform_bind_eq_ok.mp h
  obtain ⟨qos, _, h⟩ := perform_lift_bind_ok h
  obtain ⟨_, s5, hqos, hend⟩ := perform_bind_eq_ok.mp h
  obtain rfl : s5 = s' := (Prod.mk.inj hend).2
  obtain rfl := connect_ok hconnect
  obtain ⟨_, rfl⟩ := Prod.mk.inj (execute_ok hmax)
  obtain ⟨hmem, rfl⟩ := anyService_ok hservice
  refine ⟨nextID maxID, deviceID, serviceID, ?_⟩
  rcases eval_insert_cases srv .Request [("requestID", nextID maxID), ("deviceID", deviceID),
    ("serviceID", serviceID)] s.tick.opened.tick.tick.tick with ⟨code, heval⟩ |
    ⟨new, hreads, _, heval⟩
  · exact absurd ((execute_ok hins).symm.trans heval) (by simp)
  · have hpush := (Prod.mk.inj ((execute_ok hins).symm.trans heval)).2
    refine ⟨new, plain_nextID _, hdevice, hmem, ⟨_, hreads⟩, ?_⟩
    -- the requirements come behind the row of the request
    have hgrows := keeps_grows srv faults (P := fun e =>
      e.1 = .QosRequirement ∨ (e.1 = .Request ∧ e.2 ∈ new)) (only_insertAll fun v _ row _ rows
        new' _ r _ => Or.inl rfl : Prog.Only _ (insertAll .QosRequirement
          (requirementRow (nextID maxID)) qos)) s4
    rw [hqos] at hgrows
    refine (hgrows fun c hc => ?_).1
    rw [hpush] at hc
    obtain ⟨r, hr, rfl⟩ := List.mem_map.mp
      (by simpa [State.push, State.tick, State.opened] using hc)
    exact Or.inr ⟨rfl, hr⟩

/-- **What a request does to the rows**, if the service and the device it names do not break their
literals: it adds one that carries what the device is read as, and requirements. -/
theorem request_rows (srv : Server) (faults : Faults) (w : World)
    (hservices : ∀ text ∈ Rows.cells w.rows .Service "serviceID", Unbroken text)
    (hunbroken : ∀ content deviceID, py.loads js = .ok content →
      requesterOf content = .ok deviceID → Unbroken deviceID) :
    ∃ new, (handle srv faults py .Request js w).2.world.rows = w.rows ++ new ∧
      ∀ e ∈ new, e.1 = .QosRequirement ∨ (e.1 = .Request ∧ ∃ content deviceID value,
        py.loads js = .ok content ∧ requesterOf content = .ok deviceID ∧
          readText deviceID = some value ∧ Carries value e.2) := by
  rw [handle_eq]
  cases hjs : py.loads js with
  | error e => exact ⟨[], by simp [start], by simp⟩
  | ok content =>
    have hquiet : Prog.Only Act.quiet (requestRows content) :=
      only_requestRows trivial trivial trivial (fun _ _ _ _ => trivial) fun _ => trivial
    have hdecoded : decoded .Request content =
        tryAnswer .Request (requestBody content) fun _ => answerOf 1 := rfl
    simp only [hdecoded]
    rcases transaction_cases (fun serviceType => do
        sendMatching (matching serviceType)
        emit "Rack" (answerOf 0)) (keeps_quiet srv faults hquiet (start w)).toKept with
      ⟨e, s', hrun, hkept⟩ | ⟨serviceType, s', hwork, hkept, hrun⟩
    · have hbody : perform srv faults (requestBody content) (start w) = (.error e, s') := hrun
      rw [tryAnswer_error hbody]
      exact ⟨[], hkept.rows.trans (List.append_nil _).symm, by simp⟩
    · obtain ⟨requestID, deviceID, serviceID, new, hrequestID, hd, hmem, ⟨rows, hreads⟩, hconn⟩ :=
        requestRows_ok hwork
      have hread : ∀ r ∈ new, ∃ value, readText deviceID = some value ∧ Carries value r := by
        obtain ⟨value, hvalue⟩ := hunbroken content deviceID hjs hd
        intro r hr
        have hdevice : Unbroken deviceID := ⟨value, hvalue⟩
        have hexact : srv.Exact .Request [("requestID", requestID), ("deviceID", deviceID),
            ("serviceID", serviceID)] :=
          exact_of_unbroken (by simp [hrequestID.unbroken, hservices serviceID hmem, hdevice])
        obtain ⟨r', hr', rfl⟩ := hexact rows new hreads
        obtain rfl := List.mem_singleton.mp hr
        refine ⟨value, hvalue, ?_⟩
        rw [Carries, Row.cell, readTexts_get hr']
        exact hvalue
      obtain ⟨added, hview, hadded, _⟩ := applyAll_adds srv hconn s'.world.rows
      have hw : s'.world.rows = w.rows := hkept.rows
      have hend : perform srv faults (do
          sendMatching (matching serviceType)
          emit "Rack" (answerOf 0)) (s'.tick.commit srv) = _ :=
        (perform_bind_ok (perform_sendMatching _ _)).trans (perform_emit _ _ _)
      have hbody : perform srv faults (requestBody content) (start w) = _ := hrun.trans hend
      rw [tryAnswer_ok hbody]
      refine ⟨added, hview.trans (by rw [hw]), fun e he => ?_⟩
      refine (hadded e he).imp_right fun hcase => ⟨hcase.1, content, deviceID, ?_⟩
      obtain ⟨value, hvalue, hcarries⟩ := hread e.2 hcase.2
      exact ⟨value, rfl, hd, hvalue, hcarries⟩

/-- What a leave that goes through deletes. -/
def left (srv : Server) (deviceID : String) (rows : Rows) : Rows :=
  applyAll srv [.delete .Device deviceID, .delete .Service deviceID, .delete .Neighbor deviceID]
    rows

theorem leaveRows_ok {content : Value} {s s' : State}
    (h : perform srv faults (leaveRows content) s = (.ok (), s')) : ∃ deviceID,
      deviceIDOf content = .ok deviceID ∧ s'.conn = [.delete .Device deviceID,
        .delete .Service deviceID, .delete .Neighbor deviceID] := by
  obtain ⟨deviceID, s0, hd, h⟩ := perform_bind_eq_ok.mp h
  obtain ⟨_, s1, hconnect, h⟩ := perform_bind_eq_ok.mp h
  obtain ⟨_, s2, h2, h⟩ := perform_bind_eq_ok.mp h
  obtain ⟨_, s3, h3, h4⟩ := perform_bind_eq_ok.mp h
  rw [perform_lift] at hd
  have hopened : s1.conn = [] := by
    rw [connect_ok hconnect]
    rfl
  refine ⟨deviceID, (Prod.mk.inj hd).1, ?_⟩
  rw [delete_ok h4, delete_ok h3, delete_ok h2, hopened]
  rfl

/-- **What a leave does to the rows.** -/
theorem leave_rows (srv : Server) (faults : Faults) (py : Interpreter) (js : String)
    (w : World) : (handle srv faults py .Leave js w).2.world.rows = w.rows ∨
    ∃ content deviceID, py.loads js = .ok content ∧ deviceIDOf content = .ok deviceID ∧
      (handle srv faults py .Leave js w).2.world.rows = left srv deviceID w.rows := by
  rw [handle_eq]
  cases hjs : py.loads js with
  | error e => exact Or.inl rfl
  | ok content =>
    have hquiet : Prog.Only Act.quiet (leaveRows content) :=
      only_leaveRows trivial fun _ _ _ => trivial
    have hdecoded : decoded .Leave content =
        tryAnswer .Leave (leaveBody content) fun _ => answerOf 1 := rfl
    simp only [hdecoded]
    rcases transaction_cases (fun _ => emit "Lack" (answerOf 0))
      (keeps_quiet srv faults hquiet (start w)).toKept with ⟨e, s', hrun, hkept⟩ |
      ⟨_, s', hwork, hkept, hrun⟩
    · have hbody : perform srv faults (leaveBody content) (start w) = (.error e, s') := hrun
      rw [tryAnswer_error hbody]
      exact Or.inl hkept.rows
    · have hbody : perform srv faults (leaveBody content) (start w) = _ :=
        hrun.trans (perform_emit _ _ _)
      obtain ⟨deviceID, hd, hconn⟩ := leaveRows_ok hwork
      refine Or.inr ⟨content, deviceID, rfl, hd, ?_⟩
      have hw : s'.world.rows = w.rows := hkept.rows
      have hview : (s'.tick.commit srv).world.rows = applyAll srv s'.conn s'.world.rows := rfl
      rw [tryAnswer_ok hbody]
      exact hview.trans (by rw [hconn, hw, left])

end Versatile.ResolverPer
