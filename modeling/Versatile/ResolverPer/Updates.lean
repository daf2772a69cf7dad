import Versatile.ResolverPer.Outcome

/-!
# Updates, and where they split

`Update` adds columns inside its loop, and adding one commits what is open and gives every service
there is one more text. A service `Widens` the table if it has more attributes than there were
columns when the loop began. So an update `Splits` exactly when it comes to a service that widens
while the table has services, stored before or inserted by the loop itself. An update that does not
split keeps what is stored until its own commit.
-/

namespace Versatile.ResolverPer

open Py Diversity

variable {srv : Server} {faults : Faults}

/-- The loop adds columns for this service. -/
def Widens (attrs : Nat) (service : Value) : Prop :=
  ∃ serviceType attributes length, service.get "serviceType" = .ok serviceType ∧
    serviceType.isStr "ImageTransfer" = false ∧ service.get "attributes" = .ok attributes ∧
    attributes.len = .ok length ∧ attrs < length

/-- The texts the service is inserted with under a number: it is of a known type and has texts for
attributes. -/
def InsertedAs (deviceID : String) (manageNum : Nat) (service : Value) (row : Row) : Prop :=
  ∃ serviceType digits attributes texts, service.get "serviceType" = .ok (.str serviceType) ∧
    serviceDigits serviceType = some digits ∧ service.get "attributes" = .ok attributes ∧
    attributes.items = .ok texts ∧
    row = serviceRow (digits.1 ++ manageStr manageNum ++ digits.2) deviceID serviceType texts

/-- The loop comes to a service that widens the table while there are services among these rows:
the ones in front are inserted, each as the rows the server reads its texts as. -/
def Splits (srv : Server) (deviceID : String) (attrs : Nat) : Nat → Rows → List Value → Prop
  | _, _, [] => False
  | manageNum, rows, v :: vs => (HasService rows ∧ Widens attrs v) ∨
      ∃ row new, InsertedAs deviceID (manageNum + 1) v row ∧ srv.reads rows .Service row = .ok new ∧
        Splits srv deviceID attrs (manageNum + 1) (rows ++ new.map fun r => (.Service, r)) vs

/-! ## One service -/

/-- **The three kinds of service types**: one whose branch raises, the known ones, whose ID is
a text, and all others, whose ID is a number. -/
theorem serviceIDOf_cases (manageNum : Nat) (serviceType : Value) :
    (serviceType.isStr "ImageTransfer" = true ∧ ∃ e, serviceIDOf manageNum serviceType = .error e) ∨
    (serviceType.isStr "ImageTransfer" = false ∧ ∃ t digits, serviceType = .str t ∧
      serviceDigits t = some digits ∧ serviceIDOf manageNum serviceType =
        .ok (.str (digits.1 ++ manageStr manageNum ++ digits.2))) ∨
    (serviceType.isStr "ImageTransfer" = false ∧
      (∀ t, serviceType = .str t → serviceDigits t = none) ∧
      serviceIDOf manageNum serviceType = .ok (.int 1)) := by
  cases serviceType with
  | str t =>
    by_cases himage : t = "ImageTransfer"
    · subst himage
      exact Or.inl ⟨rfl, _, rfl⟩
    · have hne : (Value.str t).isStr "ImageTransfer" = false := by simp [Value.isStr, himage]
      cases hdigits : serviceDigits t with
      | some digits =>
        refine Or.inr (Or.inl ⟨hne, t, digits, rfl, hdigits, ?_⟩)
        rw [serviceIDOf, hdigits]
        exact himage
      | none =>
        refine Or.inr (Or.inr ⟨hne, ?_, ?_⟩)
        · intro t' heq
          obtain rfl := Value.str.inj heq
          exact hdigits
        · rw [serviceIDOf, hdigits]
          exact himage
  | _ => exact Or.inr (Or.inr ⟨rfl, by simp, rfl⟩)

/-- A known type has an ID. -/
theorem serviceIDOf_known {manageNum : Nat} {t : String} {digits : String × String}
    (h : serviceDigits t = some digits) :
    serviceIDOf manageNum (.str t) = .ok (.str (digits.1 ++ manageStr manageNum ++ digits.2)) := by
  rcases serviceIDOf_cases manageNum (.str t) with ⟨himage, _⟩ | ⟨_, t', digits', ht, hd, hid⟩ |
    ⟨_, hnone, _⟩
  · obtain rfl : t = "ImageTransfer" := by simpa [Value.isStr] using himage
    exact absurd h (by simp [serviceDigits])
  · obtain rfl := Value.str.inj ht
    obtain rfl : digits' = digits := Option.some.inj (hd.symm.trans h)
    exact hid
  · exact absurd ((hnone t rfl).symm.trans h) (by simp)

/-- A management number is a text of digits. -/
theorem plain_manageStr (manageNum : Nat) : Plain (manageStr manageNum) := by
  refine plain_of_digits fun c hc => Or.inl ?_
  rw [manageStr, String.toList_ofList] at hc
  rcases List.mem_append.mp hc with hc | hc
  · rw [List.eq_of_mem_replicate hc]
    decide
  · exact Nat.isDigit_of_mem_toDigits (by decide) (by decide) hc

/-- Its ID is a text of digits. -/
theorem plain_serviceID {t : String} {digits : String × String} (h : serviceDigits t = some digits)
    (manageNum : Nat) : Plain (digits.1 ++ manageStr manageNum ++ digits.2) := by
  have hdigits : Plain digits.1 ∧ Plain digits.2 := by
    unfold serviceDigits at h
    split at h
    case h_11 => exact absurd h (by simp)
    all_goals
      obtain rfl := Option.some.inj h
      decide
  exact Plain.append (Plain.append hdigits.1 (plain_manageStr manageNum)) hdigits.2

/-- A type without an ID is the one whose branch raises. -/
theorem isStr_of_noID {manageNum : Nat} {t : Value} {e : Exc}
    (h : serviceIDOf manageNum t = .error e) : t.isStr "ImageTransfer" = true := by
  rcases serviceIDOf_cases manageNum t with h' | ⟨_, _, _, _, _, h'⟩ | ⟨_, _, h'⟩
  · exact h'.1
  · exact absurd (h.symm.trans h') (by simp)
  · exact absurd (h.symm.trans h') (by simp)

/-- A type with an ID is not. -/
theorem isStr_of_hasID {manageNum : Nat} {t id : Value} (h : serviceIDOf manageNum t = .ok id) :
    t.isStr "ImageTransfer" = false := by
  rcases serviceIDOf_cases manageNum t with ⟨_, e, h'⟩ | ⟨h', _⟩ | ⟨h', _⟩
  · exact absurd (h.symm.trans h') (by simp)
  · exact h'
  · exact h'

/-- There is no column to add for a service that does not widen. -/
theorem no_columns {manageNum attrs n : Nat} {v t id a : Value} (hwidens : ¬ Widens attrs v)
    (ht : v.get "serviceType" = .ok t) (hid : serviceIDOf manageNum t = .ok id)
    (ha : v.get "attributes" = .ok a) (hn : a.len = .ok n) : n - attrs = 0 := by
  by_contra hlt
  exact hwidens ⟨t, a, n, ht, isStr_of_hasID hid, ha, hn, by omega⟩

/-- **One round of the loop**: it stops before it has asked the database for anything, or goes on
to the columns. -/
theorem updateService_cases (srv : Server) (faults : Faults) (deviceID : String) (attrs : Nat)
    (v : Value) (s : State) :
    (∃ e s0, (s0 = s ∨ s0 = s.manage) ∧
      perform srv faults (updateService deviceID attrs v) s = (.error e, s0) ∧
      ¬ Widens attrs v ∧ ∀ manageNum row, ¬ InsertedAs deviceID manageNum v row) ∨
    ∃ t id a n, v.get "serviceType" = .ok t ∧ serviceIDOf (s.world.manageNum + 1) t = .ok id ∧
      v.get "attributes" = .ok a ∧ a.len = .ok n ∧
      perform srv faults (updateService deviceID attrs v) s =
        perform srv faults (addColumns (attrs + 1) (n - attrs) >>= fun _ =>
          insertService deviceID id t a) s.manage := by
  rw [updateService, perform_bind, perform_lift]
  cases ht : v.get "serviceType" with
  | error e =>
    refine Or.inl ⟨e, s, Or.inl rfl, rfl, ?_, ?_⟩
    · intro hsome
      obtain ⟨t, _, _, hget, _⟩ := hsome
      exact absurd (ht.symm.trans hget) (by simp)
    · intro _ _ hsome
      obtain ⟨t, _, _, _, hget, _⟩ := hsome
      exact absurd (ht.symm.trans hget) (by simp)
  | ok t =>
    simp only [genServiceID, perform_bind, perform_nextManageNum, perform_lift]
    cases hid : serviceIDOf (s.world.manageNum + 1) t with
    | error e =>
      have himage := isStr_of_noID hid
      refine Or.inl ⟨e, s.manage, Or.inr rfl, rfl, ?_, ?_⟩
      · intro hsome
        obtain ⟨t', _, _, hget, hne, _⟩ := hsome
        obtain rfl : t = t' := Except.ok.inj (ht.symm.trans hget)
        exact absurd (himage.symm.trans hne) (by decide)
      · intro _ _ hsome
        obtain ⟨t', digits, _, _, hget, hdigits, _⟩ := hsome
        obtain rfl : t = .str t' := Except.ok.inj (ht.symm.trans hget)
        exact absurd (hid.symm.trans (serviceIDOf_known hdigits)) (by simp)
    | ok id =>
      cases ha : v.get "attributes" with
      | error e =>
        refine Or.inl ⟨e, s.manage, Or.inr rfl, rfl, ?_, ?_⟩
        · intro hsome
          obtain ⟨_, a, _, _, _, hget, _⟩ := hsome
          exact absurd (ha.symm.trans hget) (by simp)
        · intro _ _ hsome
          obtain ⟨_, _, a, _, _, _, hget, _⟩ := hsome
          exact absurd (ha.symm.trans hget) (by simp)
      | ok a =>
        cases hn : a.len with
        | error e =>
          refine Or.inl ⟨e, s.manage, Or.inr rfl, ?_, ?_, ?_⟩
          · simp only [hn]
          · intro hsome
            obtain ⟨_, a', n, _, _, hget, hlen, _⟩ := hsome
            obtain rfl : a = a' := Except.ok.inj (ha.symm.trans hget)
            exact absurd (hn.symm.trans hlen) (by simp)
          · intro _ _ hsome
            obtain ⟨_, _, a', texts, _, _, hget, hitems, _⟩ := hsome
            obtain rfl : a = a' := Except.ok.inj (ha.symm.trans hget)
            exact absurd (hn.symm.trans (Value.len_of_items hitems)) (by simp)
        | ok n => exact Or.inr ⟨t, id, a, n, rfl, hid, rfl, hn, by simp only [hn]⟩

/-- Only columns were added. -/
structure OnlyColumns (s s' : State) : Prop where
  rows : s'.world.rows = s.world.rows
  manageNum : s'.world.manageNum = s.world.manageNum
  conn : s'.conn = s.conn
  log : s'.log = s.log

theorem OnlyColumns.refl (s : State) : OnlyColumns s s := ⟨rfl, rfl, rfl, rfl⟩

theorem OnlyColumns.trans {a b c : State} (h1 : OnlyColumns a b) (h2 : OnlyColumns b c) :
    OnlyColumns a c :=
  ⟨h2.rows.trans h1.rows, h2.manageNum.trans h1.manageNum, h2.conn.trans h1.conn,
    h2.log.trans h1.log⟩

/-- Where there are no services, that changes nothing that is stored. -/
theorem OnlyColumns.kept {s s' : State} (h : OnlyColumns s s')
    (hnone : ¬ HasService s.world.rows) : Kept s s' :=
  ⟨stored_eq_iff.mpr ⟨h.rows, fun hservice => absurd hservice hnone⟩, h.log⟩

/-- **Adding columns with nothing open** changes nothing else. -/
theorem addColumns_only (n count : Nat) {s : State} (h : s.conn = []) :
    OnlyColumns s (perform srv faults (addColumns n count) s).2 := by
  induction count generalizing n s with
  | zero => exact OnlyColumns.refl s
  | succ count ih =>
    have halter : OnlyColumns s (perform srv faults (execute (.alter n)) s).2 := by
      have hopen : s.tick.commitOpen srv = s.tick := by simp [State.commitOpen, State.tick, h]
      rw [perform_execute]
      cases faults s.world.asked with
      | some code => exact ⟨rfl, rfl, rfl, rfl⟩
      | none =>
        simp only [Statement.eval, hopen]
        split <;> exact ⟨rfl, rfl, rfl, rfl⟩
    rw [addColumns, perform_bind]
    rcases hrun : perform srv faults (execute (.alter n)) s with ⟨r, s'⟩
    rw [hrun] at halter
    cases r with
    | error e => exact halter
    | ok _ => exact halter.trans (ih (n + 1) (halter.conn.trans h))

theorem only_insertService {P : Act → Prop} {deviceID : String} {id t a : Value}
    (hinsert : ∀ serviceID serviceType attributes,
      P (.execute (.insert .Service (serviceRow serviceID deviceID serviceType attributes)))) :
    Prog.Only P (insertService deviceID id t a) := by
  refine Prog.only_lift_bind fun _ _ => ?_
  refine Prog.only_lift_bind fun _ _ => ?_
  refine Prog.only_lift_bind fun _ _ => ?_
  exact only_execute (hinsert _ _ _)

/-- What an insertion that went through was made of, and what it left open. -/
theorem insertService_ok {deviceID : String} {id t a : Value} {s s' : State}
    (h : perform srv faults (insertService deviceID id t a) s = (.ok (), s')) :
    ∃ texts serviceID serviceType new, a.items = .ok texts ∧ id = .str serviceID ∧
      t = .str serviceType ∧
      srv.reads (s.view srv) .Service (serviceRow serviceID deviceID serviceType texts) =
        .ok new ∧ s' = s.tick.push (new.map (Change.insert .Service)) := by
  obtain ⟨texts, _, h1, h⟩ := perform_bind_eq_ok.mp h
  obtain ⟨serviceID, _, h2, h⟩ := perform_bind_eq_ok.mp h
  obtain ⟨serviceType, _, h3, h⟩ := perform_bind_eq_ok.mp h
  rw [perform_lift] at h1 h2 h3
  obtain ⟨hitems, rfl⟩ := Prod.mk.inj h1
  obtain ⟨hid, rfl⟩ := Prod.mk.inj h2
  obtain ⟨ht, rfl⟩ := Prod.mk.inj h3
  have heval := execute_ok h
  rcases eval_insert_cases srv .Service (serviceRow serviceID deviceID serviceType texts) s.tick
    with ⟨code, hfail⟩ | ⟨new, hreads, _, hdone⟩
  · exact absurd (hfail.symm.trans heval) (by simp)
  · exact ⟨texts, serviceID, serviceType, new, hitems, Value.asStr_eq_ok.mp hid,
      Value.asStr_eq_ok.mp ht, hreads, (Prod.mk.inj (heval.symm.trans hdone)).2⟩

/-- A service whose type has a text for an ID is one of the known types. -/
theorem insertedAs_of_id {deviceID serviceID serviceType : String} {manageNum : Nat} {v a : Value}
    {texts : List String} (ht : v.get "serviceType" = .ok (.str serviceType))
    (hid : serviceIDOf manageNum (.str serviceType) = .ok (.str serviceID))
    (ha : v.get "attributes" = .ok a) (hitems : a.items = .ok texts) :
    InsertedAs deviceID manageNum v (serviceRow serviceID deviceID serviceType texts) := by
  rcases serviceIDOf_cases manageNum (.str serviceType) with ⟨_, e, herr⟩ |
    ⟨_, t, digits, heq, hdigits, hknown⟩ | ⟨_, _, hone⟩
  · exact absurd (hid.symm.trans herr) (by simp)
  · obtain rfl := Value.str.inj heq
    obtain rfl := Value.str.inj (Except.ok.inj (hid.symm.trans hknown))
    exact ⟨serviceType, digits, a, texts, ht, hdigits, ha, hitems, rfl⟩
  · exact absurd (hid.symm.trans hone) (by simp)

/-- No column is added for the service, or none that matters: nothing is open, and there are no
services. -/
def Harmless (attrs : Nat) (s : State) (v : Value) : Prop :=
  ¬ Widens attrs v ∨ (s.conn = [] ∧ ¬ HasService s.world.rows)

/-- The columns of a service that does no harm. -/
theorem addColumns_harmless {manageNum attrs n : Nat} {v t id a : Value} {s : State}
    (h : Harmless attrs s v) (ht : v.get "serviceType" = .ok t)
    (hid : serviceIDOf manageNum t = .ok id) (ha : v.get "attributes" = .ok a)
    (hn : a.len = .ok n) :
    OnlyColumns s.manage (perform srv faults (addColumns (attrs + 1) (n - attrs)) s.manage).2 ∧
      Kept s (perform srv faults (addColumns (attrs + 1) (n - attrs)) s.manage).2 := by
  have hmanage : Kept s s.manage := ⟨rfl, rfl⟩
  rcases h with hwidens | ⟨hconn, hnone⟩
  · rw [no_columns hwidens ht hid ha hn]
    exact ⟨OnlyColumns.refl _, hmanage⟩
  · have honly : OnlyColumns s.manage
        (perform srv faults (addColumns (attrs + 1) (n - attrs)) s.manage).2 :=
      addColumns_only _ _ hconn
    exact ⟨honly, hmanage.trans (honly.kept hnone)⟩

/-- **A service that does no harm** keeps what is stored. -/
theorem updateService_kept {deviceID : String} {attrs : Nat} {v : Value} {s : State}
    (h : Harmless attrs s v) :
    Kept s (perform srv faults (updateService deviceID attrs v) s).2 := by
  rcases updateService_cases srv faults deviceID attrs v s with ⟨e, s0, hs0, hrun, _, _⟩ |
    ⟨t, id, a, n, ht, hid, ha, hn, hrun⟩
  · rw [hrun]
    rcases hs0 with rfl | rfl
    · exact Kept.refl _
    · exact ⟨rfl, rfl⟩
  · obtain ⟨_, hcolumns⟩ := @addColumns_harmless srv faults _ _ _ _ _ _ _ _ h ht hid ha hn
    rw [hrun, perform_bind]
    rcases hadd : perform srv faults (addColumns (attrs + 1) (n - attrs)) s.manage with ⟨r, s'⟩
    rw [hadd] at hcolumns
    cases r with
    | error e => exact hcolumns
    | ok _ =>
      have hquiet : Prog.Only Act.quiet (insertService deviceID id t a) :=
        only_insertService fun _ _ _ => trivial
      exact hcolumns.trans (keeps_quiet srv faults hquiet s').toKept

/-- **What such a service leaves open** that went through. -/
theorem updateService_ok {deviceID : String} {attrs : Nat} {v : Value} {s s' : State}
    (hharmless : Harmless attrs s v)
    (h : perform srv faults (updateService deviceID attrs v) s = (.ok (), s')) :
    ∃ row new, InsertedAs deviceID (s.world.manageNum + 1) v row ∧
      srv.reads (s.view srv) .Service row = .ok new ∧ s'.world.rows = s.world.rows ∧
      s'.world.manageNum = s.world.manageNum + 1 ∧
      s'.conn = s.conn ++ new.map (Change.insert .Service) := by
  rcases updateService_cases srv faults deviceID attrs v s with ⟨e, s0, _, hrun, _, _⟩ |
    ⟨t, id, a, n, ht, hid, ha, hn, hrun⟩
  · exact absurd (hrun.symm.trans h) (by simp)
  · obtain ⟨honly, _⟩ := @addColumns_harmless srv faults _ _ _ _ _ _ _ _ hharmless ht hid ha hn
    rw [hrun] at h
    obtain ⟨_, s1, hadd, hins⟩ := perform_bind_eq_ok.mp h
    rw [hadd] at honly
    obtain ⟨texts, serviceID, serviceType, new, hitems, rfl, rfl, hreads, rfl⟩ :=
      insertService_ok hins
    have hview : s1.view srv = s.view srv := by
      rw [State.view, State.view, honly.rows, honly.conn]
      rfl
    rw [hview] at hreads
    refine ⟨_, new, insertedAs_of_id ht hid ha hitems, hreads, honly.rows, honly.manageNum, ?_⟩
    rw [State.push, State.tick, honly.conn]
    rfl

/-! ## The loop -/

/-- The open changes of the loop. -/
def Waiting (s : State) : Prop := ∀ c ∈ s.conn, c.Adds fun e => e.1 = .Service

/-- The rows that wait are seen behind the committed ones. -/
theorem view_waiting (srv : Server) {s : State} (h : Waiting s) :
    ∃ new, s.view srv = s.world.rows ++ new ∧ (∀ e ∈ new, e.1 = .Service) ∧
      s.conn = new.map fun e => Change.insert e.1 e.2 := applyAll_adds srv h s.world.rows

/-- Where the connection sees no service, nothing is open and none is stored. -/
theorem Waiting.none {s : State} (h : Waiting s) (hnone : ¬ HasService (s.view srv)) :
    s.conn = [] ∧ ¬ HasService s.world.rows := by
  obtain ⟨new, hview, hnew, hconn⟩ := view_waiting srv h
  rw [hview] at hnone
  refine ⟨?_, ?_⟩
  · cases new with
    | nil => exact hconn
    | cons e new => exact absurd ⟨e, by simp, hnew e (by simp)⟩ hnone
  · intro hsome
    obtain ⟨e, he, ht⟩ := hsome
    exact hnone ⟨e, List.mem_append_left _ he, ht⟩

/-- More rows wait. -/
theorem Waiting.push {s s' : State} (h : Waiting s) {new : List Row}
    (hrows : s'.world.rows = s.world.rows)
    (hconn : s'.conn = s.conn ++ new.map (Change.insert .Service)) :
    Waiting s' ∧ s'.view srv = s.view srv ++ new.map fun r => (Table.Service, r) := by
  refine ⟨?_, ?_⟩
  · intro c hc
    rw [hconn] at hc
    rcases List.mem_append.mp hc with hc | hc
    · exact h c hc
    · obtain ⟨r, _, rfl⟩ := List.mem_map.mp hc
      exact rfl
  · rw [State.view, hconn, hrows, applyAll_append]
    exact applyAll_inserts .Service new _

/-- A service that does not split the update does no harm. -/
theorem harmless_of_not {attrs : Nat} {v : Value} {s : State} (h : Waiting s)
    (hnot : ¬ (HasService (s.view srv) ∧ Widens attrs v)) : Harmless attrs s v := by
  by_cases hwidens : Widens attrs v
  · exact Or.inr (h.none fun hservice => hnot ⟨hservice, hwidens⟩)
  · exact Or.inl hwidens

/-- **An update that does not split keeps what is stored** until its own commit. -/
theorem updateServices_kept {deviceID : String} {attrs : Nat} {vs : List Value} {s : State}
    (hwaiting : Waiting s)
    (h : ¬ Splits srv deviceID attrs s.world.manageNum (s.view srv) vs) :
    Kept s (perform srv faults (updateServices deviceID attrs vs) s).2 := by
  induction vs generalizing s with
  | nil => exact Kept.refl s
  | cons v vs ih =>
    have hharmless : Harmless attrs s v := harmless_of_not hwaiting fun hw => h (Or.inl hw)
    have hkept : Kept s (perform srv faults (updateService deviceID attrs v) s).2 :=
      updateService_kept hharmless
    rw [updateServices, perform_bind]
    rcases hrun : perform srv faults (updateService deviceID attrs v) s with ⟨r, s'⟩
    rw [hrun] at hkept
    cases r with
    | error e => exact hkept
    | ok _ =>
      obtain ⟨row, new, hrow, hreads, hrows, hmanage, hconn⟩ := updateService_ok hharmless hrun
      obtain ⟨hwaiting', hview⟩ := @Waiting.push srv _ _ hwaiting _ hrows hconn
      have hrest : ¬ Splits srv deviceID attrs s'.world.manageNum (s'.view srv) vs := by
        rw [hmanage, hview]
        exact fun hs => h (Or.inr ⟨row, new, hrow, hreads, hs⟩)
      exact hkept.trans (ih hwaiting' hrest)

/-! ## The whole update -/

/-- The device has a row. -/
def Registered (srv : Server) (w : World) (deviceID : String) : Prop :=
  ∃ e ∈ w.rows, e.1 = .Device ∧ srv.names deviceID e.2 = true

/-- The message updates a device that is registered, and its services split the update. -/
def SplitsUpdate (srv : Server) (w : World) (content : Value) : Prop :=
  ∃ deviceID serviceList services, deviceIDOf content = .ok deviceID ∧
    Registered srv w deviceID ∧ content.get "services" = .ok serviceList ∧
    serviceList.iter = .ok services ∧
    Splits srv deviceID w.attrs w.manageNum w.rows services

/-- How many rows the device has on a connection with nothing open. -/
def rowsOfDevice (srv : Server) (w : World) (deviceID : String) : Nat :=
  w.rows.countP fun e => e.1 = .Device && srv.names deviceID e.2

theorem rowsOfDevice_eq_zero {w : World} {deviceID : String} :
    rowsOfDevice srv w deviceID = 0 ↔ ¬ Registered srv w deviceID := by
  rw [rowsOfDevice, List.countP_eq_zero, Registered]
  refine ⟨?_, ?_⟩
  · intro h hsome
    obtain ⟨e, he, ht, hd⟩ := hsome
    exact h e he (by simp [ht, hd])
  · intro h e he hdevice
    rw [Bool.and_eq_true, decide_eq_true_eq] at hdevice
    exact h ⟨e, he, hdevice.1, hdevice.2⟩

/-- **The first part of an update**: it stops, or has found how many rows the device has. -/
theorem findDevice_cases (srv : Server) (faults : Faults) (content : Value) (s : State) :
    (∃ e s', perform srv faults (findDevice content) s = (.error e, s') ∧ Quiet s s') ∨
    ∃ deviceID, deviceIDOf content = .ok deviceID ∧
      perform srv faults (findDevice content) s =
        (.ok (deviceID, rowsOfDevice srv s.world deviceID), s.tick.opened.tick) := by
  have hquiet : Prog.Only Act.quiet (findDevice content) := only_findDevice trivial fun _ => trivial
  have hkept := keeps_quiet srv faults hquiet s
  rcases hrun : perform srv faults (findDevice content) s with ⟨r, s'⟩
  rw [hrun] at hkept
  cases r with
  | error e => exact Or.inl ⟨e, s', rfl, hkept⟩
  | ok found =>
    rw [findDevice, perform_bind, perform_connect] at hrun
    cases h0 : faults s.world.asked with
    | some code => rw [h0] at hrun; exact absurd (congrArg Prod.fst hrun) (by simp)
    | none =>
      simp only [h0, perform_bind, perform_lift] at hrun
      cases hd : deviceIDOf content with
      | error e => rw [hd] at hrun; exact absurd (congrArg Prod.fst hrun) (by simp)
      | ok deviceID =>
        simp only [hd, perform_exist] at hrun
        cases h1 : faults s.tick.opened.world.asked with
        | some code => rw [h1] at hrun; exact absurd (congrArg Prod.fst hrun) (by simp)
        | none =>
          rw [h1] at hrun
          exact Or.inr ⟨deviceID, rfl, hrun.symm⟩

/-- With nothing failed, it is found. -/
theorem findDevice_granted (srv : Server) {content : Value} {deviceID : String} {s : State}
    (hd : deviceIDOf content = .ok deviceID) (h0 : faults s.world.asked = none)
    (h1 : faults (s.world.asked + 1) = none) :
    perform srv faults (findDevice content) s =
      (.ok (deviceID, rowsOfDevice srv s.world deviceID), s.tick.opened.tick) := by
  have hasked : s.tick.opened.world.asked = s.world.asked + 1 := rfl
  simp only [findDevice, perform_bind, perform_connect, perform_lift, perform_exist, h0, hd,
    hasked, h1]
  rfl

theorem updateRows_kept {content : Value} {deviceID : String} {s : State} (hconn : s.conn = [])
    (h : ∀ serviceList services, content.get "services" = .ok serviceList →
      serviceList.iter = .ok services →
        ¬ Splits srv deviceID s.world.attrs s.world.manageNum s.world.rows services) :
    Kept s (perform srv faults (updateRows content deviceID) s).2 := by
  rw [updateRows, perform_bind, perform_lift]
  cases hlist : content.get "services" with
  | error e => exact Kept.refl s
  | ok serviceList =>
    have htick : Kept s s.tick := ⟨rfl, rfl⟩
    simp only [perform_bind, perform_columnCount, perform_lift]
    cases faults s.world.asked with
    | some code => exact htick
    | none =>
      cases hiter : serviceList.iter with
      | error e => exact htick
      | ok services =>
        have hview : s.tick.view srv = s.world.rows := by
          rw [State.view, State.tick, hconn]
          rfl
        have hwaiting : Waiting s.tick := by
          rw [Waiting, State.tick, hconn]
          simp
        refine htick.trans (updateServices_kept hwaiting ?_)
        rw [hview]
        exact h serviceList services hlist hiter

theorem update_ok {content v : Value} {s s' : State}
    (h : perform srv faults (updateBody content) s = (.ok v, s')) :
    perform srv faults (decoded .Update content) s = (.ok v, s') := perform_try_ok h

theorem update_error {content : Value} {s s' : State} {e : Exc}
    (h : perform srv faults (updateBody content) s = (.error e, s')) :
    perform srv faults (decoded .Update content) s =
      (.ok .none, s'.shown (.emitted "Uack" (answerOf 1))) := perform_try_error h

/-- **An update that does not split** is settled, or of a device that is not registered; then it
returns without an answer. -/
theorem update_cases {content : Value} {w : World} (h : ¬ SplitsUpdate srv w content) :
    Settled srv .Update (start w) (perform srv faults (decoded .Update content) (start w)) ∨
    ∃ deviceID s', deviceIDOf content = .ok deviceID ∧ ¬ Registered srv w deviceID ∧
      perform srv faults (decoded .Update content) (start w) = (.ok (answerOf 1), s') ∧
      Kept (start w) s' := by
  have hbody : perform srv faults (updateBody content) (start w) = _ := perform_bind _ _ _
  rcases findDevice_cases srv faults content (start w) with ⟨e, s', hrun, hquiet⟩ |
    ⟨deviceID, hd, hrun⟩
  · rw [hrun] at hbody
    rw [update_error hbody]
    exact Or.inl (Settled.failed hquiet.toKept rfl)
  · rw [hrun] at hbody
    have hkept0 : Kept (start w) (start w).tick.opened.tick := ⟨rfl, rfl⟩
    by_cases hreg : Registered srv w deviceID
    · have hne : rowsOfDevice srv (start w).world deviceID ≠ 0 :=
        fun hzero => rowsOfDevice_eq_zero.mp hzero hreg
      simp only [if_neg hne] at hbody
      have hwork : Kept (start w).tick.opened.tick
          (perform srv faults (updateRows content deviceID) (start w).tick.opened.tick).2 :=
        updateRows_kept rfl fun serviceList services hlist hiter hsplit =>
          h ⟨deviceID, serviceList, services, hd, hreg, hlist, hiter, hsplit⟩
      rcases transaction_cases (fun _ => do
          emit "Uack" (answerOf 0)
          return Value.none) hwork with ⟨e, s', hrun', hkept⟩ | ⟨_, s', _, hkept, hcommit⟩
      · rw [update_error (hbody.trans hrun')]
        exact Or.inl (Settled.failed (hkept0.trans hkept) rfl)
      · rw [update_ok (hbody.trans hcommit)]
        have htick : Kept (start w) s'.tick := hkept0.trans ⟨hkept.stored, hkept.log⟩
        have hdone := @Settled.done srv .Update (start w) s'.tick [] (answerOf 0) htick rfl rfl
        rw [List.append_nil] at hdone
        exact Or.inl hdone
    · have hzero : rowsOfDevice srv (start w).world deviceID = 0 := rowsOfDevice_eq_zero.mpr hreg
      rw [hzero] at hbody
      rw [update_ok hbody]
      exact Or.inr ⟨deviceID, _, hd, hreg, rfl, hkept0⟩

end Versatile.ResolverPer
