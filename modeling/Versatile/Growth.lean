import Versatile.Resolver.ServiceIDs
import Versatile.ResolverPer.Offers

/-!
# How an update grows the table of services

`Update` of both resolvers counts the attribute columns once, before its loop. So the columns that
one service adds are not known when the next one is looked at: two services that both need further
columns make it ask for a column that is there, and fail (`updates_grow_iff`). Otherwise the columns
are added that the longest service needs, each once, and every service has its row, if its texts are
read as they are. What a server makes of a text that breaks its literal is its own affair, so the
question is which updates grow the table on every server.
-/

namespace Versatile

open Py Diversity ResolverPer

variable {srv : Diversity.Server} {w : World} {content : Value} {deviceID : String}
  {os : List Offer} {read : List Row}

/-- The message updates a registered device, and lists some services of it. -/
structure Offers (srv : Diversity.Server) (w : World) (content : Value) (deviceID : String)
    (os : List Offer) : Prop where
  device : deviceIDOf content = .ok deviceID
  registered : Registered srv w deviceID
  services : ∃ serviceList vs, content.get "services" = .ok serviceList ∧
    serviceList.iter = .ok vs ∧ List.Forall₂ IsOffer vs os

/-- The message updates a device that is registered on the same server, if that refuses every broken
literal. -/
theorem Offers.strict (h : Offers srv w content deviceID os) :
    Offers srv.strict w content deviceID os := ⟨h.device, h.registered, h.services⟩

/-- The table grew as it should: the columns that were missing were asked for in order, each once,
there are as many as the longest service needs, and each service has its row. -/
structure Grown (deviceID : String) (os : List Offer) (w w' : World) (columns : List Nat) :
    Prop where
  columns : columns = List.range' (w.attrs + 1) (longest w.attrs os - w.attrs)
  attrs : w'.attrs = longest w.attrs os
  rows : ∃ rows, w'.rows = w.rows ++ rows.map (fun r => (Diversity.Table.Service, r)) ∧
    List.Forall₂ (IsRowOf deviceID) os rows

/-- One service at most has more attributes than there are columns. -/
def OneLonger (attrs : Nat) (os : List Offer) : Prop := os.countP (Offer.Wide attrs) ≤ 1

instance (attrs : Nat) (os : List Offer) : Decidable (OneLonger attrs os) :=
  inferInstanceAs (Decidable (_ ≤ _))

/-! ## The loop behind the count -/

/-- The loop, behind the count of the columns. -/
def counted (digitsOf : String → Option (String × String)) (deviceID : String) (os : List Offer) :
    Handler Unit := do
  let columns ← columnCount
  offerAll digitsOf deviceID (columns - 4) os

variable {digitsOf : String → Option (String × String)}

theorem columnCount_never (s : State) :
    perform srv .never columnCount s = (.ok (s.world.attrs + 4), s.tick) := by
  rw [perform_columnCount]
  rfl

theorem oneWide_iff {attrs : Nat} : OneWide attrs attrs os ↔ OneLonger attrs os := by
  rw [OneWide, if_neg (Nat.lt_irrefl _), Nat.add_zero, OneLonger]

theorem counted_ok (srv : Diversity.Server) {s : State}
    (hread : ReadRows (offerRows digitsOf deviceID s.world.manageNum os) read)
    (h : OneLonger s.world.attrs os) :
    ∃ s', perform srv .never (counted digitsOf deviceID os) s = (.ok (), s') ∧
      Stores srv read (longest s.world.attrs os - s.world.attrs) os.length s s' ∧
      tried srv .never (counted digitsOf deviceID os) s =
        List.range' (s.world.attrs + 1) (longest s.world.attrs os - s.world.attrs) := by
  obtain ⟨s', hloop, hstores, htried⟩ := offerAll_ok srv (s := s.tick) hread
    (Nat.le_refl _) (oneWide_iff.mpr h)
  refine ⟨s', ?_, ?_, ?_⟩
  · rw [counted, perform_bind_ok (columnCount_never s), Nat.add_sub_cancel]
    exact hloop
  · exact ⟨hstores.view, hstores.attrs, hstores.manageNum, hstores.acks⟩
  · rw [counted, tried_bind_ok (columnCount_never s), Nat.add_sub_cancel, columnCount,
      tried_execute]
    exact htried

theorem counted_of_ok {s s' : State} (hexact : ∀ row, srv.Exact .Service row)
    (h : perform srv .never (counted digitsOf deviceID os) s = (.ok (), s')) :
    OneLonger s.world.attrs os ∧
      ∃ read, ReadRows (offerRows digitsOf deviceID s.world.manageNum os) read := by
  rw [counted, perform_bind_ok (columnCount_never s), Nat.add_sub_cancel] at h
  obtain ⟨hwide, read, hread⟩ := offerAll_of_ok (s := s.tick) hexact (Nat.le_refl _) h
  exact ⟨oneWide_iff.mp hwide, read, hread⟩

/-- What the commit behind the loop leaves. -/
theorem commit_counted {s s' : State} {columns : Nat} (hview : s.view srv = w.rows)
    (hstores : Stores srv read columns os.length s s') :
    (s'.tick.commit srv).world.rows = w.rows ++ read.map fun r => (Diversity.Table.Service, r) := by
  have hrows : (s'.tick.commit srv).world.rows = s'.view srv := rfl
  rw [hrows, hstores.view, hview]

/-- Where the texts are read as they are, the table has grown as it should. -/
theorem grows_commit {s s' : State} {columns : List Nat} (hview : s.view srv = w.rows)
    (hattrs : s.world.attrs = w.attrs)
    (hstores : Stores srv read (longest s.world.attrs os - s.world.attrs) os.length s s')
    (hcolumns : columns =
      List.range' (s.world.attrs + 1) (longest s.world.attrs os - s.world.attrs))
    (hrows : List.Forall₂ (IsRowOf deviceID) os read) :
    Grown deviceID os w (s'.tick.commit srv).world columns := by
  have hle := le_longest s.world.attrs os
  refine ⟨by rw [hcolumns, hattrs], ?_, read, commit_counted hview hstores, hrows⟩
  have hgrown : (s'.tick.commit srv).world.attrs = s'.world.attrs := rfl
  rw [hgrown, hstores.attrs, ← hattrs]
  omega

/-- A table that has grown as it should has the rows that were read. -/
theorem Grown.isRowOf {w' : World} {columns : List Nat} (h : Grown deviceID os w w' columns)
    (hrows : w'.rows = w.rows ++ read.map fun r => (Diversity.Table.Service, r)) :
    List.Forall₂ (IsRowOf deviceID) os read := by
  obtain ⟨rows, hadded, hforall⟩ := h.rows
  rw [hrows, List.append_cancel_left_eq] at hadded
  obtain rfl : read = rows := Rows.tag_injective _ hadded
  exact hforall

/-! ## `resolver_per.Update` -/

namespace ResolverPer

theorem updateService_offer {v : Value} {o : Offer} (h : IsOffer v o) {digits : String × String}
    (hdigits : serviceDigits o.serviceType = some digits) (attrCount : Nat) :
    updateService deviceID attrCount v = offer serviceDigits deviceID attrCount o := by
  obtain ⟨ht, a, ha, hitems⟩ := h
  have hlen := Value.len_of_items hitems
  have hid : ∀ manageNum, serviceIDOf manageNum (.str o.serviceType) =
      .ok (.str (serviceIDBy (serviceDigits o.serviceType) manageNum)) := by
    intro manageNum
    rw [serviceIDOf_known hdigits, hdigits]
    rfl
  simp only [updateService, genServiceID, offer, insertService, offerRow, ht, ha, hlen, hitems,
    hid, Prog.ok_bind, Prog.bind_assoc, Value.asStr_str]

/-- The loop over known services. -/
theorem updateServices_offers {vs : List Value} (h : List.Forall₂ IsOffer vs os)
    (hknown : ∀ o ∈ os, (serviceDigits o.serviceType).isSome) (attrCount : Nat) :
    updateServices deviceID attrCount vs = offerAll serviceDigits deviceID attrCount os := by
  induction h with
  | nil => rfl
  | cons hv _ ih =>
    obtain ⟨hfirst, hrest⟩ := List.forall_mem_cons.mp hknown
    obtain ⟨digits, hdigits⟩ := Option.isSome_iff_exists.mp hfirst
    rw [updateServices, offerAll, updateService_offer hv hdigits, ih hrest]

/-- A loop that went through had known services only. -/
theorem known_of_ok {faults : Faults} {vs : List Value} (h : List.Forall₂ IsOffer vs os)
    {attrCount : Nat} {s s' : State}
    (hok : perform srv faults (updateServices deviceID attrCount vs) s = (.ok (), s')) :
    ∀ o ∈ os, (serviceDigits o.serviceType).isSome := by
  induction h generalizing s with
  | nil => simp
  | cons hv _ ih =>
    obtain ⟨_, s1, hround, hloop⟩ := perform_bind_eq_ok.mp hok
    refine List.forall_mem_cons.mpr ⟨?_, ih hloop⟩
    rcases updateService_cases srv faults deviceID attrCount _ s with ⟨e, s0, _, hrun, _, _⟩ |
      ⟨t, id, a, n, ht, hid, ha, _, hrun⟩
    · exact absurd (hrun.symm.trans hround) (by simp)
    · rw [hrun] at hround
      obtain ⟨_, s2, _, hinsert⟩ := perform_bind_eq_ok.mp hround
      obtain ⟨texts, serviceID, serviceType, _, hitems, rfl, rfl, _⟩ := insertService_ok hinsert
      obtain ⟨t', digits, _, _, ht', hdigits, _⟩ : InsertedAs deviceID _ _ _ :=
        insertedAs_of_id ht hid ha hitems
      obtain rfl := Value.str.inj (Except.ok.inj (hv.1.symm.trans ht'))
      rw [hdigits]
      rfl

theorem updateRows_counted {serviceList : Value} {vs : List Value}
    (hlist : content.get "services" = .ok serviceList) (hiter : serviceList.iter = .ok vs)
    (h : List.Forall₂ IsOffer vs os) (hknown : ∀ o ∈ os, (serviceDigits o.serviceType).isSome) :
    updateRows content deviceID = counted serviceDigits deviceID os := by
  simp only [updateRows, counted, hlist, hiter, Prog.ok_bind, updateServices_offers h hknown]

/-- What follows once the device is found. -/
def foundBody (content : Value) (deviceID : String) : Handler Value := do
  updateRows content deviceID
  commit
  emit "Uack" (answerOf 0)
  return .none

/-- The update of a registered device. -/
theorem perform_updateBody (hlists : Offers srv w content deviceID os) :
    perform srv .never (updateBody content) (start w) =
      perform srv .never (foundBody content deviceID) (start w).tick.opened.tick ∧
    tried srv .never (updateBody content) (start w) =
      tried srv .never (foundBody content deviceID) (start w).tick.opened.tick := by
  have hfind : perform srv .never (findDevice content) (start w) =
      (.ok (deviceID, rowsOfDevice srv w deviceID), (start w).tick.opened.tick) :=
    findDevice_granted srv hlists.device rfl rfl
  have hne : rowsOfDevice srv w deviceID ≠ 0 :=
    fun hzero => rowsOfDevice_eq_zero.mp hzero hlists.registered
  have hnone : tried srv .never (findDevice content) (start w) = [] :=
    tried_of_only (only_findDevice rfl fun _ => rfl) _
  refine ⟨?_, ?_⟩
  · rw [updateBody, perform_bind_ok hfind]
    simp only [if_neg hne]
    rfl
  · rw [updateBody, tried_bind_ok hfind, hnone]
    simp only [if_neg hne]
    rfl

/-- The update is answered with error 0, and the table grows as it should. -/
def GrowsService (srv : Diversity.Server) (py : Interpreter) (js : String) (w : World)
    (deviceID : String) (os : List Offer) : Prop :=
  acks .Update (handle srv .never py .Update js w).2.log = [answerOf 0] ∧
    Grown deviceID os w (handle srv .never py .Update js w).2.world
      (tried srv .never (handler py .Update js) (start w))

/-- An update that is answered with error 0 went through its loop. -/
theorem updateRows_of_acked (hlists : Offers srv w content deviceID os)
    (hacks : acks .Update (perform srv .never (decoded .Update content) (start w)).2.log =
      [answerOf 0]) : ∃ s', perform srv .never (updateRows content deviceID)
        (start w).tick.opened.tick = (.ok (), s') := by
  rcases hrun : perform srv .never (updateRows content deviceID) (start w).tick.opened.tick with
    ⟨r, s'⟩
  cases r with
  | ok _ => exact ⟨s', rfl⟩
  | error e =>
    -- an update that fails is answered with error 1
    have hbody : perform srv .never (updateBody content) (start w) = (.error e, s') :=
      (perform_updateBody hlists).1.trans (perform_bind_error hrun)
    rw [update_error hbody] at hacks
    have hmem : answerOf 1 ∈ acks .Update (s'.shown (.emitted "Uack" (answerOf 1))).log := by
      simp [State.shown, acks, Message.ack]
    rw [hacks, List.mem_singleton] at hmem
    exact absurd (congrArg errorOf hmem) (by simp)

/-- The types have IDs, no text is read as another, and one service at most has more attributes than
there are columns. -/
structure Growing (attrs : Nat) (os : List Offer) : Prop where
  known : ∀ o ∈ os, (serviceDigits o.serviceType).isSome
  readAsIs : ∀ o ∈ os, o.ReadAsIs
  longer : OneLonger attrs os

theorem plain_serviceIDBy (t : String) (manageNum : Nat) :
    Plain (serviceIDBy (serviceDigits t) manageNum) := by
  cases hdigits : serviceDigits t with
  | none => exact (by decide : Plain "1")
  | some digits => exact plain_serviceID hdigits manageNum

/-- An update whose loop goes through is answered with error 0, and what it stored is committed. -/
theorem update_counted {py : Interpreter} {js : String} (hjs : py.loads js = .ok content)
    (hlists : Offers srv w content deviceID os)
    (hknown : ∀ o ∈ os, (serviceDigits o.serviceType).isSome)
    (hread : ReadRows (offerRows serviceDigits deviceID w.manageNum os) read)
    (hlonger : OneLonger w.attrs os) : ∃ s',
      Stores srv read (longest w.attrs os - w.attrs) os.length (start w).tick.opened.tick s' ∧
      (handle srv .never py .Update js w).2 =
        (s'.tick.commit srv).shown (.emitted "Uack" (answerOf 0)) ∧
      tried srv .never (handler py .Update js) (start w) =
        List.range' (w.attrs + 1) (longest w.attrs os - w.attrs) := by
  obtain ⟨serviceList, vs, hlist, hiter, hvs⟩ := hlists.services
  obtain ⟨hbody, htries⟩ := perform_updateBody hlists
  have hdecoded : handler py .Update js = decoded .Update content := by
    rw [handler_eq, hjs]
    rfl
  obtain ⟨s', hcounted, hstores, htried⟩ := counted_ok srv (s := (start w).tick.opened.tick)
    hread hlonger
  have hdone : perform srv .never (updateBody content) (start w) =
      (.ok .none, (s'.tick.commit srv).shown (.emitted "Uack" (answerOf 0))) := by
    rw [hbody, foundBody, updateRows_counted hlist hiter hvs hknown, perform_bind_ok hcounted,
      perform_bind_ok (commit_never _)]
    rfl
  rw [foundBody, updateRows_counted hlist hiter hvs hknown, tried_bind_ok hcounted,
    htried] at htries
  refine ⟨s', hstores, ?_, ?_⟩
  · rw [handle_eq, hjs]
    exact congrArg Prod.snd (update_ok hdone)
  · rw [hdecoded, decoded, tried_try_ok hdone, htries]
    exact List.append_nil _

/-- **A growing update grows the table as it should**, on every server. -/
theorem Growing.grows {py : Interpreter} {js : String} (h : Growing w.attrs os)
    (hjs : py.loads js = .ok content) (hlists : Offers srv w content deviceID os) :
    GrowsService srv py js w deviceID os := by
  have hid := plain_deviceIDOf hlists.device
  have hread := readRows_offerRows hid plain_serviceIDBy h.readAsIs w.manageNum
  obtain ⟨s', hstores, hstate, hcolumns⟩ := update_counted hjs hlists h.known hread h.longer
  rw [GrowsService, hstate]
  have hrows := (reads_isRowOf_iff hid hread).mpr h.readAsIs
  refine ⟨?_, grows_commit (s := (start w).tick.opened.tick) rfl rfl hstores hcolumns hrows⟩
  have hlog : acks .Update (s'.tick.commit srv).log = [] := by
    have hcommit : (s'.tick.commit srv).log = s'.log ++ [.committed s'.conn] := rfl
    rw [hcommit, acks_append, acks_committed, List.append_nil, hstores.acks]
    rfl
  rw [State.shown, acks_append, hlog]
  rfl

/-- **No other does**, on a server that refuses every broken literal. -/
theorem growing_of_grows {py : Interpreter} {js : String}
    (hexact : ∀ row, srv.Exact .Service row) (hjs : py.loads js = .ok content)
    (hlists : Offers srv w content deviceID os) (h : GrowsService srv py js w deviceID os) :
    Growing w.attrs os := by
  obtain ⟨serviceList, vs, hlist, hiter, hvs⟩ := hlists.services
  obtain ⟨hacks, hgrown⟩ := h
  have hdecoded : acks .Update (perform srv .never (decoded .Update content) (start w)).2.log =
      [answerOf 0] := by
    rwa [handle_eq, hjs] at hacks
  obtain ⟨s', hrun⟩ := updateRows_of_acked hlists hdecoded
  have hknown : ∀ o ∈ os, (serviceDigits o.serviceType).isSome := by
    rw [updateRows_granted srv deviceID hlist hiter rfl] at hrun
    exact known_of_ok hvs hrun
  rw [updateRows_counted hlist hiter hvs hknown] at hrun
  obtain ⟨hlonger, read, hread⟩ := counted_of_ok hexact hrun
  obtain ⟨s'', hstores, hstate, _⟩ := update_counted hjs hlists hknown hread hlonger
  refine ⟨hknown, ?_, hlonger⟩
  rw [hstate] at hgrown
  exact (reads_isRowOf_iff (plain_deviceIDOf hlists.device) hread).mp
    (hgrown.isRowOf (commit_counted rfl hstores))

end ResolverPer

/-! ## `resolver.Update` -/

namespace Resolver

theorem text_serviceIDOf (manageNum : Nat) (t : String) :
    (serviceIDOf manageNum (.str t)).text = serviceIDBy (serviceDigits t) manageNum := by
  simp only [serviceIDOf, serviceIDBy]
  cases serviceDigits t with
  | none => exact (by decide : (Value.int 1).text = "1")
  | some digits => rfl

theorem insertService_offer {a : Value} {o : Offer} (hitems : a.items = .ok o.attributes)
    (manageNum : Nat) :
    insertService deviceID (serviceIDOf manageNum (.str o.serviceType)) (.str o.serviceType) a =
      execute (.insert .Service (offerRow serviceDigits deviceID manageNum o)) := by
  rw [insertService, hitems, Prog.ok_bind, Value.asStr_str, Prog.ok_bind, offerRow,
    ← text_serviceIDOf]

theorem updateService_offer {v : Value} {o : Offer} (h : IsOffer v o) (attrCount : Nat) :
    updateService deviceID attrCount v = offer serviceDigits deviceID attrCount o := by
  obtain ⟨ht, a, ha, hitems⟩ := h
  have hlen := Value.len_of_items hitems
  simp only [updateService, genServiceID, offer, ht, ha, hlen, insertService_offer hitems,
    Prog.ok_bind, Prog.bind_assoc, Prog.pure_bind]

/-- The loop over services of any types. -/
theorem updateServices_offers {vs : List Value} (h : List.Forall₂ IsOffer vs os) (attrCount : Nat) :
    updateServices deviceID attrCount vs = offerAll serviceDigits deviceID attrCount os := by
  induction h with
  | nil => rfl
  | cons hv _ ih => rw [updateServices, offerAll, updateService_offer hv, ih]

theorem updateRows_counted {serviceList : Value} {vs : List Value}
    (hlist : content.get "services" = .ok serviceList) (hiter : serviceList.iter = .ok vs)
    (h : List.Forall₂ IsOffer vs os) :
    updateRows content deviceID = counted serviceDigits deviceID os := by
  simp only [updateRows, counted, hlist, hiter, Prog.ok_bind, updateServices_offers h]

/-- The update is answered with error 0, and the table grows as it should. -/
def GrowsService (srv : Diversity.Server) (body : Body) (w : World) (deviceID : String)
    (os : List Offer) : Prop :=
  ∃ s', perform srv .never (Update body) (start w) = (.ok (answerOf 0), s') ∧
    Grown deviceID os w s'.world (tried srv .never (Update body) (start w))

/-- The update of a registered device. -/
theorem perform_updateBody (hlists : Offers srv w content deviceID os) :
    perform srv .never (updateBody (.ok content)) (start w) =
      perform srv .never (do
        counted serviceDigits deviceID os
        commit
        return answerOf 0) (start w).tick.opened.tick ∧
    tried srv .never (updateBody (.ok content)) (start w) =
      tried srv .never (do
        counted serviceDigits deviceID os
        commit
        return answerOf 0) (start w).tick.opened.tick := by
  obtain ⟨serviceList, vs, hlist, hiter, hvs⟩ := hlists.services
  have hne : rowsOfDevice srv (start w).world deviceID ≠ 0 :=
    fun hzero => rowsOfDevice_eq_zero.mp hzero hlists.registered
  have hconnect : perform srv .never connect (start w) = (.ok (), (start w).tick.opened) :=
    connect_never _
  have hexist : perform srv .never (exist deviceID) (start w).tick.opened =
      (.ok (rowsOfDevice srv (start w).world deviceID), (start w).tick.opened.tick) :=
    exist_never _ _
  rw [updateBody, Prog.ok_bind, hlists.device, Prog.ok_bind]
  refine ⟨?_, ?_⟩
  · rw [perform_bind_ok hconnect, perform_bind_ok hexist, if_neg hne,
      updateRows_counted hlist hiter hvs]
  · rw [tried_bind_ok hconnect, tried_bind_ok hexist, if_neg hne,
      updateRows_counted hlist hiter hvs]
    have hnone : tried srv .never connect (start w) = [] := tried_of_only (only_connect rfl) _
    rw [hnone, exist, tried_execute]
    rfl

/-- No text is read as another, and one service at most has more attributes than there are
columns. -/
structure Growing (attrs : Nat) (os : List Offer) : Prop where
  readAsIs : ∀ o ∈ os, o.ReadAsIs
  longer : OneLonger attrs os

theorem plain_serviceIDBy (t : String) (manageNum : Nat) :
    Plain (serviceIDBy (serviceDigits t) manageNum) := by
  rw [← text_serviceIDOf]
  exact plain_serviceID manageNum (.str t)

/-- An update whose loop goes through is answered with error 0, and what it stored is committed. -/
theorem update_counted (hlists : Offers srv w content deviceID os)
    (hread : ReadRows (offerRows serviceDigits deviceID w.manageNum os) read)
    (hlonger : OneLonger w.attrs os) : ∃ s',
      Stores srv read (longest w.attrs os - w.attrs) os.length (start w).tick.opened.tick s' ∧
      perform srv .never (Update (.ok content)) (start w) =
        (.ok (answerOf 0), s'.tick.commit srv) ∧
      tried srv .never (Update (.ok content)) (start w) =
        List.range' (w.attrs + 1) (longest w.attrs os - w.attrs) := by
  obtain ⟨hbody, htries⟩ := perform_updateBody hlists
  obtain ⟨s', hcounted, hstores, htried⟩ := counted_ok srv (s := (start w).tick.opened.tick)
    hread hlonger
  rw [perform_bind_ok hcounted, perform_bind_ok (commit_never _)] at hbody
  rw [tried_bind_ok hcounted, htried] at htries
  refine ⟨s', hstores, perform_try_ok hbody, ?_⟩
  rw [Update, tried_try_ok hbody, htries]
  exact List.append_nil _

/-- **A growing update grows the table as it should**, on every server. -/
theorem Growing.grows (h : Growing w.attrs os) (hlists : Offers srv w content deviceID os) :
    GrowsService srv (.ok content) w deviceID os := by
  have hid := plain_deviceIDOf hlists.device
  have hread := readRows_offerRows hid plain_serviceIDBy h.readAsIs w.manageNum
  obtain ⟨s', hstores, hdone, hcolumns⟩ := update_counted hlists hread h.longer
  have hrows := (reads_isRowOf_iff hid hread).mpr h.readAsIs
  exact ⟨_, hdone, grows_commit (s := (start w).tick.opened.tick) rfl rfl hstores hcolumns hrows⟩

/-- **No other does**, on a server that refuses every broken literal. -/
theorem growing_of_grows (hexact : ∀ row, srv.Exact .Service row)
    (hlists : Offers srv w content deviceID os)
    (h : GrowsService srv (.ok content) w deviceID os) : Growing w.attrs os := by
  obtain ⟨hbody, _⟩ := perform_updateBody hlists
  obtain ⟨s', hok, hgrown⟩ := h
  rcases hrun : perform srv .never (counted serviceDigits deviceID os)
    (start w).tick.opened.tick with ⟨r, s1⟩
  cases r with
  | error e =>
    -- an update that fails is answered with error 1
    rw [Update, perform_try_error (hbody.trans (perform_bind_error hrun))] at hok
    have hanswer : answerOf 1 = answerOf 0 := Except.ok.inj (congrArg Prod.fst hok)
    exact absurd (congrArg errorOf hanswer) (by simp)
  | ok _ =>
    obtain ⟨hlonger, read, hread⟩ := counted_of_ok hexact hrun
    obtain ⟨s'', hstores, hdone, _⟩ := update_counted hlists hread hlonger
    obtain ⟨_, rfl⟩ := Prod.mk.inj (hdone.symm.trans hok)
    refine ⟨?_, hlonger⟩
    exact (reads_isRowOf_iff (plain_deviceIDOf hlists.device) hread).mp
      (hgrown.isRowOf (commit_counted rfl hstores))

end Resolver

/-! ## Both resolvers -/

/-- **Which updates grow the table as they should**, on every server on which their device is
registered: those with one service at most that has more attributes than there are columns, and with
texts that are read as they are. Types without an ID only stop `resolver_per.Update`. -/
theorem updates_grow_iff (w : World) (content : Value) (deviceID : String) (os : List Offer)
    (h : ∃ srv, Offers srv w content deviceID os) :
    (∀ py js, Interpreter.loads py js = .ok content →
      ((∀ srv, Offers srv w content deviceID os →
        ResolverPer.GrowsService srv py js w deviceID os) ↔ ResolverPer.Growing w.attrs os)) ∧
    ((∀ srv, Offers srv w content deviceID os →
      Resolver.GrowsService srv (.ok content) w deviceID os) ↔ Resolver.Growing w.attrs os) := by
  obtain ⟨srv, hlists⟩ := h
  refine ⟨fun py js hjs => ⟨fun hgrows => ?_, fun hgrowing _ hlists' => ?_⟩,
    ⟨fun hgrows => ?_, fun hgrowing _ hlists' => ?_⟩⟩
  · exact ResolverPer.growing_of_grows (fun _ => exact_strict) hjs hlists.strict
      (hgrows _ hlists.strict)
  · exact hgrowing.grows hjs hlists'
  · exact Resolver.growing_of_grows (fun _ => exact_strict) hlists.strict (hgrows _ hlists.strict)
  · exact hgrowing.grows hlists'

/-- A service with an attribute. -/
def webOffer : Offer := ⟨"Web", ["x"]⟩

/-- An update that lists it some times. -/
def webUpdate (n : Nat) : Value :=
  .dict [("deviceID", .int 1), ("services", .list (List.replicate n (.dict
    [("serviceType", .str "Web"), ("attributes", .list [.str "x"])])))]

theorem webUpdate_offers (n : Nat) :
    Offers .plain ⟨[deviceOne], 0, 0, 0⟩ (webUpdate n) "1" (List.replicate n webOffer) := by
  refine ⟨rfl, ⟨deviceOne, List.mem_singleton_self _, rfl, rfl⟩, _, _, rfl, rfl, ?_⟩
  induction n with
  | zero => exact .nil
  | succ n ih => exact .cons ⟨rfl, _, rfl, rfl⟩ ih

/-- The same as a text. -/
def webUpdateText (services : String) : String :=
  "\x7b\"deviceID\": 1, \"services\": [" ++ services ++ "]\x7d"

/-- The service as a text. -/
def webText : String := "\x7b\"serviceType\": \"Web\", \"attributes\": [\"x\"]\x7d"

theorem webUpdate_once :
    Interpreter.plain.loads (webUpdateText webText) = .ok (webUpdate 1) := by rfl

set_option maxRecDepth 1000 in
theorem webUpdate_twice :
    Interpreter.plain.loads (webUpdateText (webText ++ ", " ++ webText)) = .ok (webUpdate 2) := by
  rfl

/-- The theorem on an update that lists it once. -/
theorem updates_grow_once :
    (∀ srv, Offers srv ⟨[deviceOne], 0, 0, 0⟩ (webUpdate 1) "1" [webOffer] →
      ResolverPer.GrowsService srv .plain (webUpdateText webText) ⟨[deviceOne], 0, 0, 0⟩ "1"
        [webOffer]) ∧
    ∀ srv, Offers srv ⟨[deviceOne], 0, 0, 0⟩ (webUpdate 1) "1" [webOffer] →
      Resolver.GrowsService srv (.ok (webUpdate 1)) ⟨[deviceOne], 0, 0, 0⟩ "1" [webOffer] := by
  obtain ⟨hper, hresolver⟩ := updates_grow_iff ⟨[deviceOne], 0, 0, 0⟩ (webUpdate 1) "1"
    [webOffer] ⟨.plain, webUpdate_offers 1⟩
  exact ⟨(hper _ _ webUpdate_once).mpr ⟨by decide, by decide, by decide⟩,
    hresolver.mpr ⟨by decide, by decide⟩⟩

/-- Two services that both need the first column: neither resolver grows the table as it should. -/
theorem not_updates_grow :
    Offers .plain ⟨[deviceOne], 0, 0, 0⟩ (webUpdate 2) "1" [webOffer, webOffer] ∧
    ¬ ResolverPer.GrowsService .plain .plain (webUpdateText (webText ++ ", " ++ webText))
      ⟨[deviceOne], 0, 0, 0⟩ "1" [webOffer, webOffer] ∧
    ¬ Resolver.GrowsService .plain (.ok (webUpdate 2)) ⟨[deviceOne], 0, 0, 0⟩ "1"
      [webOffer, webOffer] := by
  have hoffers : Offers .plain ⟨[deviceOne], 0, 0, 0⟩ (webUpdate 2) "1" [webOffer, webOffer] :=
    webUpdate_offers 2
  have hexact : ∀ row, Server.plain.Exact .Service row := fun _ => @exact_strict .plain _ _
  refine ⟨hoffers, fun h => ?_, fun h => ?_⟩
  · have hlonger := (ResolverPer.growing_of_grows hexact webUpdate_twice hoffers h).longer
    exact absurd hlonger (by decide)
  · exact absurd (Resolver.growing_of_grows hexact hoffers h).longer (by decide)

end Versatile
