import Versatile.ResolverPer.Updates

/-!
# An update that splits, against a database that fails

The database grants every call up to the first `ALTER TABLE` that finds services, and refuses
every later one. That statement commits the rows that are open and gives each service one more
text, the rest of the update fails, and the message is answered with error 1. Along the loop, every
service in front leaves its rows open and nothing committed.
-/

namespace Versatile.ResolverPer

open Py Diversity

/-! ## A service that is granted -/

/-- The state after `count` columns were added. -/
def widened (count : Nat) (s : State) : State :=
  { s with world :=
    { s.world with attrs := s.world.attrs + count, asked := s.world.asked + count } }

theorem addColumns_granted {srv : Server} {faults : Faults} (count : Nat) {n : Nat} {s : State}
    (hconn : s.conn = []) (hn : n = s.world.attrs + 1)
    (hgrants : Grants faults s.world.asked (s.world.asked + count)) :
    perform srv faults (addColumns n count) s = (.ok (), widened count s) := by
  induction count generalizing n s with
  | zero => rfl
  | succ count ih =>
    have hopen : s.tick.commitOpen srv = s.tick := by simp [State.commitOpen, State.tick, hconn]
    have hfirst : faults s.world.asked = none := hgrants _ (Nat.le_refl _) (by omega)
    have halter : perform srv faults (execute (.alter n)) s = (.ok (), widened 1 s) := by
      have hnext : n = s.tick.world.attrs + 1 := hn
      rw [perform_execute, hfirst]
      simp only [Statement.eval, hopen, if_pos hnext]
      rfl
    have hgrants' : Grants faults (widened 1 s).world.asked
        ((widened 1 s).world.asked + count) := by
      intro m hle hlt
      have hasked : (widened 1 s).world.asked = s.world.asked + 1 := rfl
      exact hgrants m (by omega) (by omega)
    have hrest : widened count (widened 1 s) = widened (count + 1) s := by
      simp only [widened, Nat.add_assoc, Nat.add_comm count 1]
    have hnext : n + 1 = (widened 1 s).world.attrs + 1 := by
      rw [hn]
      rfl
    have hconn' : (widened 1 s).conn = [] := hconn
    rw [addColumns, perform_bind_ok halter, ih hconn' hnext hgrants', hrest]

/-- A row of `Service` fits when the table has as many attribute columns. -/
theorem hasColumns_serviceRow {w : World} {serviceID deviceID serviceType : String}
    {texts : List String} (h : texts.length ≤ w.attrs) :
    w.hasColumns .Service (serviceRow serviceID deviceID serviceType texts) = true := by
  rw [World.hasColumns, Bool.or_eq_true]
  refine Or.inr (List.all_eq_true.mpr ?_)
  intro c hc
  rw [decide_eq_true_eq, serviceColumns, List.mem_append]
  rcases List.mem_append.mp hc with hc | hc
  · simp only [List.mem_cons, List.not_mem_nil, or_false] at hc
    rcases hc with rfl | rfl | rfl <;> simp
  · obtain ⟨i, hi, rfl⟩ := List.mem_mapIdx.mp hc
    exact Or.inr (List.mem_map.mpr ⟨i, List.mem_range.mpr (by omega), rfl⟩)

/-- Inserting a row that fits, as what the server reads its texts as. -/
theorem insertService_granted (srv : Server) {faults : Faults}
    {deviceID serviceID serviceType : String} {a : Value} {texts : List String} {new : List Row}
    {s : State} (hitems : a.items = .ok texts) (hfits : texts.length ≤ s.world.attrs)
    (hreads : srv.reads (s.view srv) .Service (serviceRow serviceID deviceID serviceType texts) =
      .ok new) (hgrant : faults s.world.asked = none) :
    perform srv faults (insertService deviceID (.str serviceID) (.str serviceType) a) s =
      (.ok (), s.tick.push (new.map (Change.insert .Service))) := by
  have hcolumns : s.tick.world.hasColumns .Service
      (serviceRow serviceID deviceID serviceType texts) = true := hasColumns_serviceRow hfits
  have hinsert : perform srv faults
      (execute (.insert .Service (serviceRow serviceID deviceID serviceType texts))) s =
      (.ok (), s.tick.push (new.map (Change.insert .Service))) := by
    have hview : s.tick.view srv = s.view srv := rfl
    rw [perform_execute, hgrant]
    simp only [Statement.eval, hview, hreads, if_pos hcolumns]
    rfl
  rw [insertService, perform_bind, perform_lift, hitems]
  exact hinsert

/-- The columns are added where nothing is open, from the first that is missing on. -/
theorem missing_granted (srv : Server) {faults : Faults} {attrs n : Nat} {s : State}
    (hcount : n - attrs = 0 ∨ (s.conn = [] ∧ s.world.attrs = attrs))
    (hgrants : Grants faults s.world.asked (s.world.asked + (n - attrs))) :
    perform srv faults (addColumns (attrs + 1) (n - attrs)) s =
      (.ok (), widened (n - attrs) s) := by
  rcases hcount with hzero | ⟨hconn, hattrs⟩
  · rw [hzero]
    rfl
  · exact addColumns_granted _ hconn (congrArg (· + 1) hattrs.symm) hgrants

/-- The state behind a service that is granted: some columns are added, a number is taken, and the
rows are open. -/
def offered (count : Nat) (new : List Row) (s : State) : State :=
  (widened count s.manage).tick.push (new.map (Change.insert .Service))

/-- **One service that does no harm, every call granted**: its rows are open. -/
theorem updateService_granted (srv : Server) {deviceID : String} {attrs : Nat} {v : Value}
    {row : Row} {new : List Row} {s : State}
    (hrow : InsertedAs deviceID (s.world.manageNum + 1) v row)
    (hreads : srv.reads (s.view srv) .Service row = .ok new) (hattrs : attrs ≤ s.world.attrs)
    (hwide : ¬ Widens attrs v ∨ (s.conn = [] ∧ s.world.attrs = attrs)) :
    ∃ count, ∀ faults, Grants faults s.world.asked (offered count new s).world.asked →
      perform srv faults (updateService deviceID attrs v) s = (.ok (), offered count new s) := by
  have hrow' := hrow
  obtain ⟨t, digits, a, texts, ht, hdigits, ha, hitems, rfl⟩ := hrow'
  have hlen := Value.len_of_items hitems
  have hknown := @serviceIDOf_known (s.world.manageNum + 1) t digits hdigits
  have hcount : texts.length - attrs = 0 ∨ (s.manage.conn = [] ∧ s.manage.world.attrs = attrs) := by
    rcases hwide with hnarrow | hfirst
    · exact Or.inl (no_columns hnarrow ht hknown ha hlen)
    · exact Or.inr hfirst
  refine ⟨texts.length - attrs, ?_⟩
  intro faults hgrants
  have hgrants' : Grants faults s.world.asked (s.world.asked + (texts.length - attrs) + 1) :=
    hgrants
  have hcolumns := missing_granted srv hcount fun n hle hlt =>
    hgrants' n hle (Nat.lt_succ_of_lt hlt)
  have hfits : texts.length ≤ (widened (texts.length - attrs) s.manage).world.attrs := by
    have hgrown : (widened (texts.length - attrs) s.manage).world.attrs =
        s.world.attrs + (texts.length - attrs) := rfl
    omega
  have hlast : faults (widened (texts.length - attrs) s.manage).world.asked = none := by
    have hasked : (widened (texts.length - attrs) s.manage).world.asked =
        s.world.asked + (texts.length - attrs) := rfl
    exact hgrants' _ (by omega) (by omega)
  rcases updateService_cases srv faults deviceID attrs v s with ⟨_, _, _, _, _, hnot⟩ |
    ⟨t', id, a', n, ht', hid', ha', hn, hrun⟩
  · exact absurd hrow (hnot _ _)
  · obtain rfl : Value.str t = t' := Except.ok.inj (ht.symm.trans ht')
    obtain rfl : a = a' := Except.ok.inj (ha.symm.trans ha')
    obtain rfl : texts.length = n := Except.ok.inj (hlen.symm.trans hn)
    obtain rfl := Except.ok.inj (hknown.symm.trans hid')
    rw [hrun, perform_bind_ok hcolumns]
    exact insertService_granted srv hitems hfits hreads hlast

/-! ## The loop -/

/-- From call `k` on nothing that is stored changes any more, and it has changed before. -/
structure Torn (k : Nat) (s s' : State) : Prop where
  asked : k ≤ s'.world.asked
  stored : s'.world.stored ≠ s.world.stored

/-- What follows changes nothing about it. -/
theorem Torn.stuck {k : Nat} {s s' s'' : State} (h : Torn k s s') (hstuck : Stuck k s' s'') :
    Torn k s s'' := by
  obtain ⟨hasked, hstored⟩ := hstuck h.asked
  exact ⟨hasked, hstored ▸ h.stored⟩

/-- **The statement that adds a column changes every service**, also those that were open. -/
theorem alter_torn (srv : Server) {faults : Faults} (n : Nat) {s : State} (hwaiting : Waiting s)
    (hservice : HasService (s.view srv)) (hnext : s.conn = [] → n = s.world.attrs + 1)
    (hgrant : faults s.world.asked = none) :
    Torn (s.world.asked + 1) s (perform srv faults (execute (.alter n)) s).2 := by
  obtain ⟨new, hview, _, hconn⟩ := view_waiting srv hwaiting
  rw [perform_execute, hgrant]
  by_cases hnone : s.conn = []
  · -- nothing is open, and the services that are stored get another text
    have hopen : s.tick.commitOpen srv = s.tick := by
      simp [State.commitOpen, State.tick, hnone]
    have hstored : HasService s.world.rows := by
      rw [State.view, hnone] at hservice
      exact hservice
    have hnext' : n = s.tick.world.attrs + 1 := hnext hnone
    simp only [Statement.eval, hopen, if_pos hnext']
    refine ⟨Nat.le_refl _, fun heq => ?_⟩
    have hattrs : s.world.attrs + 1 = s.world.attrs := (stored_eq_iff.mp heq).2 hstored
    omega
  · have hopen : s.tick.commitOpen srv = s.tick.commit srv := by
      rw [State.commitOpen]
      split
      · rename_i hnil
        exact absurd hnil hnone
      · rfl
    have hrows : ∀ s' : State, s'.world.rows = s.view srv →
        s'.world.stored ≠ s.world.stored := by
      intro s' hs' heq
      have hsame : s.world.rows ++ new = s.world.rows := by
        rw [← hview, ← hs']
        exact (stored_eq_iff.mp heq).1
      obtain rfl := List.append_right_eq_self.mp hsame
      exact hnone hconn
    simp only [Statement.eval, hopen]
    split
    · exact ⟨Nat.le_refl _, hrows _ rfl⟩
    · exact ⟨Nat.le_refl _, hrows _ rfl⟩

/-- A service that widens the table while there are services. -/
theorem updateServices_widens (srv : Server) {faults : Faults} (deviceID : String) {attrs : Nat}
    {v : Value} {vs : List Value} {s : State} (hwidens : Widens attrs v) (hwaiting : Waiting s)
    (hservice : HasService (s.view srv)) (hfirst : s.conn = [] → s.world.attrs = attrs)
    (hgrant : faults s.world.asked = none) (hrefuses : Refuses faults (s.world.asked + 1)) :
    Torn (s.world.asked + 1) s
      (perform srv faults (updateServices deviceID attrs (v :: vs)) s).2 := by
  rcases updateService_cases srv faults deviceID attrs v s with ⟨_, _, _, _, hnot, _⟩ |
    ⟨t, id, a, n, _, _, ha, hn, hrun⟩
  · exact absurd hwidens hnot
  · obtain ⟨_, a', n', _, _, ha', hn', hlt⟩ := hwidens
    obtain rfl : a = a' := Except.ok.inj (ha.symm.trans ha')
    obtain rfl : n = n' := Except.ok.inj (hn.symm.trans hn')
    obtain ⟨m, hm⟩ : ∃ m, n - attrs = m + 1 := ⟨n - attrs - 1, by omega⟩
    rw [hm] at hrun
    have halter : Torn (s.world.asked + 1) s
        (perform srv faults (execute (.alter (attrs + 1))) s.manage).2 := by
      have hnext : s.manage.conn = [] → attrs + 1 = s.manage.world.attrs + 1 := fun hnil =>
        congrArg (· + 1) (hfirst hnil).symm
      have h := alter_torn srv (attrs + 1) (s := s.manage) hwaiting hservice hnext hgrant
      exact ⟨h.asked, h.stored⟩
    -- the rest of the columns, of the round and of the loop
    have hcolumns := halter.stuck (stuck_rest srv hrefuses (execute (.alter (attrs + 1)))
      (fun _ => addColumns (attrs + 1 + 1) m) s.manage)
    have hround := hcolumns.stuck (stuck_rest srv hrefuses (addColumns (attrs + 1) (m + 1))
      (fun _ => insertService deviceID id t a) s.manage)
    rw [← hrun] at hround
    exact hround.stuck (stuck_rest srv hrefuses (updateService deviceID attrs v)
      (fun _ => updateServices deviceID attrs vs) s)

/-- Rows of a service leave a row open. -/
theorem reads_ne_nil {srv : Server} {rows : Rows} {manageNum : Nat} {deviceID : String} {v : Value}
    {row : Row} {new : List Row} (hrow : InsertedAs deviceID manageNum v row)
    (h : srv.reads rows .Service row = .ok new) : new ≠ [] := by
  obtain ⟨t, digits, _, texts, _, hdigits, _, _, rfl⟩ := hrow
  obtain ⟨r, hr, _⟩ := reads_first (readText_plain (plain_serviceID hdigits manageNum)) h
  exact List.ne_nil_of_mem hr

/-- **A loop that splits is torn** by a database that fails at the right moment. -/
theorem updateServices_torn (srv : Server) (deviceID : String) {attrs : Nat} {vs : List Value}
    {s : State} (hsplit : Splits srv deviceID attrs s.world.manageNum (s.view srv) vs)
    (hwaiting : Waiting s) (hattrs : attrs ≤ s.world.attrs)
    (hfirst : s.conn = [] → s.world.attrs = attrs) :
    ∃ k, s.world.asked < k ∧ ∀ faults, Grants faults s.world.asked k → Refuses faults k →
      Torn k s (perform srv faults (updateServices deviceID attrs vs) s).2 := by
  induction vs generalizing s with
  | nil => exact absurd hsplit (by simp [Splits])
  | cons v vs ih =>
    by_cases hopen : HasService (s.view srv) ∧ Widens attrs v
    · refine ⟨s.world.asked + 1, by omega, fun faults hgrants hrefuses => ?_⟩
      exact updateServices_widens srv deviceID hopen.2 hwaiting hopen.1 hfirst
        (hgrants _ (Nat.le_refl _) (by omega)) hrefuses
    · obtain ⟨row, new, hrow, hreads, hrest⟩ := hsplit.resolve_left hopen
      have hharmless : Harmless attrs s v := harmless_of_not hwaiting hopen
      have hwide : ¬ Widens attrs v ∨ (s.conn = [] ∧ s.world.attrs = attrs) :=
        hharmless.imp_right fun hnone => ⟨hnone.1, hfirst hnone.1⟩
      obtain ⟨count, hrun⟩ := updateService_granted srv hrow hreads hattrs hwide
      have hasked : (offered count new s).world.asked = s.world.asked + count + 1 := rfl
      have hconn : (offered count new s).conn = s.conn ++ new.map (Change.insert .Service) := rfl
      obtain ⟨hwaiting', hview⟩ := @Waiting.push srv _ (offered count new s) hwaiting new rfl rfl
      have hne : (offered count new s).conn ≠ [] := by
        rw [hconn]
        simp [reads_ne_nil hrow hreads]
      have hkept : (offered count new s).world.stored = s.world.stored := by
        have hround := @updateService_kept srv (fun _ => none) deviceID attrs v s hharmless
        rw [hrun (fun _ => none) fun _ _ _ => rfl] at hround
        exact hround.stored
      obtain ⟨k, hk, htorn⟩ := ih (s := offered count new s) (by rw [hview]; exact hrest)
        hwaiting' (Nat.le_add_right_of_le hattrs) fun hnil => absurd hnil hne
      refine ⟨k, by omega, fun faults hgrants hrefuses => ?_⟩
      have hround := hrun faults fun n hle hn => hgrants n hle (by omega)
      have h := htorn faults (fun n hle hn => hgrants n (by omega) hn) hrefuses
      rw [updateServices, perform_bind_ok hround]
      exact ⟨h.asked, hkept ▸ h.stored⟩

/-! ## The whole update -/

/-- The database fails from call `k` on, as one whose connection is lost. -/
def lostFrom (k : Nat) : Faults := fun n => if n < k then none else some 2013

theorem lostFrom_grants (i k : Nat) : Grants (lostFrom k) i k := fun _ _ h => if_pos h

theorem lostFrom_refuses (k : Nat) : Refuses (lostFrom k) k :=
  fun n h => ⟨2013, if_neg (by omega : ¬ n < k)⟩

/-- The work of an update reaches its loop. -/
theorem updateRows_granted (srv : Server) {faults : Faults} {content serviceList : Value}
    {services : List Value} (deviceID : String) {s : State}
    (hlist : content.get "services" = .ok serviceList) (hiter : serviceList.iter = .ok services)
    (hgrant : faults s.world.asked = none) :
    perform srv faults (updateRows content deviceID) s =
      perform srv faults (updateServices deviceID s.world.attrs services) s.tick := by
  simp only [updateRows, perform_bind, perform_lift, perform_columnCount, hlist, hiter, hgrant,
    Nat.add_sub_cancel]

/-- **An update that splits is answered with error 1 after what is stored has changed**, if the
database fails at the right moment. -/
theorem update_torn (srv : Server) {content : Value} {w : World}
    (h : SplitsUpdate srv w content) : ∃ (faults : Faults) (s' : State),
      perform srv faults (decoded .Update content) (start w) =
        (.ok .none, s'.shown (.emitted "Uack" (answerOf 1))) ∧
      s'.world.stored ≠ w.stored := by
  obtain ⟨deviceID, serviceList, services, hd, hreg, hlist, hiter, hsplits⟩ := h
  have hwaiting : Waiting (start w).tick.opened.tick.tick := fun c hc => absurd hc (by simp
    [State.tick, State.opened])
  obtain ⟨k, hk, htorn⟩ := updateServices_torn srv deviceID
    (s := (start w).tick.opened.tick.tick) hsplits hwaiting (Nat.le_refl _) fun _ => rfl
  have hk3 : w.asked + 3 < k := hk
  have hgranted : ∀ n, n < k → lostFrom k n = none := fun n hn => if_pos hn
  have hloop := htorn (lostFrom k) (lostFrom_grants _ k) (lostFrom_refuses k)
  -- the loop is reached, and nothing behind it can commit
  have hfind := findDevice_granted srv (s := start w) hd
    (hgranted w.asked (by omega)) (hgranted (w.asked + 1) (by omega))
  have hrows := updateRows_granted srv deviceID (s := (start w).tick.opened.tick) hlist hiter
    (hgranted (w.asked + 2) (by omega))
  have hne : rowsOfDevice srv (start w).world deviceID ≠ 0 :=
    fun hzero => rowsOfDevice_eq_zero.mp hzero hreg
  have hbody : ∃ e s', perform srv (lostFrom k) (updateBody content) (start w) = (.error e, s') ∧
      Torn k (start w) s' := by
    rw [updateBody, perform_bind_ok hfind]
    simp only [if_neg hne]
    rw [perform_bind, hrows]
    rcases hrun : perform srv (lostFrom k) (updateServices deviceID
      (start w).tick.opened.tick.world.attrs services) (start w).tick.opened.tick.tick with ⟨r, s'⟩
    have htorn' : Torn k (start w) s' := by
      have hloop' := hrun ▸ hloop
      exact ⟨hloop'.asked, hloop'.stored⟩
    cases r with
    | error e => exact ⟨e, s', rfl, htorn'⟩
    | ok _ =>
      obtain ⟨code, hcode⟩ := lostFrom_refuses k s'.world.asked htorn'.asked
      refine ⟨.sqlError code, s'.tick, ?_, ?_⟩
      · simp only [perform_bind, perform_commit, hcode]
      · exact ⟨Nat.le_succ_of_le htorn'.asked, htorn'.stored⟩
  obtain ⟨e, s', hrun, htorn'⟩ := hbody
  exact ⟨lostFrom k, s', update_error hrun, htorn'.stored⟩

end Versatile.ResolverPer
