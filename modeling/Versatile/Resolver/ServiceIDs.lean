import Versatile.Resolver.Handlers
import Versatile.ResolverPer.Fresh

/-!
# The service IDs that `resolver.py` stores

Every service takes the next management number, whatever becomes of it, and the ID of a known
type carries the number between two digits. So IDs never repeat, however long the numbers get: the
number is what is left without the first and the last character (`numberOf`). A type that
`genServiceID` does not know has the ID `1` each time, which carries no number, and an attribute
that breaks its literal may store rows under any ID.

The invariant is `Counted`: the IDs a connection has stored or waits to store are different and
carry numbers that were taken. Only `manage` and the insertion behind it touch it, everything else
is `Steady`.
-/

namespace Versatile.Resolver

open Py Diversity
open ResolverPer (start manageStr serviceRow addColumns)

/-! ## IDs that carry a number -/

/-- The number an ID carries. -/
def numberOf (id : String) : Option Nat := Decimal.readNat id.toList.tail.dropLast

/-- The ID is a cache digit, the number in four digits or more, and a segment digit, and the number
can be read back. -/
structure IsServiceID (n : Nat) (id : String) : Prop where
  parts : ∃ cache segment : Char, cache.isDigit = true ∧ segment.isDigit = true ∧
    id.toList = cache :: (manageStr n).toList ++ [segment]
  width : 4 ≤ (manageStr n).length
  readBack : numberOf id = some n

/-- The IDs are different and carry numbers above `lo` up to `hi`. -/
structure Numbers (lo hi : Nat) (ids : List String) : Prop where
  numbered : ∀ id ∈ ids, ∃ n, lo < n ∧ n ≤ hi ∧ IsServiceID n id
  nodup : ids.Nodup

theorem manageStr_toList (n : Nat) : (manageStr n).toList =
    List.replicate (4 - (Nat.toDigits 10 n).length) '0' ++ Nat.toDigits 10 n := by
  rw [manageStr, String.toList_ofList]

theorem manageStr_width (n : Nat) : 4 ≤ (manageStr n).length := by
  rw [← String.length_toList, manageStr_toList, List.length_append, List.length_replicate]
  omega

/-- **An ID of two digits around a number carries it**, however many digits it has. -/
theorem isServiceID_of_digits {cache segment : Char} (hcache : cache.isDigit = true)
    (hsegment : segment.isDigit = true) (n : Nat) {id : String}
    (hid : id.toList = cache :: (manageStr n).toList ++ [segment]) : IsServiceID n id := by
  refine ⟨⟨cache, segment, hcache, hsegment, hid⟩, manageStr_width n, ?_⟩
  rw [numberOf, hid, List.cons_append, List.tail_cons, List.dropLast_concat, manageStr_toList]
  exact Decimal.readNat_replicate_zero _ n

/-- The digits of a known type are one character each. -/
theorem serviceDigits_isDigit {t : String} {digits : String × String}
    (h : serviceDigits t = some digits) : ∃ cache segment : Char, cache.isDigit = true ∧
      segment.isDigit = true ∧ digits = (String.singleton cache, String.singleton segment) := by
  unfold serviceDigits at h
  split at h
  case h_7 => exact absurd h (by simp)
  all_goals
    obtain rfl := Option.some.inj h
    first
      | exact ⟨'0', '0', by decide⟩
      | exact ⟨'1', '0', by decide⟩
      | exact ⟨'1', '1', by decide⟩
      | exact ⟨'0', '1', by decide⟩

/-- A known type has IDs that carry their number. -/
theorem isServiceID_of_known {t : String} (h : (serviceDigits t).isSome) (n : Nat) :
    IsServiceID n (serviceIDOf n (.str t)).text := by
  obtain ⟨digits, hdigits⟩ := Option.isSome_iff_exists.mp h
  obtain ⟨cache, segment, hcache, hsegment, rfl⟩ := serviceDigits_isDigit hdigits
  refine isServiceID_of_digits hcache hsegment n ?_
  have htext : (serviceIDOf n (.str t)).text =
      String.singleton cache ++ manageStr n ++ String.singleton segment := by
    simp only [serviceIDOf, hdigits]
    rfl
  rw [htext, String.toList_append, String.toList_append, String.toList_singleton,
    String.toList_singleton, List.singleton_append]

/-- **An ID breaks no literal**, whatever the type. -/
theorem plain_serviceID (n : Nat) (t : Value) : Plain (serviceIDOf n t).text := by
  have hone : Plain "1" := by decide
  unfold serviceIDOf
  split
  · rename_i service
    cases hdigits : serviceDigits service with
    | none => exact hone
    | some digits =>
      obtain ⟨cache, segment, hcache, hsegment, rfl⟩ := serviceDigits_isDigit hdigits
      have hdigit : ∀ c : Char, c.isDigit = true → Plain (String.singleton c) := by
        intro c hc
        refine plain_of_digits fun d hd => Or.inl ?_
        rw [String.toList_singleton, List.mem_singleton] at hd
        rwa [hd]
      exact Plain.append (Plain.append (hdigit cache hcache) (ResolverPer.plain_manageStr n))
        (hdigit segment hsegment)
  · exact hone

/-- The known types are plain. -/
theorem plain_known {t : String} (h : (serviceDigits t).isSome) : Plain t := by
  unfold serviceDigits at h
  split at h
  case h_7 => exact absurd h (by simp)
  all_goals decide

theorem numbers_nil (lo hi : Nat) : Numbers lo hi [] := ⟨by simp, List.nodup_nil⟩

theorem Numbers.mono {lo hi hi' : Nat} {ids : List String} (h : Numbers lo hi ids)
    (hle : hi ≤ hi') : Numbers lo hi' ids := by
  refine ⟨fun id hid => ?_, h.nodup⟩
  obtain ⟨n, hlo, hhi, hn⟩ := h.numbered id hid
  exact ⟨n, hlo, Nat.le_trans hhi hle, hn⟩

theorem Numbers.sublist {lo hi : Nat} {ids ids' : List String} (h : Numbers lo hi ids)
    (hsub : ids'.Sublist ids) : Numbers lo hi ids' :=
  ⟨fun id hid => h.numbered id (hsub.subset hid), h.nodup.sublist hsub⟩

/-- The ID of the next number is none of the others. -/
theorem Numbers.next {lo hi : Nat} {ids : List String} {id : String} (h : Numbers lo hi ids)
    (hle : lo ≤ hi) (hid : IsServiceID (hi + 1) id) : Numbers lo (hi + 1) (ids ++ [id]) := by
  have hnew : id ∉ ids := by
    intro hmem
    obtain ⟨n, _, hhi, hn⟩ := h.numbered id hmem
    have hsame : some n = some (hi + 1) := hn.readBack.symm.trans hid.readBack
    have hn := Option.some.inj hsame
    omega
  refine ⟨fun id' hmem => ?_, ?_⟩
  · rcases List.mem_append.mp hmem with hmem | hmem
    · exact (h.mono (Nat.le_succ hi)).numbered id' hmem
    · obtain rfl := List.mem_singleton.mp hmem
      exact ⟨hi + 1, Nat.lt_succ_of_le hle, Nat.le_refl _, hid⟩
  · refine List.nodup_append.mpr ⟨h.nodup, by simp, fun a ha b hb => ?_⟩
    obtain rfl := List.mem_singleton.mp hb
    intro heq
    obtain rfl := heq
    exact hnew ha

/-! ## What is stored and what waits -/

variable {srv : Server} {faults : Faults} {base : Rows} {lo hi : Nat} {deviceID : String}

/-- The IDs of some rows of `Service`. -/
def serviceIDs (rows : Rows) : List String := Rows.cells rows .Service "serviceID"

theorem serviceIDs_append (rows rows' : Rows) :
    serviceIDs (rows ++ rows') = serviceIDs rows ++ serviceIDs rows' := Rows.cells_append _ _ _ _

/-- Since `base`, services were stored, and services wait on the connection, under IDs with
different numbers above `lo` up to `hi`. -/
def Counted (base : Rows) (lo hi : Nat) (s : State) : Prop :=
  ∃ new waiting : Rows, s.world.rows = base ++ new ∧
    s.conn = waiting.map (fun e => Change.insert e.1 e.2) ∧
    Numbers lo hi (serviceIDs (new ++ waiting))

theorem Counted.mono {hi' : Nat} {s : State} (h : Counted base lo hi s) (hle : hi ≤ hi') :
    Counted base lo hi' s := by
  obtain ⟨new, waiting, hrows, hconn, hnumbers⟩ := h
  exact ⟨new, waiting, hrows, hconn, hnumbers.mono hle⟩

/-- No number is taken, and what was counted still is. -/
structure Steady (s s' : State) : Prop where
  manageNum : s'.world.manageNum = s.world.manageNum
  counted : ∀ base lo hi, Counted base lo hi s → Counted base lo hi s'

theorem steady_frame : Proc.Frame Steady where
  refl := fun _ => ⟨rfl, fun _ _ _ h => h⟩
  trans := fun h1 h2 => ⟨h2.manageNum.trans h1.manageNum,
    fun base lo hi h => h2.counted base lo hi (h1.counted base lo hi h)⟩

/-- A state that differs in no row, no open change and no number. -/
theorem steady_same {s s' : State} (hrows : s'.world.rows = s.world.rows)
    (hconn : s'.conn = s.conn) (hmanage : s'.world.manageNum = s.world.manageNum) :
    Steady s s' := by
  refine ⟨hmanage, ?_⟩
  intro base lo hi hsome
  obtain ⟨new, waiting, h1, h2, h3⟩ := hsome
  exact ⟨new, waiting, hrows.trans h1, hconn.trans h2, h3⟩

theorem steady_opened (s : State) : Steady s s.opened := by
  refine ⟨rfl, ?_⟩
  intro base lo hi hsome
  obtain ⟨new, waiting, hrows, _, hnumbers⟩ := hsome
  refine ⟨new, [], hrows, rfl, hnumbers.sublist ?_⟩
  rw [List.append_nil, serviceIDs_append]
  exact List.sublist_append_left _ _

theorem steady_commit (s : State) : Steady s (s.commit srv) := by
  refine ⟨rfl, ?_⟩
  intro base lo hi hsome
  obtain ⟨new, waiting, hrows, hconn, hnumbers⟩ := hsome
  refine ⟨new ++ waiting, [], ?_, rfl, by rwa [List.append_nil]⟩
  have hcommit : (s.commit srv).world.rows = applyAll srv s.conn s.world.rows := rfl
  rw [hcommit, hconn, hrows, applyAll_waiting, List.append_assoc]

theorem steady_commitOpen (s : State) : Steady s (s.commitOpen srv) := by
  rw [State.commitOpen]
  split
  · exact steady_frame.refl s
  · exact steady_commit s

/-- The operations that insert nothing, delete nothing and take no number. -/
def steadyAct : Act → Prop
  | .execute (.insert _ _) => False
  | .execute (.delete _ _) => False
  | .manage => False
  | _ => True

theorem eval_steady {q : Statement} (hq : steadyAct (.execute q)) (s : State) :
    Steady s (q.eval srv s).2 := by
  cases q with
  | alter n =>
    rw [Statement.eval]
    split
    · exact steady_frame.trans (steady_commitOpen s) (steady_same rfl rfl rfl)
    · exact steady_commitOpen s
  | insert t row => exact absurd hq (by simp [steadyAct])
  | delete t deviceID => exact absurd hq (by simp [steadyAct])
  | _ => exact steady_frame.refl s

theorem act_steady {o : Act} (ho : steadyAct o) (s : State) :
    Steady s (act srv faults o s).2 := by
  refine act_keeps steady_frame (fun _ => steady_same rfl rfl rfl) (fun s => ?_) s
  cases o with
  | connect => exact steady_opened s
  | execute q => exact eval_steady ho s
  | commit => exact steady_commit s
  | emit event payload => exact steady_same rfl rfl rfl
  | manage => exact absurd ho (by simp [steadyAct])

/-- **A program of steady operations is steady**, however it ends. -/
theorem keeps_steady (srv : Server) (faults : Faults) {ε α : Type} {p : Prog Act Act.Res ε α}
    (hp : Prog.Only steadyAct p) : Proc.Keeps Steady (perform srv faults p) :=
  hp.run_keeps steady_frame fun _ s ho => act_steady ho s

/-! ## One service -/

/-- A service waits under the ID of the next number. -/
theorem Counted.push {s : State} (h : Counted base lo hi s) (hle : lo ≤ hi) {row : Row}
    {id : String} (hrow : Row.cell row "serviceID" = some id) (hid : IsServiceID (hi + 1) id) :
    Counted base lo (hi + 1) (s.push [.insert .Service row]) := by
  obtain ⟨new, waiting, hrows, hconn, hnumbers⟩ := h
  have hpush : (s.push [.insert .Service row]).conn =
      (waiting ++ [(Table.Service, row)]).map fun e => Change.insert e.1 e.2 := by
    rw [List.map_append, ← hconn]
    rfl
  have hone : serviceIDs [(Table.Service, row)] = [id] := by
    simp [serviceIDs, Rows.cells, hrow]
  refine ⟨new, waiting ++ [(Table.Service, row)], hrows, hpush, ?_⟩
  rw [← List.append_assoc, serviceIDs_append, hone]
  exact hnumbers.next hle hid

/-- An insertion of exactly what its texts are read as adds that to what waits, or nothing. -/
theorem insert_cases (faults : Faults) {t : Table} {row : Row} (hexact : srv.Exact t row)
    (s : State) : (perform srv faults (execute (.insert t row)) s).2 = s.tick ∨
      ∃ r, readTexts row = some r ∧
        (perform srv faults (execute (.insert t row)) s).2 = s.tick.push [.insert t r] := by
  rw [perform_execute]
  cases faults s.world.asked with
  | some code => exact Or.inl rfl
  | none =>
    rcases eval_insert_cases srv t row s.tick with ⟨code, heval⟩ | ⟨new, hreads, _, heval⟩
    · exact Or.inl (congrArg Prod.snd heval)
    · obtain ⟨r, hread, rfl⟩ := hexact _ _ hreads
      exact Or.inr ⟨r, hread, congrArg Prod.snd heval⟩

/-- **A service is inserted under its ID**, or nothing is. -/
theorem insertService_counted (srv : Server) (faults : Faults) (hdevice : Plain deviceID)
    {a id t : Value} {s : State} (h : Counted base lo hi s) (hle : lo ≤ hi)
    (hplain : Plain id.text)
    (hid : ∀ text, t = .str text → Plain text ∧ IsServiceID (hi + 1) id.text)
    (ha : ∀ texts, a.items = .ok texts → ∀ text ∈ texts, Unbroken text) :
    (perform srv faults (insertService deviceID id t a) s).2.world.manageNum =
        s.world.manageNum ∧
      Counted base lo (hi + 1) (perform srv faults (insertService deviceID id t a) s).2 := by
  have hkept : Counted base lo (hi + 1) s := h.mono (Nat.le_succ hi)
  rw [insertService, perform_bind, perform_lift]
  cases hitems : a.items with
  | error e => exact ⟨rfl, hkept⟩
  | ok texts =>
    simp only [perform_bind, perform_lift]
    cases ht : t.asStr with
    | error e => exact ⟨rfl, hkept⟩
    | ok serviceType =>
      have hwaits : Counted base lo hi s.tick := h
      obtain ⟨htype, hnumber⟩ := hid serviceType (Value.asStr_eq_ok.mp ht)
      have hexact : srv.Exact .Service (serviceRow id.text deviceID serviceType texts) :=
        exact_of_unbroken
          (ResolverPer.unbroken_serviceRow hplain hdevice htype.unbroken (ha texts hitems))
      rcases insert_cases faults hexact s with hinsert | ⟨r, hread, hinsert⟩
      · simp only [hinsert]
        exact ⟨rfl, hkept⟩
      · simp only [hinsert]
        have hcell : Row.cell r "serviceID" = some id.text :=
          (readTexts_get hread _).trans (readText_plain hplain)
        exact ⟨rfl, hwaits.push hle hcell hnumber⟩

/-- The service is of a known type, if its type is a text, and no attribute breaks its literal. -/
structure KnownService (v : Value) : Prop where
  serviceType : ∀ t, v.get "serviceType" = .ok (.str t) → (serviceDigits t).isSome
  attributes : ∀ a texts, v.get "attributes" = .ok a → a.items = .ok texts →
    ∀ text ∈ texts, Unbroken text

/-- The IDs are counted up to the last number that was taken. -/
structure Numbered (base : Rows) (lo : Nat) (s : State) : Prop where
  le : lo ≤ s.world.manageNum
  counted : Counted base lo s.world.manageNum s

/-- From such a state, such a state. -/
def StaysNumbered (base : Rows) (lo : Nat) (s s' : State) : Prop :=
  Numbered base lo s → Numbered base lo s'

theorem staysNumbered_frame (base : Rows) (lo : Nat) : Proc.Frame (StaysNumbered base lo) :=
  ⟨fun _ h => h, fun h1 h2 h => h2 (h1 h)⟩

theorem Steady.numbered {s s' : State} (h : Steady s s') : StaysNumbered base lo s s' := by
  intro hboth
  obtain ⟨hle, hcounted⟩ := hboth
  refine ⟨?_, ?_⟩
  · rw [h.manageNum]
    exact hle
  · rw [h.manageNum]
    exact h.counted base lo _ hcounted

theorem keeps_numbered {α : Type} {p : Handler α} (hp : Prog.Only steadyAct p) :
    Proc.Keeps (StaysNumbered base lo) (perform srv faults p) :=
  fun s => (keeps_steady srv faults hp s).numbered

/-- **One round of the loop**: whether the service is stored or not, its number is taken. -/
theorem updateService_numbered (hdevice : Plain deviceID) {v : Value} (hv : KnownService v)
    (attrCount : Nat) :
    Proc.Keeps (StaysNumbered base lo)
      (perform srv faults (updateService deviceID attrCount v)) := by
  refine keeps_lift_bind (staysNumbered_frame base lo) fun t ht => ?_
  intro s hboth
  obtain ⟨hle, hcounted⟩ := hboth
  have hgen : perform srv faults (genServiceID t) s =
      (.ok (serviceIDOf (s.world.manageNum + 1) t), s.manage) := rfl
  rw [perform_bind_ok hgen]
  have htaken : Numbered base lo s.manage := ⟨Nat.le_succ_of_le hle, hcounted.mono (Nat.le_succ _)⟩
  have hid : ∀ text, t = .str text → Plain text ∧
      IsServiceID (s.world.manageNum + 1) (serviceIDOf (s.world.manageNum + 1) t).text := by
    intro text heq
    obtain rfl := heq
    exact ⟨plain_known (hv.serviceType text ht), isServiceID_of_known (hv.serviceType text ht) _⟩
  cases hattributes : v.get "attributes" with
  | error e => exact htaken
  | ok a =>
    rw [Prog.ok_bind]
    cases a.len with
    | error e => exact htaken
    | ok n =>
      rw [Prog.ok_bind]
      have hcolumns := keeps_steady srv faults (ResolverPer.only_addColumns (P := steadyAct)
        (fun _ => trivial) (attrCount + 1) (n - attrCount)) s.manage
      rcases hrun : perform srv faults (addColumns (attrCount + 1) (n - attrCount)) s.manage with
        ⟨r, s1⟩
      rw [hrun] at hcolumns
      cases r with
      | error e =>
        rw [perform_bind_error hrun]
        exact hcolumns.numbered htaken
      | ok _ =>
        rw [perform_bind_ok hrun]
        -- the number is taken, and no ID carries it yet
        have hbefore : Counted base lo s.world.manageNum s1 :=
          hcolumns.counted base lo _ hcounted
        obtain ⟨hmanage, hafter⟩ := insertService_counted srv faults hdevice hbefore hle
          (plain_serviceID _ t) hid fun texts => hv.attributes a texts hattributes
        have htotal := hmanage.trans hcolumns.manageNum
        refine ⟨?_, ?_⟩
        · rw [htotal]
          exact Nat.le_succ_of_le hle
        · rw [htotal]
          exact hafter

/-! ## The whole update -/

/-- The services an update lists are of known types, and no attribute breaks its literal. -/
def KnownTypes (body : Body) : Prop :=
  ∀ content serviceList services, body = .ok content → content.get "services" = .ok serviceList →
    serviceList.iter = .ok services → ∀ v ∈ services, KnownService v

theorem updateServices_numbered (hdevice : Plain deviceID) {vs : List Value}
    (h : ∀ v ∈ vs, KnownService v) (attrCount : Nat) : Proc.Keeps (StaysNumbered base lo)
      (perform srv faults (updateServices deviceID attrCount vs)) := by
  induction vs with
  | nil => exact (staysNumbered_frame base lo).refl
  | cons v vs ih =>
    obtain ⟨hv, hvs⟩ := List.forall_mem_cons.mp h
    exact keeps_bind (staysNumbered_frame base lo) (updateService_numbered hdevice hv attrCount)
      fun _ => ih hvs

theorem updateBody_numbered {body : Body} (h : KnownTypes body) :
    Proc.Keeps (StaysNumbered base lo) (perform srv faults (updateBody body)) := by
  have hR := staysNumbered_frame base lo
  refine keeps_bind hR (keeps_numbered (only_connect trivial)) fun _ => ?_
  refine keeps_lift_bind hR fun content hcontent => ?_
  refine keeps_lift_bind hR fun deviceID hd => ?_
  refine keeps_bind hR (keeps_numbered (only_execute trivial)) fun exist => ?_
  split
  · exact hR.pure _
  · refine keeps_bind hR ?_ fun _ =>
      keeps_bind hR (keeps_numbered (only_commit trivial)) fun _ => hR.pure _
    refine keeps_lift_bind hR fun serviceList hlist => ?_
    refine keeps_bind hR (keeps_numbered (only_execute trivial)) fun columns => ?_
    refine keeps_lift_bind hR fun services hiter => ?_
    exact updateServices_numbered (ResolverPer.plain_deviceIDOf hd)
      (h content serviceList services hcontent hlist hiter) _

/-- The world after an update. -/
def afterUpdate (srv : Server) (faults : Faults) (w : World) (body : Body) : World :=
  (perform srv faults (Update body) (start w)).2.world

/-- Since `base`, services were stored under IDs with different numbers above `lo`, all taken. -/
def Served (base : Rows) (lo : Nat) (w : World) : Prop :=
  lo ≤ w.manageNum ∧ ∃ new, w.rows = base ++ new ∧ Numbers lo w.manageNum (serviceIDs new)

/-- **One update.** -/
theorem afterUpdate_served {w : World} {body : Body} (h : KnownTypes body)
    (hserved : Served base lo w) : Served base lo (afterUpdate srv faults w body) := by
  obtain ⟨hle, new, hrows, hnumbers⟩ := hserved
  have hstart : Numbered base lo (start w) :=
    ⟨hle, new, [], hrows, rfl, by rwa [List.append_nil]⟩
  have hkept : Proc.Keeps (StaysNumbered base lo) (perform srv faults (Update body)) :=
    keeps_tryExcept (staysNumbered_frame base lo) (updateBody_numbered h)
      fun _ => (staysNumbered_frame base lo).pure _
  obtain ⟨hle', new', waiting, hrows', _, hnumbers'⟩ := hkept (start w) hstart
  refine ⟨hle', new', hrows', hnumbers'.sublist ?_⟩
  rw [serviceIDs_append]
  exact List.sublist_append_left _ _

/-! ## Any updates -/

/-- The IDs stored between two states of the tables. -/
def storedIDs (w w' : World) : List String := serviceIDs (w'.rows.drop w.rows.length)

/-- **Updates of known types** store IDs that are different, each of which carries its number. -/
theorem serviceIDs_numbered (srv : Server) (faults : Faults) (w : World) (bodies : List Body)
    (h : ∀ body ∈ bodies, KnownTypes body) :
    Numbers w.manageNum (bodies.foldl (afterUpdate srv faults) w).manageNum
      (storedIDs w (bodies.foldl (afterUpdate srv faults) w)) := by
  have hstart : Served w.rows w.manageNum w :=
    ⟨Nat.le_refl _, [], (List.append_nil _).symm, numbers_nil _ _⟩
  obtain ⟨_, new, hrows, hnumbers⟩ : Served w.rows w.manageNum
      (bodies.foldl (afterUpdate srv faults) w) :=
    List.foldlRecOn bodies _ hstart fun _ hserved body hbody =>
      afterUpdate_served (h body hbody) hserved
  rw [storedIDs, hrows, List.drop_left]
  exact hnumbers

/-- A service without attributes. -/
def serviceOf (serviceType : String) : Value :=
  .dict [("serviceType", .str serviceType), ("attributes", .list [])]

/-- An update of device 1. -/
def updateOf (serviceTypes : List String) : Body :=
  .ok (.dict [("deviceID", .int 1), ("services", .list (serviceTypes.map serviceOf))])

theorem knownTypes_updateOf {serviceTypes : List String}
    (h : ∀ t ∈ serviceTypes, (serviceDigits t).isSome) : KnownTypes (updateOf serviceTypes) := by
  intro content serviceList services hcontent hlist hiter v hv
  obtain rfl := Except.ok.inj hcontent
  obtain rfl := Except.ok.inj hlist
  obtain rfl := Except.ok.inj hiter
  obtain ⟨t', hmem, rfl⟩ := List.mem_map.mp hv
  refine ⟨?_, ?_⟩
  · intro t ht
    obtain rfl := Value.str.inj (Except.ok.inj ht)
    exact h t' hmem
  · intro a texts ha htexts
    obtain rfl : Value.list [] = a := Except.ok.inj ha
    obtain rfl : [] = texts := Except.ok.inj htexts
    simp

/-- The rows of some services of device 1. -/
def serviceRows (services : List (String × String)) : Rows :=
  services.map fun e => (.Service, serviceRow e.1 "1" e.2 [])

/-- The theorem on two updates. -/
theorem serviceIDs_numbered_thrice : Numbers 0 3 ["100010", "000020", "100031"] := by
  have hknown : ∀ body ∈ [updateOf ["Web", "Game"], updateOf ["Voice"]], KnownTypes body := by
    simp only [List.forall_mem_cons]
    exact ⟨knownTypes_updateOf (by decide), knownTypes_updateOf (by decide), by simp⟩
  have hrun : [updateOf ["Web", "Game"], updateOf ["Voice"]].foldl
      (afterUpdate .plain fun _ => none) ⟨[ResolverPer.deviceOne], 0, 0, 0⟩ =
        ⟨ResolverPer.deviceOne ::
          serviceRows [("100010", "Web"), ("000020", "Game"), ("100031", "Voice")], 0, 11, 3⟩ := by
    decide +kernel
  have hnumbers := serviceIDs_numbered .plain (fun _ => none) ⟨[ResolverPer.deviceOne], 0, 0, 0⟩
    [updateOf ["Web", "Game"], updateOf ["Voice"]] hknown
  rw [hrun] at hnumbers
  exact hnumbers

/-- Two services of a type it does not know have the same ID. -/
theorem not_serviceIDs_numbered : ¬ ∀ srv faults w (bodies : List Body),
    Numbers w.manageNum (bodies.foldl (afterUpdate srv faults) w).manageNum
      (storedIDs w (bodies.foldl (afterUpdate srv faults) w)) := by
  intro h
  have hrun : [updateOf ["Chat"], updateOf ["Chat"]].foldl
      (afterUpdate .plain fun _ => none) ⟨[ResolverPer.deviceOne], 0, 0, 0⟩ =
        ⟨ResolverPer.deviceOne :: serviceRows [("1", "Chat"), ("1", "Chat")], 0, 10, 2⟩ := by
    decide +kernel
  have hnumbers := h .plain (fun _ => none) ⟨[ResolverPer.deviceOne], 0, 0, 0⟩
    [updateOf ["Chat"], updateOf ["Chat"]]
  rw [hrun] at hnumbers
  exact absurd hnumbers.nodup (by decide)

end Versatile.Resolver
