import Mathlib.Data.List.Nodup
import Mathlib.Data.String.Basic
import Mathlib.Tactic.IntervalCases
import Versatile.Resolver.ServiceIDs
import Versatile.Diversity.Granted

/-!
# The numbers of the requests

Both resolvers number a request by the largest number there is, plus one. `resolver_per.py` casts
the numbers, `resolver.py` compares them as texts: `9` is above `10`, so from the tenth request on
every number is `10` (`textID`). The two agree, and the numbers are 1, 2 and so on, for ten requests
and no more (`requests_numbered_iff`).

What a request does to the tables is the same in both (`AddsRequest`): it adds one row under the
number, and rows of requirements, if none of its texts breaks its literal. So one induction does for
both runs (`run_numbered`).
-/

namespace Versatile

open Py Diversity
open ResolverPer (start Interpreter requirementRow anyService)
open Resolver (serviceIDs)

/-! ## Numbers as texts -/

/-- The IDs of the requests that are stored. -/
def requestIDs (rows : Rows) : List String := Rows.cells rows .Request "requestID"

/-- There is a service, and no ID of a service breaks its literal. -/
structure Offered (rows : Rows) : Prop where
  exist : serviceIDs rows ≠ []
  unbroken : ∀ id ∈ serviceIDs rows, Unbroken id

/-- The IDs of `n` requests numbered from 1 on. -/
def numbers (n : Nat) : List String := (List.range n).map fun k => toString (k + 1)

/-- The ID `resolver.py` gives the request behind `k` others. -/
def textID (k : Nat) : String := toString (min (k + 1) 10)

/-- The number after the largest text. -/
def nextTextID (ids : List String) : Except Exc String :=
  match maxText ids with
  | some maxID => (Value.str maxID).toInt.map fun maxID => toString (maxID + 1)
  | none => .ok "1"

/-- The largest of some texts is one of them, and no other is larger. -/
theorem maxText_eq_some {texts : List String} {m : String} (hmem : m ∈ texts)
    (hle : ∀ t ∈ texts, t ≤ m) : maxText texts = some m := by
  cases texts with
  | nil => exact absurd hmem (by simp)
  | cons a texts =>
    rw [maxText]
    congr 1
    induction texts generalizing a with
    | nil => exact (List.mem_singleton.mp hmem).symm
    | cons b texts ih =>
      have ha := hle a (by simp)
      have hb := hle b (by simp)
      have hrest := fun t ht => hle t (List.mem_cons_of_mem _ (List.mem_cons_of_mem _ ht))
      rw [List.foldl_cons]
      by_cases hlt : a < b
      · rw [if_pos hlt]
        refine ih b ?_ (List.forall_mem_cons.mpr ⟨hb, hrest⟩)
        rcases List.mem_cons.mp hmem with rfl | hmem
        · exact absurd hlt (not_lt.mpr hb)
        · exact hmem
      · rw [if_neg hlt]
        refine ih a ?_ (List.forall_mem_cons.mpr ⟨ha, hrest⟩)
        rcases List.mem_cons.mp hmem with rfl | hmem
        · exact List.mem_cons_self
        · rcases List.mem_cons.mp hmem with rfl | hmem
          · obtain rfl : a = m := le_antisymm ha (not_lt.mp hlt)
            exact List.mem_cons_self
          · exact List.mem_cons_of_mem _ hmem

/-- **The next text behind `k` requests**: from ten on the largest is `9`, and the next is `10`
again. -/
theorem nextTextID_textID (k : Nat) :
    nextTextID ((List.range k).map textID) = .ok (textID k) := by
  by_cases hk : k < 10
  · interval_cases k <;> rfl
  · have hmax : maxText ((List.range k).map textID) = some "9" := by
      refine maxText_eq_some (List.mem_map.mpr ⟨8, List.mem_range.mpr (by omega), rfl⟩) ?_
      intro t ht
      obtain ⟨i, _, rfl⟩ := List.mem_map.mp ht
      have hdigits : ∀ j < 10, toString (j + 1) ≤ "9" := by decide
      have hmin : min (i + 1) 10 = min i 9 + 1 := by omega
      rw [textID, hmin]
      exact hdigits _ (by omega)
    have hten : textID k = "10" := by
      rw [textID, Nat.min_eq_right (by omega)]
      rfl
    rw [nextTextID, hmax, hten]
    rfl

/-! ## What a request adds -/

/-- A request was added under the ID, and requirements. -/
def AddsRequest (requestID : String) (rows rows' : Rows) : Prop :=
  ∃ (row : Row) (requirements : List Row), Row.cell row "requestID" = some requestID ∧
    rows' = rows ++ (.Request, row) :: requirements.map fun r => (.QosRequirement, r)

theorem AddsRequest.requestIDs {requestID : String} {rows rows' : Rows}
    (h : AddsRequest requestID rows rows') :
    requestIDs rows' = Versatile.requestIDs rows ++ [requestID] := by
  obtain ⟨row, requirements, hrow, rfl⟩ := h
  have hone : Rows.cells [(.Request, row)] .Request "requestID" = [requestID] := by
    simp [Rows.cells, hrow]
  rw [Versatile.requestIDs, Rows.cells_append, ← List.singleton_append, Rows.cells_append,
    Rows.cells_other (by decide), hone]
  rfl

theorem AddsRequest.serviceIDs {requestID : String} {rows rows' : Rows}
    (h : AddsRequest requestID rows rows') : serviceIDs rows' = Resolver.serviceIDs rows := by
  obtain ⟨row, requirements, _, rfl⟩ := h
  rw [Resolver.serviceIDs, Rows.cells_append, ← List.singleton_append, Rows.cells_append,
    Rows.cells_other (by decide)]
  exact List.append_nil _

theorem AddsRequest.offered {requestID : String} {rows rows' : Rows}
    (h : AddsRequest requestID rows rows') (hoffered : Offered rows) : Offered rows' where
  exist := by rw [h.serviceIDs]; exact hoffered.exist
  unbroken := by rw [h.serviceIDs]; exact hoffered.unbroken

/-- The rows behind the commit of a request. -/
theorem commit_request (srv : Diversity.Server) {s : State} (hconn : s.conn = []) (row : Row)
    (requirements : List Row) :
    (((s.inserted .Request [row]).inserted .QosRequirement requirements).tick.commit srv).world.rows
      = s.world.rows ++ (.Request, row) :: requirements.map fun r => (.QosRequirement, r) := by
  have hview : (((s.inserted .Request [row]).inserted .QosRequirement requirements).tick.commit
      srv).world.rows = applyAll srv (s.conn ++ [row].map (Change.insert .Request) ++
        requirements.map (Change.insert .QosRequirement)) s.world.rows := rfl
  rw [hview, hconn, List.nil_append, applyAll_append, applyAll_inserts,
    applyAll_inserts, List.append_assoc]
  rfl

/-! ## Any number of requests -/

/-- **A run whose requests are numbered by their place.** -/
theorem run_numbered {ι : Type} {step : World → ι → World} {idAt : Nat → String} {Ok : ι → Prop}
    {bound : Nat} (hstep : ∀ k w i, k < bound → Ok i → Offered w.rows →
      requestIDs w.rows = (List.range k).map idAt → AddsRequest (idAt k) w.rows (step w i).rows)
    {w : World} (hempty : requestIDs w.rows = []) (hservice : Offered w.rows)
    {is : List ι} (hlength : is.length ≤ bound) (hok : ∀ i ∈ is, Ok i) :
    requestIDs (is.foldl step w).rows = (List.range is.length).map idAt ∧
      Offered (is.foldl step w).rows := by
  induction is using List.reverseRecOn with
  | nil => exact ⟨hempty, hservice⟩
  | append_singleton is i ih =>
    rw [List.length_append, List.length_singleton] at hlength
    obtain ⟨hids, hoffered⟩ := ih (by omega) fun i hi => hok i (List.mem_append_left _ hi)
    have hadds := hstep is.length _ i (by omega) (hok i (by simp)) hoffered hids
    rw [List.foldl_append, List.foldl_cons, List.foldl_nil]
    refine ⟨?_, hadds.offered hoffered⟩
    rw [hadds.requestIDs, hids, List.length_append, List.length_singleton, List.range_succ,
      List.map_append, List.map_singleton]

/-! ## Requests that can be stored -/

/-- The fields of a requirement. -/
def metricNames : List String := ["metricName", "metricUnit", "metricValue", "metricOperator"]

/-- The request names a device, and lists requirements, all in texts that do not break their
literals. -/
structure Storable (content : Value) : Prop where
  deviceID : ∃ text, content.get "deviceID" = .ok (.str text) ∧ Unbroken text
  requirements : ∃ listed vs, content.get "qosRequirements" = .ok listed ∧ listed.iter = .ok vs ∧
    ∀ v ∈ vs, ∀ name ∈ metricNames, ∃ text, v.get name = .ok (.str text) ∧ Unbroken text

/-- Its type and its keywords are texts too, which `resolver_per.py` prints. -/
structure StorablePer (content : Value) : Prop extends Storable content where
  serviceType : ∃ text, content.get "serviceType" = .ok (.str text)
  keywords : ∃ text, content.get "keywords" = .ok (.str text)

theorem requirementRows_ok {vs : List Value} {requestID : String} (hid : Plain requestID)
    (h : ∀ v ∈ vs, ∀ name ∈ metricNames, ∃ text, v.get name = .ok (.str text) ∧ Unbroken text) :
    ∃ rows read, vs.mapM (requirementRow requestID) = .ok rows ∧
      List.Forall₂ (fun row r => readTexts row = some r) rows read := by
  induction vs with
  | nil => exact ⟨[], [], rfl, .nil⟩
  | cons v vs ih =>
    obtain ⟨hv, hvs⟩ := List.forall_mem_cons.mp h
    obtain ⟨rows, read, hrows, hread⟩ := ih hvs
    simp only [metricNames, List.forall_mem_cons] at hv
    obtain ⟨⟨name, hname, hname'⟩, ⟨unit, hunit, hunit'⟩, ⟨value, hvalue, hvalue'⟩,
      ⟨operator, hoperator, hoperator'⟩, _⟩ := hv
    have hrow : requirementRow requestID v = .ok [("requestID", requestID), ("metricName", name),
        ("metricUnit", unit), ("metricValue", value), ("metricOperator", operator)] := by
      rw [requirementRow, hname, hunit, hvalue, hoperator]
      rfl
    have hcells : ∀ c ∈ [("requestID", requestID), ("metricName", name), ("metricUnit", unit),
        ("metricValue", value), ("metricOperator", operator)], Unbroken c.2 := by
      simp [hid.unbroken, hname', hunit', hvalue', hoperator']
    obtain ⟨r, hr⟩ := exists_readTexts.mpr hcells
    exact ⟨_, r :: read, Except.mapM_cons_eq_ok.mpr ⟨_, rows, hrow, hrows, rfl⟩, .cons hr hread⟩

/-- The row of a request is stored under its number. -/
theorem requestRow_read {requestID deviceID serviceID : String} (hid : Plain requestID)
    (hdevice : Unbroken deviceID) (hservice : Unbroken serviceID) :
    ∃ r, readTexts [("requestID", requestID), ("deviceID", deviceID), ("serviceID", serviceID)] =
      some r ∧ Row.cell r "requestID" = some requestID := by
  have hcells : ∀ c ∈ [("requestID", requestID), ("deviceID", deviceID),
      ("serviceID", serviceID)], Unbroken c.2 := by
    simp [hid.unbroken, hdevice, hservice]
  obtain ⟨r, hr⟩ := exists_readTexts.mpr hcells
  refine ⟨r, hr, ?_⟩
  rw [Row.cell, readTexts_get hr]
  exact readText_plain hid

/-- The largest text, where there are texts. -/
theorem exists_maxText {texts : List String} (h : texts ≠ []) : ∃ m, maxText texts = some m := by
  cases texts with
  | nil => exact absurd rfl h
  | cons a texts => exact ⟨_, rfl⟩

theorem anyService_never {srv : Diversity.Server} {s : State} (h : Offered (s.view srv)) :
    ∃ serviceID, Unbroken serviceID ∧
      perform srv .never anyService s = (.ok serviceID, s.tick) := by
  obtain ⟨serviceID, hmax⟩ := exists_maxText h.exist
  refine ⟨serviceID, h.unbroken serviceID (ResolverPer.maxText_mem hmax), ?_⟩
  rw [anyService, perform_bind_ok (maxOfTexts_never _ _ _)]
  rw [serviceIDs] at hmax
  rw [hmax]
  rfl

/-! ## `resolver.Request` -/

namespace Resolver

/-- The world after a request. -/
def afterRequest (srv : Diversity.Server) (text : Exc → String) (w : World) (content : Value) :
    World := (perform srv .never (Request text (.ok content)) (start w)).2.world

theorem newRequestID_never {srv : Diversity.Server} {s : State} {requestID : String}
    (h : nextTextID (requestIDs (s.view srv)) = .ok requestID) :
    perform srv .never newRequestID s = (.ok requestID, s.tick) := by
  rw [newRequestID, perform_bind_ok (maxOfTexts_never _ _ _)]
  rw [nextTextID, requestIDs] at h
  cases hmax : maxText (Rows.cells (s.view srv) .Request "requestID") with
  | none =>
    rw [hmax] at h
    obtain rfl := Except.ok.inj h
    rfl
  | some maxID =>
    rw [hmax] at h
    cases hint : (Value.str maxID).toInt with
    | error e =>
      simp only [hint] at h
      exact absurd h (by simp [Except.map])
    | ok n =>
      simp only [hint] at h
      obtain rfl := Except.ok.inj h
      simp only [hint, Prog.ok_bind, perform_pure]

/-- A next number is plain. -/
theorem plain_nextTextID {ids : List String} {requestID : String}
    (h : nextTextID ids = .ok requestID) : Plain requestID := by
  unfold nextTextID at h
  split at h
  · rename_i maxID _
    cases hint : (Value.str maxID).toInt with
    | error e => rw [hint] at h; exact absurd h (by simp [Except.map])
    | ok n =>
      rw [hint] at h
      obtain rfl : toString (n + 1) = requestID := Except.ok.inj h
      exact plain_toString_int (n + 1)
  · obtain rfl := Except.ok.inj h
    decide

/-- **A request is stored** under the number after the largest text. -/
theorem afterRequest_adds (srv : Diversity.Server) (text : Exc → String) {w : World}
    {content : Value} {requestID : String} (hasks : Storable content)
    (hservice : Offered w.rows) (hid : nextTextID (requestIDs w.rows) = .ok requestID) :
    AddsRequest requestID w.rows (afterRequest srv text w content).rows := by
  obtain ⟨⟨deviceID, hdevice, hunbroken⟩, listed, vs, hlisted, hiter, htexts⟩ := hasks
  have hplain := plain_nextTextID hid
  obtain ⟨_, requirements, hrequirements, hread⟩ := requirementRows_ok hplain htexts
  have hnew : perform srv .never newRequestID (start w).tick.opened =
      (.ok requestID, (start w).tick.opened.tick) := newRequestID_never hid
  obtain ⟨serviceID, hunbroken', hany⟩ : ∃ serviceID, Unbroken serviceID ∧
      perform srv .never anyService (start w).tick.opened.tick =
        (.ok serviceID, (start w).tick.opened.tick.tick) := anyService_never hservice
  obtain ⟨row, hrow, hnumbered⟩ := requestRow_read hplain hunbroken hunbroken'
  have hrows : perform srv .never (requestRows (.ok content)) (start w) =
      (.ok (), ((start w).tick.opened.tick.tick.inserted .Request [row]).inserted .QosRequirement
        requirements) := by
    rw [requestRows, perform_bind_ok (connect_never _), perform_bind_ok hnew,
      perform_bind_ok hany]
    simp only [hdevice, hlisted, hiter, Prog.ok_bind, Value.asStr_str]
    rw [perform_bind_ok (insert_never (by decide) hrow _)]
    exact insertAll_never (by decide) hrequirements hread _
  have hbody := (perform_bind_ok (f := fun _ => do commit; return Value.str "Good") hrows).trans
    (perform_bind_ok (commit_never _))
  have hrequest : perform srv .never (Request text (.ok content)) (start w) = _ :=
    perform_try_ok hbody
  rw [afterRequest, hrequest]
  exact ⟨row, requirements, hnumbered, commit_request srv rfl _ requirements⟩

/-- **The requests are numbered up to ten**, and ten again from there on. -/
theorem run_textIDs (srv : Diversity.Server) (text : Exc → String) {w : World}
    {contents : List Value} (hempty : requestIDs w.rows = []) (hservice : Offered w.rows)
    (h : ∀ content ∈ contents, Storable content) :
    requestIDs (contents.foldl (afterRequest srv text) w).rows =
      (List.range contents.length).map textID := by
  refine (run_numbered (fun k w content _ hasks hservice hids => ?_) hempty hservice
    (Nat.le_refl _) h).1
  refine afterRequest_adds srv text hasks hservice ?_
  rw [hids]
  exact nextTextID_textID k

end Resolver

/-! ## `resolver_per.Request` -/

namespace ResolverPer

/-- The world after a request. -/
abbrev afterRequest (srv : Diversity.Server) (py : Interpreter) (w : World) (js : String) : World :=
  step srv .never py w (.Request, js)

/-- **A request is stored** under the number after the largest number. -/
theorem afterRequest_adds (srv : Diversity.Server) {py : Interpreter} {js : String} {w : World}
    {content : Value} (hjs : py.loads js = .ok content) (hasks : StorablePer content)
    (hservice : Offered w.rows) :
    AddsRequest (nextID ((requestIDs w.rows).map srv.castSigned).max?) w.rows
      (afterRequest srv py w js).rows := by
  obtain ⟨⟨⟨deviceID, hdevice, hunbroken⟩, listed, vs, hlisted, hiter, htexts⟩,
    ⟨serviceType, hserviceType⟩, ⟨keywords, hkeywords⟩⟩ := hasks
  have hplain := plain_nextID ((requestIDs w.rows).map srv.castSigned).max?
  generalize hid : nextID ((requestIDs w.rows).map srv.castSigned).max? = requestID at hplain
  obtain ⟨_, requirements, hrequirements, hread⟩ := requirementRows_ok hplain htexts
  have hrequester : requesterOf content = .ok deviceID := by
    rw [requesterOf, hdevice]
    rfl
  have hmax : perform srv .never (maxSigned .Request "requestID") (start w).tick.opened =
      (.ok ((requestIDs w.rows).map srv.castSigned).max?, (start w).tick.opened.tick) :=
    maxSigned_never _ _ _
  obtain ⟨serviceID, hunbroken', hany⟩ : ∃ serviceID, Unbroken serviceID ∧
      perform srv .never anyService (start w).tick.opened.tick =
        (.ok serviceID, (start w).tick.opened.tick.tick) := anyService_never hservice
  obtain ⟨row, hrow, hnumbered⟩ := requestRow_read hplain hunbroken hunbroken'
  have hrows : perform srv .never (requestRows content) (start w) =
      (.ok serviceType, ((start w).tick.opened.tick.tick.inserted .Request [row]).inserted
        .QosRequirement requirements) := by
    rw [requestRows, perform_bind_ok (connect_never _), perform_bind_ok hmax, hid,
      perform_bind_ok hany]
    simp only [hrequester, hserviceType, hlisted, hkeywords, hiter, Prog.ok_bind, Value.asStr_str]
    rw [perform_bind_ok (insert_never (by decide) hrow _),
      perform_bind_ok (insertAll_never (by decide) hrequirements hread _)]
    rfl
  generalize hstored : (((start w).tick.opened.tick.tick.inserted .Request [row]).inserted
    .QosRequirement requirements) = stored at hrows
  obtain ⟨s', hanswer, _, _, _, _, rfl⟩ :=
    @answers_request srv .never serviceType (stored.tick.commit srv)
  have hbody : perform srv .never (requestBody content) (start w) = _ :=
    (perform_bind_ok hrows).trans ((perform_bind_ok (commit_never _)).trans hanswer)
  have hdecoded : decoded .Request content =
    tryAnswer .Request (requestBody content) fun _ => answerOf 1 := rfl
  rw [afterRequest, step, handle_eq, hjs]
  simp only [hdecoded, tryAnswer_ok hbody]
  rw [← hstored]
  exact ⟨row, requirements, hnumbered, commit_request srv rfl _ requirements⟩

/-- The number after the largest of 1 to `k`. -/
theorem nextID_numbers (srv : Diversity.Server) {k : Nat} (hk : k < 2 ^ 63) :
    nextID ((numbers k).map srv.castSigned).max? = toString (k + 1) := by
  have hcast : ∀ i < k, srv.castSigned (toString (i + 1)) = (i : Int) + 1 := by
    intro i hi
    have hrange : InBigint ((i + 1 : Nat) : Int) := ⟨by omega, by omega⟩
    exact srv.cast_int _ hrange
  have hnumbers : (numbers k).map srv.castSigned =
      (List.range k).map fun i : Nat => (i : Int) + 1 := by
    rw [numbers, List.map_map]
    exact List.map_congr_left fun i hi => hcast i (List.mem_range.mp hi)
  rw [hnumbers]
  cases k with
  | zero => rfl
  | succ k =>
    have hmax : ((List.range (k + 1)).map fun i : Nat => (i : Int) + 1).max? =
        some ((k : Int) + 1) := by
      refine List.max?_eq_some_iff.mpr ⟨List.mem_map.mpr ⟨k, List.self_mem_range_succ, rfl⟩, ?_⟩
      intro b hb
      obtain ⟨i, hi, rfl⟩ := List.mem_map.mp hb
      have hi := List.mem_range.mp hi
      omega
    rw [hmax]
    rfl

/-- The message is a request that can be stored. -/
def IsRequest (py : Interpreter) (js : String) : Prop :=
  ∃ content, py.loads js = .ok content ∧ StorablePer content

theorem isRequest_of_forall₂ {py : Interpreter} {jss : List String} {contents : List Value}
    (h : List.Forall₂ (fun js content => py.loads js = .ok content ∧ StorablePer content) jss
      contents) : ∀ js ∈ jss, IsRequest py js := by
  induction h with
  | nil => simp
  | cons hjs _ ih => exact List.forall_mem_cons.mpr ⟨⟨_, hjs⟩, ih⟩

/-- **The requests are numbered by their place.** -/
theorem run_numbers (srv : Diversity.Server) {py : Interpreter} {w : World} {jss : List String}
    (hempty : requestIDs w.rows = []) (hservice : Offered w.rows)
    (hlength : jss.length < 2 ^ 63) (h : ∀ js ∈ jss, IsRequest py js) :
    requestIDs (jss.foldl (afterRequest srv py) w).rows = numbers jss.length := by
  refine (run_numbered (fun k w js hk hjs hservice hids => ?_) hempty hservice (Nat.le_refl _) h).1
  obtain ⟨content, hloads, hasks⟩ := hjs
  have hadds := afterRequest_adds srv hloads hasks hservice
  have hnext : nextID ((requestIDs w.rows).map srv.castSigned).max? = toString (k + 1) := by
    rw [hids]
    exact nextID_numbers srv (by omega)
  rwa [hnext] at hadds

/-- Whatever the messages are, the requests that are stored keep their IDs. -/
theorem run_prefix (srv : Diversity.Server) (py : Interpreter) (w : World) (jss : List String) :
    ∃ new, requestIDs (jss.foldl (afterRequest srv py) w).rows = requestIDs w.rows ++ new := by
  refine Machine.foldl_rel (R := fun w w' => ∃ new, requestIDs w'.rows = requestIDs w.rows ++ new)
    (fun w => ⟨[], (List.append_nil _).symm⟩) ?_ (fun w js => ?_) jss w
  · intro a b c hsome hgiven
    obtain ⟨new, hab⟩ := hsome
    obtain ⟨new', hbc⟩ := hgiven
    exact ⟨new ++ new', by rw [hbc, hab, List.append_assoc]⟩
  · obtain ⟨new, hrows, _⟩ := request_adds srv .never py js w
    refine ⟨requestIDs new, ?_⟩
    rw [afterRequest, step, hrows]
    exact Rows.cells_append _ _ _ _

end ResolverPer

/-! ## The two resolvers -/

theorem textIDs_eq_numbers {n : Nat} : (List.range n).map textID = numbers n ↔ n ≤ 10 := by
  refine ⟨?_, ?_⟩
  · intro h
    by_contra hn
    have hten := congrArg (fun ids => ids[10]?) h
    simp only [numbers, List.getElem?_map, List.getElem?_range (by omega : 10 < n)] at hten
    exact absurd hten (by decide)
  · intro hn
    refine List.map_congr_left fun k hk => ?_
    have hk := List.mem_range.mp hk
    rw [textID, Nat.min_eq_left (by omega)]

/-- The requests are stored under different IDs, which are 1 to `n`. -/
def NumberedTo (n : Nat) (ids : List String) : Prop := ids.Nodup ∧ ids = numbers n

theorem numberedTo_iff {n : Nat} {ids : List String} : NumberedTo n ids ↔ ids = numbers n := by
  refine ⟨fun h => h.2, ?_⟩
  intro heq
  obtain rfl := heq
  refine ⟨List.Nodup.map (fun a b h => ?_) List.nodup_range, rfl⟩
  have := Decimal.toString_nat_injective h
  omega

/-- **The requests of `resolver.py` are numbered as they should** exactly if there are ten at most,
and exactly then as `resolver_per.py` numbers them. -/
theorem requests_numbered_iff (srv : Diversity.Server) (text : Exc → String) (w : World)
    (contents : List Value) (hempty : requestIDs w.rows = []) (hservice : Offered w.rows)
    (h : ∀ content ∈ contents, Storable content) :
    (NumberedTo contents.length
        (requestIDs (contents.foldl (Resolver.afterRequest srv text) w).rows) ↔
      contents.length ≤ 10) ∧
    ∀ py jss, List.Forall₂ (fun js content => Interpreter.loads py js = .ok content ∧
        StorablePer content) jss contents →
      (requestIDs (contents.foldl (Resolver.afterRequest srv text) w).rows =
          requestIDs (jss.foldl (ResolverPer.afterRequest srv py) w).rows ↔
        contents.length ≤ 10) := by
  rw [Resolver.run_textIDs srv text hempty hservice h, numberedTo_iff, textIDs_eq_numbers]
  refine ⟨Iff.rfl, fun py jss hjss => ?_⟩
  have hlength := hjss.length_eq
  have hrequests := ResolverPer.isRequest_of_forall₂ hjss
  refine ⟨?_, ?_⟩
  · intro hsame
    by_contra hn
    -- behind eleven requests the IDs differ, and they stay
    have heleven : (jss.take 11).length = 11 := List.length_take_of_le (by omega)
    have hshort : (jss.take 11).length < 2 ^ 63 := by omega
    have hfirst := ResolverPer.run_numbers srv hempty hservice hshort fun js hjs =>
      hrequests js (List.mem_of_mem_take hjs)
    obtain ⟨new, hrest⟩ := ResolverPer.run_prefix srv py
      ((jss.take 11).foldl (ResolverPer.afterRequest srv py) w) (jss.drop 11)
    rw [← List.foldl_append, List.take_append_drop, hfirst, heleven, ← hsame] at hrest
    have hten := congrArg (fun ids => ids[10]?) hrest
    rw [List.getElem?_map, List.getElem?_range (by omega : 10 < contents.length),
      List.getElem?_append_left (by decide)] at hten
    exact absurd hten (by decide)
  · intro hn
    rw [ResolverPer.run_numbers srv hempty hservice (by omega) hrequests, hlength]
    exact textIDs_eq_numbers.mpr hn

/-- A request without requirements. -/
def webRequest : Value :=
  .dict [("deviceID", .str "1"), ("serviceType", .str "Web"), ("keywords", .str ""),
    ("qosRequirements", .list [])]

/-- A device that offers a service. -/
def offeringWorld : World := ⟨[ResolverPer.deviceOne, ResolverPer.serviceOne], 0, 0, 1⟩

theorem offeringWorld_offered : Offered offeringWorld.rows := ⟨by decide, by decide⟩

theorem webRequest_asks : StorablePer webRequest :=
  ⟨⟨⟨_, rfl, by decide⟩, _, _, rfl, rfl, by simp⟩, ⟨_, rfl⟩, ⟨_, rfl⟩⟩

theorem webRequest_storable (n : Nat) :
    ∀ content ∈ List.replicate n webRequest, Storable content := by
  intro content hcontent
  rw [List.eq_of_mem_replicate hcontent]
  exact webRequest_asks.toStorable

theorem webRequest_loads (n : Nat) : List.Forall₂ (fun js content =>
    Interpreter.plain.loads js = .ok content ∧ StorablePer content)
      (List.replicate n ResolverPer.asks.2) (List.replicate n webRequest) := by
  have hloads : Interpreter.plain.loads ResolverPer.asks.2 = .ok webRequest := by rfl
  induction n with
  | zero => exact .nil
  | succ n ih => exact .cons ⟨hloads, webRequest_asks⟩ ih

/-- The theorem on ten requests. -/
theorem requests_numbered_ten :
    NumberedTo 10 (requestIDs ((List.replicate 10 webRequest).foldl
      (Resolver.afterRequest .plain fun _ => "") offeringWorld).rows) ∧
    requestIDs ((List.replicate 10 webRequest).foldl
        (Resolver.afterRequest .plain fun _ => "") offeringWorld).rows =
      requestIDs ((List.replicate 10 ResolverPer.asks.2).foldl
        (ResolverPer.afterRequest .plain .plain) offeringWorld).rows := by
  obtain ⟨hnumbered, hsame⟩ := requests_numbered_iff .plain (fun _ => "") offeringWorld
    (List.replicate 10 webRequest) rfl offeringWorld_offered (webRequest_storable 10)
  exact ⟨hnumbered.mpr (by decide), (hsame .plain _ (webRequest_loads 10)).mpr (by decide)⟩

/-- The eleventh request has the ID of the tenth. -/
theorem not_requests_numbered :
    ¬ NumberedTo 11 (requestIDs ((List.replicate 11 webRequest).foldl
      (Resolver.afterRequest .plain fun _ => "") offeringWorld).rows) := by
  rw [Resolver.run_textIDs .plain (fun _ => "") rfl offeringWorld_offered
    (webRequest_storable 11), numberedTo_iff, List.length_replicate, textIDs_eq_numbers]
  decide

end Versatile
