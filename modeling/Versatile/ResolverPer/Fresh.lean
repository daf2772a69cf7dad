import Versatile.Lib.Run
import Versatile.ResolverPer.Rows

/-!
# A new device has a fresh identity

Device IDs are the maximum plus one, so the number of a device that left comes back once it was
the largest. A new device is then free of old rows only if nothing else carries the number. What
keeps it so, along a run from empty tables, is `Tidy`: services and neighbors belong to devices
that have a row, and no request names a number above the largest. Three kinds of messages break
it: a join that lists neighbors and no interface, a request that names a device yet to come, and a
leave of the largest device while a request still names it. So does a text that breaks its literal,
behind which a statement stores what it likes.
-/

namespace Versatile.ResolverPer

open Py Diversity

variable {srv : Server} {faults : Faults} {py : Interpreter}

/-! ## Runs -/

/-- One message, handled alone. -/
def step (srv : Server) (faults : Faults) (py : Interpreter) (w : World) (i : Message × String) :
    World :=
  (handle srv faults py i.1 i.2 w).2.world

/-- If the message is a join answered with error 0, no row of `Service`, `Request` or `Neighbor`
that was there carries the new ID. -/
def Fresh (srv : Server) (faults : Faults) (py : Interpreter) (w : World)
    (i : Message × String) : Prop :=
  i.1 = .Join → ∀ deviceID, Joined (handle srv faults py .Join i.2 w).2.log deviceID →
    ∀ e ∈ w.rows, e.1 = .Service ∨ e.1 = .Request ∨ e.1 = .Neighbor → ¬ Carries deviceID e.2

/-! ## The largest ID -/

/-- The largest device ID, zero if there is none. -/
def largestID (srv : Server) (rows : Rows) : Int :=
  ((Rows.cells rows .Device "deviceID").map srv.castSigned).max?.getD 0

theorem nextID_eq (srv : Server) (w : World) :
    nextID (maxDevice srv w) = toString (largestID srv w.rows + 1) := by
  rw [maxDevice, largestID]
  cases ((Rows.cells w.rows .Device "deviceID").map srv.castSigned).max? <;> rfl

theorem mem_cells {rows : Rows} {t : Table} {column text : String} :
    text ∈ Rows.cells rows t column ↔
      ∃ row, (t, row) ∈ rows ∧ Row.cell row column = some text := by
  rw [Rows.cells, List.mem_filterMap]
  refine ⟨?_, ?_⟩
  · intro hsome
    obtain ⟨⟨t', row⟩, hmem, h⟩ := hsome
    by_cases ht : t' = t
    · subst ht
      exact ⟨row, hmem, by simpa using h⟩
    · exact absurd h (by simp [ht])
  · intro hsome
    obtain ⟨row, hmem, h⟩ := hsome
    exact ⟨(t, row), hmem, by simpa using h⟩

/-- No device is above the largest. -/
theorem castSigned_le_largestID (srv : Server) {rows : Rows} {text : String}
    (h : text ∈ Rows.cells rows .Device "deviceID") : srv.castSigned text ≤ largestID srv rows := by
  have hcast : srv.castSigned text ∈ _ := List.mem_map_of_mem h
  rw [largestID]
  cases hmax : ((Rows.cells rows .Device "deviceID").map srv.castSigned).max? with
  | none => rw [List.max?_eq_none_iff.mp hmax] at hcast; exact absurd hcast (by simp)
  | some m => exact (List.max?_eq_some_iff.mp hmax).2 _ hcast

/-- A device whose ID is a number in range, by that number. -/
theorem le_largestID (srv : Server) {rows : Rows} {row : Row} {n : Int}
    (hmem : (Table.Device, row) ∈ rows) (hrow : Carries (toString n) row) (hn : InBigint n) :
    n ≤ largestID srv rows := by
  have hle := castSigned_le_largestID srv (mem_cells.mpr ⟨row, hmem, hrow⟩)
  rwa [srv.cast_int n hn] at hle

/-- Rows of other tables do not count. -/
theorem largestID_append {rows new : Rows} (h : ∀ e ∈ new, e.1 ≠ .Device) :
    largestID srv (rows ++ new) = largestID srv rows := by
  have hnil : Rows.cells new .Device "deviceID" = [] :=
    List.filterMap_eq_nil_iff.mpr fun e he => if_neg (h e he)
  have happend : Rows.cells (rows ++ new) .Device "deviceID" =
      Rows.cells rows .Device "deviceID" ++ Rows.cells new .Device "deviceID" :=
    List.filterMap_append
  rw [largestID, happend, hnil, List.append_nil, largestID]

/-! ## What keeps IDs fresh -/

/-- The text is a number above `n`. -/
def NamesAbove (n : Int) (text : String) : Prop := ∃ k : Int, n < k ∧ text = toString k

/-- Devices have numbers in range; services and neighbors carry the ID of a device that has a row;
requests name no number above the largest; the IDs of services break no literal. -/
structure Tidy (srv : Server) (rows : Rows) : Prop where
  devices : ∀ row, (Table.Device, row) ∈ rows → ∃ n : Int, InBigint n ∧ Carries (toString n) row
  owned : ∀ e ∈ rows, e.1 = .Service ∨ e.1 = .Neighbor →
    ∃ text row, Carries text e.2 ∧ (Table.Device, row) ∈ rows ∧ Carries text row
  requests : ∀ row, (Table.Request, row) ∈ rows → ∀ text, Carries text row →
    ¬ NamesAbove (largestID srv rows) text
  serviceIDs : ∀ row, (Table.Service, row) ∈ rows → ∀ text, Row.cell row "serviceID" = some text →
    Plain text

/-- The next number has room in `BIGINT`, and a join that lists neighbors lists an interface; the
device a request names is read as no device yet to come; no request names a number above those a
leave leaves. No text of a join or an update breaks its literal. -/
def Orderly (srv : Server) (py : Interpreter) (w : World) (i : Message × String) : Prop :=
  match i.1 with
  | .Join => InBigint (largestID srv w.rows + 1) ∧ ∀ content, py.loads i.2 = .ok content →
      JoinUnbroken content ∧
        (uniqueCodesOf content = .ok [] → ∀ vs, neighborsOf content = .ok vs → vs = [])
  | .Update => ∀ content, py.loads i.2 = .ok content → UpdateUnbroken content
  | .Request => ∀ content deviceID, py.loads i.2 = .ok content →
      requesterOf content = .ok deviceID →
        ∃ value, readText deviceID = some value ∧ ¬ NamesAbove (largestID srv w.rows) value
  | .Leave => ∀ content deviceID, py.loads i.2 = .ok content →
      deviceIDOf content = .ok deviceID → ∀ row, (Table.Request, row) ∈ w.rows →
      ∀ text, Carries text row → ¬ NamesAbove (largestID srv (left srv deviceID w.rows)) text

theorem tidy_nil (srv : Server) : Tidy srv [] := ⟨by simp, by simp, by simp, by simp⟩

theorem carries_unique {row : Row} {a b : String} (ha : Carries a row) (hb : Carries b row) :
    a = b := Option.some.inj (ha.symm.trans hb)

/-- **In tidy tables the next ID is free.** -/
theorem Tidy.not_carries {rows : Rows} (h : Tidy srv rows) {e : Table × Row} (he : e ∈ rows)
    (ht : e.1 = .Service ∨ e.1 = .Request ∨ e.1 = .Neighbor) :
    ¬ Carries (toString (largestID srv rows + 1)) e.2 := by
  intro hcarries
  have howned : e.1 = .Service ∨ e.1 = .Neighbor → False := by
    intro ht
    obtain ⟨text, row, htext, hmem, hrow⟩ := h.owned e he ht
    obtain ⟨n, hn, hnum⟩ := h.devices row hmem
    have heq : toString n = toString (largestID srv rows + 1) :=
      (carries_unique hnum hrow).trans (carries_unique htext hcarries)
    have hle := le_largestID srv hmem hnum hn
    have := Decimal.toString_int_injective heq
    omega
  rcases ht with ht | ht | ht
  · exact howned (Or.inl ht)
  · obtain ⟨t, row⟩ := e
    obtain rfl : t = .Request := ht
    exact h.requests row he _ hcarries ⟨_, by omega, rfl⟩
  · exact howned (Or.inr ht)

/-! ## One step -/

/-- Rows that are no devices and own a device, or name none above the largest. -/
theorem Tidy.append {rows new : Rows} (h : Tidy srv rows) (hdevice : ∀ e ∈ new, e.1 ≠ .Device)
    (hservices : ∀ row, (Table.Service, row) ∈ new → ∀ text, Row.cell row "serviceID" = some text →
      Plain text)
    (howned : ∀ e ∈ new, e.1 = .Service ∨ e.1 = .Neighbor →
      ∃ text row, Carries text e.2 ∧ (Table.Device, row) ∈ rows ∧ Carries text row)
    (hrequests : ∀ row, (Table.Request, row) ∈ new → ∀ text, Carries text row →
      ¬ NamesAbove (largestID srv rows) text) : Tidy srv (rows ++ new) := by
  refine ⟨?_, ?_, ?_, ?_⟩
  · intro row hmem
    rcases List.mem_append.mp hmem with hmem | hmem
    · exact h.devices row hmem
    · exact absurd rfl (hdevice _ hmem)
  · intro e he ht
    rcases List.mem_append.mp he with he | he
    · obtain ⟨text, row, htext, hmem, hrow⟩ := h.owned e he ht
      exact ⟨text, row, htext, List.mem_append_left _ hmem, hrow⟩
    · obtain ⟨text, row, htext, hmem, hrow⟩ := howned e he ht
      exact ⟨text, row, htext, List.mem_append_left _ hmem, hrow⟩
  · intro row hmem
    rw [largestID_append hdevice]
    rcases List.mem_append.mp hmem with hmem | hmem
    · exact h.requests row hmem
    · exact hrequests row hmem
  · intro row hmem
    rcases List.mem_append.mp hmem with hmem | hmem
    · exact h.serviceIDs row hmem
    · exact hservices row hmem

/-- The rows of a join with an interface. -/
theorem Tidy.join {rows : Rows} (h : Tidy srv rows) {neighbors devices : List Row}
    (hnext : InBigint (largestID srv rows + 1)) (hdevices : devices ≠ [])
    (hids : ∀ row ∈ devices, Carries (toString (largestID srv rows + 1)) row)
    (hneighbors : ∀ row ∈ neighbors, Carries (toString (largestID srv rows + 1)) row) :
    Tidy srv (rows ++ (neighbors.map fun r => (Table.Neighbor, r)) ++
      devices.map fun r => (Table.Device, r)) := by
  obtain ⟨first, hfirst⟩ := List.exists_mem_of_ne_nil devices hdevices
  have hmem : (Table.Device, first) ∈ rows ++ (neighbors.map fun r => (Table.Neighbor, r)) ++
      devices.map fun r => (Table.Device, r) :=
    List.mem_append_right _ (List.mem_map.mpr ⟨first, hfirst, rfl⟩)
  have hlarger := le_largestID srv hmem (hids first hfirst) hnext
  refine ⟨?_, ?_, ?_, ?_⟩
  · intro row hrow
    rcases List.mem_append.mp hrow with hrow | hrow
    · rcases List.mem_append.mp hrow with hrow | hrow
      · exact h.devices row hrow
      · obtain ⟨r, _, heq⟩ := List.mem_map.mp hrow
        exact absurd (congrArg Prod.fst heq) (by simp)
    · obtain ⟨r, hr, heq⟩ := List.mem_map.mp hrow
      obtain rfl := (Prod.mk.inj heq).2
      exact ⟨_, hnext, hids r hr⟩
  · intro e he ht
    rcases List.mem_append.mp he with he | he
    · rcases List.mem_append.mp he with he | he
      · obtain ⟨text, row, htext, hrow, hcarries⟩ := h.owned e he ht
        exact ⟨text, row, htext, List.mem_append_left _ (List.mem_append_left _ hrow), hcarries⟩
      · obtain ⟨r, hr, rfl⟩ := List.mem_map.mp he
        exact ⟨_, first, hneighbors r hr, hmem, hids first hfirst⟩
    · obtain ⟨r, _, rfl⟩ := List.mem_map.mp he
      exact absurd ht (by simp)
  · intro row hrow text htext hsome
    obtain ⟨k, hk, rfl⟩ := hsome
    rcases List.mem_append.mp hrow with hrow | hrow
    · rcases List.mem_append.mp hrow with hrow | hrow
      · exact h.requests row hrow _ htext ⟨k, by omega, rfl⟩
      · obtain ⟨r, _, heq⟩ := List.mem_map.mp hrow
        exact absurd (congrArg Prod.fst heq) (by simp)
    · obtain ⟨r, _, heq⟩ := List.mem_map.mp hrow
      exact absurd (congrArg Prod.fst heq) (by simp)
  · intro row hrow
    rcases List.mem_append.mp hrow with hrow | hrow
    · rcases List.mem_append.mp hrow with hrow | hrow
      · exact h.serviceIDs row hrow
      · obtain ⟨r, _, heq⟩ := List.mem_map.mp hrow
        exact absurd (congrArg Prod.fst heq) (by simp)
    · obtain ⟨r, _, heq⟩ := List.mem_map.mp hrow
      exact absurd (congrArg Prod.fst heq) (by simp)

/-- What a leave keeps: the rows of other tables, and those that do not match. -/
theorem mem_left {deviceID : String} {rows : Rows} {e : Table × Row} :
    e ∈ left srv deviceID rows ↔ e ∈ rows ∧
      ((e.1 = .Device ∨ e.1 = .Service ∨ e.1 = .Neighbor) → srv.names deviceID e.2 = false) := by
  have happly : left srv deviceID rows = ((rows.filter
      fun e => !(e.1 = .Device && srv.names deviceID e.2)).filter
      fun e => !(e.1 = .Service && srv.names deviceID e.2)).filter
      fun e => !(e.1 = .Neighbor && srv.names deviceID e.2) := rfl
  rw [happly]
  simp only [List.mem_filter, Bool.not_eq_true', Bool.and_eq_false_iff, decide_eq_false_iff_not]
  cases srv.names deviceID e.2 with
  | true => simp; tauto
  | false => simp

/-- Two rows with one device ID match the same texts. -/
theorem names_congr {text deviceID : String} {row row' : Row} (h : Carries text row)
    (h' : Carries text row') : srv.names deviceID row = srv.names deviceID row' := by
  rw [Server.names, Server.names, show Row.cell row "deviceID" = some text from h,
    show Row.cell row' "deviceID" = some text from h']

theorem Tidy.left {rows : Rows} (h : Tidy srv rows) {deviceID : String}
    (hrequests : ∀ row, (Table.Request, row) ∈ rows → ∀ text, Carries text row →
      ¬ NamesAbove (largestID srv (left srv deviceID rows)) text) :
    Tidy srv (left srv deviceID rows) := by
  refine ⟨?_, ?_, ?_, ?_⟩
  · intro row hmem
    exact h.devices row (mem_left.mp hmem).1
  · intro e he ht
    obtain ⟨he, hother⟩ := mem_left.mp he
    obtain ⟨text, row, htext, hmem, hrow⟩ := h.owned e he ht
    have hkeep : srv.names deviceID row = false := by
      rw [names_congr hrow htext]
      exact hother (Or.inr ht)
    exact ⟨text, row, htext, mem_left.mpr ⟨hmem, fun _ => hkeep⟩, hrow⟩
  · intro row hmem
    exact hrequests row (mem_left.mp hmem).1
  · intro row hmem
    exact h.serviceIDs row (mem_left.mp hmem).1

/-- A registered device has a row that carries its ID, if the devices have numbers. -/
theorem Tidy.registered {w : World} (h : Tidy srv w.rows) {n : Int}
    (hreg : Registered srv w (toString n)) :
    ∃ row, (Table.Device, row) ∈ w.rows ∧ Carries (toString n) row := by
  obtain ⟨⟨t, row⟩, hmem, ht, hnames⟩ := hreg
  obtain rfl : t = .Device := ht
  obtain ⟨m, _, hm⟩ := h.devices row hmem
  have hsame : srv.same (toString m) (toString n) = true := by
    rwa [Server.names, show Row.cell row "deviceID" = some (toString m) from hm] at hnames
  obtain rfl := srv.same_int m n hsame
  exact ⟨row, hmem, hm⟩

/-- **One orderly step keeps the tables tidy.** -/
theorem tidy_step {w : World} {i : Message × String} (h : Tidy srv w.rows)
    (hi : Orderly srv py w i) : Tidy srv (step srv faults py w i).rows := by
  obtain ⟨m, js⟩ := i
  cases m with
  | Join =>
    obtain ⟨hnext, hjoin⟩ := hi
    rcases join_rows srv faults w (fun content hjs => (hjoin content hjs).1) with hrows |
      ⟨content, neighbors, devices, hjs, hbuilt, hrows⟩
    · rw [step, hrows]
      exact h
    · rw [step, hrows]
      rw [nextID_eq] at hbuilt
      by_cases hdevices : devices = []
      · -- nothing was stored at all
        obtain ⟨us, hus, hlen⟩ := hbuilt.interfaces
        obtain ⟨vs, hvs, hlen'⟩ := hbuilt.listed
        have hempty : us = [] := by simpa [hdevices] using hlen
        have hnone : vs = [] := (hjoin content hjs).2 (hempty ▸ hus) vs hvs
        have hneighbors : neighbors = [] := by simpa [hnone] using hlen'.symm
        simpa [hdevices, hneighbors] using h
      · exact h.join hnext hdevices hbuilt.deviceIDs hbuilt.neighborIDs
  | Update =>
    obtain ⟨new, hrows, hnew⟩ := update_rows srv faults w hi
    rw [step, hrows]
    refine h.append ?_ ?_ ?_ ?_
    · intro e he
      rw [(hnew e he).1]
      simp
    · intro row hmem
      obtain ⟨_, n, hservice, _⟩ := hnew _ hmem
      exact hservice.serviceID
    · intro e he _
      obtain ⟨_, n, hservice, hreg⟩ := hnew e he
      obtain ⟨row, hmem, hrow⟩ := h.registered hreg
      exact ⟨toString n, row, hservice.carries, hmem, hrow⟩
    · intro row hmem
      exact absurd (hnew _ hmem).1 (by simp)
  | Request =>
    have hservices : ∀ text ∈ Rows.cells w.rows .Service "serviceID", Unbroken text := by
      intro text htext
      obtain ⟨row, hmem, hcell⟩ := mem_cells.mp htext
      exact (h.serviceIDs row hmem text hcell).unbroken
    obtain ⟨new, hrows, hnew⟩ := request_rows srv faults w hservices
      fun content deviceID hjs hd => (hi content deviceID hjs hd).imp fun _ hvalue => hvalue.1
    rw [step, hrows]
    refine h.append ?_ ?_ ?_ ?_
    · intro e he
      rcases hnew e he with ht | ⟨ht, _⟩ <;> rw [ht] <;> simp
    · intro row hmem
      rcases hnew _ hmem with ht | ⟨ht, _⟩ <;> exact absurd ht (by simp)
    · intro e he ht
      rcases hnew e he with ht' | ⟨ht', _⟩ <;> rw [ht'] at ht <;> exact absurd ht (by simp)
    · intro row hmem text htext
      rcases hnew _ hmem with ht | ⟨_, content, deviceID, value, hjs, hd, hvalue, hcarries⟩
      · exact absurd ht (by simp)
      · obtain ⟨value', hvalue', hnot⟩ := hi content deviceID hjs hd
        obtain rfl := Option.some.inj (hvalue'.symm.trans hvalue)
        rw [carries_unique htext hcarries]
        exact hnot
  | Leave =>
    rcases leave_rows srv faults py js w with hrows | ⟨content, deviceID, hjs, hd, hrows⟩
    · rw [step, hrows]
      exact h
    · rw [step, hrows]
      exact h.left (hi content deviceID hjs hd)

theorem fresh_step {w : World} {i : Message × String} (h : Tidy srv w.rows) :
    Fresh srv faults py w i := by
  intro _ deviceID hjoined e he ht
  rw [join_answer hjoined, nextID_eq]
  exact h.not_carries he ht

/-- Its row, its service and its request. -/
def deviceOne : Table × Row :=
  (.Device, [("deviceID", "1"), ("interface", "NULL"), ("mac", "m"), ("ip", "NULL"),
    ("wifiSSID", "NULL"), ("relay", "none")])

@[inherit_doc deviceOne]
def serviceOne : Table × Row :=
  (.Service, [("serviceID", "100010"), ("deviceID", "1"), ("serviceType", "Web")])

@[inherit_doc deviceOne]
def requestOne : Table × Row :=
  (.Request, [("requestID", "1"), ("deviceID", "1"), ("serviceID", "100010")])

/-- The messages it sends. -/
def joins : Message × String :=
  (.Join, "\x7b\"neighbors\": [], \"uniqueCodes\": [\x7b\"hwAddress\": \"m\"\x7d]\x7d")

@[inherit_doc joins]
def offers : Message × String :=
  (.Update, "\x7b\"deviceID\": 1, \"services\": " ++
    "[\x7b\"serviceType\": \"Web\", \"attributes\": []\x7d]\x7d")

@[inherit_doc joins]
def asks : Message × String :=
  (.Request, "\x7b\"deviceID\": \"1\", \"serviceType\": \"Web\", " ++
    "\"keywords\": \"\", \"qosRequirements\": []\x7d")

@[inherit_doc joins]
def leaves : Message × String := (.Leave, "\x7b\"deviceID\": 1\x7d")

/-- One step of it on a server that fails nothing. -/
abbrev plainStep : World → Message × String → World := step .plain (fun _ => none) .plain

theorem joins_step : plainStep ⟨[], 0, 0, 0⟩ joins = ⟨[deviceOne], 0, 4, 0⟩ := by decide +kernel

theorem offers_step :
    plainStep ⟨[deviceOne], 0, 4, 0⟩ offers = ⟨[deviceOne, serviceOne], 0, 9, 1⟩ := by
  decide +kernel

/-- It joins, offers a service, requests one and leaves: the request is all that stays. -/
theorem request_left :
    [joins, offers, asks, leaves].foldl plainStep ⟨[], 0, 0, 0⟩ = ⟨[requestOne], 0, 19, 1⟩ := by
  have hasks : plainStep ⟨[deviceOne, serviceOne], 0, 9, 1⟩ asks =
      ⟨[deviceOne, serviceOne, requestOne], 0, 14, 1⟩ := by decide +kernel
  have hleaves : plainStep ⟨[deviceOne, serviceOne, requestOne], 0, 14, 1⟩ leaves =
      ⟨[requestOne], 0, 19, 1⟩ := by decide +kernel
  simp only [List.foldl_cons, List.foldl_nil, joins_step, offers_step, hasks, hleaves]

end Versatile.ResolverPer
