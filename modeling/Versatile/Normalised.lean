import Versatile.Diversity.Granted
import Versatile.FlexIDMngerDb.Insertions
import Versatile.FlexIDMngerDb.Joined
import Versatile.FlexIDMngerDb.Plain
import Versatile.Resolver.Handlers
import Versatile.ResolverPer.Rows

/-!
# Missing fields of a join

A join stores a placeholder for a field that is missing, and for a field of a neighbor that is
`"none"`. In three handlers the test of one field looks at another or assigns another: a missing
`hwAddress` overwrites `ifaceType`, and the 2016 resolver compares `neighborIface` where it means
`neighborIpv4`. What each of them stores is normalised exactly if its entries stay clear of these
tests and their texts are read back as they are (`normalises_iff`).
-/

namespace Versatile

open Py

/-- An entry of `uniqueCodes` or of `neighbors`. -/
abbrev Entry := List (String × Value)

/-- The field is missing. -/
def Missing (v : Value) : Prop := v = .none

/-- The field is missing or `"none"`. -/
def Unset (v : Value) : Prop := v = .none ∨ v = .str "none"

/-- What a field is stored as: its own value, or the placeholder where it has none. -/
def Normal (missing : Value → Prop) (placeholder : String) (v stored : Value) : Prop :=
  (missing v → stored = .str placeholder) ∧ (¬ missing v → stored = v)

/-- The field is missing, or a text. -/
def Textual (v : Value) : Prop := v = .none ∨ ∃ s, v = .str s

/-- The field is missing, or a text whose literal stands for it. -/
def Verbatim (v : Value) : Prop := v = .none ∨ ∃ s, v = .str s ∧ readText s = some s

/-- What a payload lists: its interfaces and its neighbors. -/
structure Lists (kvs : List (String × Value)) (codes neighbors : List Entry) : Prop where
  uniqueCodes : field kvs "uniqueCodes" = .list (codes.map .dict)
  neighbors : field kvs "neighbors" = .list (neighbors.map .dict)

/-! ## Texts with a placeholder -/

/-- A missing field is read as its placeholder. -/
theorem missing_asStr {v : Value} {placeholder s : String} :
    (if v.isNone then Value.str placeholder else v).asStr = .ok s ↔
      Textual v ∧ Normal Missing placeholder v (.str s) := by
  cases v with
  | none => simp [Value.isNone, Textual, Normal, Missing, Value.asStr, eq_comm]
  | str t => simp [Value.isNone, Textual, Normal, Missing, Value.asStr, eq_comm]
  | _ => simp [Value.isNone, Textual, Value.asStr]

/-- So is one that is `"none"`, where that is tested. -/
theorem unset_asStr {v : Value} {placeholder s : String} :
    (if v.isNone || v.isStr "none" then Value.str placeholder else v).asStr = .ok s ↔
      Textual v ∧ Normal Unset placeholder v (.str s) := by
  cases v with
  | none => simp [Value.isNone, Textual, Normal, Unset, Value.asStr, eq_comm]
  | str t =>
    by_cases h : t = "none"
    · subst h
      have hunset : Unset (.str "none") := Or.inr rfl
      refine ⟨?_, ?_⟩
      · intro h
        obtain rfl : placeholder = s := Except.ok.inj h
        exact ⟨Or.inr ⟨_, rfl⟩, fun _ => rfl, fun hn => absurd hunset hn⟩
      · intro h
        obtain rfl := Value.str.inj (h.2.1 hunset)
        rfl
    · have hset : ¬ Unset (.str t) := by simp [Unset, h]
      have hkept : ((Value.str t).isNone || (Value.str t).isStr "none") = false := by
        simp [Value.isNone, Value.isStr, h]
      rw [hkept]
      refine ⟨?_, ?_⟩
      · intro hs
        obtain rfl : t = s := Except.ok.inj hs
        exact ⟨Or.inr ⟨_, rfl⟩, fun hn => absurd hn hset, fun _ => rfl⟩
      · intro hs
        obtain rfl := Value.str.inj (hs.2.2 hset)
        rfl
  | _ => simp [Value.isNone, Value.isStr, Textual, Value.asStr]

theorem verbatim_missing (v : Value) (h : Missing v) : Verbatim v := Or.inl h

theorem verbatim_unset (v : Value) (h : Unset v) : Verbatim v :=
  h.imp id fun h => ⟨_, h, readText_plain (by decide)⟩

theorem Verbatim.textual {v : Value} (h : Verbatim v) : Textual v :=
  h.imp id fun ⟨s, hs, _⟩ => ⟨s, hs⟩

/-- Such a field is stored as something that is read back as it is. -/
theorem Verbatim.stored {v : Value} (h : Verbatim v) (missing : Value → Prop)
    (hmissing : v = .none → missing v) {placeholder : String} (hplain : Plain placeholder) :
    ∃ s, Normal missing placeholder v (.str s) ∧ readText s = some s := by
  by_cases hv : missing v
  · exact ⟨placeholder, ⟨fun _ => rfl, fun hn => absurd hv hn⟩, readText_plain hplain⟩
  · rcases h with rfl | ⟨s, rfl, hread⟩
    · exact absurd (hmissing rfl) hv
    · exact ⟨s, ⟨fun hn => absurd hn hv, fun _ => rfl⟩, hread⟩

/-- A text that was written for a field, and read back as what the field is to be stored as. -/
theorem verbatim_of_read {missing missing' : Value → Prop} {placeholder placeholder' s t : String}
    {v : Value} (hmissing : missing v → Verbatim v) (hmissing' : missing' v → Verbatim v)
    (hwritten : Normal missing placeholder v (.str t))
    (hstored : Normal missing' placeholder' v (.str s)) (hread : readText t = some s) :
    Verbatim v := by
  by_cases hv : missing v
  · exact hmissing hv
  by_cases hv' : missing' v
  · exact hmissing' hv'
  -- the field is the text that was written, and the one that was read
  obtain rfl := hwritten.2 hv
  obtain rfl := Value.str.inj (hstored.2 hv')
  exact Or.inr ⟨s, rfl, hread⟩

/-! ## The rows of the resolvers -/

section Rows

open Diversity

/-- The columns of an interface, and the fields they are of. -/
def interfaceColumns : List (String × String) :=
  [("interface", "ifaceType"), ("mac", "hwAddress"), ("ip", "ipv4"), ("wifiSSID", "wifiSSID")]

/-- The fields of a neighbor with a placeholder, which are columns too. -/
def neighborColumns : List String := ["neighborIface", "neighborIpv4", "neighborHwAddress"]

/-- A row of `Device` is that of an entry, its missing fields replaced. -/
def InterfaceRow (placeholder : String) (code : Entry) (row : Row) : Prop :=
  ∀ c ∈ interfaceColumns, ∃ s, Row.cell row c.1 = some s ∧
    Normal Missing placeholder (field code c.2) (.str s)

/-- A row of `Neighbor` is that of an entry, its missing fields replaced. -/
def NeighborRow (neighbor : Entry) (row : Row) : Prop :=
  ∀ c ∈ neighborColumns, ∃ s, Row.cell row c = some s ∧
    Normal Unset "NULL" (field neighbor c) (.str s)

/-- The resolvers can store the interface: its fields are texts that are read back, and its
address is there. -/
def Addressed (code : Entry) : Prop :=
  ¬ Missing (field code "hwAddress") ∧ ∀ c ∈ interfaceColumns, Verbatim (field code c.2)

/-- The 2016 resolver can store the neighbor: its fields are texts that are read back, and its
`neighborIpv4`, which is not compared, is not `"none"`. -/
def Comparable (neighbor : Entry) : Prop :=
  (∀ c ∈ neighborColumns, Verbatim (field neighbor c)) ∧
    field neighbor "neighborIpv4" ≠ .str "none"

/-- The text that was written into a column of a row that was read. -/
theorem read_cell {row r : Row} (h : readTexts row = some r) {column t s : String}
    (ht : Row.cell row column = some t) (hs : Row.cell r column = some s) :
    readText t = some s := by
  rw [Row.cell, readTexts_get h] at hs
  rw [Row.cell] at ht
  rwa [ht] at hs

/-- The row of an interface, text by text. -/
theorem deviceRow_eq_ok {placeholder deviceID relay : String} {code : Entry} {row : Row} :
    deviceRow placeholder deviceID relay (.dict code) = .ok row ↔ ∃ t h i w,
      (Textual (field code "ifaceType") ∧
        Normal Missing placeholder (field code "ifaceType") (.str t)) ∧
      field code "hwAddress" = .str h ∧
      (Textual (field code "ipv4") ∧ Normal Missing placeholder (field code "ipv4") (.str i)) ∧
      (Textual (field code "wifiSSID") ∧
        Normal Missing placeholder (field code "wifiSSID") (.str w)) ∧
      row = [("deviceID", deviceID), ("interface", t), ("mac", h), ("ip", i), ("wifiSSID", w),
        ("relay", relay)] := by
  simp only [deviceRow, get_field, Except.bind_eq_ok, Except.pure_eq_ok, Except.ok.injEq,
    exists_eq_left']
  refine ⟨?_, ?_⟩
  · intro hsome
    obtain ⟨t, ht, h, hh, i, hi, w, hw, rfl⟩ := hsome
    have hmac := Value.asStr_eq_ok.mp hh
    rw [hmac] at ht
    exact ⟨t, h, i, w, missing_asStr.mp ht, hmac, missing_asStr.mp hi, missing_asStr.mp hw, rfl⟩
  · intro hsome
    obtain ⟨t, h, i, w, ht, hmac, hi, hw, rfl⟩ := hsome
    refine ⟨t, ?_, h, Value.asStr_eq_ok.mpr hmac, i, missing_asStr.mpr hi, w,
      missing_asStr.mpr hw, rfl⟩
    rw [hmac]
    exact missing_asStr.mpr ht

/-- **The row of an interface**: it is stored with its missing fields replaced exactly if the
address is there and the texts are read back. -/
theorem deviceRow_iff {placeholder deviceID relay : String} (hplaceholder : Plain placeholder)
    (hid : Plain deviceID) (hrelay : Plain relay) (code : Entry) :
    (∃ row r, deviceRow placeholder deviceID relay (.dict code) = .ok row ∧ readTexts row = some r ∧
      InterfaceRow placeholder code r) ↔ Addressed code := by
  simp only [Addressed, InterfaceRow, interfaceColumns, List.forall_mem_cons]
  refine ⟨?_, ?_⟩
  · intro hsome
    obtain ⟨row, r, hrow, hread, ⟨t', ht', hstored⟩, ⟨h', hh', hstoredMac⟩, ⟨i', hi', hstoredIp⟩,
      ⟨w', hw', hstoredSSID⟩, _⟩ := hsome
    obtain ⟨t, h, i, w, ht, hmac, hi, hw, rfl⟩ := deviceRow_eq_ok.mp hrow
    have hwritten : Normal Missing placeholder (field code "hwAddress") (.str h) :=
      ⟨fun hm => absurd (hmac.symm.trans hm) (by simp), fun _ => hmac.symm⟩
    have hverbatim := fun v => verbatim_missing v
    exact ⟨by simp [hmac, Missing],
      verbatim_of_read (hverbatim _) (hverbatim _) ht.2 hstored (read_cell hread rfl ht'),
      verbatim_of_read (hverbatim _) (hverbatim _) hwritten hstoredMac (read_cell hread rfl hh'),
      verbatim_of_read (hverbatim _) (hverbatim _) hi.2 hstoredIp (read_cell hread rfl hi'),
      verbatim_of_read (hverbatim _) (hverbatim _) hw.2 hstoredSSID (read_cell hread rfl hw'),
      by simp⟩
  · intro hsome
    obtain ⟨hmac, ht, hh, hi, hw, _⟩ := hsome
    obtain ⟨h, hh, hreadMac⟩ := hh.resolve_left hmac
    obtain ⟨t, ht', hread⟩ := ht.stored Missing id hplaceholder
    obtain ⟨i, hi', hreadIp⟩ := hi.stored Missing id hplaceholder
    obtain ⟨w, hw', hreadSSID⟩ := hw.stored Missing id hplaceholder
    have hself : readTexts [("deviceID", deviceID), ("interface", t), ("mac", h), ("ip", i),
        ("wifiSSID", w), ("relay", relay)] = some _ := readTexts_self_iff.mpr (by
      simp [hread, hreadMac, hreadIp, hreadSSID, readText_plain hid, readText_plain hrelay])
    refine ⟨_, _, deviceRow_eq_ok.mpr ⟨t, h, i, w, ⟨ht.textual, ht'⟩, hh, ⟨hi.textual, hi'⟩,
      ⟨hw.textual, hw'⟩, rfl⟩, hself, ⟨t, rfl, ht'⟩, ⟨h, rfl, ?_⟩, ⟨i, rfl, hi'⟩, ⟨w, rfl, hw'⟩,
      by simp⟩
    rw [hh]
    exact ⟨fun hn => absurd hn (by simp [Missing]), fun _ => rfl⟩

/-- The row of a neighbor, text by text: what is tested for `neighborIpv4` is never `"none"`. -/
theorem neighborRow_eq_ok {deviceID : String} {neighbor : Entry} {row : Row} :
    ResolverPer.neighborRow deviceID (.dict neighbor) = .ok row ↔ ∃ f i h,
      (Textual (field neighbor "neighborIface") ∧
        Normal Unset "NULL" (field neighbor "neighborIface") (.str f)) ∧
      (Textual (field neighbor "neighborIpv4") ∧
        Normal Missing "NULL" (field neighbor "neighborIpv4") (.str i)) ∧
      (Textual (field neighbor "neighborHwAddress") ∧
        Normal Unset "NULL" (field neighbor "neighborHwAddress") (.str h)) ∧
      row = [("deviceID", deviceID), ("neighborIface", f), ("neighborIpv4", i),
        ("neighborHwAddress", h)] := by
  have hreplaced : ∀ v : Value,
      (if v.isNone || v.isStr "none" then Value.str "NULL" else v).isStr "none" = false := by
    intro v
    rw [← Bool.not_eq_true, Value.isStr_eq_true]
    split
    · simp
    · intro heq
      obtain rfl := heq
      contradiction
  simp only [ResolverPer.neighborRow, get_field, Except.bind_eq_ok, Except.pure_eq_ok,
    Except.ok.injEq, exists_eq_left', hreplaced, Bool.or_false]
  refine ⟨?_, ?_⟩
  · intro hsome
    obtain ⟨f, hf, i, hi, h, hh, rfl⟩ := hsome
    exact ⟨f, i, h, unset_asStr.mp hf, missing_asStr.mp hi, unset_asStr.mp hh, rfl⟩
  · intro hsome
    obtain ⟨f, i, h, hf, hi, hh, rfl⟩ := hsome
    exact ⟨f, unset_asStr.mpr hf, i, missing_asStr.mpr hi, h, unset_asStr.mpr hh, rfl⟩

/-- **The row of a neighbor**: it is stored with its missing fields replaced exactly if
`neighborIpv4` is not `"none"` and the texts are read back. -/
theorem neighborRow_iff {deviceID : String} (hid : Plain deviceID) (neighbor : Entry) :
    (∃ row r, ResolverPer.neighborRow deviceID (.dict neighbor) = .ok row ∧
      readTexts row = some r ∧ NeighborRow neighbor r) ↔ Comparable neighbor := by
  have hnull : Plain "NULL" := by decide
  simp only [Comparable, NeighborRow, neighborColumns, List.forall_mem_cons]
  refine ⟨?_, ?_⟩
  · intro hsome
    obtain ⟨row, r, hrow, hread, ⟨f', hf', hstored⟩, ⟨i', hi', hstoredIp⟩, ⟨h', hh', hstoredMac⟩,
      _⟩ := hsome
    obtain ⟨f, i, h, hf, hi, hh, rfl⟩ := neighborRow_eq_ok.mp hrow
    have hreadIp : readText i = some i' := read_cell hread rfl hi'
    refine ⟨⟨verbatim_of_read (verbatim_unset _) (verbatim_unset _) hf.2 hstored
        (read_cell hread rfl hf'),
      verbatim_of_read (verbatim_missing _) (verbatim_unset _) hi.2 hstoredIp hreadIp,
      verbatim_of_read (verbatim_unset _) (verbatim_unset _) hh.2 hstoredMac
        (read_cell hread rfl hh'), by simp⟩, fun hnone => ?_⟩
    -- the text is kept, and should have been replaced
    have hkept := hi.2.2 (by simp [hnone, Missing])
    rw [hnone] at hkept
    obtain rfl := Value.str.inj hkept
    obtain rfl := Value.str.inj (hstoredIp.1 (Or.inr hnone))
    exact absurd hreadIp (by decide)
  · intro hsome
    obtain ⟨⟨hf, hi, hh, _⟩, hipv4⟩ := hsome
    obtain ⟨f, hf', hread⟩ := hf.stored Unset Or.inl hnull
    obtain ⟨i, hi', hreadIp⟩ := hi.stored Missing id hnull
    obtain ⟨h, hh', hreadMac⟩ := hh.stored Unset Or.inl hnull
    have hself : readTexts [("deviceID", deviceID), ("neighborIface", f), ("neighborIpv4", i),
        ("neighborHwAddress", h)] = some _ := readTexts_self_iff.mpr (by
      simp [hread, hreadIp, hreadMac, readText_plain hid])
    refine ⟨_, _, neighborRow_eq_ok.mpr ⟨f, i, h, ⟨hf.textual, hf'⟩, ⟨hi.textual, hi'⟩,
      ⟨hh.textual, hh'⟩, rfl⟩, hself, ⟨f, rfl, hf'⟩, ⟨i, rfl, ?_⟩, ⟨h, rfl, hh'⟩, by simp⟩
    exact ⟨fun hn => hi'.1 (hn.resolve_right hipv4), fun hn => hi'.2 fun hm => hn (Or.inl hm)⟩

/-- Rows built of entries are stored as they should exactly if each entry allows it. -/
theorem rows_iff {rowOf : Value → Except Exc Row} {P : Entry → Row → Prop} {Q : Entry → Prop}
    (h : ∀ entry, (∃ row r, rowOf (.dict entry) = .ok row ∧ readTexts row = some r ∧ P entry r) ↔
      Q entry) (entries : List Entry) :
    (∃ rows read, (entries.map Value.dict).mapM rowOf = .ok rows ∧
      List.Forall₂ (fun row r => readTexts row = some r) rows read ∧
      List.Forall₂ P entries read) ↔ ∀ entry ∈ entries, Q entry := by
  induction entries with
  | nil => exact ⟨fun _ => by simp, fun _ => ⟨[], [], rfl, .nil, .nil⟩⟩
  | cons entry entries ih =>
    rw [List.forall_mem_cons, ← h, ← ih, List.map_cons]
    refine ⟨?_, ?_⟩
    · intro hsome
      obtain ⟨_, _, hall, hall', hP⟩ := hsome
      obtain ⟨row, rows, hrow, hrows, rfl⟩ := Except.mapM_cons_eq_ok.mp hall
      obtain ⟨r, read, hfirst, hread, rfl⟩ := List.forall₂_cons_left_iff.mp hall'
      obtain ⟨hfirst', hrest⟩ := List.forall₂_cons.mp hP
      exact ⟨⟨row, r, hrow, hfirst, hfirst'⟩, rows, read, hrows, hread, hrest⟩
    · intro hboth
      obtain ⟨⟨row, r, hrow, hfirst, hfirst'⟩, rows, read, hrows, hread, hP⟩ := hboth
      exact ⟨row :: rows, r :: read, Except.mapM_cons_eq_ok.mpr ⟨row, rows, hrow, hrows, rfl⟩,
        .cons hfirst hread, .cons hfirst' hP⟩

end Rows

/-! ## `Join` of the 2016 resolvers -/

namespace ResolverPer

open Diversity

variable {srv : Diversity.Server} {kvs : List (String × Value)} {codes neighbors : List Entry}

/-- The join is answered with error 0, and stores its entries with their missing fields
replaced. -/
def Normalises (srv : Diversity.Server) (py : Interpreter) (js : String) (w : World)
    (codes neighbors : List Entry) : Prop :=
  ∃ deviceID nbrs devices,
    acks .Join (handle srv .never py .Join js w).2.log = [joinAnswer 0 deviceID] ∧
    (handle srv .never py .Join js w).2.world.rows = w.rows ++
      (nbrs.map fun r => (Diversity.Table.Neighbor, r)) ++
      devices.map (fun r => (Diversity.Table.Device, r)) ∧
    List.Forall₂ NeighborRow neighbors nbrs ∧ List.Forall₂ (InterfaceRow "NULL") codes devices

theorem neighborsOf_lists (h : Lists kvs codes neighbors) :
    neighborsOf (.dict kvs) = .ok (neighbors.map Value.dict) := by
  simp only [neighborsOf, get_field, h.neighbors]
  rfl

theorem uniqueCodesOf_lists (h : Lists kvs codes neighbors) :
    uniqueCodesOf (.dict kvs) = .ok (codes.map Value.dict) := by
  simp only [uniqueCodesOf, get_field, h.uniqueCodes]
  rfl

/-- The next device ID, where no call fails. -/
theorem newDeviceID_never (s : State) : perform srv .never newDeviceID s =
    (.ok (nextID (maxDevice srv s.world)), s.tick.opened.tick) := by
  rw [newDeviceID, perform_bind_ok (connect_never s), perform_bind_ok (maxSigned_never _ _ _)]
  rfl

/-- The rows of a join, where no call fails. -/
theorem joinRows_never (hlists : Lists kvs codes neighbors) {relay deviceID : String}
    (hrelay : relayText (field kvs "relay") = .ok relay) {built built' nbrs devices : List Row}
    (hnbrs : (neighbors.map Value.dict).mapM (neighborRow deviceID) = .ok built)
    (hread : List.Forall₂ (fun row r => readTexts row = some r) built nbrs)
    (hdevices : (codes.map Value.dict).mapM (deviceRow "NULL" deviceID relay) = .ok built')
    (hread' : List.Forall₂ (fun row r => readTexts row = some r) built' devices) (s : State) :
    perform srv .never (joinRows (.dict kvs) deviceID) s =
      (.ok (), (s.inserted .Neighbor nbrs).inserted .Device devices) := by
  have hget : (Value.dict kvs).get "relay" = .ok (field kvs "relay") := rfl
  simp only [joinRows, perform_bind, perform_lift, hget, hrelay, neighborsOf_lists hlists,
    uniqueCodesOf_lists hlists,
    insertAll_never (by decide : Diversity.Table.Neighbor ≠ .Service) hnbrs hread,
    insertAll_never (by decide : Diversity.Table.Device ≠ .Service) hdevices hread']

/-- The `try` block of a join whose rows are inserted. -/
theorem joinTry_never (srv : Diversity.Server) {content : Value} {s s' : State}
    (h : perform srv .never (joinRows content (nextID (maxDevice srv s.world)))
      s.tick.opened.tick = (.ok (), s')) :
    perform srv .never (joinTry content) s = (.ok (), (s'.tick.commit srv).shown
      (.emitted "Jack" (joinAnswer 0 (nextID (maxDevice srv s.world))))) := by
  have hnew : perform srv .never (withID "-1" newDeviceID) s =
      (.ok (nextID (maxDevice srv s.world)), s.tick.opened.tick) := by
    rw [perform_withID, newDeviceID_never]
  rw [joinTry, perform_bind_ok hnew, perform_withID, joinBody, perform_bind_ok h,
    perform_bind_ok (commit_never _), perform_emit]

/-- Rows of neighbors, and rows of devices behind them, are told apart by what they hold. -/
theorem rows_told {nbrs nbrs' devices devices' : List Row} (hlen : nbrs'.length = nbrs.length)
    (h : (nbrs'.map fun r => (Diversity.Table.Neighbor, r)) ++
        devices'.map (fun r => (Diversity.Table.Device, r)) =
      (nbrs.map fun r => (Diversity.Table.Neighbor, r)) ++
        devices.map fun r => (Diversity.Table.Device, r)) :
    nbrs' = nbrs ∧ devices' = devices := by
  obtain ⟨hnbrs, hdevices⟩ := List.append_inj h (by rw [List.length_map, List.length_map, hlen])
  exact ⟨Rows.tag_injective _ hnbrs, Rows.tag_injective _ hdevices⟩

/-- The handler of a join that can be read. -/
theorem handle_join {py : Interpreter} {js : String} (hjs : py.loads js = .ok (.dict kvs))
    (w : World) : handle srv .never py .Join js w =
      perform srv .never (decoded .Join (.dict kvs)) (start w) := by
  rw [handle_eq, hjs]

/-- The entries of a join that is normalised, on a server that refuses every broken literal. -/
theorem storable_of_normalises {py : Interpreter} {js : String} {w : World}
    (hexact : ∀ t row, srv.Exact t row) (hjs : py.loads js = .ok (.dict kvs))
    (hlists : Lists kvs codes neighbors) (h : Normalises srv py js w codes neighbors) :
    (∀ c ∈ codes, Addressed c) ∧ ∀ n ∈ neighbors, Comparable n := by
  obtain ⟨deviceID, nbrs, devices, hacks, hrows, hnbrs, hdevices⟩ := h
  rw [handle_join hjs] at hacks hrows
  rcases joinTry_cases srv .never (.dict kvs) (start w) with ⟨e, s', hfail, hkept⟩ |
    ⟨s', hjoin, hkept, hdone⟩
  · -- a join that fails is answered with error 1
    have hlog : s'.log = [] := hkept.log
    rw [join_error hfail] at hacks
    have hanswer : joinAnswer 1 e.2 = joinAnswer 0 deviceID := by
      simpa [State.shown, hlog, acks, Message.ack] using hacks
    exact absurd (congrArg errorOf hanswer) (by simp)
  · have hrows' : JoinExact srv (.dict kvs) (nextID (maxDevice srv w)) :=
      ⟨fun _ _ _ _ row _ => hexact _ row, fun _ _ _ _ _ row _ _ => hexact _ row⟩
    obtain ⟨vs, us, relay, built, built', nbrs', devices', ⟨_, hrelay⟩, hlist, hcodes, hn, hd,
      hread, hread', hconn⟩ := joinRows_built hrows' hjoin
    obtain rfl := Except.ok.inj ((neighborsOf_lists hlists).symm.trans hlist)
    obtain rfl := Except.ok.inj ((uniqueCodesOf_lists hlists).symm.trans hcodes)
    have hw : s'.world.rows = w.rows := hkept.rows
    rw [join_ok hdone, commit_join hconn, hw, List.append_assoc, List.append_assoc,
      List.append_cancel_left_eq] at hrows
    have hlen : nbrs'.length = nbrs.length := by
      rw [← hnbrs.length_eq, ← hread.length_eq, Except.length_mapM hn, List.length_map]
    obtain ⟨rfl, rfl⟩ := rows_told hlen hrows
    have hid := plain_nextID (maxDevice srv w)
    have hnull : Plain "NULL" := by decide
    exact ⟨(rows_iff (deviceRow_iff hnull hid (plain_relayText hrelay)) codes).mp
        ⟨_, _, hd, hread', hdevices⟩,
      (rows_iff (neighborRow_iff hid) neighbors).mp ⟨_, _, hn, hread, hnbrs⟩⟩

/-- **A join is normalised**, on every server, if its interfaces all have an address, its
neighbors have no `neighborIpv4` that is `"none"`, and its texts are read back. -/
theorem normalises_of_storable (srv : Diversity.Server) {py : Interpreter} {js : String} (w : World)
    (hjs : py.loads js = .ok (.dict kvs)) (hlists : Lists kvs codes neighbors) {relay : String}
    (hrelay : relayText (field kvs "relay") = .ok relay) (hcodes : ∀ c ∈ codes, Addressed c)
    (hneighbors : ∀ n ∈ neighbors, Comparable n) :
    Normalises srv py js w codes neighbors := by
  have hid := plain_nextID (maxDevice srv w)
  obtain ⟨built, nbrs, hnbrs, hread, hnormal⟩ :=
    (rows_iff (neighborRow_iff hid) neighbors).mpr hneighbors
  obtain ⟨built', devices, hdevices, hread', hnormal'⟩ :=
    (rows_iff (deviceRow_iff (by decide : Plain "NULL") hid (plain_relayText hrelay)) codes).mpr
      hcodes
  have hjoin := joinTry_never srv (s := start w)
    (joinRows_never hlists hrelay hnbrs hread hdevices hread' (start w).tick.opened.tick)
  rw [Normalises, handle_join hjs]
  refine ⟨nextID (maxDevice srv w), nbrs, devices, ?_, ?_, hnormal, hnormal'⟩
  · rw [join_ok hjoin]
    simp [State.shown, State.commit, State.tick, State.inserted, State.opened, start, acks,
      Message.ack]
  · rw [join_ok hjoin, commit_join rfl]
    rfl

/-- **Which joins are normalised**: those whose interfaces all have an address, whose neighbors
have no `neighborIpv4` that is `"none"`, and whose texts are read back. -/
theorem normalises_iff {py : Interpreter} {js : String} (w : World)
    (hjs : py.loads js = .ok (.dict kvs)) (hlists : Lists kvs codes neighbors) {relay : String}
    (hrelay : relayText (field kvs "relay") = .ok relay) :
    (∀ srv, Normalises srv py js w codes neighbors) ↔
      (∀ c ∈ codes, Addressed c) ∧ ∀ n ∈ neighbors, Comparable n :=
  ⟨fun h => storable_of_normalises (fun _ _ => @exact_strict .plain _ _) hjs hlists (h .plain),
    fun h srv => normalises_of_storable srv w hjs hlists hrelay h.1 h.2⟩

end ResolverPer

namespace Resolver

open Diversity

variable {srv : Diversity.Server} {kvs : List (String × Value)} {codes : List Entry}

/-- The join is answered with error 0, and stores its entries with their missing fields
replaced. -/
def Normalises (srv : Diversity.Server) (body : Body) (w : World) (codes : List Entry) : Prop :=
  ∃ deviceID devices s',
    perform srv .never (Join body) (ResolverPer.start w) = (.ok (joinAnswer 0 deviceID), s') ∧
    s'.world.rows = w.rows ++ devices.map (fun r => (Diversity.Table.Device, r)) ∧
    List.Forall₂ (InterfaceRow ".") codes devices

/-- A join whose ID is generated. -/
theorem join_never (body : Body) (w : World) :
    perform srv .never (Join body) (ResolverPer.start w) =
      perform srv .never (Prog.tryExcept (joinBody body (nextID (ResolverPer.maxDevice srv w)))
        fun _ => pure (joinAnswer 1 (nextID (ResolverPer.maxDevice srv w))))
        (ResolverPer.start w).tick.opened.tick := by
  rw [Join, perform_bind_ok (perform_try_ok (ResolverPer.newDeviceID_never _))]
  rfl

/-- The rows of a join are inserted one by one. -/
theorem perform_joinRows (hcodes : field kvs "uniqueCodes" = .list (codes.map .dict))
    {relay : String} (hrelay : relayText (field kvs "relay") = .ok relay) (deviceID : String)
    (s : State) : perform srv .never (joinRows (.ok (.dict kvs)) deviceID) s = perform srv .never
      (insertAll .Device (deviceRow "." deviceID relay) (codes.map Value.dict)) s := by
  have hread : perform srv .never (liftM (Except.ok (Value.dict kvs) : Body) : Handler Value) s =
      (.ok (.dict kvs), s) := perform_lift _ s
  rw [joinRows, perform_bind_ok hread]
  simp only [perform_bind, perform_lift, get_field, hrelay, hcodes, Value.iter]

/-- A join whose rows are inserted. -/
theorem join_stored (w : World) (hcodes : field kvs "uniqueCodes" = .list (codes.map .dict))
    {relay : String} (hrelay : relayText (field kvs "relay") = .ok relay)
    {built devices : List Row}
    (hbuilt : (codes.map Value.dict).mapM
      (deviceRow "." (nextID (ResolverPer.maxDevice srv w)) relay) = .ok built)
    (hread : List.Forall₂ (fun row r => readTexts row = some r) built devices) :
    ∃ s', perform srv .never (Join (.ok (.dict kvs))) (ResolverPer.start w) =
        (.ok (joinAnswer 0 (nextID (ResolverPer.maxDevice srv w))), s') ∧
      s'.world.rows = w.rows ++ devices.map fun r => (Diversity.Table.Device, r) := by
  have hinserted : perform srv .never (insertAll .Device
      (deviceRow "." (nextID (ResolverPer.maxDevice srv w)) relay) (codes.map Value.dict))
      (ResolverPer.start w).tick.opened.tick = _ := insertAll_never (by decide) hbuilt hread _
  have hrows := (perform_joinRows hcodes hrelay (nextID (ResolverPer.maxDevice srv w))
    (ResolverPer.start w).tick.opened.tick).trans hinserted
  have hjoin := (join_never (.ok (.dict kvs)) w).trans
    (perform_try_ok ((perform_bind_ok hrows).trans (perform_bind_ok (commit_never _))))
  exact ⟨_, hjoin, applyAll_inserts .Device devices w.rows⟩

/-- The entries of a join that is normalised, on a server that refuses every broken literal. -/
theorem addressed_of_normalises {w : World} (hexact : ∀ t row, srv.Exact t row)
    (hcodes : field kvs "uniqueCodes" = .list (codes.map .dict)) {relay : String}
    (hrelay : relayText (field kvs "relay") = .ok relay)
    (h : Normalises srv (.ok (.dict kvs)) w codes) : ∀ c ∈ codes, Addressed c := by
  obtain ⟨deviceID, devices, s', hanswer, hadded, hnormal⟩ := h
  rcases hrun : perform srv .never
    (joinRows (.ok (.dict kvs)) (nextID (ResolverPer.maxDevice srv w)))
    (ResolverPer.start w).tick.opened.tick with ⟨r, s1⟩
  cases r with
  | error e =>
    -- a join that fails is answered with error 1
    have hbody : perform srv .never
        (joinBody (.ok (.dict kvs)) (nextID (ResolverPer.maxDevice srv w)))
        (ResolverPer.start w).tick.opened.tick = (.error e, s1) := perform_bind_error hrun
    rw [join_never, perform_try_error hbody] at hanswer
    have hcode := congrArg errorOf (Except.ok.inj (Prod.mk.inj hanswer).1)
    exact absurd hcode (by simp)
  | ok _ =>
    obtain ⟨built, devices', hbuilt, hread, _⟩ := ResolverPer.insertAll_ok
      (fun _ _ row _ => hexact _ row) ((perform_joinRows hcodes hrelay _ _).symm.trans hrun)
    obtain ⟨_, hdone, hstored⟩ := join_stored w hcodes hrelay hbuilt hread
    obtain ⟨_, rfl⟩ := Prod.mk.inj (hdone.symm.trans hanswer)
    rw [hstored, List.append_cancel_left_eq] at hadded
    obtain rfl : devices' = devices := Rows.tag_injective _ hadded
    exact (rows_iff (deviceRow_iff (by decide : Plain ".") (ResolverPer.plain_nextID _)
      (plain_relayText hrelay)) codes).mp ⟨_, _, hbuilt, hread, hnormal⟩

/-- **Which joins are normalised**: those whose interfaces all have an address, and whose texts
are read back. -/
theorem normalises_iff (w : World) (hcodes : field kvs "uniqueCodes" = .list (codes.map .dict))
    {relay : String} (hrelay : relayText (field kvs "relay") = .ok relay) :
    (∀ srv, Normalises srv (.ok (.dict kvs)) w codes) ↔ ∀ c ∈ codes, Addressed c := by
  refine ⟨?_, ?_⟩
  · intro h
    exact addressed_of_normalises (fun _ _ => @exact_strict .plain _ _) hcodes hrelay (h .plain)
  · intro haddressed srv
    have hid := ResolverPer.plain_nextID (ResolverPer.maxDevice srv w)
    obtain ⟨built, devices, hbuilt, hread, hnormal⟩ := (rows_iff
      (deviceRow_iff (by decide : Plain ".") hid (plain_relayText hrelay)) codes).mpr haddressed
    obtain ⟨s', hdone, hstored⟩ := join_stored w hcodes hrelay hbuilt hread
    exact ⟨_, devices, s', hdone, hstored, hnormal⟩

end Resolver

/-! ## `join` of `flexIDMnger_db.py` -/

namespace FlexIDMngerDb

variable {srv : Versatile.Server} {kvs : List (String × Value)} {codes neighbors : List Entry}

/-- The fields of an interface, which are columns too. -/
def interfaceNames : List String := ["ifaceType", "hwAddress", "ipv4", "wifiSSID"]

/-- A value that can be pasted into a statement without breaking its literal. -/
def Quotable (v : Value) : Prop :=
  ∃ literal text, (∀ col, insertCell (col, v) = .ok ⟨col, literal⟩) ∧ readText literal = some text

/-- A value whose literal stands for the text it is to be stored as. -/
def ReadBack (v : Value) : Prop :=
  ∃ literal text, (∀ col, insertCell (col, v) = .ok ⟨col, literal⟩) ∧ meantText v = .ok text ∧
    readText literal = some text

/-- A stored row has the fields of an entry, missing ones replaced. -/
def StoredAs (missing : Value → Prop) (columns : List String) (entry : Entry) (r : Tuple) : Prop :=
  ∀ c ∈ columns, ∃ v, Normal missing "NULL" (field entry c) v ∧ Stores r c v

/-- The rows of the interfaces a payload lists. -/
def DeviceRows (codes : List Entry) (rows : List Tuple) : Prop :=
  List.Forall₂ (StoredAs Missing interfaceNames) codes rows

/-- The rows of the neighbors a payload lists. -/
def NeighborRows (neighbors : List Entry) (rows : List Tuple) : Prop :=
  List.Forall₂ (StoredAs Unset neighborColumns) neighbors rows

/-- The rows of a join can be stored whatever its identifier is, with the missing fields of its
entries replaced, and these are the rows that a join stores which is acknowledged. -/
structure Normalises (tempID : String) (kvs : List (String × Value))
    (codes neighbors : List Entry) : Prop where
  interfaces : ∀ d, Unbroken d → ∃ fs rows, infoList (.dict kvs) (field kvs "relay") d = .ok fs ∧
    tuplesOf fs = .ok rows ∧ DeviceRows codes rows
  linked : ∀ d, Unbroken d → ∃ ns rows, neighborList (.dict kvs) d = .ok ns ∧
    tuplesOf ns = .ok rows ∧ NeighborRows neighbors rows
  stored : ∀ srv limit m d, JoinedAs srv limit m ⟨.join, tempID, .dict kvs⟩ d →
    ∃ devices nbrs, DeviceRows codes devices ∧ NeighborRows neighbors nbrs ∧
      (step srv limit m ⟨.join, tempID, .dict kvs⟩).store.db.committedRows .Device =
        m.store.db.rows .Device ++ devices ∧
      (step srv limit m ⟨.join, tempID, .dict kvs⟩).store.db.committedRows .Neighbor =
        m.store.db.rows .Neighbor ++ nbrs

/-- A value has the same literal in every column. -/
theorem insertCell_literal {col : String} {v : Value} {c : Cell} (h : insertCell (col, v) = .ok c)
    (col' : String) : insertCell (col', v) = .ok ⟨col', c.literal⟩ := by
  cases v with
  | list vs =>
    obtain ⟨encoded, hencoded, hc⟩ := Except.bind_eq_ok.mp h
    obtain rfl := Except.pure_eq_ok.mp hc
    exact Except.bind_eq_ok.mpr ⟨encoded, hencoded, rfl⟩
  | _ =>
    obtain rfl := Except.ok.inj h
    rfl

theorem ReadBack.quotable {v : Value} (h : ReadBack v) : Quotable v := by
  obtain ⟨literal, text, hcell, _, hread⟩ := h
  exact ⟨literal, text, hcell, hread⟩

/-- A text whose literal ends where it should can be pasted. -/
theorem quotable_str {s : String} (h : Unbroken s) : Quotable (.str s) := by
  obtain ⟨value, hvalue⟩ := h
  exact ⟨s, value, fun _ => rfl, hvalue⟩

/-- A text that is read back is pasted as it is. -/
theorem readBack_str {s : String} (h : readText s = some s) : ReadBack (.str s) :=
  ⟨s, s, fun _ => rfl, rfl, h⟩

/-- **A row is stored** exactly if each of its values can be pasted. -/
theorem tupleOf_isOk_iff {f : Fields} : (∃ r, tupleOf f = .ok r) ↔ ∀ c ∈ f, Quotable c.2 := by
  simp only [tupleOf_eq_ok]
  induction f with
  | nil => exact ⟨fun _ => by simp, fun _ => ⟨[], [], rfl, rfl⟩⟩
  | cons e f ih =>
    rw [List.forall_mem_cons, ← ih]
    refine ⟨?_, ?_⟩
    · intro hsome
      obtain ⟨r, _, hall, hr⟩ := hsome
      obtain ⟨c, cells, hc, hcells, rfl⟩ := Except.mapM_cons_eq_ok.mp hall
      obtain ⟨value, rest, hvalue, hrest, _⟩ := readCells_cons.mp hr
      exact ⟨⟨c.literal, value, insertCell_literal hc, hvalue⟩, rest, cells, hcells, hrest⟩
    · intro hboth
      obtain ⟨⟨literal, value, hcell, hvalue⟩, rest, cells, hcells, hrest⟩ := hboth
      exact ⟨_, _ :: cells, Except.mapM_cons_eq_ok.mpr ⟨_, cells, hcell e.1, hcells, rfl⟩,
        readCells_cons.mpr ⟨value, rest, hvalue, hrest, rfl⟩⟩

/-- **What a row stores** for a value: its text, exactly if its literal stands for it. -/
theorem tupleOf_stores_iff {f : Fields} {r : Tuple} (h : tupleOf f = .ok r) {col : String}
    {v : Value} (hv : Dict.get f col = some v) : Stores r col v ↔ ReadBack v := by
  obtain ⟨cells, hcells, hread⟩ := tupleOf_eq_ok.mp h
  obtain ⟨c, value, hc, hvalue, hget⟩ := readCells_get hcells hread hv
  refine ⟨?_, ?_⟩
  · intro hstores
    obtain ⟨text, hmeant, htext⟩ := hstores
    obtain rfl := Option.some.inj (hget.symm.trans htext)
    exact ⟨c.literal, value, insertCell_literal hc, hmeant, hvalue⟩
  · intro hback
    obtain ⟨literal, text, hcell, hmeant, htext⟩ := hback
    obtain rfl := Except.ok.inj (hc.symm.trans (hcell col))
    obtain rfl := Option.some.inj (hvalue.symm.trans htext)
    exact ⟨value, hmeant, hget⟩

/-- The manager can store the interface: its fields are read back, and its address is there. -/
def Addressable (code : Entry) : Prop :=
  ¬ Missing (field code "hwAddress") ∧ ∀ c ∈ interfaceNames, ReadBack (field code c)

/-- The manager can store the neighbor: its fields are read back, and it has an identifier. -/
def Identified (neighbor : Entry) : Prop :=
  ¬ Unset (field neighbor "neighborFlexID") ∧ Quotable (field neighbor "neighborFlexID") ∧
    ∀ c ∈ neighborColumns, ReadBack (field neighbor c)

theorem orNULL_normal (v : Value) : Normal Missing "NULL" v (orNULL v) := by
  cases v <;> simp [Normal, Missing, orNULL, Value.isNone]

theorem orNone_normal (v : Value) : Normal Unset "NULL" v (orNone v) := by
  rw [orNone]
  split
  · rename_i h
    have hunset : Unset v := by
      rcases Bool.or_eq_true _ _ ▸ h with h | h
      · left
        cases v <;> simp_all [Value.isNone]
      · exact Or.inr (Value.isStr_eq_true.mp h)
    exact ⟨fun _ => rfl, fun hn => absurd hunset hn⟩
  · rename_i h
    refine ⟨?_, fun _ => rfl⟩
    intro hcase
    rcases hcase with rfl | rfl
    · exact absurd rfl h
    · exact absurd rfl h

/-- A value and what replaces it are read back alike. -/
theorem readBack_normal {missing : Value → Prop} (hmissing : ∀ w, missing w → ReadBack w)
    {v w : Value} (h : Normal missing "NULL" v w) : ReadBack w ↔ ReadBack v := by
  by_cases hv : missing v
  · rw [h.1 hv]
    exact iff_of_true (readBack_str (readText_plain (by decide))) (hmissing v hv)
  · rw [h.2 hv]

theorem readBack_missing (w : Value) (h : Missing w) : ReadBack w := by
  obtain rfl : w = .none := h
  exact ⟨"None", "None", fun _ => rfl, rfl, readText_plain (by decide)⟩

theorem readBack_unset (w : Value) (h : Unset w) : ReadBack w := by
  rcases h with h | rfl
  · exact readBack_missing w h
  · exact readBack_str (readText_plain (by decide))

/-- There is one value only that a field is to be stored as. -/
theorem normal_unique {missing : Value → Prop} {placeholder : String} {v w w' : Value}
    (h : Normal missing placeholder v w) (h' : Normal missing placeholder v w') : w = w' := by
  by_cases hv : missing v
  · rw [h.1 hv, h'.1 hv]
  · rw [h.2 hv, h'.2 hv]

/-- **A row stores its entry**, if its fields are those of the entry, missing ones replaced,
exactly if the fields of the entry are read back. -/
theorem storedAs_iff {missing : Value → Prop} (hmissing : ∀ w, missing w → ReadBack w)
    {columns : List String} {entry : Entry} {f : Fields} {r : Tuple} (h : tupleOf f = .ok r)
    (hfields : ∀ c ∈ columns, ∃ v, Dict.get f c = some v ∧
      Normal missing "NULL" (field entry c) v) :
    StoredAs missing columns entry r ↔ ∀ c ∈ columns, ReadBack (field entry c) := by
  refine forall₂_congr fun c hc => ?_
  obtain ⟨v, hget, hnormal⟩ := hfields c hc
  rw [← readBack_normal hmissing hnormal, ← tupleOf_stores_iff h hget]
  refine ⟨?_, fun hstores => ⟨v, hnormal, hstores⟩⟩
  intro hsome
  obtain ⟨w, hw, hstores⟩ := hsome
  obtain rfl := normal_unique hw hnormal
  exact hstores

/-- A missing field that is pasted as it is leaves a text that is not the placeholder. -/
theorem not_storedAs_of_missing {columns : List String} {entry : Entry} {f : Fields} {r : Tuple}
    (h : tupleOf f = .ok r) {c : String} (hc : c ∈ columns) (hmissing : field entry c = .none)
    (hget : Dict.get f c = some .none) : ¬ StoredAs Missing columns entry r := by
  intro hstored
  obtain ⟨v, hnormal, text, hmeant, htext⟩ := hstored c hc
  obtain rfl := hnormal.1 hmissing
  obtain rfl : "NULL" = text := Except.ok.inj hmeant
  obtain ⟨_, hnone, hread⟩ := (tupleOf_stores_iff h hget).mpr (readBack_missing _ rfl)
  obtain rfl : "None" = _ := Except.ok.inj hnone
  exact absurd (Option.some.inj (htext.symm.trans hread)) (by decide)

/-- The fields of an interface with an address. -/
def addressedFields (d : String) (relay pubKey : Value) (code : Entry) : Fields :=
  [("deviceId", .str d), ("relay", relay), ("pubKey", pubKey),
    ("ifaceType", orNULL (field code "ifaceType")), ("hwAddress", field code "hwAddress"),
    ("ipv4", orNULL (field code "ipv4")), ("wifiSSID", orNULL (field code "wifiSSID"))]

/-- The fields of an interface: a missing address overwrites `ifaceType`. -/
theorem deviceFields_dict (d : String) (relay pubKey : Value) (code : Entry) :
    deviceFields d relay pubKey (.dict code) = .ok [("deviceId", .str d), ("relay", relay),
      ("pubKey", pubKey), ("ifaceType", if (field code "hwAddress").isNone then .str "NULL"
        else orNULL (field code "ifaceType")), ("hwAddress", field code "hwAddress"),
      ("ipv4", orNULL (field code "ipv4")), ("wifiSSID", orNULL (field code "wifiSSID"))] := rfl

/-- **The row of an interface**: it is stored and normalised exactly if the address is there and
the fields are read back. -/
theorem deviceTuple_iff {d : String} (hd : Unbroken d) {relay pubKey : Value}
    (hrelay : Quotable relay) (hpubKey : Quotable pubKey) (code : Entry) :
    (∃ r, (deviceFields d relay pubKey (.dict code) >>= tupleOf) = .ok r ∧
      StoredAs Missing interfaceNames code r) ↔ Addressable code := by
  by_cases hmissing : Missing (field code "hwAddress")
  · refine iff_of_false ?_ fun h => h.1 hmissing
    intro hsome
    obtain ⟨r, hr, hstored⟩ := hsome
    -- the address is pasted as it is, and it is `ifaceType` that is replaced
    obtain ⟨f, hf, hr⟩ := Except.bind_eq_ok.mp hr
    rw [deviceFields_dict] at hf
    obtain rfl := Except.ok.inj hf
    exact not_storedAs_of_missing hr (by simp [interfaceNames]) hmissing
      (congrArg some hmissing) hstored
  · have hpresent : (field code "hwAddress").isNone = false := by
      cases h : field code "hwAddress" <;> simp_all [Missing, Value.isNone]
    have hfields : deviceFields d relay pubKey (.dict code) =
        .ok (addressedFields d relay pubKey code) := by
      rw [deviceFields_dict, hpresent]
      rfl
    have hnormal : Normal Missing "NULL" (field code "hwAddress") (field code "hwAddress") :=
      ⟨fun h => absurd h hmissing, fun _ => rfl⟩
    have hcolumns : ∀ c ∈ interfaceNames, ∃ v,
        Dict.get (addressedFields d relay pubKey code) c = some v ∧
          Normal Missing "NULL" (field code c) v := by
      simp only [interfaceNames, List.forall_mem_cons]
      exact ⟨⟨_, rfl, orNULL_normal _⟩, ⟨_, rfl, hnormal⟩, ⟨_, rfl, orNULL_normal _⟩,
        ⟨_, rfl, orNULL_normal _⟩, by simp⟩
    rw [hfields]
    refine ⟨?_, ?_⟩
    · intro hsome
      obtain ⟨r, hr, hstored⟩ := hsome
      exact ⟨hmissing, (storedAs_iff readBack_missing hr hcolumns).mp hstored⟩
    · intro haddressable
      have hpasted := haddressable.2
      simp only [interfaceNames, List.forall_mem_cons] at hpasted
      obtain ⟨htype, hmac, hip, hssid, _⟩ := hpasted
      have hback := fun v => (readBack_normal readBack_missing (orNULL_normal v)).mpr
      have hquotable : ∀ c ∈ addressedFields d relay pubKey code, Quotable c.2 := by
        simp only [addressedFields, List.forall_mem_cons]
        exact ⟨quotable_str hd, hrelay, hpubKey, (hback _ htype).quotable, hmac.quotable,
          (hback _ hip).quotable, (hback _ hssid).quotable, by simp⟩
      obtain ⟨r, hr⟩ := tupleOf_isOk_iff.mpr hquotable
      exact ⟨r, hr, (storedAs_iff readBack_missing hr hcolumns).mpr haddressable.2⟩

/-- The fields of a neighbor with an identifier. -/
def identifiedFields (d : String) (neighbor : Entry) : Fields :=
  [("neighborIface", orNone (field neighbor "neighborIface")),
    ("neighborIpv4", orNone (field neighbor "neighborIpv4")),
    ("neighborHwAddress", orNone (field neighbor "neighborHwAddress")),
    ("neighborId", field neighbor "neighborFlexID"), ("deviceId", .str d)]

theorem neighborFields_dict (d : String) (neighbor : Entry) :
    neighborFields d (.dict neighbor) = if ((field neighbor "neighborFlexID").isNone ||
        (field neighbor "neighborFlexID").isStr "none") = true
      then .error (.raised "Neighbor FlexID error") else .ok (identifiedFields d neighbor) := by
  simp only [neighborFields, get_field, bind, Except.bind]
  split <;> rfl

theorem isUnset_iff {v : Value} : (v.isNone || v.isStr "none") = true ↔ Unset v := by
  rw [Bool.or_eq_true, Value.isStr_eq_true, Unset]
  cases v <;> simp [Value.isNone]

/-- **The row of a neighbor**: it is stored and normalised exactly if it has an identifier and its
fields are read back. -/
theorem neighborTuple_iff {d : String} (hd : Unbroken d) (neighbor : Entry) :
    (∃ r, (neighborFields d (.dict neighbor) >>= tupleOf) = .ok r ∧
      StoredAs Unset neighborColumns neighbor r) ↔ Identified neighbor := by
  by_cases hunset : Unset (field neighbor "neighborFlexID")
  · have hraised : neighborFields d (.dict neighbor) =
        .error (.raised "Neighbor FlexID error") := by
      rw [neighborFields_dict, if_pos (isUnset_iff.mpr hunset)]
    rw [hraised]
    refine iff_of_false ?_ fun h => h.1 hunset
    intro hsome
    obtain ⟨r, hr, _⟩ := hsome
    obtain ⟨f, hf, _⟩ := Except.bind_eq_ok.mp hr
    exact absurd hf (by simp)
  · have hfields : neighborFields d (.dict neighbor) = .ok (identifiedFields d neighbor) := by
      rw [neighborFields_dict, if_neg (mt isUnset_iff.mp hunset)]
    have hcolumns : ∀ c ∈ neighborColumns, ∃ v,
        Dict.get (identifiedFields d neighbor) c = some v ∧
          Normal Unset "NULL" (field neighbor c) v := by
      simp only [neighborColumns, List.forall_mem_cons]
      exact ⟨⟨_, rfl, orNone_normal _⟩, ⟨_, rfl, orNone_normal _⟩, ⟨_, rfl, orNone_normal _⟩,
        by simp⟩
    rw [hfields]
    refine ⟨?_, ?_⟩
    · intro hsome
      obtain ⟨r, hr, hstored⟩ := hsome
      have hid := tupleOf_isOk_iff.mp ⟨r, hr⟩ ("neighborId", field neighbor "neighborFlexID")
        (by simp [identifiedFields])
      exact ⟨hunset, hid, (storedAs_iff readBack_unset hr hcolumns).mp hstored⟩
    · intro hidentified
      obtain ⟨_, hid, hpasted⟩ := hidentified
      have hback := fun c hc =>
        (readBack_normal readBack_unset (orNone_normal _)).mpr (hpasted c hc)
      have hquotable : ∀ c ∈ identifiedFields d neighbor, Quotable c.2 := by
        simp only [identifiedFields, List.forall_mem_cons]
        exact ⟨(hback _ (by simp [neighborColumns])).quotable,
          (hback _ (by simp [neighborColumns])).quotable,
          (hback _ (by simp [neighborColumns])).quotable, hid, quotable_str hd, by simp⟩
      obtain ⟨r, hr⟩ := tupleOf_isOk_iff.mpr hquotable
      exact ⟨r, hr, (storedAs_iff readBack_unset hr hcolumns).mpr hpasted⟩

/-- Rows built of entries in two passes, each entry on its own. -/
theorem tuples_iff {fieldsOf : Value → Except Exc Fields} {P : Entry → Tuple → Prop}
    {Q : Entry → Prop} (h : ∀ entry,
      (∃ r, (fieldsOf (.dict entry) >>= tupleOf) = .ok r ∧ P entry r) ↔ Q entry)
    (entries : List Entry) :
    (∃ fs rows, (entries.map Value.dict).mapM fieldsOf = .ok fs ∧ tuplesOf fs = .ok rows ∧
      List.Forall₂ P entries rows) ↔ ∀ entry ∈ entries, Q entry := by
  simp only [← h]
  rw [← Except.mapM_forall₂_iff]
  simp only [← Except.mapM_mapM_eq_ok, List.mapM_map]
  refine ⟨?_, ?_⟩
  · intro hsome
    obtain ⟨fs, rows, hfs, hrows, hP⟩ := hsome
    exact ⟨rows, ⟨fs, hfs, hrows⟩, hP⟩
  · intro hsome
    obtain ⟨rows, ⟨fs, hfs, hrows⟩, hP⟩ := hsome
    exact ⟨fs, rows, hfs, hrows, hP⟩

/-- A join names its device by a text that does not break its literal. -/
def NamesUnbroken (tempID : String) (kvs : List (String × Value)) : Prop :=
  ∀ base, deviceOf tempID (field kvs "relay") = .ok (.str base) → Unbroken base

/-- An identifier of such a device does not break its literal either. -/
theorem unbroken_newID {base : String} (h : Unbroken base) (flag : Nat) :
    Unbroken (newID flag base) := by
  obtain ⟨value, hvalue⟩ := h
  have hflag := plain_toString_nat flag
  refine ⟨toString flag ++ value, readText_eq_some.mpr ?_⟩
  rw [newID, String.toList_append, String.toList_append]
  exact (Quoted.body_self hflag.1 hflag.2).append (readText_eq_some.mp hvalue)

/-- **Which joins are normalised**: those whose interfaces have an address, whose neighbors have
an identifier, and whose fields are read back. -/
theorem normalises_iff {tempID : String} (hlists : Lists kvs codes neighbors)
    (hname : NamesUnbroken tempID kvs) (hrelay : Quotable (field kvs "relay"))
    (hpubKey : Quotable (field kvs "pubKey")) :
    Normalises tempID kvs codes neighbors ↔
      (∀ c ∈ codes, Addressable c) ∧ ∀ n ∈ neighbors, Identified n := by
  have hinfo : ∀ d, infoList (.dict kvs) (field kvs "relay") d = (codes.map Value.dict).mapM
      (deviceFields d (field kvs "relay") (field kvs "pubKey")) := by
    intro d
    simp only [infoList, get_field, hlists.uniqueCodes]
    rfl
  have hlist : ∀ d, neighborList (.dict kvs) d =
      (neighbors.map Value.dict).mapM (neighborFields d) := by
    intro d
    simp only [neighborList, get_field, hlists.neighbors]
    rfl
  have hinterfaces := fun d hd => tuples_iff (@deviceTuple_iff d hd _ _ hrelay hpubKey) codes
  have hlinked := fun d hd => tuples_iff (@neighborTuple_iff d hd) neighbors
  refine ⟨?_, ?_⟩
  · intro h
    have hempty : Unbroken "" := by decide
    have h1 := h.interfaces "" hempty
    have h2 := h.linked "" hempty
    rw [hinfo] at h1
    rw [hlist] at h2
    exact ⟨(hinterfaces "" hempty).mp h1, (hlinked "" hempty).mp h2⟩
  · intro hboth
    obtain ⟨hcodes, hneighbors⟩ := hboth
    have h1 : ∀ d, Unbroken d → ∃ fs rows, infoList (.dict kvs) (field kvs "relay") d = .ok fs ∧
        tuplesOf fs = .ok rows ∧ DeviceRows codes rows := by
      intro d hd
      rw [hinfo]
      exact (hinterfaces d hd).mpr hcodes
    have h2 : ∀ d, Unbroken d → ∃ ns rows, neighborList (.dict kvs) d = .ok ns ∧
        tuplesOf ns = .ok rows ∧ NeighborRows neighbors rows := by
      intro d hd
      rw [hlist]
      exact (hlinked d hd).mpr hneighbors
    refine ⟨h1, h2, fun srv limit m d hjoined => ?_⟩
    obtain ⟨base, s1, fs, ns, db1, db2, hrun⟩ := joinedAs_run hjoined
    have hd : Unbroken d := by
      obtain ⟨flag, rfl⟩ := (join_genID_ok hrun.generated).1
      exact unbroken_newID (hname base hrun.named) flag
    obtain ⟨fs', devices', hfs', hdevices', hnormal⟩ := h1 d hd
    obtain ⟨ns', nbrs', hns', hnbrs', hnormal'⟩ := h2 d hd
    obtain rfl := Except.ok.inj (hfs'.symm.trans hrun.devices)
    obtain rfl := Except.ok.inj (hns'.symm.trans hrun.neighbors)
    obtain ⟨devices, hdevices, happ, _⟩ := insertRows_ok (whole_of_tuplesOf hdevices') hrun.stored
    obtain ⟨nbrs, hnbrs, happ', _⟩ := insertRows_ok (whole_of_tuplesOf hnbrs') hrun.linked
    obtain rfl := Except.ok.inj (hdevices'.symm.trans hdevices)
    obtain rfl := Except.ok.inj (hnbrs'.symm.trans hnbrs)
    have hlog : ∀ t, s1.db.rows t = m.store.db.rows t := by
      intro t
      rw [Database.rows, Database.rows, (join_genID_ok hrun.generated).2.2.2.1]
    refine ⟨devices', nbrs', hnormal, hnormal', ?_, ?_⟩
    · rw [hrun.step.2, Database.committedRows_commit, happ'.rows_other (by decide),
        Database.commit_rows, happ.rows_same, hlog]
    · rw [hrun.step.2, Database.committedRows_commit, happ'.rows_same, Database.commit_rows,
        happ.rows_other (by decide), hlog]

end FlexIDMngerDb

/-! ## The three handlers -/

/-- **Which joins the three handlers normalise**, on every server: those where every interface has
an address, where no `neighborIpv4` is `"none"` for the resolver that does not compare it, where
every neighbor has an identifier for the manager that raises without one, and where every text that
is told is read back as it is. -/
theorem joins_normalise_iff (py : ResolverPer.Interpreter) (js : String) (w : Diversity.World)
    (tempID : String) {kvs : List (String × Value)} {codes neighbors : List Entry}
    (hlists : Lists kvs codes neighbors) :
    (py.loads js = .ok (.dict kvs) →
      (∃ relay, ResolverPer.relayText (field kvs "relay") = .ok relay) →
      ((∀ srv, ResolverPer.Normalises srv py js w codes neighbors) ↔
        (∀ c ∈ codes, Addressed c) ∧ ∀ n ∈ neighbors, Comparable n)) ∧
    ((∃ relay, Resolver.relayText (field kvs "relay") = .ok relay) →
      ((∀ srv, Resolver.Normalises srv (.ok (.dict kvs)) w codes) ↔ ∀ c ∈ codes, Addressed c)) ∧
    (FlexIDMngerDb.NamesUnbroken tempID kvs → FlexIDMngerDb.Quotable (field kvs "relay") →
      FlexIDMngerDb.Quotable (field kvs "pubKey") →
      (FlexIDMngerDb.Normalises tempID kvs codes neighbors ↔
        (∀ c ∈ codes, FlexIDMngerDb.Addressable c) ∧
          ∀ n ∈ neighbors, FlexIDMngerDb.Identified n)) := by
  refine ⟨fun hjs hrelay => ?_, fun hrelay => ?_, fun hname hrelay hpubKey => ?_⟩
  · obtain ⟨relay, hrelay⟩ := hrelay
    exact ResolverPer.normalises_iff w hjs hlists hrelay
  · obtain ⟨relay, hrelay⟩ := hrelay
    exact Resolver.normalises_iff w hlists.uniqueCodes hrelay
  · exact FlexIDMngerDb.normalises_iff hlists hname hrelay hpubKey

/-- The payload of a join with one interface and one neighbor. -/
def joinOf (code neighbor : Entry) : List (String × Value) :=
  [("uniqueCodes", .list [.dict code]), ("neighbors", .list [.dict neighbor])]

/-- The payload of a join without a relay, as the manager is told it. -/
def ownJoinOf (code neighbor : Entry) : List (String × Value) :=
  ("relay", .str "none") :: joinOf code neighbor

theorem ownJoinOf_lists (code neighbor : Entry) :
    Lists (ownJoinOf code neighbor) [code] [neighbor] := ⟨rfl, rfl⟩

/-- An interface of which only the address is told. -/
def bareCode : Entry := [("hwAddress", .str "m")]

/-- A neighbor of which only the identifier is told. -/
def bareNeighbor : Entry := [("neighborFlexID", .str "n")]

/-- Their join. -/
def bareJoin : String :=
  "\x7b\"uniqueCodes\": [\x7b\"hwAddress\": \"m\"\x7d], " ++
    "\"neighbors\": [\x7b\"neighborFlexID\": \"n\"\x7d]\x7d"

theorem ownJoinOf_named (code neighbor : Entry) :
    FlexIDMngerDb.NamesUnbroken "t" (ownJoinOf code neighbor) := by
  intro base hbase
  obtain rfl : "t" = base := Value.str.inj (Except.ok.inj hbase)
  decide

theorem ownJoinOf_relay (code neighbor : Entry) :
    FlexIDMngerDb.Quotable (field (ownJoinOf code neighbor) "relay") :=
  FlexIDMngerDb.quotable_str (by decide : Unbroken "none")

theorem ownJoinOf_pubKey (code neighbor : Entry) :
    FlexIDMngerDb.Quotable (field (ownJoinOf code neighbor) "pubKey") :=
  (FlexIDMngerDb.readBack_missing _ rfl).quotable

/-- The three handlers store it with their placeholders. -/
theorem joins_normalise_bare :
    ResolverPer.Normalises .plain .plain bareJoin ⟨[], 0, 0, 0⟩ [bareCode] [bareNeighbor] ∧
    Resolver.Normalises .plain (.ok (.dict (joinOf bareCode bareNeighbor))) ⟨[], 0, 0, 0⟩
      [bareCode] ∧
    FlexIDMngerDb.Normalises "t" (ownJoinOf bareCode bareNeighbor) [bareCode] [bareNeighbor] := by
  have hlists : Lists (joinOf bareCode bareNeighbor) [bareCode] [bareNeighbor] := ⟨rfl, rfl⟩
  have hloads : ResolverPer.Interpreter.plain.loads bareJoin =
      .ok (.dict (joinOf bareCode bareNeighbor)) := by rfl
  obtain ⟨hper, hresolver, _⟩ := joins_normalise_iff .plain bareJoin ⟨[], 0, 0, 0⟩ "t" hlists
  obtain ⟨_, _, hmanager⟩ := joins_normalise_iff .plain bareJoin ⟨[], 0, 0, 0⟩ "t"
    (ownJoinOf_lists bareCode bareNeighbor)
  have hread : readText "m" = some "m" ∧ readText "n" = some "n" := by decide
  have hcode : Addressed bareCode := by
    simp [Addressed, Missing, interfaceColumns, Verbatim, field, Dict.get_cons, bareCode, hread]
  have hneighbor : Comparable bareNeighbor := by
    simp [Comparable, neighborColumns, Verbatim, field, Dict.get_cons, bareNeighbor]
  have hnone := FlexIDMngerDb.readBack_missing .none rfl
  have hcode' : FlexIDMngerDb.Addressable bareCode := by
    simp [FlexIDMngerDb.Addressable, Missing, FlexIDMngerDb.interfaceNames, field, Dict.get_cons,
      bareCode, hnone, FlexIDMngerDb.readBack_str hread.1]
  have hneighbor' : FlexIDMngerDb.Identified bareNeighbor := by
    simp [FlexIDMngerDb.Identified, Unset, neighborColumns, field, Dict.get_cons, bareNeighbor,
      hnone, (FlexIDMngerDb.readBack_str hread.2).quotable]
  refine ⟨(hper hloads ⟨_, rfl⟩).mpr ?_ .plain, (hresolver ⟨_, rfl⟩).mpr ?_ .plain,
    (hmanager (ownJoinOf_named _ _) (ownJoinOf_relay _ _) (ownJoinOf_pubKey _ _)).mpr ?_⟩
  · exact ⟨List.forall_mem_singleton.mpr hcode, List.forall_mem_singleton.mpr hneighbor⟩
  · exact List.forall_mem_singleton.mpr hcode
  · exact ⟨List.forall_mem_singleton.mpr hcode', List.forall_mem_singleton.mpr hneighbor'⟩

/-- An interface without an address. -/
def silentCode : Entry := [("ifaceType", .str "WiFi")]

/-- Its join. -/
def silentJoin : String :=
  "\x7b\"uniqueCodes\": [\x7b\"ifaceType\": \"WiFi\"\x7d], " ++
    "\"neighbors\": [\x7b\"neighborFlexID\": \"n\"\x7d]\x7d"

/-- None of the handlers does what it should where the address is missing. -/
theorem not_joins_normalise :
    ¬ ResolverPer.Normalises .plain .plain silentJoin ⟨[], 0, 0, 0⟩ [silentCode] [bareNeighbor] ∧
    ¬ Resolver.Normalises .plain (.ok (.dict (joinOf silentCode bareNeighbor))) ⟨[], 0, 0, 0⟩
      [silentCode] ∧
    ¬ FlexIDMngerDb.Normalises "t" (ownJoinOf silentCode bareNeighbor) [silentCode]
      [bareNeighbor] := by
  have hlists : Lists (joinOf silentCode bareNeighbor) [silentCode] [bareNeighbor] := ⟨rfl, rfl⟩
  have hloads : ResolverPer.Interpreter.plain.loads silentJoin =
      .ok (.dict (joinOf silentCode bareNeighbor)) := by rfl
  have hexact : ∀ t row, Diversity.Server.plain.Exact t row :=
    fun _ _ => @Diversity.exact_strict .plain _ _
  have hrelay : Resolver.relayText (field (joinOf silentCode bareNeighbor) "relay") =
      .ok "none" := rfl
  have hmissing : Missing (field silentCode "hwAddress") := rfl
  refine ⟨fun h => ?_, fun h => ?_, fun h => ?_⟩
  · have haddressed := ResolverPer.storable_of_normalises hexact hloads hlists h
    exact (List.forall_mem_singleton.mp haddressed.1).1 hmissing
  · have haddressed := Resolver.addressed_of_normalises hexact hlists.uniqueCodes hrelay h
    exact (List.forall_mem_singleton.mp haddressed).1 hmissing
  · have haddressed := (FlexIDMngerDb.normalises_iff (ownJoinOf_lists _ _) (ownJoinOf_named _ _)
      (ownJoinOf_relay _ _) (ownJoinOf_pubKey _ _)).mp h
    exact (List.forall_mem_singleton.mp haddressed.1).1 hmissing

end Versatile
