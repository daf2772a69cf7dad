import Versatile.FlexIDMngerDb.FirstFree
import Versatile.FlexIDMngerDb.Joined
import Versatile.FlexIDMngerDb.Plain

/-!
# Which devices `join` accepts

`join` writes one row of `Device` for each interface, all under the one identifier it generated,
which is the primary key; and missing neighbors become the text `NULL`, over whose letters the
loop for the neighbors runs. So of the well-formed devices it accepts those with one interface
and a list of neighbors, possibly empty (`accepts_iff`).
-/

namespace Versatile.FlexIDMngerDb

open Py Quoted

variable {srv : Server}

/-! ## A well-formed device -/

/-- A value that is missing, or a clean string. -/
def IsText (v : Value) : Prop := v = .none ∨ ∃ s, v = .str s ∧ Quoteless s

/-- A missing value, a clean string, or a list of clean strings. -/
def Pasted (v : Value) : Prop :=
  IsText v ∨ ∃ ss : List String, v = .list (ss.map .str) ∧ ∀ s ∈ ss, Quoteless s

/-- An interface of a device. -/
structure Interface where
  ifaceType : String
  hwAddress : String
  ipv4 : String
  wifiSSID : String

/-- An entry of `uniqueCodes` gives an interface. -/
inductive IsInterface : Value → Interface → Prop where
  | entry {kvs : List (String × Value)} {c : Interface} :
      field kvs "ifaceType" = .str c.ifaceType → field kvs "hwAddress" = .str c.hwAddress →
      field kvs "ipv4" = .str c.ipv4 → field kvs "wifiSSID" = .str c.wifiSSID →
      Quoteless c.ifaceType → Quoteless c.hwAddress → Quoteless c.ipv4 → Quoteless c.wifiSSID →
      IsInterface (.dict kvs) c

/-- A neighbor of a device. -/
structure Neighbor where
  neighborFlexID : String
  neighborIface : Value
  neighborIpv4 : Value
  neighborHwAddress : Value

/-- An entry of `neighbors` gives a neighbor. -/
inductive IsNeighbor : Value → Neighbor → Prop where
  | entry {kvs : List (String × Value)} {n : Neighbor} :
      field kvs "neighborFlexID" = .str n.neighborFlexID →
      field kvs "neighborIface" = n.neighborIface → field kvs "neighborIpv4" = n.neighborIpv4 →
      field kvs "neighborHwAddress" = n.neighborHwAddress →
      Quoteless n.neighborFlexID → IsText n.neighborIface → IsText n.neighborIpv4 →
      IsText n.neighborHwAddress → IsNeighbor (.dict kvs) n

/-- The neighbors of a device: absent, or a list. -/
def GivesNeighbors (v : Value) : Option (List Neighbor) → Prop
  | none => v = .none
  | some ns => ∃ vs, v = .list vs ∧ List.Forall₂ IsNeighbor vs ns

/-- A join of a well-formed device. -/
structure WellFormed (tempID : String) (kvs : List (String × Value)) (base : String)
    (codes : List Interface) (neighbors : Option (List Neighbor)) : Prop where
  named : deviceOf tempID (field kvs "relay") = .ok (.str base)
  base : Quoteless base
  relay : Pasted (field kvs "relay")
  pubKey : IsText (field kvs "pubKey")
  uniqueCodes : ∃ vs, field kvs "uniqueCodes" = .list vs ∧ List.Forall₂ IsInterface vs codes
  interfaces : codes ≠ []
  neighbors : GivesNeighbors (field kvs "neighbors") neighbors

/-! ## The rows of a well-formed device -/

theorem Pasted.str {s : String} (h : Quoteless s) : Pasted (.str s) := Or.inl (Or.inr ⟨s, rfl, h⟩)

/-- The datum a value is pasted as. -/
theorem Pasted.datum {v : Value} (h : Pasted v) :
    ∃ d : Datum, d.Quoteless ∧ ∀ col, insertCell (col, v) = insertCell (col, d.value) := by
  rcases h with (rfl | ⟨s, rfl, hs⟩) | ⟨ss, rfl, hss⟩
  · exact ⟨.text "None", by unfold Datum.Quoteless Quoteless; decide, fun _ => rfl⟩
  · exact ⟨.text s, hs, fun _ => rfl⟩
  · exact ⟨.texts ss, hss, fun _ => rfl⟩

/-- A row of pasted values is inserted like a row of clean data. -/
theorem pasted_row {f : Fields} (hcols : ∀ c ∈ f, ∀ x ∈ c.1.toList, isName x = true)
    (h : ∀ c ∈ f, Pasted c.2) :
    ∃ row : Row, row.length = f.length ∧ (∀ c ∈ row, c.2.Quoteless) ∧
      f.mapM insertCell = row.fields.mapM insertCell := by
  induction f with
  | nil => exact ⟨[], rfl, by simp, rfl⟩
  | cons c f ih =>
    obtain ⟨row, hlen, hclean, hcells⟩ := ih (fun c' hc' => hcols c' (List.mem_cons_of_mem _ hc'))
      fun c' hc' => h c' (List.mem_cons_of_mem _ hc')
    obtain ⟨d, hd, hcell⟩ := (h c List.mem_cons_self).datum
    refine ⟨(⟨c.1, hcols c List.mem_cons_self⟩, d) :: row, by simp [hlen],
      List.forall_mem_cons.mpr ⟨hd, hclean⟩, ?_⟩
    rw [Row.fields, List.map_cons, List.mapM_cons, List.mapM_cons, hcells, ← hcell c.1]
    rfl

/-- A row of pasted values has no broken literal. -/
theorem pasted_whole {f : Fields} (h : ∀ c ∈ f, Pasted c.2) : Whole f := by
  refine whole_of_cells fun c hc cell hcell => ?_
  obtain ⟨d, hd, hsame⟩ := (h c hc).datum
  obtain ⟨w, hw⟩ := body_insert hd
  obtain ⟨col, v⟩ := c
  rw [hsame col] at hcell
  have hliteral : cell.literal = d.literal .insert := by
    cases d with
    | text s =>
      obtain rfl := Except.ok.inj hcell
      rfl
    | texts ss =>
      obtain ⟨ss', hss, rfl⟩ := insertCell_list hcell
      obtain rfl := List.map_injective_iff.mpr (fun _ _ => Value.str.inj) hss
      rfl
  exact ⟨String.ofList w, readText_eq_some.mpr (by rw [hliteral, String.toList_ofList]; exact hw)⟩

/-- **An insertion of pasted values** has a row, and is not refused. -/
theorem pasted_taken (htakes : TakesReadable srv) (t : Table) {f : Fields} (hne : f ≠ [])
    (hcols : ∀ c ∈ f, ∀ x ∈ c.1.toList, isName x = true) (h : ∀ c ∈ f, Pasted c.2) :
    Whole f ∧ (∃ r, tupleOf f = .ok r) ∧ ∀ n cells, f.mapM insertCell = .ok cells →
      srv.refuses n (Statement.insert t cells).text = none := by
  have hwhole := pasted_whole h
  obtain ⟨row, hlen, hclean, hcells⟩ := pasted_row hcols h
  have hrow : row ≠ [] := by
    intro heq
    obtain rfl := heq
    exact hne (List.length_eq_zero_iff.mp hlen.symm)
  refine ⟨hwhole, ?_, ?_⟩
  · have hbuilt := hcells.trans (cells_fields .insert row)
    obtain ⟨r, hr⟩ := hwhole _ hbuilt
    exact ⟨r, tupleOf_eq_ok.mpr ⟨_, hbuilt, hr⟩⟩
  · intro n cells h
    exact insert_taken htakes n t hrow hclean (hcells.symm.trans h)

/-- The row of an interface. -/
def interfaceRow (d : String) (relay pubKey : Value) (c : Interface) : Fields :=
  [("deviceId", .str d), ("relay", relay), ("pubKey", pubKey), ("ifaceType", .str c.ifaceType),
    ("hwAddress", .str c.hwAddress), ("ipv4", .str c.ipv4), ("wifiSSID", .str c.wifiSSID)]

/-- The row of a neighbor. -/
def neighborRow (d : String) (n : Neighbor) : Fields :=
  [("neighborIface", orNone n.neighborIface), ("neighborIpv4", orNone n.neighborIpv4),
    ("neighborHwAddress", orNone n.neighborHwAddress), ("neighborId", .str n.neighborFlexID),
    ("deviceId", .str d)]

theorem deviceFields_interface {v : Value} {c : Interface} (h : IsInterface v c) (d : String)
    (relay pubKey : Value) :
    deviceFields d relay pubKey v = .ok (interfaceRow d relay pubKey c) := by
  obtain ⟨htype, hhw, hipv4, hssid⟩ := h
  simp only [deviceFields, interfaceFields, get_field, htype, hhw, hipv4, hssid]
  rfl

/-- **The rows of a well-formed device**: one for each interface. -/
theorem WellFormed.infoList {tempID base : String} {kvs : List (String × Value)}
    {codes : List Interface} {neighbors : Option (List Neighbor)}
    (h : WellFormed tempID kvs base codes neighbors) (d : String) :
    infoList (.dict kvs) (field kvs "relay") d =
      .ok (codes.map (interfaceRow d (field kvs "relay") (field kvs "pubKey"))) := by
  obtain ⟨vs, hcodes, hvs⟩ := h.uniqueCodes
  have hrows : vs.mapM (deviceFields d (field kvs "relay") (field kvs "pubKey")) =
      .ok (codes.map (interfaceRow d (field kvs "relay") (field kvs "pubKey"))) := by
    clear hcodes h
    induction hvs with
    | nil => rfl
    | cons hv _ ih =>
      exact Except.mapM_cons_eq_ok.mpr ⟨_, _, deviceFields_interface hv d _ _, ih, rfl⟩
  simp only [FlexIDMngerDb.infoList, get_field, hcodes, Value.iter]
  exact hrows

theorem neighborFields_neighbor {v : Value} {n : Neighbor} (h : IsNeighbor v n) (d : String) :
    neighborFields d v = if n.neighborFlexID = "none" then .error (.raised "Neighbor FlexID error")
      else .ok (neighborRow d n) := by
  obtain ⟨hid, hiface, hipv4, hhw⟩ := h
  simp only [neighborFields, get_field, hid, hiface, hipv4, hhw]
  by_cases hnone : n.neighborFlexID = "none"
  · rw [if_pos hnone, hnone]
    rfl
  · rw [if_neg hnone]
    have hstr : (Value.str n.neighborFlexID).isStr "none" = false := by
      rw [← Bool.not_eq_true, Value.isStr_eq_true]
      exact fun h => hnone (Value.str.inj h)
    simp [bind, Except.bind, pure, Except.pure, Value.isNone, hstr, neighborRow]

/-- **The rows of some neighbors**, if none of them is called `none`. -/
theorem neighborRows_iff {vs : List Value} {ns : List Neighbor} (h : List.Forall₂ IsNeighbor vs ns)
    (d : String) {fs : List Fields} :
    vs.mapM (neighborFields d) = .ok fs ↔
      (∀ n ∈ ns, n.neighborFlexID ≠ "none") ∧ fs = ns.map (neighborRow d) := by
  induction h generalizing fs with
  | nil => rw [List.mapM_nil, Except.pure_eq_ok]; simp [eq_comm]
  | @cons v n vs ns hv _ ih =>
    rw [Except.mapM_cons_eq_ok, neighborFields_neighbor hv]
    refine ⟨?_, ?_⟩
    · intro hsome
      obtain ⟨f, fs', hf, hfs, rfl⟩ := hsome
      obtain ⟨hnone, rfl⟩ := ih.mp hfs
      by_cases hn : n.neighborFlexID = "none"
      · rw [if_pos hn] at hf
        exact absurd hf (by simp)
      · rw [if_neg hn] at hf
        obtain rfl := Except.ok.inj hf
        exact ⟨List.forall_mem_cons.mpr ⟨hn, hnone⟩, rfl⟩
    · intro hsome
      obtain ⟨hnone, rfl⟩ := hsome
      obtain ⟨hn, hnone⟩ := List.forall_mem_cons.mp hnone
      exact ⟨_, _, if_neg hn, ih.mpr ⟨hnone, rfl⟩, rfl⟩

/-! ## Which rows fit -/

/-- **The rows of the neighbors fit** exactly if their identifiers are new, and are told apart:
the device is stored by then. -/
theorem fits_neighbors_iff {db : Database} {d : String} {ns : List Neighbor} {rows : List Tuple}
    (hrows : tuplesOf (ns.map (neighborRow d)) = .ok rows) (hd : Plain d)
    (hclean : ∀ n ∈ ns, Plain n.neighborFlexID) (hdev : deviceStored srv db d = true) :
    Fits srv .Neighbor db rows ↔
      (∀ n ∈ ns, srv.finds db .Neighbor "neighborId" n.neighborFlexID = false) ∧
        ns.Pairwise fun a b => srv.same a.neighborFlexID b.neighborFlexID = false := by
  have hnames : List.Forall₂ (fun (n : Neighbor) r =>
      Dict.get r "neighborId" = some n.neighborFlexID) ns rows := by
    have hbuilt := List.forall₂_map_left_iff.mp (Except.forall₂_mapM hrows)
    refine ((List.forall₂_and_left _ _).mpr ⟨hclean, hbuilt⟩).imp fun n r hr => ?_
    obtain ⟨cells, hcells, hread⟩ := tupleOf_eq_ok.mp hr.2
    exact readCells_str hcells hread rfl hr.1
  have hdevice : ∀ r ∈ rows, Dict.get r "deviceId" = some d := by
    refine fun r hr => tuplesOf_str hrows (fun f hf => ?_) hd hr
    obtain ⟨n, _, rfl⟩ := List.mem_map.mp hf
    rfl
  have hfresh : (∀ n ∈ ns, srv.finds db .Neighbor "neighborId" n.neighborFlexID = false) ↔
      ∀ r ∈ rows, ∀ e ∈ db.rows .Neighbor, srv.agree .Neighbor (Table.primaryKey .Neighbor) e r =
        false := by
    refine forall_mem_iff_of_forall₂ (fun n r hr => ?_) hnames
    rw [finds_eq_false]
    exact forall₂_congr fun e _ => by rw [Table.primaryKey, agree_hasCell hr]
  have hapart : (ns.Pairwise fun a b => srv.same a.neighborFlexID b.neighborFlexID = false) ↔
      rows.Pairwise fun r r' =>
        srv.agree .Neighbor (Table.primaryKey .Neighbor) r r' = false := by
    refine pairwise_iff_of_forall₂ (fun n r n' r' hr hr' => ?_) hnames
    rw [Table.primaryKey, agree_singleton hr hr']
  rw [hfresh, hapart]
  refine ⟨?_, ?_⟩
  · exact fun h => ⟨h.fresh, h.apart⟩
  · intro hboth
    obtain ⟨hfresh, hapart⟩ := hboth
    refine ⟨tuplesOf_columns hrows fun f hf c hc => ?_, hfresh, hapart, fun _ r hr => ?_⟩
    · obtain ⟨n, _, rfl⟩ := List.mem_map.mp hf
      revert c
      simp [neighborRow, Table.columns]
    · obtain ⟨e, he, hcell⟩ := Server.finds_eq_true.mp hdev
      exact ⟨e, he, (agree_hasCell (hdevice r hr)).trans hcell⟩

/-! ## Which devices are accepted -/

/-- `Device` records the interfaces under an identifier, and `Neighbor` the neighbors. -/
structure Recorded (d : String) (codes : List Interface) (ns : List Neighbor) (db : Database) :
    Prop where
  interfaces : ∀ c ∈ codes, ∃ r ∈ db.committedRows .Device,
    Dict.get r "deviceId" = some d ∧ Dict.get r "ifaceType" = some c.ifaceType ∧
    Dict.get r "hwAddress" = some c.hwAddress ∧ Dict.get r "ipv4" = some c.ipv4 ∧
    Dict.get r "wifiSSID" = some c.wifiSSID
  neighbors : ∀ n ∈ ns, ∃ r ∈ db.committedRows .Neighbor,
    Dict.get r "deviceId" = some d ∧ Dict.get r "neighborId" = some n.neighborFlexID ∧
    Stores r "neighborIface" (orNone n.neighborIface) ∧
    Stores r "neighborIpv4" (orNone n.neighborIpv4) ∧
    Stores r "neighborHwAddress" (orNone n.neighborHwAddress)

/-- A join is acknowledged with an identifier, and the device recorded under it, once the
interpreter allows `join_genID` enough calls. -/
def Accepts (srv : Server) (m : Manager) (tempID : String) (kvs : List (String × Value))
    (codes : List Interface) (neighbors : Option (List Neighbor)) : Prop :=
  ∃ d enough, ∀ limit, enough ≤ limit →
    JoinedAs srv limit m ⟨.join, tempID, .dict kvs⟩ d ∧
    Recorded d codes (neighbors.getD []) (step srv limit m ⟨.join, tempID, .dict kvs⟩).store.db

/-- The device has one interface, and a list of neighbors, none called `none`, whose identifiers
the server tells apart, from each other and from those stored. -/
structure Acceptable (srv : Server) (db : Database) (codes : List Interface)
    (neighbors : Option (List Neighbor)) : Prop where
  one : codes.length = 1
  listed : ∃ ns, neighbors = some ns ∧ (∀ n ∈ ns, n.neighborFlexID ≠ "none") ∧
    (∀ n ∈ ns, srv.finds db .Neighbor "neighborId" n.neighborFlexID = false) ∧
    ns.Pairwise fun a b => srv.same a.neighborFlexID b.neighborFlexID = false

section WellFormed

variable {tempID base d : String} {kvs : List (String × Value)} {codes : List Interface}
  {neighbors : Option (List Neighbor)}

/-- The columns of the rows of an interface and of a neighbor have plain names. -/
theorem names_plain : ∀ col ∈ ["deviceId", "relay", "pubKey", "ifaceType", "hwAddress", "ipv4",
    "wifiSSID", "neighborIface", "neighborIpv4", "neighborHwAddress", "neighborId"],
    ∀ x ∈ col.toList, isName x = true := by
  simp only [← List.all_eq_true]
  decide

/-- A clean text is plain. -/
theorem plain_of_quoteless {s : String} (h : Quoteless s) : Plain s := ⟨h.1, h.2.2⟩

/-- The values of the interfaces are clean. -/
theorem WellFormed.interfaces_clean (h : WellFormed tempID kvs base codes neighbors) :
    ∀ c ∈ codes, Quoteless c.ifaceType ∧ Quoteless c.hwAddress ∧ Quoteless c.ipv4 ∧
      Quoteless c.wifiSSID := by
  obtain ⟨vs, _, hvs⟩ := h.uniqueCodes
  refine (forall_mem_iff_of_forall₂ (fun v c hv => iff_of_true trivial ?_) hvs).mp
    fun _ _ => trivial
  obtain ⟨_, _, _, _, h1, h2, h3, h4⟩ := hv
  exact ⟨h1, h2, h3, h4⟩

/-- The values of the neighbors are clean. -/
theorem neighbors_clean {vs : List Value} {ns : List Neighbor}
    (hvs : List.Forall₂ IsNeighbor vs ns) :
    ∀ n ∈ ns, Quoteless n.neighborFlexID ∧ IsText n.neighborIface ∧ IsText n.neighborIpv4 ∧
      IsText n.neighborHwAddress := by
  refine (forall_mem_iff_of_forall₂ (fun v n hv => iff_of_true trivial ?_) hvs).mp
    fun _ _ => trivial
  obtain ⟨_, _, _, _, h1, h2, h3, h4⟩ := hv
  exact ⟨h1, h2, h3, h4⟩

/-- The text stored for a field of a neighbor is clean. -/
theorem orNone_clean {v : Value} (h : IsText v) : ∃ s, orNone v = .str s ∧ Quoteless s := by
  have hnull : Quoteless "NULL" := by unfold Quoteless; decide
  rcases h with rfl | ⟨s, rfl, hs⟩
  · exact ⟨"NULL", rfl, hnull⟩
  · unfold orNone
    split
    · exact ⟨"NULL", rfl, hnull⟩
    · exact ⟨s, rfl, hs⟩

theorem pasted_orNone {v : Value} (h : IsText v) : Pasted (orNone v) := by
  obtain ⟨s, hs, hclean⟩ := orNone_clean h
  rw [hs]
  exact .str hclean

/-- The rows of the interfaces have pasted values. -/
theorem WellFormed.interface_pasted (h : WellFormed tempID kvs base codes neighbors)
    (hd : Quoteless d) :
    ∀ f ∈ codes.map (interfaceRow d (field kvs "relay") (field kvs "pubKey")),
      ∀ c ∈ f, Pasted c.2 := by
  intro f hf
  obtain ⟨c, hc, rfl⟩ := List.mem_map.mp hf
  obtain ⟨h1, h2, h3, h4⟩ := h.interfaces_clean c hc
  simp only [interfaceRow, List.forall_mem_cons]
  exact ⟨.str hd, h.relay, Or.inl h.pubKey, .str h1, .str h2, .str h3, .str h4, by simp⟩

/-- The rows of the neighbors have pasted values. -/
theorem neighbor_pasted {vs : List Value} {ns : List Neighbor} (hvs : List.Forall₂ IsNeighbor vs ns)
    (hd : Quoteless d) : ∀ f ∈ ns.map (neighborRow d), ∀ c ∈ f, Pasted c.2 := by
  intro f hf
  obtain ⟨n, hn, rfl⟩ := List.mem_map.mp hf
  obtain ⟨h1, h2, h3, h4⟩ := neighbors_clean hvs n hn
  simp only [neighborRow, List.forall_mem_cons]
  exact ⟨pasted_orNone h2, pasted_orNone h3, pasted_orNone h4, .str h1, .str hd, by simp⟩

/-- An interface row has a tuple, and is not refused. -/
theorem WellFormed.interface_taken (h : WellFormed tempID kvs base codes neighbors)
    (htakes : TakesReadable srv) (hd : Quoteless d) :
    ∀ f ∈ codes.map (interfaceRow d (field kvs "relay") (field kvs "pubKey")),
      Whole f ∧ (∃ r, tupleOf f = .ok r) ∧ ∀ n cells, f.mapM insertCell = .ok cells →
        srv.refuses n (Statement.insert .Device cells).text = none := by
  intro f hf
  have hpasted := h.interface_pasted hd f hf
  obtain ⟨c, hc, rfl⟩ := List.mem_map.mp hf
  refine pasted_taken htakes .Device (by simp [interfaceRow]) (fun e he => ?_) hpasted
  refine names_plain _ ?_
  revert e
  simp [interfaceRow]

/-- A neighbor row has a tuple, and is not refused. -/
theorem neighbor_taken {vs : List Value} {ns : List Neighbor} (hvs : List.Forall₂ IsNeighbor vs ns)
    (htakes : TakesReadable srv) (hd : Quoteless d) :
    ∀ f ∈ ns.map (neighborRow d), Whole f ∧ (∃ r, tupleOf f = .ok r) ∧
      ∀ n cells, f.mapM insertCell = .ok cells →
        srv.refuses n (Statement.insert .Neighbor cells).text = none := by
  intro f hf
  have hpasted := neighbor_pasted hvs hd f hf
  obtain ⟨n, hn, rfl⟩ := List.mem_map.mp hf
  refine pasted_taken htakes .Neighbor (by simp [neighborRow]) (fun e he => ?_) hpasted
  refine names_plain _ ?_
  revert e
  simp [neighborRow]

/-- **When the interfaces are inserted**: exactly if there is one of them. -/
theorem WellFormed.stored_iff (h : WellFormed tempID kvs base codes neighbors)
    (htakes : TakesReadable srv) (hd : Quoteless d) {db : Database}
    (hnew : deviceStored srv db d = false) :
    (∃ db', insertRows srv .Device
      (codes.map (interfaceRow d (field kvs "relay") (field kvs "pubKey"))) db = (.ok (), db')) ↔
        codes.length = 1 := by
  have htaken := h.interface_taken htakes hd
  rw [insertRows_ok_iff (fun f hf => (htaken f hf).1) fun f hf => (htaken f hf).2.2]
  obtain ⟨rows, hrows⟩ : ∃ rows, tuplesOf _ = .ok rows :=
      Except.mapM_isOk_iff.mpr fun f hf => (htaken f hf).2.1
  have hlen : rows.length = codes.length := by
    rw [Except.length_mapM hrows, List.length_map]
  have hfits : Fits srv .Device db rows ↔ rows.length ≤ 1 := by
    refine fits_device_iff hrows (plain_of_quoteless hd) hnew (fun f hf => ?_) fun f hf c hc => ?_
    · obtain ⟨c, _, rfl⟩ := List.mem_map.mp hf
      rfl
    · obtain ⟨i, _, rfl⟩ := List.mem_map.mp hf
      revert c
      simp [interfaceRow, Table.columns]
  have hpos : 0 < codes.length := List.length_pos_of_ne_nil h.interfaces
  refine ⟨?_, ?_⟩
  · intro hsome
    obtain ⟨rows', hrows', h⟩ := hsome
    obtain rfl := Except.ok.inj (hrows.symm.trans hrows')
    have hle := hfits.mp h
    omega
  · intro hone
    exact ⟨rows, hrows, hfits.mpr (by omega)⟩

/-- **When the neighbors are read and inserted.** -/
theorem WellFormed.linked_iff (h : WellFormed tempID kvs base codes neighbors)
    (htakes : TakesReadable srv) (hd : Quoteless d) {db : Database}
    (hdev : deviceStored srv db d = true) :
    (∃ ns db', neighborList (.dict kvs) d = .ok ns ∧
      insertRows srv .Neighbor ns db = (.ok (), db')) ↔
        ∃ ns, neighbors = some ns ∧ (∀ n ∈ ns, n.neighborFlexID ≠ "none") ∧
          (∀ n ∈ ns, srv.finds db .Neighbor "neighborId" n.neighborFlexID = false) ∧
          ns.Pairwise fun a b => srv.same a.neighborFlexID b.neighborFlexID = false := by
  have hgives := h.neighbors
  cases neighbors with
  | none =>
    refine ⟨fun ⟨ns, _, hns, _⟩ => ?_, fun ⟨_, hns, _⟩ => absurd hns (by simp)⟩
    -- the letters of `NULL` have no fields
    have habsent : field kvs "neighbors" = .none := hgives
    simp only [neighborList, get_field, habsent] at hns
    have hraised : (.error .attributeError : Except Exc (List Fields)) = .ok ns := hns
    exact absurd hraised (by simp)
  | some ns =>
    obtain ⟨vs, hlist, hvs⟩ := hgives
    have hread : ∀ fs, neighborList (.dict kvs) d = .ok fs ↔
        vs.mapM (neighborFields d) = .ok fs := by
      intro fs
      simp only [neighborList, get_field, hlist]
      rfl
    have htaken := neighbor_taken hvs htakes hd
    obtain ⟨rows, hrows⟩ : ∃ rows, tuplesOf _ = .ok rows :=
      Except.mapM_isOk_iff.mpr fun f hf => (htaken f hf).2.1
    have hok := @insertRows_ok_iff srv .Neighbor _ db (fun f hf => (htaken f hf).1)
      fun f hf => (htaken f hf).2.2
    have hnames : ∀ n ∈ ns, Plain n.neighborFlexID := fun n hn =>
      plain_of_quoteless (neighbors_clean hvs n hn).1
    have hplain := plain_of_quoteless hd
    refine ⟨?_, ?_⟩
    · intro hsome
      obtain ⟨fs, db', hfs, hins⟩ := hsome
      obtain ⟨hnone, rfl⟩ := (neighborRows_iff hvs d).mp ((hread fs).mp hfs)
      obtain ⟨rows', hrows', hfits⟩ := hok.mp ⟨db', hins⟩
      obtain rfl := Except.ok.inj (hrows.symm.trans hrows')
      exact ⟨ns, rfl, hnone, (fits_neighbors_iff hrows hplain hnames hdev).mp hfits⟩
    · intro hsome
      obtain ⟨ns', hns, hnone, hfits⟩ := hsome
      obtain rfl := Option.some.inj hns
      obtain ⟨db', hins⟩ := hok.mpr
        ⟨rows, hrows, (fits_neighbors_iff hrows hplain hnames hdev).mpr hfits⟩
      exact ⟨_, db', (hread _).mpr ((neighborRows_iff hvs d).mpr ⟨hnone, rfl⟩), hins⟩

/-- The row of an interface has its texts. -/
theorem interfaceRow_stored {relay pubKey : Value} {c : Interface} {r : Tuple} (hd : Quoteless d)
    (hc : Quoteless c.ifaceType ∧ Quoteless c.hwAddress ∧ Quoteless c.ipv4 ∧ Quoteless c.wifiSSID)
    (h : tupleOf (interfaceRow d relay pubKey c) = .ok r) :
    Dict.get r "deviceId" = some d ∧ Dict.get r "ifaceType" = some c.ifaceType ∧
      Dict.get r "hwAddress" = some c.hwAddress ∧ Dict.get r "ipv4" = some c.ipv4 ∧
      Dict.get r "wifiSSID" = some c.wifiSSID := by
  obtain ⟨cells, hcells, hread⟩ := tupleOf_eq_ok.mp h
  obtain ⟨h1, h2, h3, h4⟩ := hc
  exact ⟨readCells_str hcells hread rfl (plain_of_quoteless hd),
    readCells_str hcells hread rfl (plain_of_quoteless h1),
    readCells_str hcells hread rfl (plain_of_quoteless h2),
    readCells_str hcells hread rfl (plain_of_quoteless h3),
    readCells_str hcells hread rfl (plain_of_quoteless h4)⟩

/-- The row of a neighbor has its texts. -/
theorem neighborRow_stored {n : Neighbor} {r : Tuple} (hd : Quoteless d)
    (hn : Quoteless n.neighborFlexID ∧ IsText n.neighborIface ∧ IsText n.neighborIpv4 ∧
      IsText n.neighborHwAddress) (h : tupleOf (neighborRow d n) = .ok r) :
    Dict.get r "deviceId" = some d ∧ Dict.get r "neighborId" = some n.neighborFlexID ∧
      Stores r "neighborIface" (orNone n.neighborIface) ∧
      Stores r "neighborIpv4" (orNone n.neighborIpv4) ∧
      Stores r "neighborHwAddress" (orNone n.neighborHwAddress) := by
  obtain ⟨cells, hcells, hread⟩ := tupleOf_eq_ok.mp h
  obtain ⟨h1, h2, h3, h4⟩ := hn
  have hstores : ∀ {col v}, IsText v → Dict.get (neighborRow d n) col = some (orNone v) →
      Stores r col (orNone v) := by
    intro col v hv hget
    obtain ⟨s, hs, hclean⟩ := orNone_clean hv
    rw [hs] at hget ⊢
    exact ⟨s, rfl, readCells_str hcells hread hget (plain_of_quoteless hclean)⟩
  exact ⟨readCells_str hcells hread rfl (plain_of_quoteless hd),
    readCells_str hcells hread rfl (plain_of_quoteless h1), hstores h2 rfl, hstores h3 rfl,
    hstores h4 rfl⟩

/-- **A join that ran through recorded its device.** -/
theorem WellFormed.recorded (h : WellFormed tempID kvs base codes neighbors) (hd : Quoteless d)
    {limit : Nat} {s s1 : Store} {fs ns : List Fields} {base' : String} {db1 db2 : Database}
    (hrun : JoinRun srv limit tempID kvs s d base' s1 fs ns db1 db2) :
    Recorded d codes (neighbors.getD []) db2.commit := by
  obtain rfl := Except.ok.inj ((h.infoList d).symm.trans hrun.devices)
  obtain ⟨rows, hrows, happ, _⟩ :=
    insertRows_ok (fun f hf => pasted_whole (h.interface_pasted hd f hf)) hrun.stored
  obtain ⟨rest, happ'⟩ := insertRows_appended srv .Neighbor ns db1.commit
  rw [hrun.linked] at happ'
  refine ⟨?_, ?_⟩
  · intro c hc
    obtain ⟨r, hr, htuple⟩ := Except.exists_mem_mapM hrows
      (List.mem_map_of_mem (f := interfaceRow d (field kvs "relay") (field kvs "pubKey")) hc)
    refine ⟨r, ?_, interfaceRow_stored hd (h.interfaces_clean c hc) htuple⟩
    rw [Database.committedRows_commit, happ'.mem_rows, Database.commit_rows, happ.mem_rows]
    exact Or.inl (Or.inr ⟨rfl, hr⟩)
  · intro n hn
    have hgives := h.neighbors
    cases neighbors with
    | none => exact absurd hn (by simp)
    | some nbs =>
      obtain ⟨vs, hlist, hvs⟩ := hgives
      have hread : vs.mapM (neighborFields d) = .ok ns := by
        have := hrun.neighbors
        simp only [neighborList, get_field, hlist] at this
        exact this
      obtain ⟨_, rfl⟩ := (neighborRows_iff hvs d).mp hread
      obtain ⟨rows', hrows', happ', _⟩ :=
        insertRows_ok (fun f hf => pasted_whole (neighbor_pasted hvs hd f hf)) hrun.linked
      obtain ⟨r, hr, htuple⟩ := Except.exists_mem_mapM hrows'
        (List.mem_map_of_mem (f := neighborRow d) hn)
      refine ⟨r, ?_, neighborRow_stored hd (neighbors_clean hvs n hn) htuple⟩
      rw [Database.committedRows_commit, happ'.mem_rows]
      exact Or.inr ⟨rfl, hr⟩

/-- An insertion of interfaces leaves the neighbors as they are. -/
theorem finds_neighbor {rows : List Tuple} {db db1 : Database} (happ : Appended .Device rows db db1)
    (x : String) : srv.finds db1.commit .Neighbor "neighborId" x =
      srv.finds db .Neighbor "neighborId" x := by
  rw [Bool.eq_iff_iff, Server.finds_eq_true, Server.finds_eq_true]
  refine exists_congr fun e => and_congr_left fun _ => ?_
  rw [Database.commit_rows, happ.mem_rows]
  exact or_iff_left fun h => absurd h.1 (by decide)

/-- Once its interface is inserted, a device is stored. -/
theorem WellFormed.stored_interface (h : WellFormed tempID kvs base codes neighbors)
    (hd : Quoteless d) {db db1 : Database}
    (hins : insertRows srv .Device
      (codes.map (interfaceRow d (field kvs "relay") (field kvs "pubKey"))) db = (.ok (), db1)) :
    deviceStored srv db1.commit d = true := by
  obtain ⟨rows, hrows, happ, _⟩ :=
    insertRows_ok (fun f hf => pasted_whole (h.interface_pasted hd f hf)) hins
  obtain ⟨c, hc⟩ := List.exists_mem_of_ne_nil codes h.interfaces
  obtain ⟨r, hr, htuple⟩ := Except.exists_mem_mapM hrows
    (List.mem_map_of_mem (f := interfaceRow d (field kvs "relay") (field kvs "pubKey")) hc)
  obtain ⟨hid, _⟩ := interfaceRow_stored hd (h.interfaces_clean c hc) htuple
  refine Server.finds_eq_true.mpr ⟨r, ?_, ?_⟩
  · rw [Database.commit_rows, happ.mem_rows]
    exact Or.inr ⟨rfl, hr⟩
  · rw [Server.hasCell, Tuple.cell, hid]
    exact srv.same_refl d

/-- What is known once an identifier is generated: it is clean and new, and nothing was logged. -/
theorem WellFormed.generated (h : WellFormed tempID kvs base codes neighbors) {limit : Nat}
    {s s1 : Store} (hgen : join_genID srv limit base 0 s = (.ok d, s1)) :
    Quoteless d ∧ deviceStored srv s1.db d = false ∧ s1.db.log = s.db.log := by
  obtain ⟨_, hnew, _, hlog, _⟩ := join_genID_plain (plain_of_quoteless h.base) hgen
  obtain ⟨⟨flag, rfl⟩, _⟩ := join_genID_ok hgen
  exact ⟨clean_newID h.base flag, by rw [deviceStored_congr hlog]; exact hnew, hlog⟩

/-- The neighbors that are found once the interfaces are inserted. -/
theorem finds_inserted {db0 db db1 : Database} {fs : List Fields} (hlog : db.log = db0.log)
    (hins : insertRows srv .Device fs db = (.ok (), db1)) (x : String) :
    srv.finds db1.commit .Neighbor "neighborId" x =
      srv.finds db0 .Neighbor "neighborId" x := by
  obtain ⟨rows, happ⟩ := insertRows_appended srv .Device fs db
  rw [hins] at happ
  rw [finds_neighbor happ]
  unfold Server.finds Database.rows
  rw [hlog]

/-- **Which well-formed devices are accepted**: those with one interface, and a list of
neighbors whose identifiers are new and told apart. -/
theorem accepts_iff (htakes : TakesReadable srv) (htells : TellsNumbers srv) (m : Manager)
    (h : WellFormed tempID kvs base codes neighbors) :
    Accepts srv m tempID kvs codes neighbors ↔ Acceptable srv m.store.db codes neighbors := by
  obtain ⟨c, codes, rfl⟩ := List.exists_cons_of_ne_nil h.interfaces
  refine ⟨?_, ?_⟩
  · intro hsome
    obtain ⟨d, enough, haccepts⟩ := hsome
    obtain ⟨base', s1, fs, ns, db1, db2, hrun⟩ := joinedAs_run (haccepts enough (Nat.le_refl _)).1
    obtain rfl : base = base' := by simpa using h.named.symm.trans hrun.named
    obtain ⟨hd, hnew, hlog⟩ := h.generated hrun.generated
    obtain rfl := Except.ok.inj ((h.infoList d).symm.trans hrun.devices)
    have hlisted := (h.linked_iff htakes hd (h.stored_interface hd hrun.stored)).mp
      ⟨ns, db2, hrun.neighbors, hrun.linked⟩
    simp only [finds_inserted hlog hrun.stored] at hlisted
    exact ⟨(h.stored_iff htakes hd hnew).mp ⟨db1, hrun.stored⟩, hlisted⟩
  · intro hboth
    obtain ⟨hone, hlisted⟩ := hboth
    have hprobes : ProbesTruthful srv base 0 m.store :=
      probesTruthful_plain (plain_of_quoteless h.base) fun i =>
        deviceProbe_taken htakes _ (clean_newID h.base _)
    obtain ⟨k, enough, hfirst⟩ := found_of_probesTruthful htells hprobes
    refine ⟨candidate base 0 k, enough, fun limit hlimit => ?_⟩
    rcases hres : join_genID srv limit base 0 m.store with ⟨r, s1⟩
    have hr := (hfirst limit hlimit).marks.result
    rw [hres] at hr
    obtain rfl : r = .ok (candidate base 0 k) := hr
    obtain ⟨hd, hnew, hlog⟩ := h.generated hres
    obtain ⟨db1, hstored⟩ := (h.stored_iff htakes hd hnew).mpr hone
    obtain ⟨ns, db2, hneighbors, hlinked⟩ :=
      (h.linked_iff htakes hd (h.stored_interface hd hstored)).mpr (by
        simpa only [finds_inserted hlog hstored] using hlisted)
    have hrun : JoinRun srv limit tempID kvs m.store (candidate base 0 k) base s1 _ ns db1 db2 :=
      ⟨h.named, hres, h.infoList _, hstored, hneighbors, hlinked⟩
    obtain ⟨hjoined, hstep⟩ := hrun.step
    refine ⟨hjoined, ?_⟩
    rw [hstep]
    exact h.recorded hd hrun

end WellFormed

theorem readingServer_takes : TakesReadable readingServer := by
  intro n verb text h
  cases verb with
  | insert => exact if_pos (by rw [Bool.or_eq_true]; exact Or.inl h)
  | select => exact if_pos (by rw [Bool.or_eq_true]; exact Or.inr h)

/-- The entry of an interface. -/
def interfaceEntry (hwAddress : String) : Value :=
  .dict [("ifaceType", .str "wifi"), ("hwAddress", .str hwAddress), ("ipv4", .str "10.0.0.1"),
    ("wifiSSID", .str "home")]

/-- The entry of a neighbor. -/
def neighborEntry (flexID : String) : Value :=
  .dict [("neighborIface", .str "wifi"), ("neighborFlexID", .str flexID)]

/-- A join with some interfaces and two neighbors. -/
def joinWith (hwAddresses : List String) : List (String × Value) :=
  [("relay", .str "none"), ("pubKey", .str "k"),
    ("uniqueCodes", .list (hwAddresses.map interfaceEntry)),
    ("neighbors", .list [neighborEntry "asdf", neighborEntry "ghjk"])]

/-- The interface an entry gives. -/
def wifiInterface (hwAddress : String) : Interface := ⟨"wifi", hwAddress, "10.0.0.1", "home"⟩

/-- The neighbor an entry gives. -/
def wifiNeighbor (flexID : String) : Neighbor := ⟨flexID, .str "wifi", .none, .none⟩

/-- Such a join is one of a well-formed device. -/
theorem wellFormed_joinWith {hwAddresses : List String} (hne : hwAddresses ≠ [])
    (hclean : ∀ h ∈ hwAddresses, Quoteless h) :
    WellFormed "t" (joinWith hwAddresses) "t" (hwAddresses.map wifiInterface)
      (some [wifiNeighbor "asdf", wifiNeighbor "ghjk"]) := by
  have hc : ∀ {s}, s ∈ ["t", "k", "wifi", "10.0.0.1", "home", "asdf", "ghjk", "none"] →
      Quoteless s := by
    unfold Quoteless
    decide
  have hcodes : List.Forall₂ IsInterface (hwAddresses.map interfaceEntry)
      (hwAddresses.map wifiInterface) := by
    rw [List.forall₂_map_left_iff, List.forall₂_map_right_iff, List.forall₂_same]
    intro h hh
    exact .entry rfl rfl rfl rfl (hc (by simp [wifiInterface])) (hclean h hh)
      (hc (by simp [wifiInterface])) (hc (by simp [wifiInterface]))
  have hneighbor : ∀ n ∈ ["asdf", "ghjk"], IsNeighbor (neighborEntry n) (wifiNeighbor n) := by
    intro n hn
    refine .entry rfl rfl rfl rfl (hc ?_) (Or.inr ⟨"wifi", rfl, hc (by simp)⟩) (Or.inl rfl)
      (Or.inl rfl)
    revert n
    decide
  exact {
    named := rfl
    base := hc (by simp)
    relay := Or.inl (Or.inr ⟨"none", rfl, hc (by simp)⟩)
    pubKey := Or.inr ⟨"k", rfl, hc (by simp)⟩
    uniqueCodes := ⟨_, rfl, hcodes⟩
    interfaces := by simpa using hne
    neighbors := ⟨_, rfl, .cons (hneighbor "asdf" (by simp))
      (.cons (hneighbor "ghjk" (by simp)) .nil)⟩ }

/-- A database with a device that has a neighbor. -/
def oneNeighborStored : Manager :=
  start [(.Device, [("deviceId", "0d")]),
    (.Neighbor, [("neighborId", "qwer"), ("deviceId", "0d")])] 0

/-- A device with one interface and two neighbors is accepted, beside another one. -/
theorem accepts_one : Accepts readingServer oneNeighborStored "t" (joinWith ["00:1a"])
    [wifiInterface "00:1a"] (some [wifiNeighbor "asdf", wifiNeighbor "ghjk"]) := by
  have htells : TellsNumbers readingServer := tellsNumbers_exact fun _ _ h => beq_iff_eq.mp h
  have hformed := @wellFormed_joinWith ["00:1a"] (by simp) (by unfold Quoteless; decide)
  refine (accepts_iff readingServer_takes htells _ hformed).mpr ⟨rfl, _, rfl, ?_, ?_, ?_⟩
  · simp only [List.forall_mem_cons, wifiNeighbor]
    decide
  · simp only [List.forall_mem_cons, wifiNeighbor]
    decide
  · simp only [List.pairwise_cons, List.forall_mem_cons, wifiNeighbor]
    decide

/-- A device with two interfaces is not. -/
theorem not_accepts_two : ¬ Accepts readingServer (start [] 0) "t" (joinWith ["00:1a", "00:1b"])
    [wifiInterface "00:1a", wifiInterface "00:1b"]
    (some [wifiNeighbor "asdf", wifiNeighbor "ghjk"]) := by
  intro hsome
  obtain ⟨d, enough, haccepts⟩ := hsome
  obtain ⟨base, s1, fs, ns, db1, db2, hrun⟩ := joinedAs_run (haccepts enough (Nat.le_refl _)).1
  have hformed := @wellFormed_joinWith ["00:1a", "00:1b"] (by simp) (by unfold Quoteless; decide)
  obtain rfl := Value.str.inj (Except.ok.inj hrun.named)
  obtain ⟨hd, _⟩ := hformed.generated hrun.generated
  have hpasted := hformed.interface_pasted hd
  obtain rfl := Except.ok.inj ((hformed.infoList d).symm.trans hrun.devices)
  obtain ⟨e, herror⟩ := insertRows_device_two readingServer [] s1.db (plain_of_quoteless hd)
    (pasted_whole (hpasted _ (List.mem_cons_self ..)))
    (pasted_whole (hpasted _ (List.mem_cons_of_mem _ (List.mem_cons_self ..)))) rfl rfl
  have hstored := congrArg Prod.fst hrun.stored
  exact absurd (herror.symm.trans hstored) (by simp)

end Versatile.FlexIDMngerDb
