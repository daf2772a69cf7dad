import Versatile.FlexIDMngerDb.Insertions
import Versatile.FlexIDMngerDb.Readable

/-!
# Which texts are stored as they are

`db_proc` pastes the values of a request into its statements as they are. A string without
apostrophes and backslashes is stored as it was sent, and a list of plain strings as the text of
the list (`PlainRow.stores`). A row may hold other texts and still have no broken literal; a
request with such rows is `WellQuoted`.
-/

namespace Versatile.FlexIDMngerDb

open Py Quoted

/-! ## Values -/

/-- The text a value is to be stored as: its own, or the text of the list of its strings, which
are escaped. -/
def meantText : Value → Except Exc String
  | .list vs => do
      let encoded ← vs.mapM Value.encoded
      return "[" ++ ", ".intercalate encoded ++ "]"
  | v => return v.text

/-- A value that is stored as it is meant. -/
def PlainValue : Value → Prop
  | .list vs => ∀ s, .str s ∈ vs → PlainText s
  | v => Plain v.text

instance (s : String) : Decidable (PlainText s) := inferInstanceAs (Decidable (_ ∧ ¬ (_ ∧ _)))

/-- The string of a value, if it is one, is plain. -/
def PlainString : Value → Prop
  | .str s => PlainText s
  | _ => True

instance : DecidablePred PlainString := fun v =>
  match v with
  | .str s => inferInstanceAs (Decidable (PlainText s))
  | .none | .bool _ | .int _ | .float _ _ | .list _ | .dict _ => .isTrue trivial

theorem plainStrings_iff {vs : List Value} :
    (∀ v ∈ vs, PlainString v) ↔ ∀ s, .str s ∈ vs → PlainText s := by
  refine ⟨fun h s hs => h _ hs, fun h v hv => ?_⟩
  cases v with
  | str s => exact h s hv
  | _ => trivial

instance : DecidablePred PlainValue := fun v =>
  match v with
  | .list _ => decidable_of_iff _ plainStrings_iff
  | .none => inferInstanceAs (Decidable (Plain _))
  | .bool _ => inferInstanceAs (Decidable (Plain _))
  | .int _ => inferInstanceAs (Decidable (Plain _))
  | .float _ _ => inferInstanceAs (Decidable (Plain _))
  | .str _ => inferInstanceAs (Decidable (Plain _))
  | .dict _ => inferInstanceAs (Decidable (Plain _))

/-- The elements of a list that can be escaped are strings. -/
theorem encoded_strings {vs : List Value} {ts : List String} (h : vs.mapM Value.encoded = .ok ts) :
    ∃ ss : List String, vs = ss.map .str := by
  induction vs generalizing ts with
  | nil => exact ⟨[], rfl⟩
  | cons v vs ih =>
    obtain ⟨t, ts', hv, hvs, rfl⟩ := Except.mapM_cons_eq_ok.mp h
    obtain ⟨ss, rfl⟩ := ih hvs
    cases v with
    | str s => exact ⟨s :: ss, rfl⟩
    | _ => exact absurd hv (by simp [Value.encoded])

/-- A list that can be pasted is one of strings. -/
theorem insertCell_list {col : String} {vs : List Value} {c : Cell}
    (h : insertCell (col, .list vs) = .ok c) :
    ∃ ss : List String, vs = ss.map .str ∧ c = ⟨col, Datum.literal .insert (.texts ss)⟩ := by
  obtain ⟨ts, hts, _⟩ := Except.bind_eq_ok.mp h
  obtain ⟨ss, rfl⟩ := encoded_strings hts
  simp only [insertCell, mapM_encoded] at h
  exact ⟨ss, rfl, (Except.ok.inj h).symm⟩

/-- **The literal of a plain value** stands for the text the value is to be stored as. -/
theorem PlainValue.reads {col : String} {v : Value} {c : Cell} (h : PlainValue v)
    (hc : insertCell (col, v) = .ok c) :
    ∃ text, meantText v = .ok text ∧ readText c.literal = some text := by
  cases v with
  | list vs =>
    obtain ⟨ss, rfl, rfl⟩ := insertCell_list hc
    have hsafe : Safe .insert (.texts ss) := fun s hs => h s (List.mem_map_of_mem hs)
    refine ⟨Datum.escapedTexts ss, ?_, readText_eq_some.mpr ((body_iff_safe .insert _).mpr hsafe)⟩
    simp only [meantText, mapM_encoded]
    rfl
  | _ =>
    obtain rfl := Except.ok.inj hc
    exact ⟨_, rfl, readText_plain h⟩

/-! ## Rows -/

/-- A row whose values are stored as they are meant. -/
def PlainRow (f : Fields) : Prop := ∀ c ∈ f, PlainValue c.2

/-- A row whose literals are whole, one by one. -/
theorem whole_of_cells {f : Fields}
    (h : ∀ c ∈ f, ∀ cell, insertCell c = .ok cell → ∃ x, readText cell.literal = some x) :
    Whole f := by
  unfold Whole
  induction f with
  | nil =>
    intro cells hcells
    obtain rfl : [] = cells := Except.pure_eq_ok.mp hcells
    exact ⟨[], rfl⟩
  | cons e f ih =>
    obtain ⟨he, hf⟩ := List.forall_mem_cons.mp h
    intro cells hcells
    obtain ⟨c, cs, hc, hcs, rfl⟩ := Except.mapM_cons_eq_ok.mp hcells
    obtain ⟨x, hx⟩ := he c hc
    obtain ⟨r, hr⟩ := ih hf cs hcs
    exact ⟨_, readCells_cons.mpr ⟨x, r, hx, hr, rfl⟩⟩

/-- A plain row has no broken literal. -/
theorem PlainRow.whole {f : Fields} (h : PlainRow f) : Whole f :=
  whole_of_cells fun c hc _ hcell => ((h c hc).reads hcell).imp fun _ hx => hx.2

/-- A stored row has the text in a column that a value is to be stored as. -/
def Stores (row : Tuple) (col : String) (v : Value) : Prop :=
  ∃ text, meantText v = .ok text ∧ Dict.get row col = some text

/-- **A plain row is stored as it is meant.** -/
theorem PlainRow.stores {f : Fields} {r : Tuple} (h : PlainRow f) (hr : tupleOf f = .ok r)
    {col : String} {v : Value} (hv : Dict.get f col = some v) : Stores r col v := by
  obtain ⟨cells, hcells, hread⟩ := tupleOf_eq_ok.mp hr
  obtain ⟨c, value, hc, hvalue, hget⟩ := readCells_get hcells hread hv
  obtain ⟨text, hmeant, htext⟩ := (h _ (Dict.mem_of_get hv)).reads hc
  obtain rfl : value = text := Option.some.inj (hvalue.symm.trans htext)
  exact ⟨value, hmeant, hget⟩

/-! ## Requests -/

/-- The device that a request names has a plain name. -/
def PlainName (r : Request) : Prop :=
  ∀ kvs d, r.payload = .dict kvs → deviceOf r.tempID (field kvs "relay") = .ok (.str d) → Plain d

/-- The rows a join stores under an identifier have no broken literal. -/
structure WholeJoin (kvs : List (String × Value)) (d : String) : Prop where
  devices : ∀ fs, infoList (.dict kvs) (field kvs "relay") d = .ok fs → ∀ f ∈ fs, Whole f
  neighbors : ∀ ns, neighborList (.dict kvs) d = .ok ns → ∀ f ∈ ns, Whole f

/-- The rows a registration stores for a device have no broken literal. -/
def WholeRegister (kvs : List (String × Value)) (d : String) : Prop :=
  ∀ items, (field kvs "registerList").iter = .ok items → ∀ raw ∈ items, ∀ item hash_val flag,
    readItem raw = .ok item → item.hash = .str hash_val →
    Whole (registerFields d (newID flag hash_val) item item.attributes)

/-- The statement that a query executes has no broken literal. -/
def WholeQuery (kvs : List (String × Value)) : Prop :=
  (field kvs "category").isStr "Sensor" = true ∨
    ∃ conds, readCells ([("queryType", field kvs "queryType"), ("category", field kvs "category"),
      ("requirements", field kvs "requirements")].map whereCell) = some conds

/-- A request that is quoted well: the statements that store its rows, or select for a query, have
no broken literal, and a join names its device by a plain text. -/
def WellQuoted (r : Request) : Prop :=
  ∀ kvs d, r.payload = .dict kvs → deviceOf r.tempID (field kvs "relay") = .ok (.str d) →
    match r.op with
    | .join => Plain d ∧ ∀ flag, WholeJoin kvs (newID flag d)
    | .register => WholeRegister kvs d
    | .query => WholeQuery kvs
    | _ => True

/-! ## Requests with plain texts -/

theorem plain_null : PlainValue (.str "NULL") := (by decide : Plain "NULL")

theorem PlainValue.orNULL {v : Value} (h : PlainValue v) : PlainValue (orNULL v) := by
  unfold Versatile.orNULL
  split
  · exact plain_null
  · exact h

theorem PlainValue.orNone {v : Value} (h : PlainValue v) : PlainValue (orNone v) := by
  unfold Versatile.orNone
  split
  · exact plain_null
  · exact h

/-- An entry has values in some columns that are stored as they are meant. -/
def PlainIn (cols : List String) (entry : Value) : Prop :=
  ∀ col ∈ cols, ∀ v, entry.get col = .ok v → PlainValue v

instance (cols : List String) (entry : Value) : Decidable (PlainIn cols entry) :=
  inferInstanceAs (Decidable (∀ col ∈ cols, ∀ v, entry.get col = .ok v → PlainValue v))

/-- The values of a join are stored as they are meant. -/
structure PlainJoin (kvs : List (String × Value)) : Prop where
  own : PlainIn ["relay", "pubKey"] (.dict kvs)
  interfaces : ∀ items, (field kvs "uniqueCodes").iter = .ok items → ∀ entry ∈ items,
    PlainIn ["ifaceType", "hwAddress", "ipv4", "wifiSSID"] entry
  neighbors : ∀ items, (orNULL (field kvs "neighbors")).iter = .ok items → ∀ entry ∈ items,
    PlainIn ["neighborIface", "neighborIpv4", "neighborHwAddress", "neighborFlexID"] entry

instance (kvs : List (String × Value)) : Decidable (PlainJoin kvs) :=
  decidable_of_iff
    (PlainIn ["relay", "pubKey"] (.dict kvs) ∧
      (∀ items, (field kvs "uniqueCodes").iter = .ok items → ∀ entry ∈ items,
        PlainIn ["ifaceType", "hwAddress", "ipv4", "wifiSSID"] entry) ∧
      ∀ items, (orNULL (field kvs "neighbors")).iter = .ok items → ∀ entry ∈ items,
        PlainIn ["neighborIface", "neighborIpv4", "neighborHwAddress", "neighborFlexID"] entry)
    ⟨fun ⟨h1, h2, h3⟩ => ⟨h1, h2, h3⟩, fun h => ⟨h.own, h.interfaces, h.neighbors⟩⟩

/-- The interface rows of a join with plain values are plain. -/
theorem PlainJoin.devices {kvs : List (String × Value)} {d : String} {fs : List Fields}
    (h : PlainJoin kvs) (hd : Plain d)
    (hfs : infoList (.dict kvs) (field kvs "relay") d = .ok fs) : ∀ f ∈ fs, PlainRow f := by
  intro f hf
  obtain ⟨pubKey, codes, items, entry, hkey, hcodes, hitems, hentry, hfields⟩ :=
    mem_infoList hfs hf
  obtain rfl : field kvs "uniqueCodes" = codes := Except.ok.inj hcodes
  obtain ⟨ifaceType, hwAddress, ipv4, wifiSSID, htype, hhw, hipv4, hssid, rfl⟩ :=
    deviceFields_eq_ok hfields
  have hplain := h.interfaces items hitems entry hentry
  have htype' : PlainValue (if hwAddress.isNone then .str "NULL" else orNULL ifaceType) := by
    split
    · exact plain_null
    · exact (hplain "ifaceType" (by simp) _ htype).orNULL
  simp only [PlainRow, List.forall_mem_cons]
  exact ⟨hd, h.own "relay" (by simp) _ rfl, h.own "pubKey" (by simp) _ hkey, htype',
    hplain "hwAddress" (by simp) _ hhw, (hplain "ipv4" (by simp) _ hipv4).orNULL,
    (hplain "wifiSSID" (by simp) _ hssid).orNULL, by simp⟩

/-- The neighbor rows of a join with plain values are plain. -/
theorem PlainJoin.neighborRows {kvs : List (String × Value)} {d : String} {ns : List Fields}
    (h : PlainJoin kvs) (hd : Plain d) (hns : neighborList (.dict kvs) d = .ok ns) :
    ∀ f ∈ ns, PlainRow f := by
  intro f hf
  obtain ⟨neighbors, items, entry, hneighbors, hitems, hentry, hfields⟩ :=
    mem_neighborList hns hf
  obtain rfl : field kvs "neighbors" = neighbors := Except.ok.inj hneighbors
  obtain ⟨iface, ipv4, hw, flexID, hiface, hipv4, hhw, hflexID, rfl⟩ :=
    neighborFields_eq_ok hfields
  have hplain := h.neighbors items hitems entry hentry
  simp only [PlainRow, List.forall_mem_cons]
  exact ⟨(hplain "neighborIface" (by simp) _ hiface).orNone,
    (hplain "neighborIpv4" (by simp) _ hipv4).orNone,
    (hplain "neighborHwAddress" (by simp) _ hhw).orNone,
    hplain "neighborFlexID" (by simp) _ hflexID, hd, by simp⟩

/-- **A join of a device with a plain name and plain values is quoted well.** -/
theorem PlainJoin.wellQuoted {tempID : String} {kvs : List (String × Value)} (h : PlainJoin kvs)
    (hname : PlainName ⟨.join, tempID, .dict kvs⟩) : WellQuoted ⟨.join, tempID, .dict kvs⟩ := by
  intro kvs' d hkvs hd
  obtain rfl := Value.dict.inj hkvs
  have hplain := hname kvs d rfl hd
  refine ⟨hplain, fun flag => ⟨fun fs hfs f hf => ?_, fun ns hns f hf => ?_⟩⟩
  · exact (h.devices (plain_newID hplain flag) hfs f hf).whole
  · exact (h.neighborRows (plain_newID hplain flag) hns f hf).whole

/-- The values of a registration are stored as they are meant. -/
def PlainRegister (kvs : List (String × Value)) : Prop :=
  ∀ items, (field kvs "registerList").iter = .ok items → ∀ raw ∈ items, ∀ item,
    readItem raw = .ok item → PlainValue item.hash ∧ PlainValue item.registerType ∧
      PlainValue item.category ∧ ∀ v ∈ item.attributes, PlainValue v

instance (kvs : List (String × Value)) : Decidable (PlainRegister kvs) :=
  inferInstanceAs (Decidable (∀ items, (field kvs "registerList").iter = .ok items →
    ∀ raw ∈ items, ∀ item, readItem raw = .ok item →
      PlainValue item.hash ∧ PlainValue item.registerType ∧ PlainValue item.category ∧
        ∀ v ∈ item.attributes, PlainValue v))

theorem plain_attrFields {vs : List Value} (h : ∀ v ∈ vs, PlainValue v) (i : Nat) :
    PlainRow (attrFields i vs) := by
  induction vs generalizing i with
  | nil => exact fun c hc => absurd hc (by simp [attrFields])
  | cons v vs ih =>
    obtain ⟨hv, hvs⟩ := List.forall_mem_cons.mp h
    exact List.forall_mem_cons.mpr ⟨hv, ih hvs (i + 1)⟩

/-- The row of an item with plain values is plain. -/
theorem PlainRegister.row {kvs : List (String × Value)} {d hash_val : String} {items : List Value}
    {raw : Value} {item : Item} (h : PlainRegister kvs) (hd : Plain d)
    (hitems : (field kvs "registerList").iter = .ok items) (hraw : raw ∈ items)
    (hread : readItem raw = .ok item) (hhash : item.hash = .str hash_val) (flag : Nat) :
    PlainRow (registerFields d (newID flag hash_val) item item.attributes) := by
  obtain ⟨hplain, htype, hcategory, hattributes⟩ := h items hitems raw hraw item hread
  have hid : PlainValue (.str (newID flag hash_val)) := by
    rw [hhash] at hplain
    exact plain_newID hplain flag
  refine List.forall_mem_append.mpr ⟨?_, plain_attrFields hattributes 0⟩
  simp only [List.forall_mem_cons]
  exact ⟨hd, hid, hplain, htype, hcategory, by simp⟩

/-- **A registration of a device with a plain name and plain values is quoted well.** -/
theorem PlainRegister.wellQuoted {tempID : String} {kvs : List (String × Value)}
    (h : PlainRegister kvs) (hname : PlainName ⟨.register, tempID, .dict kvs⟩) :
    WellQuoted ⟨.register, tempID, .dict kvs⟩ := by
  intro kvs' d hkvs hd
  obtain rfl := Value.dict.inj hkvs
  intro items hitems raw hraw item hash_val flag hread hhash
  exact (h.row (hname kvs d rfl hd) hitems hraw hread hhash flag).whole

/-- A request of plain texts: the name of its device, and the values it stores. -/
structure PlainRequest (r : Request) : Prop where
  named : PlainName r
  values : ∀ kvs, r.payload = .dict kvs →
    match r.op with
    | .join => PlainJoin kvs
    | .register => PlainRegister kvs
    | _ => True

theorem PlainJoin.request {tempID : String} {kvs : List (String × Value)} (h : PlainJoin kvs)
    (hname : PlainName ⟨.join, tempID, .dict kvs⟩) : PlainRequest ⟨.join, tempID, .dict kvs⟩ := by
  refine ⟨hname, fun kvs' hkvs => ?_⟩
  obtain rfl := Value.dict.inj hkvs
  exact h

theorem PlainRegister.request {tempID : String} {kvs : List (String × Value)}
    (h : PlainRegister kvs) (hname : PlainName ⟨.register, tempID, .dict kvs⟩) :
    PlainRequest ⟨.register, tempID, .dict kvs⟩ := by
  refine ⟨hname, fun kvs' hkvs => ?_⟩
  obtain rfl := Value.dict.inj hkvs
  exact h

instance decidableStr {v : Value} {p : String → Prop} [DecidablePred p] :
    Decidable (∀ s, v = .str s → p s) :=
  match v with
  | .str s => decidable_of_iff (p s) ⟨fun h _ heq => Value.str.inj heq ▸ h, fun h => h s rfl⟩
  | .none | .bool _ | .int _ | .float _ _ | .list _ | .dict _ => .isTrue fun _ heq => nomatch heq

theorem plainName_dict {op : Op} {tempID : String} {kvs : List (String × Value)} :
    PlainName ⟨op, tempID, .dict kvs⟩ ↔
      ∀ v, deviceOf tempID (field kvs "relay") = .ok v → ∀ d, v = .str d → Plain d := by
  refine ⟨?_, ?_⟩
  · intro h v hv d hd
    exact h kvs d rfl (by rw [hv, hd])
  · intro h kvs' d hkvs hd
    obtain rfl := Value.dict.inj hkvs
    exact h _ hd d rfl

instance (op : Op) (tempID : String) (kvs : List (String × Value)) :
    Decidable (PlainName ⟨op, tempID, .dict kvs⟩) := decidable_of_iff _ plainName_dict.symm

end Versatile.FlexIDMngerDb
