import Versatile.Legible
import Versatile.FlexIDMnger.Interleavings
import Versatile.FlexIDMngerDb.Registered

/-!
# What `flexIDMnger.py` sends can be read

Its answers go to the devices, its queries to the database, both as JSON. What they are made of
comes from the request, from the identifiers the process draws, or from the code; nothing the
database answered goes out again. So in every interleaving, whatever the database answers and
whatever is lost, each answer and each query is read as the dictionary it was made as.
-/

namespace Versatile.FlexIDMnger

open Py Py.Json Relation

variable {float : String → String × Option Int} {m : Nat}

/-! ## Queries as JSON -/

/-- `db_query`, as the dictionary that is dumped. -/
def toDict : DbQuery → Value
  | .empty => .dict []
  | .onTable table data => .dict [("table", .str table.name), ("data", .list (data.map .dict))]
  | .change table sdata wdata => .dict [("table", .str table.name),
      ("sdata", .list (sdata.map .dict)), ("wdata", .list (wdata.map .dict))]

theorem rows_readable {data : List Fields} (h : ∀ row ∈ data, ReadableMembers float m row) :
    Readable float (m + 2) (.list (data.map .dict)) := by
  refine .list fun v hv => ?_
  obtain ⟨row, hrow, rfl⟩ := List.mem_map.mp hv
  exact (h row hrow).dict

/-- A query stands two levels above its rows. -/
theorem onTable_readable {table : Table} {data : List Fields}
    (h : ∀ row ∈ data, ReadableMembers float m row) :
    Readable float (m + 3) (toDict (.onTable table data)) :=
  (ReadableMembers.cons (by simp [Dict.keys]) (.str _ _)
    (.cons (by simp [Dict.keys]) (rows_readable h) (.nil _))).dict

theorem change_readable {table : Table} {sdata wdata : List Fields}
    (hs : ∀ row ∈ sdata, ReadableMembers float m row)
    (hw : ∀ row ∈ wdata, ReadableMembers float m row) :
    Readable float (m + 3) (toDict (.change table sdata wdata)) :=
  (ReadableMembers.cons (by simp [Dict.keys]) (.str _ _)
    (.cons (by simp [Dict.keys]) (rows_readable hs)
      (.cons (by simp [Dict.keys]) (rows_readable hw) (.nil _)))).dict

/-- A query by one column. -/
theorem lookup_readable {table : Table} {column : String} {v : Value} (h : Readable float m v) :
    Readable float (m + 3) (toDict (.onTable table [[(column, v)]])) := by
  refine onTable_readable fun row hrow => ?_
  obtain rfl := List.mem_singleton.mp hrow
  exact .cons (by simp [Dict.keys]) h (.nil m)

/-! ## The rows of a request -/

theorem printedDevice_readable {deviceID : String} {relay pubKey data : Value} {row : Fields}
    (hrelay : Readable float m relay) (hkey : Readable float m pubKey)
    (h : Readable float m data) (hrow : printedDevice deviceID relay pubKey data = .ok row) :
    ReadableMembers float m row := by
  obtain ⟨row', hfields, hrow⟩ := Except.bind_eq_ok.mp hrow
  obtain ⟨_, _, hrow⟩ := Except.bind_eq_ok.mp hrow
  obtain rfl := Except.pure_eq_ok.mp hrow
  obtain ⟨ifaceType, hwAddress, ipv4, wifiSSID, htype, hhw, hipv4, hssid, rfl⟩ :=
    deviceFields_eq_ok hfields
  have htype' : Readable float m (if hwAddress.isNone then .str "NULL" else orNULL ifaceType) := by
    split
    · exact .str m _
    · exact readable_orNULL (readable_get h htype)
  exact .cons (by simp [Dict.keys]) (.str m _) (.cons (by simp [Dict.keys]) hrelay
    (.cons (by simp [Dict.keys]) hkey (.cons (by simp [Dict.keys]) htype'
      (.cons (by simp [Dict.keys]) (readable_get h hhw)
        (.cons (by simp [Dict.keys]) (readable_orNULL (readable_get h hipv4))
          (.cons (by simp [Dict.keys]) (readable_orNULL (readable_get h hssid)) (.nil m)))))))

theorem printedNeighbor_readable {deviceID : String} {neighbor : Value} {row : Fields}
    (h : Readable float m neighbor) (hrow : printedNeighbor deviceID neighbor = .ok row) :
    ReadableMembers float m row := by
  obtain ⟨row', hfields, hrow⟩ := Except.bind_eq_ok.mp hrow
  obtain ⟨_, _, hrow⟩ := Except.bind_eq_ok.mp hrow
  obtain rfl := Except.pure_eq_ok.mp hrow
  obtain ⟨_, _, _, _, h1, h2, h3, h4, rfl⟩ := neighborFields_eq_ok hfields
  exact .cons (by simp [Dict.keys]) (readable_orNone (readable_get h h1))
    (.cons (by simp [Dict.keys]) (readable_orNone (readable_get h h2))
      (.cons (by simp [Dict.keys]) (readable_orNone (readable_get h h3))
        (.cons (by simp [Dict.keys]) (readable_get h h4)
          (.cons (by simp [Dict.keys]) (.str m _) (.nil m)))))

/-- The fields of a payload, which has one level more. -/
def ReadableFields (float : String → String × Option Int) (m : Nat) (payload : Value) : Prop :=
  ∀ {name : String} {v : Value}, payload.get name = .ok v → Readable float m v

theorem infoList_readable {payload relay : Value} {deviceID : String} {rows : List Fields}
    (h : ReadableFields float m payload) (hrelay : Readable float m relay)
    (hrows : infoList payload relay deviceID = .ok rows) :
    ∀ row ∈ rows, ReadableMembers float m row := by
  obtain ⟨pubKey, h1, hrows⟩ := Except.bind_eq_ok.mp hrows
  obtain ⟨uniqueCodes, h2, hrows⟩ := Except.bind_eq_ok.mp hrows
  obtain ⟨codes, h3, hrows⟩ := Except.bind_eq_ok.mp hrows
  intro row hrow
  obtain ⟨data, hdata, hrow⟩ := Except.mem_mapM hrows hrow
  exact printedDevice_readable hrelay (h h1) (readable_iter (h h2) h3 data hdata) hrow

theorem neighborList_readable {payload : Value} {deviceID : String} {rows : List Fields}
    (h : ReadableFields float m payload) (hrows : neighborList payload deviceID = .ok rows) :
    ∀ row ∈ rows, ReadableMembers float m row := by
  obtain ⟨neighbors, h1, hrows⟩ := Except.bind_eq_ok.mp hrows
  obtain ⟨list, h2, hrows⟩ := Except.bind_eq_ok.mp hrows
  intro row hrow
  obtain ⟨neighbor, hneighbor, hrow⟩ := Except.mem_mapM hrows hrow
  exact printedNeighbor_readable
    (readable_iter (readable_orNULL (h h1)) h2 neighbor hneighbor) hrow

/-- The attribute columns have different names. -/
theorem attrFields_readable {as : List Value} (h : ∀ a ∈ as, Readable float m a) (i : Nat) :
    ReadableMembers float m (attrFields i as) := by
  refine ⟨?_, ?_⟩
  · rw [Dict.keys, FlexIDMngerDb.attrFields_names]
    refine List.nodup_range.map fun a b heq => ?_
    have hsame := FlexIDMngerDb.attrName_injective heq
    omega
  · induction as generalizing i with
    | nil => exact fun _ he => absurd he (by simp [attrFields])
    | cons a as ih =>
      intro e he
      rcases List.mem_cons.mp he with rfl | he
      · exact h a List.mem_cons_self
      · exact ih (fun b hb => h b (List.mem_cons_of_mem _ hb)) (i + 1) e he

/-- What is read of an item. -/
structure ReadableItem (float : String → String × Option Int) (m : Nat) (item : Item) : Prop where
  registerType : Readable float m item.registerType
  category : Readable float m item.category
  hash : Readable float m item.hash
  attributes : ∀ a ∈ item.attributes, Readable float m a

theorem readItem_readable {raw : Value} {item : Item} (h : Readable float m raw)
    (hitem : readItem raw = .ok item) : ReadableItem float m item := by
  obtain ⟨index, _, hitem⟩ := Except.bind_eq_ok.mp hitem
  obtain ⟨registerType, h1, hitem⟩ := Except.bind_eq_ok.mp hitem
  obtain ⟨category, h2, hitem⟩ := Except.bind_eq_ok.mp hitem
  obtain ⟨cache, _, hitem⟩ := Except.bind_eq_ok.mp hitem
  obtain ⟨segment, _, hitem⟩ := Except.bind_eq_ok.mp hitem
  obtain ⟨collisionAvoid, _, hitem⟩ := Except.bind_eq_ok.mp hitem
  obtain ⟨attributes, h3, hitem⟩ := Except.bind_eq_ok.mp hitem
  obtain ⟨list, h4, hitem⟩ := Except.bind_eq_ok.mp hitem
  obtain ⟨hash, h5, hitem⟩ := Except.bind_eq_ok.mp hitem
  obtain rfl := Except.pure_eq_ok.mp hitem
  exact ⟨readable_get h h1, readable_get h h2, readable_get h h5,
    readable_iter (readable_get h h3) h4⟩

theorem registerFields_readable {item : Item} (h : ReadableItem float m item) (d id : String)
    {attrs : List Value} (hattrs : ∀ a ∈ attrs, Readable float m a) :
    ReadableMembers float m (registerFields d id item attrs) := by
  have hfront : ∀ col ∈ ["deviceId", "providingId", "hash", "registerType", "category"],
      col.toList.take 4 ≠ ['a', 't', 't', 'r'] := by decide
  have hnew : ∀ col ∈ ["deviceId", "providingId", "hash", "registerType", "category"],
      col ∉ Dict.keys (attrFields 0 attrs) := by
    intro col hcol hmem
    rw [Dict.keys, FlexIDMngerDb.attrFields_names] at hmem
    obtain ⟨i, _, heq⟩ := List.mem_map.mp hmem
    exact FlexIDMngerDb.attrName_ne (hfront col hcol) (0 + i) heq
  have hcons : ∀ (k : String) (v : Value) (d : Dict String Value),
      Dict.keys ((k, v) :: d) = k :: Dict.keys d := fun _ _ _ => rfl
  refine .cons ?_ (.str m d) (.cons ?_ (.str m id) (.cons ?_ h.hash (.cons ?_ h.registerType
    (.cons ?_ h.category (attrFields_readable hattrs 0)))))
  · simp [hcons, hnew "deviceId" (by simp)]
  · simp [hcons, hnew "providingId" (by simp)]
  · simp [hcons, hnew "hash" (by simp)]
  · simp [hcons, hnew "registerType" (by simp)]
  · exact hnew "category" (by simp)

/-! ## What a handler sends -/

/-- A query or an answer that can be read; any other operation sends nothing. -/
def Act.Sendable (float : String → String × Option Int) (m : Nat) : Act → Prop
  | send q _ => Readable float (m + 3) (toDict q)
  | publish msg => Readable float (m + 1) msg.payload
  | _ => True

theorem deviceQuery_readable {v : Value} (h : Readable float m v) :
    Readable float (m + 3) (toDict (deviceQuery v)) := lookup_readable h

section Sendable

variable {q : DbQuery} (hq : Readable float (m + 3) (toDict q))

theorem dbReply_sendable (id : String) : Prog.Only (Act.Sendable float m) (dbReply id) := by
  refine Prog.only_bind (Prog.only_perform trivial) fun payload => ?_
  cases payload <;> trivial

theorem dbDrop_sendable (id : String) : Prog.Only (Act.Sendable float m) (dbDrop id) := by
  refine Prog.only_bind (Prog.only_perform trivial) fun present => ?_
  cases present <;> trivial

include hq

theorem send_sendable (t : DbTopic) : Prog.Only (Act.Sendable float m) (send_DBquery q t) :=
  Prog.only_perform hq

theorem ask_sendable (t : DbTopic) : Prog.Only (Act.Sendable float m) (ask q t) :=
  Prog.only_bind (send_sendable hq t) fun id => Prog.only_bind (dbReply_sendable id) fun _ =>
    trivial

theorem askData_sendable : Prog.Only (Act.Sendable float m) (askData q) :=
  Prog.only_bind (ask_sendable hq _) fun _ => Prog.only_bind (Prog.only_lift _) fun _ =>
    Prog.only_bind (dbDrop_sendable _) fun _ => trivial

theorem askInsert_sendable (msg : String) : Prog.Only (Act.Sendable float m) (askInsert q msg) :=
  Prog.only_bind (ask_sendable hq _) fun _ => Prog.only_lift _

theorem askError_sendable (t : DbTopic) (msg : String) :
    Prog.Only (Act.Sendable float m) (askError q t msg) :=
  Prog.only_bind (ask_sendable hq t) fun _ => Prog.only_bind (Prog.only_lift _) fun _ =>
    dbDrop_sendable _

end Sendable

/-- A body whose queries can be read, and whose messages and failures can. -/
theorem answer_sendable {ε : Type} {body : Prog Act Act.Res ε Message} {failure : ε → Message}
    {E : ε → Prop} (hbody : Prog.Only (Act.Sendable float m) body)
    (hmsg : Prog.Yields (fun msg => Readable float (m + 1) msg.payload) body)
    (hraises : Prog.Raises E body) (hfail : ∀ e, E e → Readable float (m + 1) (failure e).payload) :
    Prog.Only (Act.Sendable float m) (answer body failure) := by
  refine Prog.only_tryExcept_raises (E := E) ?_ ?_ ?_
  · exact Prog.only_bind_yields hbody hmsg fun msg h => Prog.only_perform h
  · exact Prog.raises_bind hraises (Prog.yields_true body) fun _ _ _ => trivial
  · exact fun e he => Prog.only_perform (hfail e he)

/-! ## Joining and leaving -/

theorem join_genID_sendable (base : String) :
    ∀ limit flag : Nat, Prog.Only (Act.Sendable float m) (join_genID limit base flag)
  | 0, _ => Prog.only_bind (Prog.only_perform trivial) fun _ =>
      Prog.only_bind (Prog.only_perform trivial) fun _ => breakOff_only trivial
  | limit + 1, flag => by
      refine Prog.only_bind (Prog.only_perform trivial) fun cache => ?_
      refine Prog.only_bind (Prog.only_perform trivial) fun _ => ?_
      refine Prog.only_bind (askData_sendable (deviceQuery_readable (.str m _))) fun exist => ?_
      refine Prog.only_bind (Prog.only_bind (Prog.only_lift _) fun _ => Prog.only_perform trivial)
        fun _ => ?_
      split
      · trivial
      · exact join_genID_sendable base limit _

variable {payload relay : Value}

/-- The last member of every answer. -/
theorem relay_members (hrelay : Readable float m relay) :
    ReadableMembers float m [("relay", relay)] :=
  .cons (by simp [Dict.keys]) hrelay (.nil m)

theorem joinBody_sendable (h : ReadableFields float m payload) (hrelay : Readable float m relay)
    (limit : Nat) (tempID : String) :
    Prog.Only (Act.Sendable float m) (joinBody limit tempID payload relay) := by
  refine Prog.only_bind (Prog.only_lift _) fun _ => Prog.only_bind (Prog.only_lift _) fun base => ?_
  refine Prog.only_bind (join_genID_sendable base limit 0) fun d => ?_
  refine Prog.only_lift_bind fun rows hrows => ?_
  refine Prog.only_bind
    (askInsert_sendable (onTable_readable (infoList_readable h hrelay hrows)) _) fun _ => ?_
  refine Prog.only_lift_bind fun rows hrows => ?_
  exact Prog.only_bind (askInsert_sendable (onTable_readable (neighborList_readable h hrows)) _)
    fun _ => trivial

theorem leaveBody_sendable (tempID : String) (relay : Value) :
    Prog.Only (Act.Sendable float m) (leaveBody tempID relay) := by
  refine Prog.only_bind (Prog.only_lift _) fun _ => Prog.only_bind (Prog.only_lift _) fun d => ?_
  refine Prog.only_bind (askError_sendable (deviceQuery_readable (.str m d)) _ _) fun _ => ?_
  refine Prog.only_bind ?_ fun _ => trivial
  refine Prog.only_bind (Prog.only_perform trivial) fun present => ?_
  cases present <;> trivial

theorem joinBody_yields (hrelay : Readable float m relay) (payload : Value) (limit : Nat)
    (tempID : String) :
    Prog.Yields (fun msg => Readable float (m + 1) msg.payload)
      (joinBody limit tempID payload relay) := by
  refine Prog.yields_rest fun _ => Prog.yields_rest fun _ => Prog.yields_rest fun d => ?_
  refine Prog.yields_rest fun _ => Prog.yields_rest fun _ => Prog.yields_rest fun _ =>
    Prog.yields_rest fun _ => ?_
  exact (ReadableMembers.cons (by simp [Dict.keys]) (.int m 0)
    (.cons (by simp [Dict.keys]) (.str m d) (relay_members hrelay))).dict

theorem leaveBody_yields (hrelay : Readable float m relay) (tempID : String) :
    Prog.Yields (fun msg => Readable float (m + 1) msg.payload) (leaveBody tempID relay) := by
  refine Prog.yields_rest fun _ => Prog.yields_rest fun _ => Prog.yields_rest fun _ =>
    Prog.yields_rest fun _ => ?_
  exact (ReadableMembers.cons (by simp [Dict.keys]) (.int m 0) (relay_members hrelay)).dict

/-! ## Registering -/

theorem isCached_sendable (v : Value) : Prog.Only (Act.Sendable float m) (isCached v) :=
  Prog.only_bind (Prog.only_lift _) fun _ => Prog.only_bind (Prog.only_perform trivial) fun _ =>
    trivial

theorem deviceExists_sendable (v : Value) (id : String) :
    Prog.Only (Act.Sendable float m) (deviceExists v id) := by
  refine Prog.only_bind (dbReply_sendable id) fun payload => ?_
  refine Prog.only_bind (Prog.only_lift _) fun exist => ?_
  refine Prog.only_bind (dbDrop_sendable id) fun _ => ?_
  split
  · trivial
  · exact Prog.only_bind (Prog.only_lift _) fun _ => Prog.only_perform trivial

theorem speaker_sendable (tempID : String) (relay : Value) :
    Prog.Only (Act.Sendable float m) (speaker tempID relay) := by
  refine Prog.only_bind (Prog.only_lift _) fun _ => Prog.only_bind (Prog.only_lift _) fun d => ?_
  refine Prog.only_bind ?_ fun _ => trivial
  refine Prog.only_bind (isCached_sendable _) fun cached => ?_
  split
  · trivial
  · exact Prog.only_bind (send_sendable (deviceQuery_readable (.str m d)) _) fun id =>
      deviceExists_sendable _ id

theorem register_genID_sendable (hash_val : String) :
    ∀ limit flag : Nat, Prog.Only (Act.Sendable float m) (register_genID limit hash_val flag)
  | 0, _ => breakOff_only trivial
  | limit + 1, flag => by
      refine Prog.only_bind (askData_sendable (lookup_readable (.str m _))) fun exist => ?_
      split
      · trivial
      · exact register_genID_sendable hash_val limit _

theorem registerItems_sendable (limit : Nat) (d : String) : ∀ attrList items : List Value,
    Prog.Only (Act.Sendable float m) (registerItems limit d attrList items)
  | _, [] => trivial
  | attrList, item :: items => by
      refine Prog.only_bind ?_ fun r => Prog.only_bind (registerItems_sendable limit d r.2.2 items)
        fun _ => trivial
      refine Prog.only_bind (Prog.only_lift _) fun it => Prog.only_bind (Prog.only_lift _)
        fun flag => Prog.only_bind (Prog.only_lift _) fun hash_val => ?_
      refine Prog.only_bind ?_ fun id => Prog.only_bind (Prog.only_lift _) fun _ => trivial
      unfold itemID
      split
      · exact register_genID_sendable hash_val limit flag
      · trivial

/-- What one round of the loop hands on: the entry of `idList`, the row, the attributes so far. -/
theorem registerItem_yields {raw : Value} (hraw : Readable float m raw) {attrList : List Value}
    (hattrs : ∀ a ∈ attrList, Readable float m a) (limit : Nat) (d : String) :
    Prog.Yields (fun r => Readable float 1 r.1 ∧ ReadableMembers float m r.2.1 ∧
      ∀ a ∈ r.2.2, Readable float m a) (registerItem limit d attrList raw) := by
  refine Prog.yields_bind (Prog.yields_lift fun it hit => readItem_readable hraw hit)
    fun it hit => ?_
  refine Prog.yields_rest fun flag => Prog.yields_rest fun hash_val => Prog.yields_rest fun id =>
    Prog.yields_rest fun index => ?_
  have hall : ∀ a ∈ attrList ++ it.attributes, Readable float m a := by
    intro a ha
    rcases List.mem_append.mp ha with ha | ha
    · exact hattrs a ha
    · exact hit.attributes a ha
  exact ⟨(ReadableMembers.cons (by simp [Dict.keys]) (.str 0 id) (.nil 0)).dict,
    registerFields_readable hit d id fun a ha => hall a (List.mem_of_mem_take ha), hall⟩

/-- The loop, by induction on the items, with the attributes it carries along. -/
theorem registerItems_yields (limit : Nat) (d : String) {items : List Value}
    (hitems : ∀ raw ∈ items, Readable float m raw) : ∀ {attrList : List Value},
      (∀ a ∈ attrList, Readable float m a) →
      Prog.Yields (fun entries => ∀ e ∈ entries, Readable float 1 e.1 ∧
        ReadableMembers float m e.2) (registerItems limit d attrList items) := by
  induction items with
  | nil => exact fun _ e he => absurd he (by simp)
  | cons raw items ih =>
    intro attrList hattrs
    refine Prog.yields_bind
      (registerItem_yields (hitems raw List.mem_cons_self) hattrs limit d) fun r hr => ?_
    obtain ⟨idEntry, row, attrs⟩ := r
    obtain ⟨hentry, hrow, hrest⟩ := hr
    refine Prog.yields_bind (ih (fun x hx => hitems x (List.mem_cons_of_mem _ hx)) hrest)
      fun entries hentries => ?_
    intro e he
    rcases List.mem_cons.mp he with rfl | he
    · exact ⟨hentry, hrow⟩
    · exact hentries e he

theorem registerBody_sendable (h : ReadableFields float m payload) (limit : Nat) (tempID : String)
    (relay registerID : Value) :
    Prog.Only (Act.Sendable float m) (registerBody limit tempID payload relay registerID) := by
  refine Prog.only_bind (speaker_sendable tempID relay) fun d => ?_
  refine Prog.only_lift_bind fun list hlist => Prog.only_lift_bind fun items hitems => ?_
  have hraws := readable_iter (h hlist) hitems
  refine Prog.only_bind_yields (registerItems_sendable limit d [] items)
    (registerItems_yields limit d hraws (by simp)) fun entries hentries => ?_
  refine Prog.only_bind (askError_sendable (onTable_readable fun row hrow => ?_) _ _)
    fun _ => trivial
  obtain ⟨e, he, rfl⟩ := List.mem_map.mp hrow
  exact (hentries e he).2

theorem registerBody_yields (htwo : 2 ≤ m) {registerID : Value} (h : ReadableFields float m payload)
    (hrelay : Readable float m relay) (hid : Readable float m registerID) (limit : Nat)
    (tempID : String) :
    Prog.Yields (fun msg => Readable float (m + 1) msg.payload)
      (registerBody limit tempID payload relay registerID) := by
  refine Prog.yields_rest fun d => ?_
  refine Prog.yields_bind (Prog.yields_lift fun list hlist => h hlist)
    fun list hlist => ?_
  refine Prog.yields_bind (Prog.yields_lift fun items hitems => readable_iter hlist hitems)
    fun items hitems => ?_
  refine Prog.yields_bind (registerItems_yields limit d hitems (by simp))
    fun entries hentries => Prog.yields_rest fun _ => ?_
  have hidList : Readable float m (.list (entries.map Prod.fst)) := by
    refine Readable.mono (n := 2) (.list fun v hv => ?_) htwo
    obtain ⟨e, he, rfl⟩ := List.mem_map.mp hv
    exact (hentries e he).1
  exact (ReadableMembers.cons (by simp [Dict.keys]) (.int m 0)
    (.cons (by simp [Dict.keys]) hid
      (.cons (by simp [Dict.keys]) hidList (relay_members hrelay)))).dict

/-! ## Updating -/

theorem updateBody_sendable (h : ReadableFields float m payload) (tempID : String)
    (relay updateID : Value) :
    Prog.Only (Act.Sendable float m) (updateBody tempID payload relay updateID) := by
  refine Prog.only_bind (speaker_sendable tempID relay) fun _ => ?_
  refine Prog.only_lift_bind fun providingID hid => ?_
  refine Prog.only_bind (askData_sendable (ReadableMembers.nil (m + 2)).dict) fun exist => ?_
  split
  · trivial
  · refine Prog.only_bind (Prog.only_lift_bind fun deregister _ => ?_) fun _ => trivial
    split
    · exact askError_sendable (lookup_readable (h hid)) _ _
    · refine Prog.only_lift_bind fun list hlist => Prog.only_lift_bind fun as has => ?_
      refine askError_sendable (change_readable ?_ ?_) _ _
      · intro row hrow
        obtain rfl := List.mem_singleton.mp hrow
        exact attrFields_readable (readable_iter (h hlist) has) 0
      · intro row hrow
        obtain rfl := List.mem_singleton.mp hrow
        exact .cons (by simp [Dict.keys]) (h hid) (.nil m)

theorem updateBody_yields {updateID : Value} (hrelay : Readable float m relay)
    (hid : Readable float m updateID) (payload : Value) (tempID : String) :
    Prog.Yields (fun msg => Readable float (m + 1) msg.payload)
      (updateBody tempID payload relay updateID) := by
  refine Prog.yields_rest fun _ => Prog.yields_rest fun _ => Prog.yields_rest fun exist => ?_
  split
  · trivial
  · refine Prog.yields_rest fun _ => ?_
    exact (ReadableMembers.cons (by simp [Dict.keys]) (.int m 0)
      (.cons (by simp [Dict.keys]) hid (relay_members hrelay))).dict

/-! ## Querying -/

/-- The exceptions of `query` carry an identifier that can be read. -/
def CarriesReadable (float : String → String × Option Int) (m : Nat) (e : Exc × Value) : Prop :=
  Readable float m e.2

theorem withID_raises {α : Type} {own : Value} (h : Readable float m own) (part : Handler α) :
    Prog.Raises (CarriesReadable float m) (withID own part) :=
  Prog.raises_tryExcept fun _ => h

theorem withID_yields {α : Type} {A : α → Prop} {own : Value} {part : Handler α}
    (h : Prog.Yields A part) : Prog.Yields A (withID own part) :=
  Prog.yields_tryExcept h fun _ => trivial

theorem queryCheck_sendable {v : Value} (hv : Readable float m v) (own : Value) :
    Prog.Only (Act.Sendable float m) (queryCheck v own) := by
  refine Prog.only_bind (withID_only _ (isCached_sendable v)) fun cached => ?_
  split
  · trivial
  · refine Prog.only_bind (withID_only _ (send_sendable (deviceQuery_readable hv) _)) fun id => ?_
    exact Prog.only_bind (withID_only _ (deviceExists_sendable v id)) fun _ => trivial

theorem queryCheck_yields (v : Value) {own : Value} (h : Readable float m own) :
    Prog.Yields (Readable float m) (queryCheck v own) := by
  refine Prog.yields_rest fun cached => ?_
  split
  · exact h
  · exact Prog.yields_rest fun id => Prog.yields_rest fun _ => .str m id

theorem queryCheck_raises (v : Value) {own : Value} (h : Readable float m own) :
    Prog.Raises (CarriesReadable float m) (queryCheck v own) := by
  refine Prog.raises_bind (withID_raises h _) (Prog.yields_true _) fun cached _ => ?_
  split
  · trivial
  · refine Prog.raises_bind (withID_raises h _) (Prog.yields_true _) fun id _ => ?_
    exact Prog.raises_bind (withID_raises (.str m id) _) (Prog.yields_true _) fun _ _ => trivial

theorem queryBody_sendable (hrelay : Readable float m relay) (tempID : String)
    (payload own : Value) :
    Prog.Only (Act.Sendable float m) (queryBody tempID payload relay own) := by
  refine Prog.only_bind_yields (withID_only _ (Prog.only_lift _))
    (withID_yields (Prog.yields_lift fun v hv => readable_deviceOf hrelay hv)) fun v hv => ?_
  refine Prog.only_bind (queryCheck_sendable hv own) fun x => ?_
  refine Prog.only_bind (withID_only _ (Prog.only_lift _)) fun desc => ?_
  refine Prog.only_bind (withID_only _ (Prog.only_lift _)) fun qosRequirements => ?_
  refine Prog.only_bind (withID_only _ (Prog.only_lift _)) fun _ => ?_
  refine Prog.only_bind (withID_only _ (send_sendable (deviceQuery_readable hv) _)) fun id => ?_
  refine Prog.only_bind (withID_only _ ?_) fun _ => trivial
  exact Prog.only_bind (dbReply_sendable _) fun _ => Prog.only_bind (Prog.only_lift _) fun _ =>
    dbDrop_sendable _

theorem queryBody_yields (htwo : 2 ≤ m) (h : ReadableFields float m payload)
    (hrelay : Readable float m relay) (tempID : String) (own : Value) :
    Prog.Yields (fun msg => Readable float (m + 1) msg.payload)
      (queryBody tempID payload relay own) := by
  refine Prog.yields_rest fun v => Prog.yields_rest fun x => ?_
  refine Prog.yields_bind (withID_yields (Prog.yields_lift fun desc hdesc => h hdesc))
    fun desc hdesc => ?_
  refine Prog.yields_rest fun _ => Prog.yields_rest fun _ => Prog.yields_rest fun id =>
    Prog.yields_rest fun _ => ?_
  have hids : Readable float m (.list [.str "TempId1", .str "TempId2"]) := by
    refine Readable.mono (n := 1) (.list fun v hv => ?_) (by omega)
    rcases List.mem_cons.mp hv with rfl | hv
    · exact .str _ _
    · obtain rfl := List.mem_singleton.mp hv
      exact .str _ _
  exact (ReadableMembers.cons (by simp [Dict.keys]) (.int m 0)
    (.cons (by simp [Dict.keys]) (.str m id) (.cons (by simp [Dict.keys]) hdesc
      (.cons (by simp [Dict.keys]) hids (relay_members hrelay))))).dict

theorem queryBody_raises {own : Value} (hown : Readable float m own) (tempID : String)
    (payload relay : Value) :
    Prog.Raises (CarriesReadable float m) (queryBody tempID payload relay own) := by
  refine Prog.raises_bind (withID_raises hown _) (Prog.yields_true _) fun v _ => ?_
  refine Prog.raises_bind (queryCheck_raises v hown) (queryCheck_yields v hown) fun x hx => ?_
  refine Prog.raises_bind (withID_raises hx _) (Prog.yields_true _) fun _ _ => ?_
  refine Prog.raises_bind (withID_raises hx _) (Prog.yields_true _) fun _ _ => ?_
  refine Prog.raises_bind (withID_raises hx _) (Prog.yields_true _) fun _ _ => ?_
  refine Prog.raises_bind (withID_raises hx _) (Prog.yields_true _) fun id _ => ?_
  exact Prog.raises_bind (withID_raises (.str m id) _) (Prog.yields_true _) fun _ _ => trivial

/-! ## Every handler -/

/-- **Whatever a handler sends can be read**, where there was room for its request. -/
theorem handle_sendable {n : Nat} {r : Request} (h : Readable float n r.payload)
    (hm : n - 1 ≤ m) (htwo : 2 ≤ m) (limit : Nat) :
    Prog.Only (Act.Sendable float m) (handle limit r) := by
  obtain ⟨op, tempID, payload⟩ := r
  have hfields : ReadableFields float m payload := fun hget => (h.get hget).mono hm
  cases op with
  | join =>
    refine Prog.only_lift_bind fun relay hrelay => ?_
    refine answer_sendable (joinBody_sendable hfields (hfields hrelay) limit tempID)
      (joinBody_yields (hfields hrelay) payload limit tempID) (Prog.raises_true _) fun _ _ => ?_
    exact (ReadableMembers.cons (by simp [Dict.keys]) (.int m 1)
      (.cons (by simp [Dict.keys]) (.str m tempID) (relay_members (hfields hrelay)))).dict
  | leave =>
    refine Prog.only_lift_bind fun relay hrelay => ?_
    refine answer_sendable (leaveBody_sendable tempID relay)
      (leaveBody_yields (hfields hrelay) tempID) (Prog.raises_true _) fun _ _ => ?_
    exact (ReadableMembers.cons (by simp [Dict.keys]) (.int m 1)
      (relay_members (hfields hrelay))).dict
  | register =>
    refine Prog.only_lift_bind fun relay hrelay => Prog.only_lift_bind fun registerID hid => ?_
    refine answer_sendable (registerBody_sendable hfields limit tempID relay registerID)
      (registerBody_yields htwo hfields (hfields hrelay) (hfields hid) limit tempID)
      (Prog.raises_true _) fun _ _ => ?_
    exact (ReadableMembers.cons (by simp [Dict.keys]) (.int m 1)
      (.cons (by simp [Dict.keys]) (hfields hid)
        (relay_members (hfields hrelay)))).dict
  | update =>
    refine Prog.only_lift_bind fun updateID hid => Prog.only_lift_bind fun relay hrelay => ?_
    refine answer_sendable (updateBody_sendable hfields tempID relay updateID)
      (updateBody_yields (hfields hrelay) (hfields hid) payload tempID)
      (Prog.raises_true _) fun _ _ => ?_
    exact (ReadableMembers.cons (by simp [Dict.keys]) (.int m 1)
      (.cons (by simp [Dict.keys]) (hfields hid)
        (relay_members (hfields hrelay)))).dict
  | query =>
    refine Prog.only_lift_bind fun queryID hid => Prog.only_lift_bind fun relay hrelay => ?_
    refine answer_sendable (queryBody_sendable (hfields hrelay) tempID payload queryID)
      (queryBody_yields htwo hfields (hfields hrelay) tempID queryID)
      (queryBody_raises (hfields hid) tempID payload relay) fun failed hfailed => ?_
    exact (ReadableMembers.cons (by simp [Dict.keys]) (.int m 1)
      (.cons (by simp [Dict.keys]) hfailed (relay_members (hfields hrelay)))).dict

/-! ## Every interleaving -/

/-- What was sent can be read, and what the thread still has to send can. -/
structure Legibly (float : String → String × Option Int) (m : Nat) (sys : System) : Prop where
  published : ∀ msg ∈ sys.process.published, Readable float (m + 1) msg.payload
  asked : ∀ q ∈ sys.asked, Readable float (m + 3) (toDict q.query)
  program : Prog.Only (Act.Sendable float m) sys.thread.program

variable {sys sys' : System} {limit : Nat} {rs : List Request}

theorem legibly_start : Legibly float m System.start where
  published := fun _ hmem => absurd hmem (by simp [System.start, FlexIDMnger.start])
  asked := fun _ hmem => absurd hmem (by simp [System.start])
  program := trivial

/-- Moves of the messages leave what was sent and the program alone. -/
theorem Legibly.same (h : Legibly float m sys)
    (hpub : sys'.process.published = sys.process.published) (hasked : sys'.asked = sys.asked)
    (hprogram : sys'.thread.program = sys.thread.program) : Legibly float m sys' :=
  ⟨hpub ▸ h.published, hasked ▸ h.asked, hprogram ▸ h.program⟩

theorem legibly_move (h : Legibly float m sys) (hm : Move sys sys') : Legibly float m sys' := by
  have hprogram := h.program
  cases hm with
  | @operation o cont b process' hthread hop =>
    rw [hthread] at hprogram
    refine ⟨?_, h.asked, hprogram.2 b⟩
    cases o with
    | publish msg =>
      obtain ⟨_, rfl⟩ := Prod.mk.inj (Option.some.inj hop)
      intro msg' hmsg
      rcases List.mem_append.mp hmsg with hmsg | hmsg
      · exact h.published msg' hmsg
      · obtain rfl := List.mem_singleton.mp hmsg
        exact hprogram.1
    | _ =>
      have hsame := silent_published rfl hop
      show ∀ msg ∈ process'.published, _
      rw [hsame]
      exact h.published
  | draw hthread _ => exact h.same rfl rfl (by rw [hthread]; rfl)
  | reserve hthread => exact h.same rfl rfl (by rw [hthread]; rfl)
  | @publish q k' hthread =>
    rw [hthread] at hprogram
    refine ⟨h.published, ?_, hprogram⟩
    intro q' hq'
    rcases List.mem_append.mp hq' with hq' | hq'
    · exact h.asked q' hq'
    · obtain rfl := List.mem_singleton.mp hq'
      exact hprogram.1
  | @wake n q k' v hthread _ _ =>
    rw [hthread] at hprogram
    exact ⟨h.published, h.asked, hprogram.2 q.id⟩
  | respond _ _ _ => exact h.same rfl rfl rfl
  | loseQuery _ _ => exact h.same rfl rfl rfl
  | deliver _ _ => exact h.same rfl rfl rfl
  | loseAnswer _ _ => exact h.same rfl rfl rfl

theorem handles_legibly {n : Nat} (hm : n - 1 ≤ m) (htwo : 2 ≤ m)
    (hrs : ∀ r ∈ rs, Readable float n r.payload) (h : Handles limit rs sys) :
    Legibly float m sys := by
  induction h with
  | start => exact legibly_start
  | accept r _ _ ih =>
    have hlast := ih fun r' hr' => hrs r' (List.mem_append_left _ hr')
    exact ⟨hlast.published, hlast.asked,
      handle_sendable (hrs r (by simp)) hm htwo limit⟩
  | done _ _ ih => exact ⟨(ih hrs).published, (ih hrs).asked, trivial⟩
  | raised _ _ ih => exact ⟨(ih hrs).published, (ih hrs).asked, trivial⟩
  | move _ hmove ih => exact legibly_move (ih hrs) hmove

/--
**Whatever the manager sends can be read.**

In every interleaving of its threads with the broker and the database, for requests that were
received as JSON with some room: each answer is read as the dictionary it was made as, with that
room and at least three levels of it, and each query to the database with two levels more.
-/
theorem sent_legible (hfloat : ReprReads float) {n : Nat}
    (hrs : ∀ r ∈ rs, ∃ bytes, receive float n bytes = .ok r.payload)
    (h : Handles limit rs sys) {room : Nat} (hn : n ≤ room) (hthree : 3 ≤ room) :
    Legible float room sys.process.published ∧
      ∀ q ∈ sys.asked, receive float (room + 2) (send (toDict q.query)) = .ok (toDict q.query) := by
  have hread : ∀ r ∈ rs, Readable float n r.payload := by
    intro r hr
    obtain ⟨bytes, hbytes⟩ := hrs r hr
    exact receive_readable hfloat hbytes
  have hlegibly : Legibly float (room - 1) sys :=
    handles_legibly (by omega) (by omega) hread h
  refine ⟨?_, ?_⟩
  · exact fun msg hmsg => receive_send (hlegibly.published msg hmsg) (by omega)
  · exact fun q hq => receive_send (hlegibly.asked q hq) (by omega)

/-- An interleaving that has answered a query, from a device the database does not know. -/
theorem sent_legible_half :
    ∃ sys : System, sys.process.published.map (dumps ·.payload) =
        ["\x7b\"error\": 1, \"queryID\": \"0x00000000\", \"relay\": \"none\"\x7d"] ∧
      Legible half 3 sys.process.published ∧
        ∀ q ∈ sys.asked, receive half 5 (send (toDict q.query)) = .ok (toDict q.query) := by
  have hrun : ∃ t, run scripted 10
      (start [(0, .dict [("error", .int 0), ("data", .list [])])]) [⟨.query, "t", halfPayload⟩] =
        some t ∧ t.published.map (dumps ·.payload) =
          ["\x7b\"error\": 1, \"queryID\": \"0x00000000\", \"relay\": \"none\"\x7d"] :=
    ⟨_, rfl, rfl⟩
  obtain ⟨t, hrun, htexts⟩ := hrun
  obtain ⟨sys, hhandles, _, ht⟩ := handles_of_run _ hrun
  have hreceived : ∀ r ∈ [(⟨.query, "t", halfPayload⟩ : Request)],
      ∃ bytes, receive half 3 bytes = .ok r.payload := by
    intro r hr
    obtain rfl := List.mem_singleton.mp hr
    exact ⟨halfBytes, receive_half⟩
  refine ⟨sys, ?_, sent_legible half_reads hreceived hhandles (Nat.le_refl 3) (Nat.le_refl 3)⟩
  rw [← htexts, ← ht]
  rfl

end Versatile.FlexIDMnger
