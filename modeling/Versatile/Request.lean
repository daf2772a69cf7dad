import Versatile.Flag
import Versatile.Sql.Schema

/-!
# What the two managers share

The messages of the manager, the rows its handlers build from a payload, and the way the
topic of a request picks a handler. The code is the same in `flexIDMnger.py` and
`flexIDMnger_db.py`; what differs (the layout of an identifier, how the database is asked,
what is printed) stays with each manager.
-/

namespace Versatile

open Py

/-- A published message: its topic, and the value `json.dumps` made its payload from. -/
structure Message where
  topic : String
  payload : Value

/-- The operations the manager subscribes to. -/
inductive Op where
  | join
  | leave
  | register
  | update
  | query
  deriving DecidableEq, Repr

/-- The filter of an operation, without the `/#` at its end. -/
def Op.filter : Op → String
  | .join => "/configuration/join"
  | .leave => "/configuration/leave"
  | .register => "/configuration/register"
  | .update => "/configuration/update"
  | .query => "/utilization/query"

/-- The topic an operation is answered on, before the requester. -/
def Op.ackTopic : Op → String
  | .join => "/configuration/join_ack/"
  | .leave => "/configuration/leave_ack/"
  | .register => "/configuration/register_ack/"
  | .update => "/configuration/update_ack/"
  | .query => "/utilization/reply/"

/-- A request as a handler receives it. -/
structure Request where
  op : Op
  tempID : String
  payload : Value

/-! ## Queries to the database -/

/-- The four statements of the database interface. -/
inductive DbTopic where
  | insert
  | select
  | delete
  | update
  deriving DecidableEq, Repr

/-- The shapes of `db_query`. -/
inductive DbQuery where
  /-- `{}` -/
  | empty
  /-- `{'table': .., 'data': [..]}` -/
  | onTable (table : Table) (data : List Fields)
  /-- `{'table': .., 'sdata': [..], 'wdata': [..]}` -/
  | change (table : Table) (sdata wdata : List Fields)

/-- The query for the device with an identifier. -/
def deviceQuery (deviceID : Value) : DbQuery := .onTable .Device [[("deviceId", deviceID)]]

/-- The query for the registrations under an identifier. -/
def providingQuery (newID : Value) : DbQuery := .onTable .RegisterList [[("providingId", newID)]]

/-! ## Reading a payload -/

/-- A field of a request, `None` where it is missing. -/
def field (kvs : List (String × Value)) (k : String) : Value := (Dict.get kvs k).getD .none

theorem get_field (kvs : List (String × Value)) (k : String) :
    (Value.dict kvs).get k = .ok (field kvs k) := rfl

/-- `if error is not 0: raise Exception (msg)` on the answer of the database. -/
def checkError (db_payload : Value) (msg : String) : Except Exc Unit := do
  let db_error ← db_payload.get "error"
  if ¬ db_error.isZero then throw (.raised msg)

/-- The answer of a statement that was executed passes the check. -/
@[simp] theorem checkError_zero (msg : String) :
    checkError (.dict [("error", .int 0)]) msg = .ok () := rfl

/-- The device a request speaks for: the requester, or the last node of the relay. -/
def deviceOf (tempID : String) (relay : Value) : Except Exc Value :=
  if relay.isStr "none" then .ok (.str tempID) else relay.last

/-- A request names its device by a string, or it does not. -/
theorem deviceOf_cases (tempID : String) (relay : Value) :
    (∃ d, deviceOf tempID relay = .ok (.str d)) ∨
      ∀ d, deviceOf tempID relay ≠ .ok (.str d) := by
  by_cases h : ∃ d, deviceOf tempID relay = .ok (.str d)
  · exact Or.inl h
  · exact Or.inr fun d hd => h ⟨d, hd⟩

/-- `"NULL"` for a missing field. -/
def orNULL (v : Value) : Value := if v.isNone then .str "NULL" else v

/-- `"NULL"` for a field that is missing or `"none"`. -/
def orNone (v : Value) : Value := if v.isNone || v.isStr "none" then .str "NULL" else v

/-- The columns of one entry of `uniqueCodes`. -/
def interfaceFields (data : Value) : Except Exc Fields := do
  let ifaceType ← data.get "ifaceType"
  let hwAddress ← data.get "hwAddress"
  let ipv4 ← data.get "ipv4"
  let wifiSSID ← data.get "wifiSSID"
  let ifaceType := orNULL ifaceType
  -- the test of hwAddress assigns ifaceType
  let ifaceType := if hwAddress.isNone then .str "NULL" else ifaceType
  let ipv4 := orNULL ipv4
  let wifiSSID := orNULL wifiSSID
  return [("ifaceType", ifaceType), ("hwAddress", hwAddress), ("ipv4", ipv4),
    ("wifiSSID", wifiSSID)]

/-- One entry of `info_list`. -/
def deviceFields (deviceID : String) (relay pubKey data : Value) : Except Exc Fields := do
  let iface ← interfaceFields data
  return [("deviceId", .str deviceID), ("relay", relay), ("pubKey", pubKey)] ++ iface

/-- One entry of `neighbor_list`. -/
def neighborFields (deviceID : String) (neighbor : Value) : Except Exc Fields := do
  let neighborIface ← neighbor.get "neighborIface"
  let neighborIpv4 ← neighbor.get "neighborIpv4"
  let neighborHwAddress ← neighbor.get "neighborHwAddress"
  let neighborFlexID ← neighbor.get "neighborFlexID"
  let neighborIface := orNone neighborIface
  let neighborIpv4 := orNone neighborIpv4
  let neighborHwAddress := orNone neighborHwAddress
  if neighborFlexID.isNone || neighborFlexID.isStr "none" then
    throw (.raised "Neighbor FlexID error")
  return [("neighborIface", neighborIface), ("neighborIpv4", neighborIpv4),
    ("neighborHwAddress", neighborHwAddress), ("neighborId", neighborFlexID),
    ("deviceId", .str deviceID)]

/-- What an entry of `info_list` is made of. -/
theorem deviceFields_eq_ok {deviceID : String} {relay pubKey data : Value} {f : Fields}
    (h : deviceFields deviceID relay pubKey data = .ok f) :
    ∃ ifaceType hwAddress ipv4 wifiSSID, data.get "ifaceType" = .ok ifaceType ∧
      data.get "hwAddress" = .ok hwAddress ∧ data.get "ipv4" = .ok ipv4 ∧
      data.get "wifiSSID" = .ok wifiSSID ∧
      f = [("deviceId", .str deviceID), ("relay", relay), ("pubKey", pubKey),
        ("ifaceType", if hwAddress.isNone then .str "NULL" else orNULL ifaceType),
        ("hwAddress", hwAddress), ("ipv4", orNULL ipv4), ("wifiSSID", orNULL wifiSSID)] := by
  obtain ⟨iface, hiface, h⟩ := Except.bind_eq_ok.mp h
  obtain ⟨ifaceType, htype, hiface⟩ := Except.bind_eq_ok.mp hiface
  obtain ⟨hwAddress, hhw, hiface⟩ := Except.bind_eq_ok.mp hiface
  obtain ⟨ipv4, hipv4, hiface⟩ := Except.bind_eq_ok.mp hiface
  obtain ⟨wifiSSID, hssid, hiface⟩ := Except.bind_eq_ok.mp hiface
  obtain rfl := Except.pure_eq_ok.mp hiface
  exact ⟨ifaceType, hwAddress, ipv4, wifiSSID, htype, hhw, hipv4, hssid,
    (Except.pure_eq_ok.mp h).symm⟩

/-- What an entry of `neighbor_list` is made of. -/
theorem neighborFields_eq_ok {deviceID : String} {neighbor : Value} {f : Fields}
    (h : neighborFields deviceID neighbor = .ok f) :
    ∃ neighborIface neighborIpv4 neighborHwAddress neighborFlexID,
      neighbor.get "neighborIface" = .ok neighborIface ∧
      neighbor.get "neighborIpv4" = .ok neighborIpv4 ∧
      neighbor.get "neighborHwAddress" = .ok neighborHwAddress ∧
      neighbor.get "neighborFlexID" = .ok neighborFlexID ∧
      f = [("neighborIface", orNone neighborIface), ("neighborIpv4", orNone neighborIpv4),
        ("neighborHwAddress", orNone neighborHwAddress), ("neighborId", neighborFlexID),
        ("deviceId", .str deviceID)] := by
  obtain ⟨neighborIface, hiface, h⟩ := Except.bind_eq_ok.mp h
  obtain ⟨neighborIpv4, hipv4, h⟩ := Except.bind_eq_ok.mp h
  obtain ⟨neighborHwAddress, hhw, h⟩ := Except.bind_eq_ok.mp h
  obtain ⟨neighborFlexID, hflexID, h⟩ := Except.bind_eq_ok.mp h
  split at h
  · obtain ⟨_, habs, _⟩ := Except.bind_eq_ok.mp h
    cases habs
  · exact ⟨neighborIface, neighborIpv4, neighborHwAddress, neighborFlexID, hiface, hipv4, hhw,
      hflexID, (Except.pure_eq_ok.mp h).symm⟩

/-- One entry of `registerList`. -/
structure Item where
  index : Value
  registerType : Value
  category : Value
  cache : Value
  segment : Value
  collisionAvoid : Value
  attributes : List Value
  hash : Value

/-- Read one entry of `registerList`; `attributes` must be something to loop over. -/
def readItem (item : Value) : Except Exc Item := do
  let index ← item.get "index"
  let registerType ← item.get "registerType"
  let category ← item.get "category"
  let cache ← item.get "cache"
  let segment ← item.get "segment"
  let collisionAvoid ← item.get "collisionAvoid"
  let attributes ← item.get "attributes"
  let attributes ← attributes.iter
  let hash ← item.get "hash"
  return { index, registerType, category, cache, segment, collisionAvoid, attributes, hash }

/-- `attr1`, `attr2`, .. from position `i` on. -/
def attrFields : Nat → List Value → Fields
  | _, [] => []
  | i, a :: as => ("attr" ++ toString (i + 1), a) :: attrFields (i + 1) as

/-- One entry of `regList`, with the attributes the loop picked for it. -/
def registerFields (deviceID newID : String) (item : Item) (attrs : List Value) : Fields :=
  [("deviceId", .str deviceID), ("providingId", .str newID), ("hash", item.hash),
    ("registerType", item.registerType), ("category", item.category)] ++ attrFields 0 attrs

/-- The fields of a join with one interface and no neighbor. -/
def oneInterface : List (String × Value) :=
  [("relay", .str "none"), ("pubKey", .str "k"),
    ("uniqueCodes", .list [.dict [("ifaceType", .str "wifi"), ("hwAddress", .str "h")]]),
    ("neighbors", .list [])]

/-! ## The dispatcher -/

/-- `s.split('/')`. -/
def splitTopic (s : String) : List String := (s.toList.splitOn '/').map String.ofList

/-- `topic[i]`. -/
def level (topic : List String) (i : Nat) : Except Exc String :=
  match topic[i]? with
  | some s => .ok s
  | none => .error .indexError

/-- The handler `on_message` picks, and the requester it hands to it. Where the topic names
no operation a text is printed and nothing else happens. -/
def route (topic : List String) : Except Exc (Option (Op × String)) := do
  if (← level topic 1) = "configuration" then
    let name ← level topic 2
    if name = "join" then return some (.join, ← level topic 3)
    else if name = "leave" then return some (.leave, ← level topic 3)
    else if name = "register" then return some (.register, ← level topic 3)
    else if name = "update" then return some (.update, ← level topic 3)
    else return none
  else if (← level topic 1) = "utilization" then
    let name ← level topic 2
    if name = "query" then return some (.query, ← level topic 3)
    else return none
  else return none

/-- The topic matches the filter of an operation, which ends in `/#`: it starts with the
levels before it. -/
def Subscribed (op : Op) (topic : String) : Prop := splitTopic op.filter <+: splitTopic topic

/-- The requester a topic names: the level after the filter. -/
def requester (topic : String) : Option String := (splitTopic topic)[3]?

/-- **A topic that was subscribed to is routed to its handler**, unless it names no
requester. -/
theorem route_subscribed {op : Op} {topic : String} (h : Subscribed op topic) :
    route (splitTopic topic) = match requester topic with
      | some deviceID => .ok (some (op, deviceID))
      | none => .error .indexError := by
  obtain ⟨rest, hrest⟩ := h
  rw [requester, ← hrest]
  cases op <;> rcases rest with _ | ⟨deviceID, rest⟩ <;> rfl

end Versatile
