import Versatile.Lib.Search
import Versatile.Lib.Prog
import Versatile.Py.Text
import Versatile.Request

/-!
# `flexIDMnger.py`: the manager with a remote database

The handlers, as the code computes them, over the operations of `Act`: they share
`dbQuery_cache` with the thread of the database client, so what an operation on it gives
depends on that thread. A handler is therefore a tree of operations, which `Process` runs
alone, against a database that answers, and `Answers` step by step between the two threads.

Where the code prints the concatenation of a text and a value, a value that is no string
raises a `TypeError`; those values are read by `asStr`.

`limit` is how many more levels of recursion the interpreter has room for. Beyond it the
frames of `send_DBquery` no longer fit, and its entry of `dbQuery_cache` is left behind.
-/

namespace Versatile.FlexIDMnger

open Py

/-! ## Operations -/

/-- The operations of a handler. -/
inductive Act where
  /-- Read `deviceID_cache`. -/
  | cache
  /-- `deviceID_cache[k] = v`. -/
  | cacheSet (k : Key) (v : Value)
  /-- `del deviceID_cache[k]`. -/
  | cacheDel (k : Key)
  /-- `send_DBquery(query, topic, True)`: it returns when the answer is there. -/
  | send (query : DbQuery) (topic : DbTopic)
  /-- `send_DBquery` without room for the frames below it: `RecursionError` strikes behind
  `dbQuery_cache[queryID] = "None"`, and nobody learns the identifier. -/
  | strand
  /-- `dbQuery_cache[queryID]`. -/
  | reply (queryID : String)
  /-- `del dbQuery_cache[queryID]`. -/
  | drop (queryID : String)
  /-- `client.publish`. -/
  | publish (msg : Message)

/-- What an operation gives back. A key to delete or read may be missing. -/
abbrev Act.Res : Act → Type
  | cache => Dict Key Value
  | cacheSet _ _ => Unit
  | cacheDel _ => Bool
  | send _ _ => String
  | strand => Unit
  | reply _ => Option Value
  | drop _ => Bool
  | publish _ => Unit

/-- A program of a handler. -/
abbrev Handler (α : Type) := Prog Act Act.Res Exc α

/-- One operation. -/
def act {ε : Type} (o : Act) : Prog Act Act.Res ε o.Res := Prog.perform o

/-- `send_DBquery`. -/
def send_DBquery (query : DbQuery) (topic : DbTopic) : Handler String := act (.send query topic)

/-- `send_DBquery`, where its frames no longer fit. -/
def breakOff {α : Type} : Handler α := do
  let _ : Unit ← act .strand
  Prog.raise .recursionError

/-- `client.publish`. -/
def publish {ε : Type} (msg : Message) : Prog Act Act.Res ε Unit := act (.publish msg)

/-- `deviceID_cache`, as a whole. -/
def deviceCache : Handler (Dict Key Value) := act .cache

/-- `deviceID_cache[k] = v`. -/
def cacheSet (k : Key) (v : Value) : Handler Unit := act (.cacheSet k v)

/-- `dbQuery_cache[queryID]`. -/
def dbReply (queryID : String) : Handler Value := do
  let payload : Option Value ← act (.reply queryID)
  match payload with
  | some payload => return payload
  | none => Prog.raise .keyError

/-- `del dbQuery_cache[queryID]`. -/
def dbDrop (queryID : String) : Handler Unit := do
  let present : Bool ← act (.drop queryID)
  if present then return () else Prog.raise .keyError

/-- `v in deviceID_cache`. -/
def isCached (v : Value) : Handler Bool := do
  let k ← v.key
  return (← deviceCache).has k

/-- `deviceID_cache[v] = True`. -/
def cacheTrue (v : Value) : Handler Unit := do
  let k ← v.key
  cacheSet k (.bool true)

/-- `del deviceID_cache[deviceID]`. -/
def cacheDel (deviceID : String) : Handler Unit := do
  let present : Bool ← act (.cacheDel (.str deviceID))
  if present then return () else Prog.raise .keyError

/-! ## Questions to the database -/

/-- `queryID = send_DBquery(..)`, and `payload = dbQuery_cache[queryID]`. -/
def ask (query : DbQuery) (topic : DbTopic) : Handler (String × Value) := do
  let queryID ← send_DBquery query topic
  let payload ← dbReply queryID
  return (queryID, payload)

/-- A selection: the `data` of its answer, which is dropped. -/
def askData (query : DbQuery) : Handler Value := do
  let (queryID, payload) ← ask query .select
  let exist ← payload.get "data"
  dbDrop queryID
  return exist

/-- An insertion of `join`: the answer stays in `dbQuery_cache`. -/
def askInsert (query : DbQuery) (msg : String) : Handler Unit := do
  let (_, payload) ← ask query .insert
  checkError payload msg

/-- Any other statement: its answer is checked, and dropped. -/
def askError (query : DbQuery) (topic : DbTopic) (msg : String) : Handler Unit := do
  let (queryID, payload) ← ask query topic
  checkError payload msg
  dbDrop queryID

/-- `try: publish(body) except Exception: publish(failure)`. -/
def answer {ε : Type} (body : Prog Act Act.Res ε Message) (failure : ε → Message) : Handler Unit :=
  Prog.tryExcept (body >>= publish) fun e => publish (failure e)

/-! ## Joining -/

/-- The layout of an identifier: the flag behind the base. -/
def newID (flag : Nat) (base : String) : String := base ++ toString flag

/-- `while newID in deviceID_cache: flag = flag + collision_inc`. A cache has fewer keys
than the loop has rounds here, so it ends by its own test. -/
def passCached (cache : Dict Key Value) (base : String) (flag : Nat) : Nat :=
  Search.countUp (fun f => cache.has (.str (newID f base))) collision_inc (cache.length + 1) flag

/-- `join_genID`. -/
def join_genID : Nat → String → Nat → Handler String
  | 0, deviceID, flag => do
      let flag := passCached (← deviceCache) deviceID flag
      cacheSet (.str (newID flag deviceID)) (.str "None")
      breakOff
  | limit + 1, deviceID, flag => do
      let flag := passCached (← deviceCache) deviceID flag
      let id := newID flag deviceID
      cacheSet (.str id) (.str "None")
      let exist ← askData (deviceQuery (.str id))
      cacheTrue (.str id)
      if ¬ exist.truthy then return id
      else join_genID limit deviceID (flag + collision_inc)

/-- `print` of the columns of a row, which must be strings. -/
def printed (row : Fields) (columns : List String) : Except Exc Unit :=
  columns.forM fun column => do
    let _ ← (field row column).asStr

/-- One entry of `info_list`, printed. -/
def printedDevice (deviceID : String) (relay pubKey data : Value) : Except Exc Fields := do
  let row ← deviceFields deviceID relay pubKey data
  printed row ["ifaceType", "hwAddress", "ipv4", "wifiSSID"]
  return row

/-- One entry of `neighbor_list`, printed. -/
def printedNeighbor (deviceID : String) (neighbor : Value) : Except Exc Fields := do
  let row ← neighborFields deviceID neighbor
  printed row ["neighborIface", "neighborIpv4", "neighborHwAddress", "neighborId"]
  return row

/-- `info_list`: one entry for each interface. -/
def infoList (payload relay : Value) (deviceID : String) : Except Exc (List Fields) := do
  let pubKey ← payload.get "pubKey"
  let uniqueCodes ← payload.get "uniqueCodes"
  let uniqueCodes ← uniqueCodes.iter
  uniqueCodes.mapM (printedDevice deviceID relay pubKey)

/-- `neighbor_list`: one entry for each neighbor. -/
def neighborList (payload : Value) (deviceID : String) : Except Exc (List Fields) := do
  let neighbors ← payload.get "neighbors"
  let neighbors := orNULL neighbors
  let neighbors ← neighbors.iter
  neighbors.mapM (printedNeighbor deviceID)

/-- The rest of `join`, with the identifier it generated. -/
def joinRows (tempID : String) (payload relay : Value) (deviceID : String) : Handler Message := do
  let info_list ← infoList payload relay deviceID
  askInsert (.onTable .Device info_list) "Join DB error"
  let neighbor_list ← neighborList payload deviceID
  askInsert (.onTable .Neighbor neighbor_list) "Join DB error"
  return ⟨"/configuration/join_ack/" ++ tempID,
    .dict [("error:", .int 0), ("id", .str deviceID), ("relay", relay)]⟩

/-- The `try` block of `join`. -/
def joinBody (limit : Nat) (tempID : String) (payload relay : Value) : Handler Message := do
  let deviceID ← deviceOf tempID relay
  let deviceID ← deviceID.asStr
  let deviceID ← join_genID limit deviceID 0
  joinRows tempID payload relay deviceID

/-- `join`. -/
def join (limit : Nat) (tempID : String) (payload : Value) : Handler Unit := do
  let relay ← payload.get "relay"
  answer (joinBody limit tempID payload relay) fun _ =>
    ⟨"/configuration/join_ack/" ++ tempID,
      .dict [("error:", .int 1), ("deviceID", .str tempID), ("relay", relay)]⟩

/-! ## Leaving -/

/-- The `try` block of `leave`. -/
def leaveBody (tempID : String) (relay : Value) : Handler Message := do
  let deviceID ← deviceOf tempID relay
  let deviceID ← deviceID.asStr
  askError (deviceQuery (.str deviceID)) .delete "Leave DB error"
  cacheDel deviceID
  return ⟨"/configuration/leave_ack/" ++ tempID, .dict [("error:", .int 0), ("relay", relay)]⟩

/-- `leave`. -/
def leave (tempID : String) (payload : Value) : Handler Unit := do
  let relay ← payload.get "relay"
  answer (leaveBody tempID relay) fun _ =>
    ⟨"/configuration/leave_ack/" ++ tempID, .dict [("error:", .int 1), ("relay", relay)]⟩

/-! ## Registering -/

/-- The check that the device exists, once its selection was sent. -/
def deviceExists (deviceID : Value) (queryID : String) : Handler Unit := do
  let db_payload ← dbReply queryID
  let exist ← db_payload.get "data"
  dbDrop queryID
  if ¬ exist.truthy then Prog.raise (.raised "No Device Error")
  else cacheTrue deviceID

/-- The check that the device exists, at the start of `register` and `update`. -/
def checkDevice (deviceID : Value) : Handler Unit := do
  if ← isCached deviceID then return ()
  else
    let queryID ← send_DBquery (deviceQuery deviceID) .select
    deviceExists deviceID queryID

/-- The head of `register` and `update`: the device that speaks, once it is known to exist. -/
def speaker (tempID : String) (relay : Value) : Handler String := do
  let deviceID ← deviceOf tempID relay
  let deviceID ← deviceID.asStr
  checkDevice (.str deviceID)
  return deviceID

/-- `register_genID`. -/
def register_genID : Nat → String → Nat → Handler String
  | 0, _, _ => breakOff
  | limit + 1, hash_val, flag => do
      let id := newID flag hash_val
      let exist ← askData (providingQuery (.str id))
      if ¬ exist.truthy then return id
      else register_genID limit hash_val (flag + collision_inc)

/-- The identifier of one entry: searched for, or built from the flag as it is. -/
def itemID (limit : Nat) (collisionAvoid : Value) (hash_val : String) (flag : Nat) :
    Handler String :=
  if collisionAvoid.truthy then register_genID limit hash_val flag
  else pure (newID flag hash_val)

/-- One round of the loop over `registerList`, with the attributes read before it: the entry
of `idList`, the one of `regList`, and the attributes read so far. The entry takes as many
attributes as the item has, but from the front of all that were read. -/
def registerItem (limit : Nat) (deviceID : String) (attrList : List Value) (item : Value) :
    Handler (Value × Fields × List Value) := do
  let item ← readItem item
  let attrList := attrList ++ item.attributes
  let flag ← gen_flag item.cache item.segment 0
  let hash_val ← item.hash.asStr
  let id ← itemID limit item.collisionAvoid hash_val flag
  let index ← item.index.asStr
  return (.dict [(index, .str id)],
    registerFields deviceID id item (attrList.take item.attributes.length), attrList)

/-- The loop over `registerList`. -/
def registerItems (limit : Nat) (deviceID : String) :
    List Value → List Value → Handler (List (Value × Fields))
  | _, [] => pure []
  | attrList, item :: items => do
      let (idEntry, row, attrList) ← registerItem limit deviceID attrList item
      let entries ← registerItems limit deviceID attrList items
      return (idEntry, row) :: entries

/-- The `try` block of `register`. -/
def registerBody (limit : Nat) (tempID : String) (payload relay registerID : Value) :
    Handler Message := do
  let deviceID ← speaker tempID relay
  let registerList ← payload.get "registerList"
  let registerList ← registerList.iter
  let entries ← registerItems limit deviceID [] registerList
  askError (.onTable .RegisterList (entries.map Prod.snd)) .insert "Register DB error"
  return ⟨"/configuration/register_ack/" ++ tempID,
    .dict [("error:", .int 0), ("registerID", registerID),
      ("idList", .list (entries.map Prod.fst)), ("relay", relay)]⟩

/-- `register`. -/
def register (limit : Nat) (tempID : String) (payload : Value) : Handler Unit := do
  let relay ← payload.get "relay"
  let registerID ← payload.get "registerID"
  answer (registerBody limit tempID payload relay registerID) fun _ =>
    ⟨"/configuration/register_ack/" ++ tempID,
      .dict [("error", .int 1), ("registerID", registerID), ("relay", relay)]⟩

/-! ## Updating -/

/-- The change `update` asks for: a deletion, or new attributes. -/
def updateChange (payload providingID : Value) : Handler Unit := do
  let deregister ← payload.get "deregister"
  if deregister.truthy then
    askError (providingQuery providingID) .delete "Update DB error"
  else
    let attributes ← payload.get "attributes"
    let attributes ← attributes.iter
    askError (.change .RegisterList [attrFields 0 attributes] [[("providingId", providingID)]])
      .update "Update DB error"

/-- The rest of `update`, once the device is known to exist. -/
def updateRest (tempID : String) (payload relay updateID : Value) : Handler Message := do
  let providingID ← payload.get "id"
  let exist ← askData .empty
  if ¬ exist.truthy then Prog.raise (.raised "No Content/Service Error")
  else
    updateChange payload providingID
    return ⟨"/configuration/update_ack/" ++ tempID,
      .dict [("error:", .int 0), ("updateID", updateID), ("relay", relay)]⟩

/-- The `try` block of `update`. -/
def updateBody (tempID : String) (payload relay updateID : Value) : Handler Message := do
  let _ ← speaker tempID relay
  updateRest tempID payload relay updateID

/-- `update`. -/
def update (tempID : String) (payload : Value) : Handler Unit := do
  let updateID ← payload.get "updateID"
  let relay ← payload.get "relay"
  answer (updateBody tempID payload relay updateID) fun _ =>
    ⟨"/configuration/update_ack/" ++ tempID,
      .dict [("error", .int 1), ("updateID", updateID), ("relay", relay)]⟩

/-! ## Querying -/

/-- A part of `query`. Its exceptions carry the value that the local name `queryID` has while
it runs, which is the one the failure message reads. -/
abbrev QueryPart (α : Type) := Prog Act Act.Res (Exc × Value) α

/-- Run a part of `query` while `queryID` has a value. -/
def withID {α : Type} (queryID : Value) (part : Handler α) : QueryPart α :=
  Prog.tryExcept part fun e => Prog.raise (e, queryID)

/-- One round of the loop over `qosRequirements`, which reads four fields and drops them. -/
def readRequirement (req : Value) : Except Exc Unit := do
  let _ ← req.get "metricType"
  let _ ← req.get "metricUnit"
  let _ ← req.get "metricValue"
  let _ ← req.get "metricOperator"

/-- The loop over `qosRequirements`. -/
def readRequirements (qosRequirements : Value) : Except Exc Unit := do
  let requirements ← qosRequirements.iter
  requirements.forM readRequirement

/-- The device check of `query`. It returns the value that `queryID` has after it: the one
before, or the identifier of the selection for the device. -/
def queryCheck (deviceID queryID : Value) : QueryPart Value := do
  if ← withID queryID (isCached deviceID) then return queryID
  else
    let selectID ← withID queryID (send_DBquery (deviceQuery deviceID) .select)
    withID (.str selectID) (deviceExists deviceID selectID)
    return .str selectID

/-- The rest of `query`, with the value `queryID` has after the device check. -/
def queryRest (tempID : String) (payload relay deviceID queryID : Value) : QueryPart Message := do
  let desc ← withID queryID (payload.get "desc" : Except Exc Value)
  let qosRequirements ← withID queryID (payload.get "qosRequirements" : Except Exc Value)
  withID queryID (readRequirements qosRequirements : Except Exc Unit)
  let selectID ← withID queryID (send_DBquery (deviceQuery deviceID) .select)
  withID (.str selectID) do
    let db_payload ← dbReply selectID
    let _ ← db_payload.get "data"
    dbDrop selectID
  return ⟨"/utilization/reply/" ++ tempID,
    .dict [("error:", .int 0), ("queryID", .str selectID), ("desc", desc),
      ("ids", .list [.str "TempId1", .str "TempId2"]), ("relay", relay)]⟩

/-- The `try` block of `query`. -/
def queryBody (tempID : String) (payload relay queryID : Value) : QueryPart Message := do
  let deviceID ← withID queryID (deviceOf tempID relay : Except Exc Value)
  let queryID ← queryCheck deviceID queryID
  queryRest tempID payload relay deviceID queryID

/-- `query`. -/
def query (tempID : String) (payload : Value) : Handler Unit := do
  let queryID ← payload.get "queryID"
  let relay ← payload.get "relay"
  answer (queryBody tempID payload relay queryID) fun failed =>
    ⟨"/utilization/reply/" ++ tempID,
      .dict [("error", .int 1), ("queryID", failed.2), ("relay", relay)]⟩

/-! ## The dispatcher -/

/-- The handler of an operation. -/
def handle (limit : Nat) (r : Request) : Handler Unit :=
  match r.op with
  | .join => join limit r.tempID r.payload
  | .leave => leave r.tempID r.payload
  | .register => register limit r.tempID r.payload
  | .update => update r.tempID r.payload
  | .query => query r.tempID r.payload

/-- `on_message`. `loads` decodes the bytes of a message as UTF-8 and then as JSON. -/
def on_message (limit : Nat) (loads : List UInt8 → Except Exc Value) (topic : String)
    (bytes : List UInt8) : Handler Unit := do
  let payload ← loads bytes
  match ← route (splitTopic topic) with
  | some (op, deviceID) => handle limit ⟨op, deviceID, payload⟩
  | none => return ()

end Versatile.FlexIDMnger
