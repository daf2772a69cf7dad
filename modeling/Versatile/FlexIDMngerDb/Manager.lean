import Versatile.Lib.Search
import Versatile.Lib.Run
import Versatile.FlexIDMngerDb.DbProc

/-!
# `flexIDMnger_db.py`: the manager with a local database

The handlers, as the code computes them. A handler works on the two globals that outlive a
request, `deviceID_cache` and the database connection, and ends with the message it
publishes; `answer` is the `try` block around it, which publishes that message, or the
failure message if anything in the block raised. Writes made before the exception stay.

`limit` is how many more levels of recursion the interpreter has room for. Beyond it the
frames of the database call no longer fit: `join_genID` and `register_genID` raise a
`RecursionError` there, the first of them with its candidate already in the cache.
-/

namespace Versatile.FlexIDMngerDb

open Py

/-- The globals of the process. -/
structure Store where
  deviceID_cache : Dict String Value
  db : Database

/-- The globals, and what was published so far. -/
structure Manager where
  store : Store
  published : List Message

/-! ## Access to the globals -/

/-- Work on the database connection. -/
def database {α : Type} (x : Proc Exc Database α) : Proc Exc Store α :=
  x.zoom Store.db fun db s => { s with db }

/-- `k in deviceID_cache`. -/
def isCached (k : String) : Proc Exc Store Bool := do
  return (← Proc.read).deviceID_cache.has k

/-- `deviceID_cache[k] = v`. -/
def cacheSet (k : String) (v : Value) : Proc Exc Store Unit :=
  Proc.modify fun s => { s with deviceID_cache := s.deviceID_cache.set k v }

/-- `del deviceID_cache[k]`. -/
def cacheDel (k : String) : Proc Exc Store Unit := do
  if ← isCached k then
    Proc.modify fun s => { s with deviceID_cache := s.deviceID_cache.erase k }
  else Proc.raise .keyError

/-- `send_DBquery(query, topic, wait)`. -/
def send_DBquery (srv : Server) (query : DbQuery) (topic : DbTopic) : Proc Exc Store Value :=
  database (db_proc srv topic query)

/-- `try: publish(body) except Exception: publish(failure)`. -/
def answer (body : Proc Exc Store Message) (failure : Message) : Proc Exc Manager Unit := fun m =>
  match body m.store with
  | (.ok msg, s) => (.ok (), ⟨s, m.published ++ [msg]⟩)
  | (.error _, s) => (.ok (), ⟨s, m.published ++ [failure]⟩)

/-! ## Joining -/

/-- The layout of an identifier: the flag in front of the base. -/
def newID (flag : Nat) (base : String) : String := toString flag ++ base

/-- `while newID in deviceID_cache: flag = flag + collision_inc`. A cache has fewer keys
than the loop has rounds here, so it ends by its own test. -/
def passCached (cache : Dict String Value) (base : String) (flag : Nat) : Nat :=
  Search.countUp (fun f => cache.has (newID f base)) collision_inc (cache.length + 1) flag

/-- `join_genID`. -/
def join_genID (srv : Server) : Nat → String → Nat → Proc Exc Store String
  | 0, deviceID, flag => do
      let flag := passCached (← Proc.read).deviceID_cache deviceID flag
      cacheSet (newID flag deviceID) (.str "None")
      Proc.raise .recursionError
  | limit + 1, deviceID, flag => do
      let flag := passCached (← Proc.read).deviceID_cache deviceID flag
      let id := newID flag deviceID
      cacheSet id (.str "None")
      let payload ← database (db_proc srv .select (deviceQuery (.str id)))
      let exist ← payload.get "data"
      cacheSet id (.bool true)
      if ¬ exist.truthy then return id
      else join_genID srv limit deviceID (flag + collision_inc)

/-- `info_list`: one entry for each interface. -/
def infoList (payload relay : Value) (deviceID : String) : Except Exc (List Fields) := do
  let pubKey ← payload.get "pubKey"
  let uniqueCodes ← payload.get "uniqueCodes"
  let uniqueCodes ← uniqueCodes.iter
  uniqueCodes.mapM (deviceFields deviceID relay pubKey)

/-- `neighbor_list`: one entry for each neighbor. Missing neighbors are the string `"NULL"`,
which the loop runs over like a list. -/
def neighborList (payload : Value) (deviceID : String) : Except Exc (List Fields) := do
  let neighbors ← payload.get "neighbors"
  let neighbors := orNULL neighbors
  let neighbors ← neighbors.iter
  neighbors.mapM (neighborFields deviceID)

/-- The rest of `join`, with the identifier it generated: two insertions, each with a commit
of its own, and the answer. -/
def joinRows (srv : Server) (tempID : String) (payload relay : Value) (deviceID : String) :
    Proc Exc Store Message := do
  let info_list ← infoList payload relay deviceID
  let db_payload ← database (db_proc srv .insert (.onTable .Device info_list))
  checkError db_payload "Join DB error"
  let neighbor_list ← neighborList payload deviceID
  let db_payload ← database (db_proc srv .insert (.onTable .Neighbor neighbor_list))
  checkError db_payload "Join DB error"
  return ⟨"/configuration/join_ack/" ++ tempID,
    .dict [("error:", .int 0), ("id", .str deviceID), ("relay", relay)]⟩

/-- The `try` block of `join`. -/
def joinBody (srv : Server) (limit : Nat) (tempID : String) (payload relay : Value) :
    Proc Exc Store Message := do
  let deviceID ← deviceOf tempID relay
  let deviceID ← deviceID.asStr
  let deviceID ← join_genID srv limit deviceID 0
  joinRows srv tempID payload relay deviceID

/-- `join`. -/
def join (srv : Server) (limit : Nat) (tempID : String) (payload : Value) :
    Proc Exc Manager Unit := do
  let relay ← payload.get "relay"
  answer (joinBody srv limit tempID payload relay)
    ⟨"/configuration/join_ack/" ++ tempID,
      .dict [("error:", .int 1), ("deviceID", .str tempID), ("relay", relay)]⟩

/-! ## Leaving -/

/-- The `try` block of `leave`. -/
def leaveBody (srv : Server) (tempID : String) (relay : Value) : Proc Exc Store Message := do
  let deviceID ← deviceOf tempID relay
  let deviceID ← deviceID.asStr
  let db_payload ← send_DBquery srv (deviceQuery (.str deviceID)) .delete
  checkError db_payload "Leave DB error"
  cacheDel deviceID
  return ⟨"/configuration/leave_ack/" ++ tempID, .dict [("error:", .int 0), ("relay", relay)]⟩

/-- `leave`. -/
def leave (srv : Server) (tempID : String) (payload : Value) : Proc Exc Manager Unit := do
  let relay ← payload.get "relay"
  answer (leaveBody srv tempID relay)
    ⟨"/configuration/leave_ack/" ++ tempID, .dict [("error:", .int 1), ("relay", relay)]⟩

/-! ## Registering -/

/-- The check that the device exists, at the start of `register`, `update` and `query`. -/
def checkDevice (srv : Server) (deviceID : String) : Proc Exc Store Unit := do
  if ← isCached deviceID then return ()
  else
    let db_payload ← send_DBquery srv (deviceQuery (.str deviceID)) .select
    let exist ← db_payload.get "data"
    if ¬ exist.truthy then Proc.raise (.raised "No Device Error")
    else cacheSet deviceID (.bool true)

/-- The head of `register`, `update` and `query`: the device that speaks, once it is known to
exist. -/
def speaker (srv : Server) (tempID : String) (relay : Value) : Proc Exc Store String := do
  let deviceID ← deviceOf tempID relay
  let deviceID ← deviceID.asStr
  checkDevice srv deviceID
  return deviceID

/-- `register_genID`. -/
def register_genID (srv : Server) : Nat → String → Nat → Proc Exc Store String
  | 0, _, _ => Proc.raise .recursionError
  | limit + 1, hash_val, flag => do
      let id := newID flag hash_val
      let payload ← send_DBquery srv (providingQuery (.str id)) .select
      let exist ← payload.get "data"
      if ¬ exist.truthy then return id
      else register_genID srv limit hash_val (flag + collision_inc)

/-- The identifier of one entry: searched for, or built from the flag as it is. -/
def itemID (srv : Server) (limit : Nat) (collisionAvoid : Value) (hash_val : String) (flag : Nat) :
    Proc Exc Store String :=
  if collisionAvoid.truthy then register_genID srv limit hash_val flag
  else pure (newID flag hash_val)

/-- One round of the loop over `registerList`: the entry of `idList` and the one of
`regList`. -/
def registerItem (srv : Server) (limit : Nat) (deviceID : String) (item : Value) :
    Proc Exc Store (Value × Fields) := do
  let item ← readItem item
  let flag ← gen_flag item.cache item.segment 0
  let hash_val ← item.hash.asStr
  let id ← itemID srv limit item.collisionAvoid hash_val flag
  let index ← item.index.asStr
  return (.dict [(index, .str id)], registerFields deviceID id item item.attributes)

/-- The loop over `registerList`. -/
def registerItems (srv : Server) (limit : Nat) (deviceID : String) :
    List Value → Proc Exc Store (List (Value × Fields))
  | [] => pure []
  | item :: items => do
      let entry ← registerItem srv limit deviceID item
      let entries ← registerItems srv limit deviceID items
      return entry :: entries

/-- The part of `register` before its insertion: its head, and the loop over `registerList`. -/
def registerEntries (srv : Server) (limit : Nat) (tempID : String) (payload relay : Value) :
    Proc Exc Store (List (Value × Fields)) := do
  let deviceID ← speaker srv tempID relay
  let registerList ← payload.get "registerList"
  let registerList ← registerList.iter
  registerItems srv limit deviceID registerList

/-- The `try` block of `register`. -/
def registerBody (srv : Server) (limit : Nat) (tempID : String) (payload relay registerID : Value) :
    Proc Exc Store Message := do
  let entries ← registerEntries srv limit tempID payload relay
  let db_payload ←
    send_DBquery srv (.onTable .RegisterList (entries.map Prod.snd)) .insert
  checkError db_payload "Register DB error"
  return ⟨"/configuration/register_ack/" ++ tempID,
    .dict [("error:", .int 0), ("registerID", registerID),
      ("idList", .list (entries.map Prod.fst)), ("relay", relay)]⟩

/-- `register`. -/
def register (srv : Server) (limit : Nat) (tempID : String) (payload : Value) :
    Proc Exc Manager Unit := do
  let relay ← payload.get "relay"
  let registerID ← payload.get "registerID"
  answer (registerBody srv limit tempID payload relay registerID)
    ⟨"/configuration/register_ack/" ++ tempID,
      .dict [("error", .int 1), ("registerID", registerID), ("relay", relay)]⟩

/-! ## Updating -/

/-- The `try` block of `update`. -/
def updateBody (srv : Server) (tempID : String) (payload relay updateID : Value) :
    Proc Exc Store Message := do
  let _ ← speaker srv tempID relay
  let providingID ← payload.get "id"
  let db_payload ← send_DBquery srv .empty .select
  let exist ← db_payload.get "data"
  if ¬ exist.truthy then Proc.raise (.raised "No Content/Service Error")
  let deregister ← payload.get "deregister"
  if deregister.truthy then
    let db_payload ← send_DBquery srv (providingQuery providingID) .delete
    checkError db_payload "Update DB error"
  else
    let attributes ← payload.get "attributes"
    let attributes ← attributes.iter
    let db_payload ← send_DBquery srv
      (.change .RegisterList [attrFields 0 attributes] [[("providingId", providingID)]]) .update
    checkError db_payload "Update DB error"
  return ⟨"/configuration/update_ack/" ++ tempID,
    .dict [("error:", .int 0), ("updateID", updateID), ("relay", relay)]⟩

/-- `update`. -/
def update (srv : Server) (tempID : String) (payload : Value) : Proc Exc Manager Unit := do
  let updateID ← payload.get "updateID"
  let relay ← payload.get "relay"
  answer (updateBody srv tempID payload relay updateID)
    ⟨"/configuration/update_ack/" ++ tempID,
      .dict [("error", .int 1), ("updateID", updateID), ("relay", relay)]⟩

/-! ## Querying -/

/-- One round of the loop over `requirements`, which reads four fields and drops them. -/
def readRequirement (req : Value) : Except Exc Unit := do
  let _ ← req.get "attributeType"
  let _ ← req.get "unit"
  let _ ← req.get "value"
  let _ ← req.get "operator"

/-- The `try` block of `query`. -/
def queryBody (srv : Server) (tempID : String) (payload relay queryID : Value) :
    Proc Exc Store Message := do
  let _ ← speaker srv tempID relay
  let queryType ← payload.get "queryType"
  let category ← payload.get "category"
  let desc ← payload.get "desc"
  let requirements ← payload.get "requirements"
  let requirementList ← requirements.iter
  (requirementList.forM readRequirement : Except Exc Unit)
  let _ ← queryType.asStr
  let db_payload ← database (db_proc srv .select (.onTable .RegisterList
    [[("queryType", queryType), ("category", category), ("requirements", requirements)]]))
  let ids ← db_payload.get "data"
  return ⟨"/utilization/reply/" ++ tempID,
    .dict [("error:", .int 0), ("queryID", queryID), ("desc", desc), ("ids", ids),
      ("relay", relay)]⟩

/-- `query`. -/
def query (srv : Server) (tempID : String) (payload : Value) : Proc Exc Manager Unit := do
  let queryID ← payload.get "queryID"
  let relay ← payload.get "relay"
  answer (queryBody srv tempID payload relay queryID)
    ⟨"/utilization/reply/" ++ tempID,
      .dict [("error", .int 1), ("queryID", queryID), ("relay", relay)]⟩

/-! ## The manager -/

/-- The handler of an operation. -/
def handle (srv : Server) (limit : Nat) (r : Request) : Proc Exc Manager Unit :=
  match r.op with
  | .join => join srv limit r.tempID r.payload
  | .leave => leave srv r.tempID r.payload
  | .register => register srv limit r.tempID r.payload
  | .update => update srv r.tempID r.payload
  | .query => query srv r.tempID r.payload

/-- `on_message`. `loads` decodes the bytes of a message as UTF-8 and then as JSON. -/
def on_message (srv : Server) (limit : Nat) (loads : List UInt8 → Except Exc Value)
    (topic : String) (bytes : List UInt8) : Proc Exc Manager Unit := do
  let payload ← loads bytes
  match ← route (splitTopic topic) with
  | some (op, deviceID) => handle srv limit ⟨op, deviceID, payload⟩
  | none => return ()

/-- One request handled: an exception that leaves the handler keeps the state it left. -/
def step (srv : Server) (limit : Nat) (m : Manager) (r : Request) : Manager :=
  (handle srv limit r m).2

/-- A process that was just started on a database: nothing cached, nothing pending. -/
def start (tables : List (Table × Tuple)) (executed : Nat) : Manager :=
  ⟨⟨[], ⟨⟨tables, []⟩, executed⟩⟩, []⟩

/-- The state after a run of requests. -/
def run (srv : Server) (limit : Nat) (m : Manager) (rs : List Request) : Manager :=
  rs.foldl (step srv limit) m

/-- The messages that handling a request adds. -/
def acks (srv : Server) (limit : Nat) (m : Manager) (r : Request) : List Message :=
  (step srv limit m r).published.drop m.published.length

end Versatile.FlexIDMngerDb
