import Versatile.Py.Json
import Versatile.Diversity.Handler

/-!
# `resolver_per.py`: the resolver over SocketIO

The four handlers, as the code computes them. Each decodes its message outside its `try`
block, works on a connection of its own, commits, and emits its answer; the `except` branch
emits the answer with error 1. `Update` returns early for a device that is not registered, and
what it returns then is not emitted.

A `print` of a concatenation raises a `TypeError` on what is no string; those values are read by
`asStr`. The session of the client is left out, and printing and emitting do not fail.
-/

namespace Versatile.ResolverPer

open Py Diversity

/-- What is left open about the interpreter: the floats of `json.loads`, and its stack. -/
structure Interpreter where
  float : String → String × Option Int
  limit : Nat

/-- An interpreter for messages without floats. -/
def Interpreter.plain : Interpreter := ⟨fun numeral => (numeral, none), 900⟩

/-- `json.loads(js)`. -/
def Interpreter.loads (py : Interpreter) (js : String) : Except Exc Value :=
  Json.loads py.float py.limit js

/-! ## Join -/

/-- `relay` as it is stored. -/
def relayText (relay : Value) : Except Exc String := do
  if relay.isNone || relay.isStr "none" then return "none"
  else
    let relay ← relay.toInt
    return toString relay

/-- The row of one neighbor. The test for `neighborIpv4` looks at `neighborIface`. -/
def neighborRow (deviceID : String) (neighbor : Value) : Except Exc Row := do
  let neighborIface ← neighbor.get "neighborIface"
  let neighborIpv4 ← neighbor.get "neighborIpv4"
  let neighborHwAddress ← neighbor.get "neighborHwAddress"
  let neighborIface :=
    if neighborIface.isNone || neighborIface.isStr "none" then .str "NULL" else neighborIface
  let neighborIpv4 :=
    if neighborIpv4.isNone || neighborIface.isStr "none" then .str "NULL" else neighborIpv4
  let neighborHwAddress :=
    if neighborHwAddress.isNone || neighborHwAddress.isStr "none" then .str "NULL"
    else neighborHwAddress
  let neighborIface ← neighborIface.asStr
  let neighborIpv4 ← neighborIpv4.asStr
  let neighborHwAddress ← neighborHwAddress.asStr
  return [("deviceID", deviceID), ("neighborIface", neighborIface),
    ("neighborIpv4", neighborIpv4), ("neighborHwAddress", neighborHwAddress)]

/-- The neighbors a message lists; missing ones are the string `"NULL"`, whose characters the
loop runs over. -/
def neighborsOf (content : Value) : Except Exc (List Value) := do
  let neighbors ← content.get "neighbors"
  let neighbors := if neighbors.isNone then .str "NULL" else neighbors
  neighbors.iter

/-- The interfaces a message lists. -/
def uniqueCodesOf (content : Value) : Except Exc (List Value) := do
  let uniqueCodes ← content.get "uniqueCodes"
  uniqueCodes.iter

/-- The rows of a join. -/
def joinRows (content : Value) (deviceID : String) : Handler Unit := do
  let relay ← content.get "relay"
  let relay ← relayText relay
  let neighbors ← neighborsOf content
  insertAll .Neighbor (neighborRow deviceID) neighbors
  let uniqueCodes ← uniqueCodesOf content
  insertAll .Device (deviceRow "NULL" deviceID relay) uniqueCodes

/-- The `try` block of `Join` once the ID is generated. -/
def joinBody (content : Value) (deviceID : String) : Handler Unit := do
  joinRows content deviceID
  commit
  emit "Jack" (joinAnswer 0 deviceID)

/-- Raise an exception with what `deviceID` is at that point. -/
def withID {α : Type} (deviceID : String) (part : Handler α) :
    Prog Act Act.Res (Exc × String) α :=
  Prog.tryExcept part fun e => Prog.raise (e, deviceID)

/-- The `try` block of `Join`: `deviceID` is `"-1"` until one is generated. -/
def joinTry (content : Value) : Prog Act Act.Res (Exc × String) Unit := do
  let deviceID ← withID "-1" newDeviceID
  withID deviceID (joinBody content deviceID)

/-- `Join`. -/
def Join (py : Interpreter) (js : String) : Handler Value := do
  let content ← py.loads js
  Prog.tryExcept (joinTry content) fun e => emit "Jack" (joinAnswer 1 e.2)
  return .none

/-! ## Update -/

/-- `"%04d" % manageNum`. -/
def manageStr (manageNum : Nat) : String :=
  let ds := Nat.toDigits 10 manageNum
  String.ofList (List.replicate (4 - ds.length) '0' ++ ds)

/-- The cache digit and the segment digit of a service type that has them. -/
def serviceDigits : String → Option (String × String)
  | "Streaming" => some ("0", "0")
  | "Web" => some ("1", "0")
  | "Voice" => some ("1", "1")
  | "FileTransfer" => some ("0", "1")
  | "Game" => some ("0", "0")
  | "BestEffort" => some ("0", "0")
  | "CPU" => some ("0", "0")
  | "Bandwidth" => some ("0", "0")
  | "Disk" => some ("1", "1")
  | "Temperature" => some ("0", "0")
  | _ => none

/-- What `genServiceID` returns for a number: the branch of `ImageTransfer` names a variable
that does not exist. -/
def serviceIDOf (manageNum : Nat) : Value → Except Exc Value
  | .str "ImageTransfer" => .error (.raised "global name 'manageSTr' is not defined")
  | .str service => match serviceDigits service with
    | some (cache, segment) => .ok (.str (cache ++ manageStr manageNum ++ segment))
    | none => .ok (.int 1)
  | _ => .ok (.int 1)

/-- `genServiceID`. -/
def genServiceID (service : Value) : Handler Value := do
  let manageNum ← nextManageNum
  serviceIDOf manageNum service

/-- Add attribute columns, from the `n`-th on. -/
def addColumns : Nat → Nat → Handler Unit
  | _, 0 => pure ()
  | n, count + 1 => do
      execute (.alter n)
      addColumns (n + 1) count

/-- The row of one service, its attributes in the columns from `attr1` on. -/
def serviceRow (serviceID deviceID serviceType : String) (attributes : List String) : Row :=
  [("serviceID", serviceID), ("deviceID", deviceID), ("serviceType", serviceType)] ++
    attributes.mapIdx fun i text => (attrName (i + 1), text)

/-- Print one service and insert it. -/
def insertService (deviceID : String) (serviceID serviceType attributes : Value) :
    Handler Unit := do
  let attributes ← attributes.items
  let serviceID ← serviceID.asStr
  let serviceType ← serviceType.asStr
  execute (.insert .Service (serviceRow serviceID deviceID serviceType attributes))

/-- One round of the loop over the services. -/
def updateService (deviceID : String) (attrCount : Nat) (service : Value) : Handler Unit := do
  let serviceType ← service.get "serviceType"
  let serviceID ← genServiceID serviceType
  let attributes ← service.get "attributes"
  let length ← attributes.len
  addColumns (attrCount + 1) (length - attrCount)
  insertService deviceID serviceID serviceType attributes

/-- The loop over the services. -/
def updateServices (deviceID : String) (attrCount : Nat) : List Value → Handler Unit
  | [] => pure ()
  | service :: services => do
      updateService deviceID attrCount service
      updateServices deviceID attrCount services

/-- The device a message names. -/
def deviceIDOf (content : Value) : Except Exc String := do
  let deviceID ← content.get "deviceID"
  let deviceID ← deviceID.toInt
  return toString deviceID

/-- `Update` of a device that is registered, up to its commit. The number of attribute columns
is read once, before the loop. -/
def updateRows (content : Value) (deviceID : String) : Handler Unit := do
  let serviceList ← content.get "services"
  let columns ← columnCount
  let attrCount := columns - 4
  let services ← serviceList.iter
  updateServices deviceID attrCount services

/-- The device of an update, and how many rows it has. -/
def findDevice (content : Value) : Handler (String × Nat) := do
  connect
  let deviceID ← deviceIDOf content
  let exist ← Diversity.exist deviceID
  return (deviceID, exist)

/-- The `try` block of `Update`: what it returns, if that is something. -/
def updateBody (content : Value) : Handler Value := do
  let (deviceID, exist) ← findDevice content
  if exist = 0 then return answerOf 1
  else
    updateRows content deviceID
    commit
    emit "Uack" (answerOf 0)
    return .none

/-- `Update`. -/
def Update (py : Interpreter) (js : String) : Handler Value := do
  let content ← py.loads js
  Prog.tryExcept (updateBody content) fun _ => do
    emit "Uack" (answerOf 1)
    return .none

/-! ## Leave -/

/-- The deletions of a leave. -/
def leaveRows (content : Value) : Handler Unit := do
  let deviceID ← deviceIDOf content
  connect
  execute (.delete .Device deviceID)
  execute (.delete .Service deviceID)
  execute (.delete .Neighbor deviceID)

/-- The `try` block of `Leave`. -/
def leaveBody (content : Value) : Handler Unit := do
  leaveRows content
  commit
  emit "Lack" (answerOf 0)

/-- `Leave`. -/
def Leave (py : Interpreter) (js : String) : Handler Value := do
  let content ← py.loads js
  Prog.tryExcept (leaveBody content) fun _ => emit "Lack" (answerOf 1)
  return .none

/-! ## Request -/

/-- The row of one requirement. -/
def requirementRow (requestID : String) (requirement : Value) : Except Exc Row := do
  let metricName ← requirement.get "metricName"
  let metricUnit ← requirement.get "metricUnit"
  let metricValue ← requirement.get "metricValue"
  let metricOperator ← requirement.get "metricOperator"
  let metricName ← metricName.asStr
  let metricUnit ← metricUnit.asStr
  let metricValue ← metricValue.asStr
  let metricOperator ← metricOperator.asStr
  return [("requestID", requestID), ("metricName", metricName), ("metricUnit", metricUnit),
    ("metricValue", metricValue), ("metricOperator", metricOperator)]

/-- The service a request is stored with: the largest ID there is. -/
def anyService : Handler String := do
  let serviceID ← maxOfTexts .Service "serviceID"
  match serviceID with
  | some serviceID => return serviceID
  | none => Prog.raise (.raised "Service is not Available")

/-- The device a request names, which is stored as it is. -/
def requesterOf (content : Value) : Except Exc String := do
  let deviceID ← content.get "deviceID"
  deviceID.asStr

/-- The rows of a request, and the type of service it asks for. -/
def requestRows (content : Value) : Handler String := do
  connect
  let maxID ← maxSigned .Request "requestID"
  let requestID := nextID maxID
  let serviceID ← anyService
  let deviceID ← requesterOf content
  let serviceType ← content.get "serviceType"
  let qosRequirements ← content.get "qosRequirements"
  let keywords ← content.get "keywords"
  let serviceType ← serviceType.asStr
  let _ ← keywords.asStr
  execute (.insert .Request
    [("requestID", requestID), ("deviceID", deviceID), ("serviceID", serviceID)])
  let qosRequirements ← qosRequirements.iter
  insertAll .QosRequirement (requirementRow requestID) qosRequirements
  return serviceType

/-- One entry of the test data. -/
def matchingEntry (nextDev nextInterface prevDev prevInterface deviceID serviceType : String) :
    Value :=
  .dict [("NextDev", .str nextDev), ("NextInterface", .str nextInterface),
    ("PrevDev", .str prevDev), ("PrevInterface", .str prevInterface), ("deviceID", .str deviceID),
    ("serviceType", .str serviceType)]

/-- The test data sent to all devices. -/
def matching (serviceType : String) : List Value :=
  if serviceType = "Streaming" then
    [matchingEntry "" "" "001" "WiFi" "002" "streaming",
      matchingEntry "002" "WiFi" "" "" "001" "streaming"]
  else
    [matchingEntry "" "" "002" "BT" "003" "ImageTransfer",
      matchingEntry "003" "BT" "001" "WiFi" "002" "ImageTransfer",
      matchingEntry "002" "WiFi" "" "" "001" "ImageTransfer"]

/-- `for result in matching: emit('MatchingRequest', result)`. -/
def sendMatching : List Value → Handler Unit
  | [] => pure ()
  | result :: results => do
      emit "MatchingRequest" result
      sendMatching results

/-- The `try` block of `Request`. -/
def requestBody (content : Value) : Handler Unit := do
  let serviceType ← requestRows content
  commit
  sendMatching (matching serviceType)
  emit "Rack" (answerOf 0)

/-- `Request`. -/
def Request (py : Interpreter) (js : String) : Handler Value := do
  let content ← py.loads js
  Prog.tryExcept (requestBody content) fun _ => emit "Rack" (answerOf 1)
  return .none

/-! ## Messages -/

/-- The messages of a client. -/
inductive Message where
  | Join
  | Update
  | Leave
  | Request
  deriving DecidableEq, Repr

/-- The event a message is answered with. -/
def Message.ack : Message → String
  | Join => "Jack"
  | Update => "Uack"
  | Leave => "Lack"
  | Request => "Rack"

/-- The handler of a message. -/
def handler (py : Interpreter) : Message → String → Handler Value
  | .Join => Join py
  | .Update => Update py
  | .Leave => Leave py
  | .Request => Request py

/-- Handle one message: how the handler ends, and the state it leaves, with what it showed. Its
connection is dropped with it. -/
def handle (srv : Server) (faults : Faults) (py : Interpreter) (m : Message) (js : String)
    (w : World) : Except Exc Value × State :=
  perform srv faults (handler py m js) ⟨w, [], []⟩

end Versatile.ResolverPer
