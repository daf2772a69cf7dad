import Versatile.Py.Text
import Versatile.ResolverPer.Handlers

/-!
# `resolver.py`: the resolver over HTTP

The four handlers. The body of the request is decoded by `request.json`, which raises on what is
not JSON and is `None` where the request does not say it is JSON. A handler returns its answer;
where it raises, the client gets an answer of the web server instead.

`Request` answers with a text, which is that of the exception where it fails: how an exception
reads is left open.
-/

namespace Versatile.Resolver

open Py Diversity

/-- `request.json`. -/
abbrev Body := Except Exc Value

/-! ## Join -/

/-- `relay` as it is stored. -/
def relayText (relay : Value) : Except Exc String := do
  if relay.isNone then return "none"
  else
    let relay ← relay.toInt
    return toString relay

/-- A relay is stored as `none` or as a number. -/
theorem plain_relayText {v : Value} {relay : String} (h : relayText v = .ok relay) :
    Plain relay := by
  unfold relayText at h
  split at h
  · obtain rfl := Except.pure_eq_ok.mp h
    decide
  · obtain ⟨n, _, h⟩ := Except.bind_eq_ok.mp h
    obtain rfl := Except.pure_eq_ok.mp h
    exact plain_toString_int n

/-- The rows of a join. -/
def joinRows (body : Body) (deviceID : String) : Handler Unit := do
  let jsonDict ← body
  let relay ← jsonDict.get "relay"
  let relay ← relayText relay
  let uniqueCodes ← jsonDict.get "uniqueCodes"
  let uniqueCodes ← uniqueCodes.iter
  insertAll .Device (deviceRow "." deviceID relay) uniqueCodes

/-- The `try` block of `Join` once the ID is generated. -/
def joinBody (body : Body) (deviceID : String) : Handler Value := do
  joinRows body deviceID
  commit
  return joinAnswer 0 deviceID

/-- What the `except` branch raises where no ID is generated yet. -/
def unbound : Exc := .raised "local variable 'deviceID' referenced before assignment"

/-- `Join`. -/
def Join (body : Body) : Handler Value := do
  let deviceID ← Prog.tryExcept newDeviceID fun _ => Prog.raise unbound
  Prog.tryExcept (joinBody body deviceID) fun _ => pure (joinAnswer 1 deviceID)

/-! ## Update -/

/-- The cache digit and the segment digit of a service type that has them. -/
def serviceDigits : String → Option (String × String)
  | "Streaming" => some ("0", "0")
  | "Web" => some ("1", "0")
  | "Voice" => some ("1", "1")
  | "FileTransfer" => some ("0", "1")
  | "Game" => some ("0", "0")
  | "BestEffort" => some ("0", "0")
  | _ => none

/-- What `genServiceID` returns for a number. -/
def serviceIDOf (manageNum : Nat) : Value → Value
  | .str service => match serviceDigits service with
    | some (cache, segment) => .str (cache ++ ResolverPer.manageStr manageNum ++ segment)
    | none => .int 1
  | _ => .int 1

/-- `genServiceID`. -/
def genServiceID (service : Value) : Handler Value := do
  let manageNum ← nextManageNum
  return serviceIDOf manageNum service

/-- Insert one service: its ID goes in as `str(serviceID)`. -/
def insertService (deviceID : String) (serviceID serviceType attributes : Value) :
    Handler Unit := do
  let attributes ← attributes.items
  let serviceType ← serviceType.asStr
  execute (.insert .Service
    (ResolverPer.serviceRow serviceID.text deviceID serviceType attributes))

/-- One round of the loop over the services. -/
def updateService (deviceID : String) (attrCount : Nat) (service : Value) : Handler Unit := do
  let serviceType ← service.get "serviceType"
  let serviceID ← genServiceID serviceType
  let attributes ← service.get "attributes"
  let length ← attributes.len
  ResolverPer.addColumns (attrCount + 1) (length - attrCount)
  insertService deviceID serviceID serviceType attributes

/-- The loop over the services. -/
def updateServices (deviceID : String) (attrCount : Nat) : List Value → Handler Unit
  | [] => pure ()
  | service :: services => do
      updateService deviceID attrCount service
      updateServices deviceID attrCount services

/-- `Update` of a device that is registered, up to its commit. The number of attribute columns
is read once, before the loop. -/
def updateRows (jsonDict : Value) (deviceID : String) : Handler Unit := do
  let serviceList ← jsonDict.get "services"
  let columns ← columnCount
  let attrCount := columns - 4
  let services ← serviceList.iter
  updateServices deviceID attrCount services

/-- The `try` block of `Update`. -/
def updateBody (body : Body) : Handler Value := do
  connect
  let jsonDict ← body
  let deviceID ← ResolverPer.deviceIDOf jsonDict
  let exist ← Diversity.exist deviceID
  if exist = 0 then return answerOf 1
  else
    updateRows jsonDict deviceID
    commit
    return answerOf 0

/-- `Update`. -/
def Update (body : Body) : Handler Value :=
  Prog.tryExcept (updateBody body) fun _ => pure (answerOf 1)

/-! ## Leave -/

/-- The deletions of a leave. Neighbors are not deleted. -/
def leaveRows (body : Body) : Handler Unit := do
  let jsonDict ← body
  let deviceID ← ResolverPer.deviceIDOf jsonDict
  connect
  execute (.delete .Device deviceID)
  execute (.delete .Service deviceID)

/-- The `try` block of `Leave`. -/
def leaveBody (body : Body) : Handler Value := do
  leaveRows body
  commit
  return answerOf 0

/-- `Leave`. -/
def Leave (body : Body) : Handler Value :=
  Prog.tryExcept (leaveBody body) fun _ => pure (answerOf 1)

/-! ## Request -/

/-- The number after the maximum of `requestID`, which is compared as a text. -/
def newRequestID : Handler String := do
  let maxID ← maxOfTexts .Request "requestID"
  match maxID with
  | some maxID => do
      let maxID ← (Value.str maxID).toInt
      return toString (maxID + 1)
  | none => return "1"

/-- The rows of a request. What else it reads of the body is not used. -/
def requestRows (body : Body) : Handler Unit := do
  connect
  let requestID ← newRequestID
  let serviceID ← ResolverPer.anyService
  let jsonDict ← body
  let deviceID ← jsonDict.get "deviceID"
  let qosRequirements ← jsonDict.get "qosRequirements"
  let deviceID ← deviceID.asStr
  execute (.insert .Request
    [("requestID", requestID), ("deviceID", deviceID), ("serviceID", serviceID)])
  let qosRequirements ← qosRequirements.iter
  insertAll .QosRequirement (ResolverPer.requirementRow requestID) qosRequirements

/-- The `try` block of `Request`. -/
def requestBody (body : Body) : Handler Value := do
  requestRows body
  commit
  return .str "Good"

/-- `Request`, where `text` is what `str` makes of an exception. -/
def Request (text : Exc → String) (body : Body) : Handler Value :=
  Prog.tryExcept (requestBody body) fun e => pure (.str (text e))

/-! ## Answers -/

/-- Send what a handler returns. -/
def respond (handler : Handler Value) : Handler Value := do
  let answer ← handler
  emit "response" answer
  return answer

end Versatile.Resolver
