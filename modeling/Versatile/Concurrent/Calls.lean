import Versatile.Concurrent.Threads

/-!
# All handlers of a resolver at once

Any number of calls of one resolver run at the same time over one database, each on a connection
of its own, one operation at a time and in any order. What a call asks of the database is said
without its handler (`Asks`): the changes that its message stands for, given the numbers that the
server picked. The phase of a call collects the changes its handler has made and the attribute
columns it has seen; an answer of success is allowed only behind the commit of all that was asked.

The management number is counted in one step, as nothing here depends on it.
-/

namespace Versatile.Calls

open Py Diversity
open ResolverPer (Interpreter deviceIDOf requesterOf neighborsOf uniqueCodesOf serviceRow)

/-! ## Calls -/

/-- The handlers of `resolver.py`. -/
inductive Endpoint where
  | Join
  | Update
  | Leave
  | Request
  deriving DecidableEq, Repr

/-- What `str` makes of an exception: never the answer of a `Request` that was stored. -/
structure ExcText where
  text : Exc → String
  not_good : ∀ e, text e ≠ "Good"

/-- A resolver on its own: `resolver_per.py` over SocketIO, or `resolver.py` over HTTP. -/
inductive Process where
  | sockets (py : Interpreter)
  | http (exc : ExcText)

/-- A call of one of its handlers. -/
abbrev Process.Call : Process → Type
  | sockets _ => ResolverPer.Message × String
  | http _ => Endpoint × Resolver.Body

/-- The handler of an endpoint. -/
def handler (exc : ExcText) : Endpoint → Resolver.Body → Handler Value
  | .Join => Resolver.Join
  | .Update => Resolver.Update
  | .Leave => Resolver.Leave
  | .Request => Resolver.Request exc.text

/-- What a call runs. -/
def Process.program : (p : Process) → p.Call → Handler Value
  | sockets py, (m, js) => ResolverPer.handler py m js
  | http exc, (e, body) => Resolver.respond (handler exc e body)

/-! ## What a call asks for -/

/-- A row for each value. -/
def inserts (t : Table) (rowOf : Value → Except Exc Row) (vs : List Value) :
    Except Exc (List Change) := do
  let rows ← vs.mapM rowOf
  return rows.map (.insert t)

/-- The changes of a join at `resolver_per.py` under an ID. -/
def perJoinChanges (content : Value) (deviceID : String) : Except Exc (List Change) := do
  let relay ← content.get "relay"
  let relay ← ResolverPer.relayText relay
  let neighbors ← neighborsOf content
  let neighborRows ← inserts .Neighbor (ResolverPer.neighborRow deviceID) neighbors
  let uniqueCodes ← uniqueCodesOf content
  let deviceRows ← inserts .Device (deviceRow "NULL" deviceID relay) uniqueCodes
  return neighborRows ++ deviceRows

/-- The changes of a join at `resolver.py` under an ID: neighbors are not stored. -/
def joinChanges (content : Value) (deviceID : String) : Except Exc (List Change) := do
  let relay ← content.get "relay"
  let relay ← Resolver.relayText relay
  let uniqueCodes ← uniqueCodesOf content
  inserts .Device (deviceRow "." deviceID relay) uniqueCodes

/-- The insertion of a request. -/
def requestInsert (requestID deviceID serviceID : String) : Change :=
  .insert .Request [("requestID", requestID), ("deviceID", deviceID), ("serviceID", serviceID)]

/-- The changes of a request under an ID and for a service. -/
def requestChanges (content : Value) (requestID serviceID : String) :
    Except Exc (List Change) := do
  let deviceID ← requesterOf content
  let qosRequirements ← content.get "qosRequirements"
  let qosRequirements ← qosRequirements.iter
  let rows ← inserts .QosRequirement (ResolverPer.requirementRow requestID) qosRequirements
  return requestInsert requestID deviceID serviceID :: rows

/-- The change of one service of an update: its row under some management number. `idOf` says
which ID a type gets. -/
def StoresService (idOf : Nat → Value → String → Prop) (deviceID : String) (service : Value)
    (c : Change) : Prop :=
  ∃ manageNum serviceType serviceID attributes texts,
    service.get "serviceType" = .ok (.str serviceType) ∧
    idOf manageNum (.str serviceType) serviceID ∧ service.get "attributes" = .ok attributes ∧
    attributes.items = .ok texts ∧
    c = .insert .Service (serviceRow serviceID deviceID serviceType texts)

/-- The changes of an update: a row for each service, in their order. -/
def UpdateChanges (idOf : Nat → Value → String → Prop) (content : Value)
    (changes : List Change) : Prop :=
  ∃ deviceID serviceList services, deviceIDOf content = .ok deviceID ∧
    content.get "services" = .ok serviceList ∧ serviceList.iter = .ok services ∧
    List.Forall₂ (StoresService idOf deviceID) services changes

/-- The ID of a service at `resolver_per.py`. -/
def perID (manageNum : Nat) (service : Value) (serviceID : String) : Prop :=
  ResolverPer.serviceIDOf manageNum service = .ok (.str serviceID)

/-- The ID of a service at `resolver.py`. -/
def httpID (manageNum : Nat) (service : Value) (serviceID : String) : Prop :=
  (Resolver.serviceIDOf manageNum service).text = serviceID

/-- The tables a leave deletes from. -/
def leaveChanges (tables : List Table) (deviceID : String) : List Change :=
  tables.map fun t => .delete t deviceID

/-- What a decoded message of `resolver_per.py` asks for, answered with a payload. -/
def PerAsks (content payload : Value) (changes : List Change) : ResolverPer.Message → Prop
  | .Join => ∃ deviceID, idOf payload = some deviceID ∧
      perJoinChanges content deviceID = .ok changes
  | .Update => UpdateChanges perID content changes
  | .Leave => ∃ deviceID, deviceIDOf content = .ok deviceID ∧
      changes = leaveChanges [.Device, .Service, .Neighbor] deviceID
  | .Request => ∃ requestID serviceID, requestChanges content requestID serviceID = .ok changes

/-- What a decoded body at `resolver.py` asks for, answered with a payload. -/
def HttpAsks (content payload : Value) (changes : List Change) : Endpoint → Prop
  | .Join => ∃ deviceID, idOf payload = some deviceID ∧ joinChanges content deviceID = .ok changes
  | .Update => UpdateChanges httpID content changes
  | .Leave => ∃ deviceID, deviceIDOf content = .ok deviceID ∧
      changes = leaveChanges [.Device, .Service] deviceID
  | .Request => ∃ requestID serviceID, requestChanges content requestID serviceID = .ok changes

/-- What a call asks of the database, answered with a payload. -/
def Process.Asks : (p : Process) → p.Call → Value → List Change → Prop
  | sockets py, (m, js), payload, changes =>
      ∃ content, py.loads js = .ok content ∧ PerAsks content payload changes m
  | http _, (e, body), payload, changes =>
      ∃ content, body = .ok content ∧ HttpAsks content payload changes e

/-- The call is the leave of a device. -/
def Process.Leaves : (p : Process) → p.Call → String → Prop
  | sockets py, (m, js), deviceID =>
      m = .Leave ∧ ∃ content, py.loads js = .ok content ∧ deviceIDOf content = .ok deviceID
  | http _, (e, body), deviceID =>
      e = .Leave ∧ ∃ content, body = .ok content ∧ deviceIDOf content = .ok deviceID

/-- An answer of success: error 0, or the text of a request that was stored. -/
def Success (payload : Value) : Prop := errorOf payload = some 0 ∨ payload = .str "Good"

/-! ## Phases -/

/-- How far a call is: the changes it has made, the attribute columns it has seen, and whether it
has committed since its last change. -/
structure Phase (p : Process) where
  call : p.Call
  changes : List Change
  columns : Nat
  stored : Bool

variable {p : Process}

/-- One more change. -/
def Phase.made (φ : Phase p) (c : Change) : Phase p :=
  { φ with changes := φ.changes ++ [c], stored := false }

/-- The phase after an operation. One that fails changes nothing. -/
def Phase.next (φ : Phase p) : (o : Act) → o.Res → Phase p
  | .execute (.insert t row), .ok _ => φ.made (.insert t row)
  | .execute (.delete t deviceID), .ok _ => φ.made (.delete t deviceID)
  | .execute (.alter n), .ok _ => { φ with columns := max φ.columns n }
  | .execute .columnCount, .ok columns => { φ with columns := max φ.columns (columns - 4) }
  | .commit, .ok _ => { φ with stored := true }
  | _, _ => φ

/-- The operations a phase allows. -/
def Phase.allows (φ : Phase p) : Act → Prop
  | .connect => φ.changes = []
  | .execute (.alter n) => n ≤ φ.columns + 1
  | .execute (.delete _ deviceID) => p.Leaves φ.call deviceID
  | .emit _ payload => Success payload → φ.stored = true ∧ p.Asks φ.call payload φ.changes
  | _ => True

/-- What the handlers of a resolver do, in phases. -/
def protocol (p : Process) : Protocol Act Act.Res Unit (Phase p) where
  allows := Phase.allows
  next _ := Phase.next

/-- The phase a call begins in. -/
def Process.start (p : Process) (call : p.Call) : Phase p := ⟨call, [], 0, false⟩

/-! ## The system -/

/-- A handler on its way, and its connection. -/
abbrev Thread (p : Process) := Interleaving.Thread Act Act.Res Exc Value (Phase p) (List Change)

/-- The handlers over one database. -/
abbrev System (p : Process) :=
  Interleaving.System Act Act.Res Exc Value (Phase p) Concurrent.Shared (List Change)

/-- Handler `i` performs its next operation. -/
def step (srv : Server) (faults : Faults) : System p → Nat → System p :=
  Interleaving.step (protocol p) (fun _ => ()) (Concurrent.actOn srv faults)

/-- Some calls, none of them begun. -/
def boot (p : Process) (w : World) (calls : List p.Call) : System p :=
  ⟨⟨w, []⟩, calls.map fun call => ⟨p.program call, [], p.start call⟩⟩

/-- The changes of an event. -/
def changesOf : Event → List Change
  | .committed changes => changes
  | .emitted _ _ => []

/-- All that was committed, in its order. -/
def history (log : List Event) : List Change := log.flatMap changesOf

/-- **A call that runs alone** leaves what its handler leaves. -/
theorem alone (srv : Server) (faults : Faults) (p : Process) (w : World) (call : p.Call) :
    ∃ n, ((List.replicate n 0).foldl (step srv faults) (boot p w [call])).shared =
      ⟨(perform srv faults (p.program call) ⟨w, [], []⟩).2.world,
        (perform srv faults (p.program call) ⟨w, [], []⟩).2.log⟩ := by
  have hrun : ∃ n, ((List.replicate n 0).foldl (step srv faults) (boot p w [call])).shared = _ :=
    Interleaving.run_alone rfl
  obtain ⟨n, hn⟩ := hrun
  refine ⟨n, hn.trans ?_⟩
  exact congrArg (fun r => r.2.1)
    (Concurrent.run_actOn srv faults (p.program call) ⟨w, [], []⟩)

end Versatile.Calls
