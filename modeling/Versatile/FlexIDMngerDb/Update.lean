import Versatile.FlexIDMngerDb.CacheSound

/-!
# Does an update take effect in `flexIDMnger_db.py`?

`update` asks whether the registration exists with the query `{}`, which names no table, so
`db_proc` raises before either of the two writes is reached. So no update changes anything,
whatever the state. Either write would fail as well: `db_proc` has no branch for them.
-/

namespace Versatile.FlexIDMngerDb

open Py

variable {srv : Server} {limit : Nat}

/-! ## What an update asks for -/

/-- A row with some columns written anew. -/
def written (r cells : Tuple) : Tuple := cells.foldl (fun r c => Dict.set r c.1 c.2) r

/-- A column, with the text its value is to be stored as. -/
def meantCell (c : String × Value) : Except Exc (String × String) := do
  let text ← meantText c.2
  return (c.1, text)

/-- What the update of a payload makes of a row it is about: nothing is left of it when the
payload says `deregister`, and otherwise the attributes are written as a registration is to
write them. A list of more than three attributes, or none, is no update. -/
def changeOf (kvs : List (String × Value)) : Option (Tuple → Option Tuple) :=
  if (field kvs "deregister").truthy then some fun _ => none
  else
    match field kvs "attributes" with
    | .list attributes =>
      if attributes.length ≤ 3 then
        match (attrFields 0 attributes).mapM meantCell with
        | .ok cells => some fun r => some (written r cells)
        | .error _ => none
      else none
    | _ => none

/-- The rows of `RegisterList` after a change of the registration `p`. -/
def changeRows (srv : Server) (p : String) (change : Tuple → Option Tuple) (rows : List Tuple) :
    List Tuple :=
  rows.filterMap fun r => if srv.hasCell .RegisterList r "providingId" p then change r else some r

/-- A request of `d` to update the registration `p`, from `d` itself or by a relay that ends in
`d`. -/
def UpdateOf (r : Request) (d p : String) (change : Tuple → Option Tuple) : Prop :=
  r.op = .update ∧ ∃ kvs, r.payload = .dict kvs ∧
    deviceOf r.tempID (field kvs "relay") = .ok (.str d) ∧ field kvs "id" = .str p ∧
    changeOf kvs = some change

/-- The device exists and has registered `p`. -/
def HasRegistered (srv : Server) (m : Manager) (d p : String) : Prop :=
  deviceStored srv m.store.db d = true ∧
    ∃ r ∈ m.store.db.rows .RegisterList,
      srv.hasCell .RegisterList r "deviceId" d = true ∧
        srv.hasCell .RegisterList r "providingId" p = true

/-- **The update takes effect**: it is acknowledged, the rows of the registration are changed,
and no other row of any table is. -/
structure TakesEffect (srv : Server) (limit : Nat) (m : Manager) (r : Request) (p : String)
    (change : Tuple → Option Tuple) : Prop where
  acked : ∃ ack ∈ acks srv limit m r, ack.payload.get "error:" = .ok (.int 0)
  changed : (step srv limit m r).store.db.rows .RegisterList =
    changeRows srv p change (m.store.db.rows .RegisterList)
  frame : ∀ t, t ≠ .RegisterList → (step srv limit m r).store.db.rows t = m.store.db.rows t

/--
**No update takes effect.**

Whatever the state and the registration: the update is answered with an error, once, and
changes no table.
-/
theorem update_never_effective {m : Manager} {r : Request} {d p : String}
    {change : Tuple → Option Tuple} (h : UpdateOf r d p change) :
    ¬ TakesEffect srv limit m r p change ∧
      (∃ ack, acks srv limit m r = [ack] ∧ ack.payload.get "error" = .ok (.int 1)) ∧
      (step srv limit m r).store.db.log = m.store.db.log := by
  obtain ⟨op, tempID, payload⟩ := r
  obtain ⟨hop, kvs, hpayload, _⟩ := h
  obtain rfl : op = .update := hop
  obtain rfl : payload = .dict kvs := hpayload
  have hbody : bodyOf srv limit .update tempID kvs =
      updateBody srv tempID (.dict kvs) (field kvs "relay") (field kvs "updateID") := rfl
  -- the handler raises with nothing but the cache written
  obtain ⟨e, s', hb, hmark⟩ := updateBody_error srv tempID (.dict kvs) (field kvs "relay")
    (field kvs "updateID") m.store
  have hacks : acks srv limit m ⟨.update, tempID, .dict kvs⟩ = [failureOf .update tempID kvs] := by
    rw [acks_dict, reply, hbody, hb]
  refine ⟨fun heffect => ?_, ⟨_, hacks, rfl⟩, ?_⟩
  · obtain ⟨ack, hack, herr⟩ := heffect.acked
    rw [hacks, List.mem_singleton] at hack
    obtain rfl := hack
    have hnone : (failureOf .update tempID kvs).payload.get "error:" = .ok .none := rfl
    rw [hnone] at herr
    exact absurd herr (by simp)
  · rw [step_dict srv limit, hbody, hb]
    exact hmark.log

/-- A registration by the device `0t`, of something with hash `h`. -/
def registerHash : Request :=
  ⟨.register, "0t", .dict [("relay", .str "none"), ("registerList",
    .list [.dict [("index", .str "i"), ("hash", .str "h"), ("attributes", .list [])]])]⟩

/-- A deregistration of it, by the same device. -/
def deregisterHash : Request :=
  ⟨.update, "0t", .dict [("relay", .str "none"), ("id", .str "0h"), ("deregister", .bool true)]⟩

theorem deregisterHash_updateOf : UpdateOf deregisterHash "0t" "0h" fun _ => none :=
  ⟨rfl, _, rfl, rfl, rfl, rfl⟩

/-- The deregistration of a device that joined and registered. -/
theorem update_never_effective_deregister :
    ¬ TakesEffect Server.exact 10 (run Server.exact 10 (start [] 0)
        [⟨.join, "t", .dict oneInterface⟩, registerHash]) deregisterHash "0h" (fun _ => none) ∧
      (∃ ack, acks Server.exact 10 (run Server.exact 10 (start [] 0)
          [⟨.join, "t", .dict oneInterface⟩, registerHash]) deregisterHash = [ack] ∧
        ack.payload.get "error" = .ok (.int 1)) ∧
      (step Server.exact 10 (run Server.exact 10 (start [] 0)
          [⟨.join, "t", .dict oneInterface⟩, registerHash]) deregisterHash).store.db.log =
        (run Server.exact 10 (start [] 0)
          [⟨.join, "t", .dict oneInterface⟩, registerHash]).store.db.log :=
  update_never_effective deregisterHash_updateOf

/-- **A device that cannot deregister what it registered.** -/
theorem not_takesEffect :
    ¬ ∀ (before : List Request) (r : Request) (d p : String) (change : Tuple → Option Tuple),
      UpdateOf r d p change →
      HasRegistered Server.exact (run Server.exact 10 (start [] 0) before) d p →
        TakesEffect Server.exact 10 (run Server.exact 10 (start [] 0) before) r p change := by
  intro h
  have hregistered : HasRegistered Server.exact (run Server.exact 10 (start [] 0)
      [⟨.join, "t", .dict oneInterface⟩, registerHash]) "0t" "0h" :=
    ⟨by decide, by decide⟩
  have heffect := h [⟨.join, "t", .dict oneInterface⟩, registerHash] deregisterHash "0t" "0h" _
    deregisterHash_updateOf hregistered
  obtain ⟨ack, hack, herr⟩ := heffect.acked
  have hacks : acks Server.exact 10 (run Server.exact 10 (start [] 0)
      [⟨.join, "t", .dict oneInterface⟩, registerHash]) deregisterHash =
        [failureOf .update "0t" [("relay", .str "none")]] := rfl
  rw [hacks, List.mem_singleton] at hack
  obtain rfl := hack
  have hnone : (failureOf .update "0t" [("relay", .str "none")]).payload.get "error:" =
    .ok .none := rfl
  rw [hnone] at herr
  exact absurd herr (by simp)

end Versatile.FlexIDMngerDb
