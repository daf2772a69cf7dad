import Versatile.FlexIDMngerDb.CacheSound
import Versatile.FlexIDMngerDb.Joined

/-!
# Does a leave undo a join in `flexIDMnger_db.py`?

`leave` sends its deletion to `db_proc`, which has no branch for one and returns `None`; the
next access raises. So no leave of any device, in any state, removes anything.
-/

namespace Versatile.FlexIDMngerDb

open Py

variable {srv : Server} {limit : Nat}

/-- A request of `d` to leave: from `d` itself, or by a relay that ends in `d`. -/
def LeaveOf (l : Request) (d : String) : Prop :=
  l.op = .leave ∧
    ∃ kvs, l.payload = .dict kvs ∧ deviceOf l.tempID (field kvs "relay") = .ok (.str d)

/-- **The leave undoes the join**: it is acknowledged, the tables hold the rows they held
before the join, and the device is no longer cached. -/
structure Undoes (srv : Server) (limit : Nat) (m : Manager) (r l : Request) (d : String) :
    Prop where
  acked : ∃ ack ∈ acks srv limit (step srv limit m r) l, ack.payload.get "error:" = .ok (.int 0)
  restored : ∀ t, List.Perm ((run srv limit m [r, l]).store.db.rows t) (m.store.db.rows t)
  forgotten : (run srv limit m [r, l]).store.deviceID_cache.has d = false

/--
**No leave undoes a join.**

Whatever the state and the payloads: the leave of a device that has just joined is answered
with an error, changes neither the tables nor the cache, and leaves the device cached.
-/
theorem leave_never_undoes {m : Manager} {r l : Request} {d : String}
    (hjoin : JoinedAs srv limit m r d) (hleave : LeaveOf l d) :
    ¬ Undoes srv limit m r l d ∧
      (∀ ack ∈ acks srv limit (step srv limit m r) l, ack.payload.get "error:" = .ok (.int 1)) ∧
      (run srv limit m [r, l]).store = (step srv limit m r).store ∧
      (run srv limit m [r, l]).store.deviceID_cache.has d = true := by
  obtain ⟨op, tempID, payload⟩ := l
  obtain ⟨hop, kvs, hpayload, _⟩ := hleave
  obtain rfl : op = .leave := hop
  obtain rfl : payload = .dict kvs := hpayload
  have hbody : bodyOf srv limit .leave tempID kvs = leaveBody srv tempID (field kvs "relay") := rfl
  obtain ⟨e, hb⟩ := leaveBody_error srv tempID (field kvs "relay")
    (step srv limit m r).store
  -- the leave raises before it touches anything
  have hsame : (run srv limit m [r, ⟨.leave, tempID, .dict kvs⟩]).store =
      (step srv limit m r).store := by
    rw [run_cons, run_cons, run_nil, step_dict srv limit, hbody, hb]
  have hcached := joinedAs_cached hjoin
  rw [← hsame] at hcached
  refine ⟨fun h => ?_, ?_, hsame, hcached⟩
  · rw [h.forgotten] at hcached
    exact absurd hcached (by simp)
  · intro ack hack
    rw [acks_dict, reply, hbody, hb, List.mem_singleton] at hack
    rw [hack]
    rfl

/-- A join of `t` with one interface, and the leave of the identifier it is given. -/
theorem leave_never_undoes_oneInterface :
    ¬ Undoes Server.exact 10 (start [] 0) ⟨.join, "t", .dict oneInterface⟩
        ⟨.leave, "0t", .dict [("relay", .str "none")]⟩ "0t" ∧
      (∀ ack ∈ acks Server.exact 10
          (step Server.exact 10 (start [] 0) ⟨.join, "t", .dict oneInterface⟩)
          ⟨.leave, "0t", .dict [("relay", .str "none")]⟩,
        ack.payload.get "error:" = .ok (.int 1)) ∧
      (run Server.exact 10 (start [] 0) [⟨.join, "t", .dict oneInterface⟩,
          ⟨.leave, "0t", .dict [("relay", .str "none")]⟩]).store =
        (step Server.exact 10 (start [] 0) ⟨.join, "t", .dict oneInterface⟩).store ∧
      (run Server.exact 10 (start [] 0) [⟨.join, "t", .dict oneInterface⟩,
          ⟨.leave, "0t", .dict [("relay", .str "none")]⟩]).store.deviceID_cache.has "0t" = true :=
  leave_never_undoes ⟨rfl, _, List.mem_singleton_self _, rfl, rfl⟩ ⟨rfl, _, rfl, rfl⟩

/-- **A leave that does not undo its join**, from a fresh manager on empty tables. -/
theorem not_undoes :
    ¬ ∀ (before : List Request) (r l : Request) (d : String),
      JoinedAs Server.exact 10 (run Server.exact 10 (start [] 0) before) r d → LeaveOf l d →
        Undoes Server.exact 10 (run Server.exact 10 (start [] 0) before) r l d := by
  intro h
  have hundoes := h [] ⟨.join, "t", .dict oneInterface⟩
    ⟨.leave, "0t", .dict [("relay", .str "none")]⟩ "0t"
    ⟨rfl, _, List.mem_singleton_self _, rfl, rfl⟩ ⟨rfl, _, rfl, rfl⟩
  exact absurd hundoes.forgotten (by decide)

end Versatile.FlexIDMngerDb
