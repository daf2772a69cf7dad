import Versatile.FlexIDMngerDb.Runs

/-!
# A join of `flexIDMnger_db.py` that succeeds

A join is acknowledged without an error in one way only: its identifier was generated, its
interfaces and neighbors could be read, and both insertions went through (`joinedAs_run`).
-/

namespace Versatile.FlexIDMngerDb

open Py

variable {srv : Server} {limit : Nat}

/-- A join is acknowledged with the identifier `d`. -/
def JoinedAs (srv : Server) (limit : Nat) (m : Manager) (r : Request) (d : String) : Prop :=
  r.op = .join ∧ ∃ ack ∈ acks srv limit m r,
    ack.payload.get "error:" = .ok (.int 0) ∧ ack.payload.get "id" = .ok (.str d)

/-- A join that succeeds with the identifier `d`: the state `s1` after it was generated, the
rows built, and the connection after each insertion. -/
structure JoinRun (srv : Server) (limit : Nat) (tempID : String) (kvs : List (String × Value))
    (s : Store) (d base : String) (s1 : Store) (fs ns : List Fields) (db1 db2 : Database) :
    Prop where
  named : deviceOf tempID (field kvs "relay") = .ok (.str base)
  generated : join_genID srv limit base 0 s = (.ok d, s1)
  devices : infoList (.dict kvs) (field kvs "relay") d = .ok fs
  stored : insertRows srv .Device fs s1.db = (.ok (), db1)
  neighbors : neighborList (.dict kvs) d = .ok ns
  linked : insertRows srv .Neighbor ns db1.commit = (.ok (), db2)

/-- The message of a join that succeeds. -/
def joinedMessage (tempID d : String) (relay : Value) : Message :=
  ⟨"/configuration/join_ack/" ++ tempID,
    .dict [("error:", .int 0), ("id", .str d), ("relay", relay)]⟩

theorem joinBody_eq_ok {tempID : String} {kvs : List (String × Value)} {s s' : Store}
    {msg : Message} :
    joinBody srv limit tempID (.dict kvs) (field kvs "relay") s = (.ok msg, s') ↔
      ∃ d base s1 fs ns db1 db2, JoinRun srv limit tempID kvs s d base s1 fs ns db1 db2 ∧
        msg = joinedMessage tempID d (field kvs "relay") ∧
        s' = ⟨s1.deviceID_cache, db2.commit⟩ := by
  refine ⟨?_, ?_⟩
  · intro h
    rcases joinBody_cases srv limit tempID (.dict kvs) (field kvs "relay") s with
      ⟨_, e, hb⟩ | ⟨base, hbase, ⟨e, s1, _, hb⟩ | ⟨d, s1, hgen, hb⟩⟩
    · exact absurd (congrArg Prod.fst (hb.symm.trans h)) (by simp)
    · exact absurd (congrArg Prod.fst (hb.symm.trans h)) (by simp)
    · have hends := joinRows_ends srv tempID (.dict kvs) (field kvs "relay") d s1
      rw [← hb, h] at hends
      cases hends with
      | joined hinfo hdev hnbr hins =>
        exact ⟨d, base, s1, _, _, _, _, ⟨hbase, hgen, hinfo, hdev, hnbr, hins⟩, rfl, rfl⟩
  · intro h
    obtain ⟨d, base, s1, fs, ns, db1, db2, hrun, rfl, rfl⟩ := h
    have hstr : (Value.str base).asStr = .ok base := rfl
    rw [joinBody, Proc.bind_lift_ok hrun.named, Proc.bind_lift_ok hstr,
      Proc.bind_ok hrun.generated, joinRows, Proc.bind_lift_ok hrun.devices,
      insert_ok hrun.stored, Proc.bind_lift_ok hrun.neighbors, insert_ok hrun.linked]
    rfl

/-- A join that ran through is acknowledged, and leaves what its last commit left. -/
theorem JoinRun.step {m : Manager} {tempID d base : String} {kvs : List (String × Value)}
    {s1 : Store} {fs ns : List Fields} {db1 db2 : Database}
    (h : JoinRun srv limit tempID kvs m.store d base s1 fs ns db1 db2) :
    JoinedAs srv limit m ⟨.join, tempID, .dict kvs⟩ d ∧
      (step srv limit m ⟨.join, tempID, .dict kvs⟩).store = ⟨s1.deviceID_cache, db2.commit⟩ := by
  have hbody : bodyOf srv limit .join tempID kvs =
      joinBody srv limit tempID (.dict kvs) (field kvs "relay") := rfl
  have hb := joinBody_eq_ok.mpr ⟨d, base, s1, fs, ns, db1, db2, h, rfl, rfl⟩
  rw [JoinedAs, acks_dict, step_dict srv limit, hbody, reply, hb]
  exact ⟨⟨rfl, _, List.mem_singleton_self _, rfl, rfl⟩, rfl⟩

/-- **The acknowledgement of a join tells how it ran.** -/
theorem joinedAs_run {m : Manager} {tempID d : String} {kvs : List (String × Value)}
    (h : JoinedAs srv limit m ⟨.join, tempID, .dict kvs⟩ d) :
    ∃ base s1 fs ns db1 db2, JoinRun srv limit tempID kvs m.store d base s1 fs ns db1 db2 := by
  obtain ⟨_, ack, hack, herr, hid⟩ := h
  have hbody : bodyOf srv limit .join tempID kvs =
      joinBody srv limit tempID (.dict kvs) (field kvs "relay") := rfl
  rw [acks_dict, hbody, reply, List.mem_singleton] at hack
  rcases hb : joinBody srv limit tempID (.dict kvs) (field kvs "relay") m.store with ⟨r, s'⟩
  rw [hb] at hack
  cases r with
  | error e =>
    obtain rfl : ack = failureOf .join tempID kvs := hack
    have hone : (failureOf .join tempID kvs).payload.get "error:" = .ok (.int 1) := rfl
    rw [hone] at herr
    exact absurd herr (by simp)
  | ok msg =>
    obtain rfl : ack = msg := hack
    obtain ⟨d', base, s1, fs, ns, db1, db2, hrun, rfl, _⟩ := joinBody_eq_ok.mp hb
    have hd : (joinedMessage tempID d' (field kvs "relay")).payload.get "id" =
      .ok (.str d') := rfl
    obtain rfl : d' = d := by simpa using hd.symm.trans hid
    exact ⟨base, s1, fs, ns, db1, db2, hrun⟩

/-- A device that joined is cached, under the identifier it was told. -/
theorem joinedAs_cached {m : Manager} {r : Request} {d : String}
    (h : JoinedAs srv limit m r d) : (step srv limit m r).store.deviceID_cache.has d = true := by
  obtain ⟨op, tempID, payload⟩ := r
  obtain rfl : op = .join := h.1
  by_cases hdict : payload.IsDict
  · obtain ⟨kvs, rfl⟩ := hdict
    obtain ⟨base, s1, fs, ns, db1, db2, hrun⟩ := joinedAs_run h
    rw [hrun.step.2]
    exact (join_genID_ok hrun.generated).2.2.1
  · obtain ⟨_, ack, hack, _⟩ := h
    rw [acks_not_dict hdict] at hack
    exact absurd hack (by simp)

end Versatile.FlexIDMngerDb
