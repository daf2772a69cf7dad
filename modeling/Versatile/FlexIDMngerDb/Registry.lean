import Versatile.FlexIDMngerDb.CacheSound

/-!
# Does `flexIDMnger_db.py` answer a query from the registry?

The registry is the committed part of `RegisterList`, and every row of it was inserted by a
`register` of the run (`registered_iff`): the other operations write other tables, and no
row is ever removed. A query does not read it. The category `Sensor` is answered with two
fixed identifiers, and for any other the selection names a column that does not exist.
-/

namespace Versatile.FlexIDMngerDb

open Py

variable {srv : Server} {limit : Nat}

/-! ## The registry and its history -/

/-- A row of `RegisterList` that a `register` of the run inserted, and that is committed at
its end. -/
def Registered (srv : Server) (limit : Nat) (m : Manager) (rs : List Request) (row : Tuple) :
    Prop :=
  ∃ before r after i, rs = before ++ r :: after ∧ r.op = .register ∧
    (run srv limit m before).log.all.length ≤ i ∧
    i < (run srv limit m (before ++ [r])).log.all.length ∧
    (run srv limit m rs).log.committed[i]? = some (.RegisterList, row)

/-- Every position of the log was written by one request of the run. -/
theorem written_by (srv : Server) (limit : Nat) (rs : List Request) :
    ∀ {m : Manager} {i : Nat}, m.log.all.length ≤ i → i < (run srv limit m rs).log.all.length →
      ∃ before r after, rs = before ++ r :: after ∧
        (run srv limit m before).log.all.length ≤ i ∧
        i < (run srv limit m (before ++ [r])).log.all.length := by
  induction rs with
  | nil =>
    intro m i h1 h2
    rw [run_nil] at h2
    omega
  | cons r rs ih =>
    intro m i h1 h2
    -- the position was written by this request, or by one of the rest
    rcases Nat.lt_or_ge i (step srv limit m r).log.all.length with hlt | hge
    · exact ⟨[], r, rs, rfl, h1, hlt⟩
    · obtain ⟨before, r', after, rfl, h3, h4⟩ := ih hge h2
      exact ⟨r :: before, r', after, rfl, h3, h4⟩

/-- **The registry is its history**: from empty tables, the committed registrations are the
ones the registering requests of the run inserted. -/
theorem registered_iff (executed : Nat) (rs : List Request) (row : Tuple) :
    Registered srv limit (start [] executed) rs row ↔
      row ∈ (run srv limit (start [] executed) rs).store.db.committedRows .RegisterList := by
  rw [Database.committedRows, mem_rowsOf]
  refine ⟨?_, ?_⟩
  · intro h
    obtain ⟨before, r, after, i, _, _, _, _, hrow⟩ := h
    exact List.mem_of_getElem? hrow
  · intro hmem
    obtain ⟨i, hi⟩ := List.mem_iff_getElem?.mp hmem
    have hall := TxLog.getElem?_committed hi
    obtain ⟨before, r, after, rfl, h1, h2⟩ := written_by srv limit rs
      (Nat.zero_le i) (List.getElem?_eq_some_iff.mp hall).1
    refine ⟨before, r, after, i, rfl, ?_, h1, h2, hi⟩
    -- the row stands where the request put it, and only one operation writes its table
    rw [run_append] at h2 hall
    rw [run_cons] at hall h2
    rw [run_nil] at h2
    rw [(run_extends _ after).getElem? h2] at hall
    have hop := (step_writes srv limit _ r).new h1 hall
    cases hr : r.op with
    | register => rfl
    | _ => rw [hr] at hop; exact absurd hop (by simp [Op.writes])

/-- An identifier that is registered under a category. -/
def RegisteredAs (srv : Server) (limit : Nat) (m : Manager) (rs : List Request) (row : Tuple)
    (id category : String) : Prop :=
  Registered srv limit m rs row ∧ Dict.get row "providingId" = some id ∧
    Dict.get row "category" = some category

/-! ## The property and its condition -/

section Query

variable (srv : Server) (limit : Nat) (meets : Tuple → Value → Bool) (m : Manager)
  (rs : List Request) (tempID : String) (kvs : List (String × Value))

/-- The query asks for a category, by a device that is stored, with a list of requirements. -/
structure WellPosed (category : String) : Prop where
  device : ∃ d, deviceOf tempID (field kvs "relay") = .ok (.str d) ∧
    deviceCommitted srv (run srv limit m rs).store.db d = true
  category : field kvs "category" = .str category
  queryType : ∃ q, field kvs "queryType" = .str q
  requirements : ∃ reqs, field kvs "requirements" = .list reqs ∧ ∀ q ∈ reqs, q.IsDict

/-- The identifiers of a successful reply. -/
def RepliesWith (ids : List Value) : Prop :=
  ∃ ack ∈ acks srv limit (run srv limit m rs) ⟨.query, tempID, .dict kvs⟩,
    ack.payload.get "error:" = .ok (.int 0) ∧ ack.payload.get "ids" = .ok (.list ids)

/-- **A query, after the run `rs`, is answered from the registry**: only with identifiers
registered under its category, and if it is well posed with all of them that meet its
requirements. -/
structure FromRegistry : Prop where
  sound : ∀ ids, RepliesWith srv limit m rs tempID kvs ids → ∀ id ∈ ids,
    ∃ row p category, id = .str p ∧ field kvs "category" = .str category ∧
      RegisteredAs srv limit m rs row p category
  complete : ∀ category, WellPosed srv limit m rs tempID kvs category →
    ∃ ids, RepliesWith srv limit m rs tempID kvs ids ∧
      ∀ row p, RegisteredAs srv limit m rs row p category →
        meets row (field kvs "requirements") = true → .str p ∈ ids

/-- The query passes, after the run `rs`. -/
abbrev PassesAfter : Prop := QueryPasses srv tempID kvs (run srv limit m rs).store

/-- The condition: where the query passes, the fixed identifiers are registered as sensors;
and where it is well posed it passes, and every registered sensor that meets its
requirements is one of the fixed ones. -/
structure FixedListFits : Prop where
  registered : PassesAfter srv limit m rs tempID kvs → ∀ id ∈ sensorIDs,
    ∃ row p, id = .str p ∧ RegisteredAs srv limit m rs row p "Sensor"
  passes : ∀ category, WellPosed srv limit m rs tempID kvs category →
    PassesAfter srv limit m rs tempID kvs ∧
      ∀ row p, RegisteredAs srv limit m rs row p "Sensor" →
        meets row (field kvs "requirements") = true → .str p ∈ sensorIDs

end Query

/-- **A query is answered with the fixed list, exactly when it passes.** -/
theorem repliesWith_iff {m : Manager} {rs : List Request} {tempID : String}
    {kvs : List (String × Value)} {ids : List Value} :
    RepliesWith srv limit m rs tempID kvs ids ↔
      PassesAfter srv limit m rs tempID kvs ∧ ids = sensorIDs := by
  obtain ⟨s', _, ⟨hpass, hb⟩ | ⟨hno, e, hb⟩⟩ :=
    queryBody_cases srv limit tempID kvs (run srv limit m rs).store
  · have hack : acks srv limit (run srv limit m rs) ⟨.query, tempID, .dict kvs⟩ =
        [queryReply tempID kvs] := by rw [acks_dict, reply, hb]
    refine ⟨?_, ?_⟩
    · intro h
      obtain ⟨ack, hmem, _, hids⟩ := h
      rw [hack, List.mem_singleton] at hmem
      obtain rfl : ack = _ := hmem
      have hlist : (queryReply tempID kvs).payload.get "ids" = .ok (.list sensorIDs) := rfl
      exact ⟨hpass, by simpa using (hlist.symm.trans hids).symm⟩
    · intro h
      obtain ⟨_, rfl⟩ := h
      exact ⟨_, by rw [hack]; exact List.mem_singleton_self _, rfl, rfl⟩
  · refine iff_of_false ?_ (fun h => hno h.1)
    intro hsome
    obtain ⟨ack, hmem, herr, _⟩ := hsome
    rw [acks_dict, reply, hb, List.mem_singleton] at hmem
    obtain rfl : ack = failureOf .query tempID kvs := hmem
    have hnone : (failureOf .query tempID kvs).payload.get "error:" = .ok .none := rfl
    rw [hnone] at herr
    exact absurd herr (by simp)

/--
**A query is answered from the registry exactly when the fixed list fits it.**

After any run from empty tables, for any reading of the requirements.
-/
theorem fromRegistry_iff (meets : Tuple → Value → Bool) (executed : Nat) (rs : List Request)
    (tempID : String) (kvs : List (String × Value)) :
    FromRegistry srv limit meets (start [] executed) rs tempID kvs ↔
      FixedListFits srv limit meets (start [] executed) rs tempID kvs := by
  refine ⟨?_, ?_⟩
  · intro h
    obtain ⟨hsound, hcomplete⟩ := h
    refine ⟨?_, ?_⟩
    · intro hpass id hid
      obtain ⟨row, p, category, rfl, hcat, hreg⟩ :=
        hsound sensorIDs (repliesWith_iff.mpr ⟨hpass, rfl⟩) id hid
      obtain rfl : "Sensor" = category := by simpa using hpass.category.symm.trans hcat
      exact ⟨row, p, rfl, hreg⟩
    · intro category hposed
      obtain ⟨ids, hreply, hall⟩ := hcomplete category hposed
      obtain ⟨hpass, rfl⟩ := repliesWith_iff.mp hreply
      obtain rfl : "Sensor" = category := by simpa using hpass.category.symm.trans hposed.category
      exact ⟨hpass, hall⟩
  · intro h
    obtain ⟨hregistered, hpasses⟩ := h
    refine ⟨?_, ?_⟩
    · intro ids hreply id hid
      obtain ⟨hpass, rfl⟩ := repliesWith_iff.mp hreply
      obtain ⟨row, p, rfl, hreg⟩ := hregistered hpass id hid
      exact ⟨row, p, "Sensor", rfl, hpass.category, hreg⟩
    · intro category hposed
      obtain ⟨hpass, hall⟩ := hpasses category hposed
      obtain rfl : "Sensor" = category := by simpa using hpass.category.symm.trans hposed.category
      exact ⟨sensorIDs, repliesWith_iff.mpr ⟨hpass, rfl⟩, hall⟩

/-- The fields of a query for sensors, without requirements. -/
def sensorQuery : List (String × Value) :=
  [("relay", .str "none"), ("queryType", .str "content"), ("category", .str "Sensor"),
    ("requirements", .list [])]

/-- **A reply with identifiers nobody registered**: the device joins, and asks for sensors. -/
theorem not_fromRegistry :
    ¬ FromRegistry Server.exact 10 (fun _ _ => true) (start [] 0)
      [⟨.join, "t", .dict oneInterface⟩] "0t" sensorQuery := by
  intro h
  have hreply : RepliesWith Server.exact 10 (start [] 0) [⟨.join, "t", .dict oneInterface⟩] "0t"
      sensorQuery sensorIDs := ⟨_, List.mem_singleton_self _, rfl, rfl⟩
  obtain ⟨row, p, _, _, _, hreg, _⟩ := h.sound sensorIDs hreply _ (List.mem_cons_self ..)
  rw [registered_iff] at hreg
  have hnone : (run Server.exact 10 (start [] 0)
      [⟨.join, "t", .dict oneInterface⟩]).store.db.committedRows .RegisterList = [] := by decide
  rw [hnone] at hreg
  exact absurd hreg (by simp)

end Versatile.FlexIDMngerDb
