import Versatile.FlexIDMngerDb.GenID

/-!
# How the handlers of `flexIDMnger_db.py` end

One lemma for each handler says every way it can end and the globals it leaves. The
invariants are proved from these, never by unfolding a handler again.
-/

namespace Versatile.FlexIDMngerDb

open Py

variable {srv : Server} {limit : Nat}

/-! ## The `try` block around a handler -/

/-- The message `answer` publishes: the one of the body, or the failure message. -/
def reply (body : Proc Exc Store Message) (failure : Message) (s : Store) : Message :=
  match (body s).1 with
  | .ok msg => msg
  | .error _ => failure

/-- **`answer` never raises, and publishes exactly one message.** -/
theorem answer_apply (body : Proc Exc Store Message) (failure : Message) (m : Manager) :
    answer body failure m =
      (.ok (), ⟨(body m.store).2, m.published ++ [reply body failure m.store]⟩) := by
  unfold answer reply
  rcases body m.store with ⟨r, s⟩
  cases r <;> rfl

/-- The `try` block of the handler of an operation. -/
def bodyOf (srv : Server) (limit : Nat) (op : Op) (tempID : String)
    (kvs : List (String × Value)) : Proc Exc Store Message :=
  let relay := field kvs "relay"
  match op with
  | .join => joinBody srv limit tempID (.dict kvs) relay
  | .leave => leaveBody srv tempID relay
  | .register => registerBody srv limit tempID (.dict kvs) relay (field kvs "registerID")
  | .update => updateBody srv tempID (.dict kvs) relay (field kvs "updateID")
  | .query => queryBody srv tempID (.dict kvs) relay (field kvs "queryID")

/-- The message an operation fails with. -/
def failureOf (op : Op) (tempID : String) (kvs : List (String × Value)) : Message :=
  let relay := field kvs "relay"
  match op with
  | .join => ⟨"/configuration/join_ack/" ++ tempID,
      .dict [("error:", .int 1), ("deviceID", .str tempID), ("relay", relay)]⟩
  | .leave => ⟨"/configuration/leave_ack/" ++ tempID,
      .dict [("error:", .int 1), ("relay", relay)]⟩
  | .register => ⟨"/configuration/register_ack/" ++ tempID,
      .dict [("error", .int 1), ("registerID", field kvs "registerID"), ("relay", relay)]⟩
  | .update => ⟨"/configuration/update_ack/" ++ tempID,
      .dict [("error", .int 1), ("updateID", field kvs "updateID"), ("relay", relay)]⟩
  | .query => ⟨"/utilization/reply/" ++ tempID,
      .dict [("error", .int 1), ("queryID", field kvs "queryID"), ("relay", relay)]⟩

/-- **Every handler is its `try` block**, once the payload is an object. -/
theorem handle_dict (op : Op) (tempID : String) (kvs : List (String × Value)) :
    handle srv limit ⟨op, tempID, .dict kvs⟩ =
      answer (bodyOf srv limit op tempID kvs) (failureOf op tempID kvs) := by
  cases op <;> rfl

/-- On any other payload the first access raises, outside the `try` block. -/
theorem handle_not_dict {r : Request} (h : ¬ r.payload.IsDict) (m : Manager) :
    handle srv limit r m = (.error .attributeError, m) := by
  obtain ⟨op, tempID, payload⟩ := r
  cases payload with
  | dict kvs => exact absurd ⟨kvs, rfl⟩ h
  | _ => cases op <;> rfl

/-- The state a request leaves, by its `try` block. -/
theorem step_dict (srv : Server) (limit : Nat) (op : Op) (tempID : String)
    (kvs : List (String × Value)) (m : Manager) :
    step srv limit m ⟨op, tempID, .dict kvs⟩ =
      ⟨(bodyOf srv limit op tempID kvs m.store).2,
        m.published ++ [reply (bodyOf srv limit op tempID kvs) (failureOf op tempID kvs)
          m.store]⟩ := by
  rw [step, handle_dict, answer_apply]

theorem step_not_dict {r : Request} (h : ¬ r.payload.IsDict) (m : Manager) :
    step srv limit m r = m := by rw [step, handle_not_dict h]

theorem acks_dict (op : Op) (tempID : String) (kvs : List (String × Value)) (m : Manager) :
    acks srv limit m ⟨op, tempID, .dict kvs⟩ =
      [reply (bodyOf srv limit op tempID kvs) (failureOf op tempID kvs) m.store] := by
  rw [acks, step_dict srv limit, List.drop_left]

theorem acks_not_dict {r : Request} (h : ¬ r.payload.IsDict) (m : Manager) :
    acks srv limit m r = [] := by
  rw [acks, step_not_dict h, List.drop_length]

/-! ## The device check -/

/-- **The device check**: passed by the cache, or by a selection that finds the device, which
is then cached; otherwise it raises and leaves the cache alone. -/
theorem checkDevice_cases (srv : Server) (d : String) (s : Store) :
    (s.deviceID_cache.has d = true ∧ checkDevice srv d s = (.ok (), s)) ∨
      (s.deviceID_cache.has d = false ∧ deviceFound srv s.db s.db.executed d = true ∧
        srv.refuses s.db.executed (deviceProbe d) = none ∧
        checkDevice srv d s = (.ok (), ⟨s.deviceID_cache.set d (.bool true), s.db.tick⟩)) ∨
      (s.deviceID_cache.has d = false ∧
        (deviceFound srv s.db s.db.executed d = false ∨
          srv.refuses s.db.executed (deviceProbe d) ≠ none) ∧
        ∃ e, checkDevice srv d s = (.error e, ⟨s.deviceID_cache, s.db.tick⟩)) := by
  cases hc : s.deviceID_cache.has d with
  | true =>
    refine Or.inl ⟨rfl, ?_⟩
    rw [checkDevice]
    simp only [Proc.bind_apply, isCached, Proc.read_apply, Proc.pure_apply, hc]
    rfl
  | false =>
    refine Or.inr ?_
    have hstart : checkDevice srv d s = (do
        let db_payload ← send_DBquery srv (deviceQuery (.str d)) .select
        let exist ← db_payload.get "data"
        if ¬ exist.truthy then Proc.raise (.raised "No Device Error")
        else cacheSet d (.bool true) : Proc Exc Store Unit) s := by
      rw [checkDevice]
      simp only [Proc.bind_apply, isCached, Proc.read_apply, Proc.pure_apply, hc]
      rfl
    rw [hstart]
    -- not cached: the selection is refused, or tells whether it finds the device
    rcases db_proc_probe srv (t := .Device) (x := d)
      (by decide : "deviceId" ∈ Table.columns .Device) (by decide) s.db with
      ⟨code, hr, hsel⟩ | ⟨hr, exist, htruthy, hsel⟩
    · refine Or.inr ⟨rfl, Or.inr (by rw [deviceProbe, hr]; simp), .sqlError code, ?_⟩
      simp only [Proc.bind_apply, send_DBquery, database, Proc.zoom_apply, deviceQuery, hsel]
    · have hrun : (do
          let db_payload ← send_DBquery srv (deviceQuery (.str d)) .select
          let exist ← db_payload.get "data"
          if ¬ exist.truthy then Proc.raise (.raised "No Device Error")
          else cacheSet d (.bool true) : Proc Exc Store Unit) s =
          (if ¬ exist.truthy then Proc.raise (.raised "No Device Error")
            else cacheSet d (.bool true) : Proc Exc Store Unit) ⟨s.deviceID_cache, s.db.tick⟩ := by
        simp only [Proc.bind_apply, send_DBquery, database, Proc.zoom_apply, deviceQuery, hsel]
        rfl
      rw [hrun]
      cases hst : deviceFound srv s.db s.db.executed d with
      | true =>
        have : exist.truthy = true := htruthy.trans hst
        exact Or.inl ⟨rfl, rfl, hr, by rw [this]; rfl⟩
      | false =>
        have : exist.truthy = false := htruthy.trans hst
        exact Or.inr ⟨rfl, Or.inl rfl, _, by rw [this]; rfl⟩

/-- Whatever its outcome, the device check only marks. -/
theorem checkDevice_marked (srv : Server) (d : String) (s : Store) :
    Marked srv (· = d) s (checkDevice srv d s).2 := by
  rcases checkDevice_cases srv d s with ⟨_, h⟩ | ⟨_, hst, _, h⟩ | ⟨_, _, e, h⟩
  · rw [h]; exact Marked.refl srv _ s
  · rw [h]; exact marked_set rfl hst
  · rw [h]; exact ⟨rfl, fun _ hx => hx, fun _ hx => Or.inl hx⟩

/-- A request is let in for the device `d`: it names `d`, and `d` is cached or found. -/
def LetIn (srv : Server) (tempID : String) (relay : Value) (s : Store) (d : String) : Prop :=
  deviceOf tempID relay = .ok (.str d) ∧
    (s.deviceID_cache.has d = true ∨
      deviceFound srv s.db s.db.executed d = true ∧
        srv.refuses s.db.executed (deviceProbe d) = none)

/-- A request names the device `d`. -/
def NamedBy (tempID : String) (relay : Value) (d : String) : Prop :=
  deviceOf tempID relay = .ok (.str d)

/-- **The head of `register`, `update` and `query`** only marks, and goes on exactly for the
device the request is let in for. -/
theorem speaker_cases (srv : Server) (tempID : String) (relay : Value) (s : Store) :
    ∃ s', Marked srv (NamedBy tempID relay) s s' ∧
      ((∃ d, LetIn srv tempID relay s d ∧ s'.deviceID_cache.has d = true ∧
          speaker srv tempID relay s = (.ok d, s')) ∨
        ((∀ d, ¬ LetIn srv tempID relay s d) ∧
          ∃ e, speaker srv tempID relay s = (.error e, s'))) := by
  rw [speaker]
  cases hdev : deviceOf tempID relay with
  | error e =>
    refine ⟨s, Marked.refl srv _ s, Or.inr ⟨?_, e, Proc.bind_lift_error rfl _ _⟩⟩
    intro d hin
    exact absurd (hdev.symm.trans hin.1) (by simp)
  | ok v =>
    rw [Proc.bind_lift_ok rfl]
    cases hstr : v.asStr with
    | error e =>
      refine ⟨s, Marked.refl srv _ s, Or.inr ⟨?_, e, Proc.bind_lift_error rfl _ _⟩⟩
      intro d hin
      obtain rfl : v = .str d := by simpa using hdev.symm.trans hin.1
      exact absurd hstr (by simp)
    | ok d =>
      obtain rfl := Value.asStr_eq_ok.mp hstr
      have hmark : Marked srv (NamedBy tempID relay) s (checkDevice srv d s).2 :=
        (checkDevice_marked srv d s).mono fun x hx => by rw [NamedBy, hdev, hx]
      rw [Proc.bind_lift_ok rfl]
      rcases checkDevice_cases srv d s with ⟨hc, h⟩ | ⟨hc, hst, hr, h⟩ | ⟨hc, hno, e, h⟩
      · rw [h] at hmark
        exact ⟨s, hmark, Or.inl ⟨d, ⟨hdev, Or.inl hc⟩, hc, Proc.bind_ok h⟩⟩
      · rw [h] at hmark
        exact ⟨_, hmark, Or.inl ⟨d, ⟨hdev, Or.inr ⟨hst, hr⟩⟩, by simp, Proc.bind_ok h⟩⟩
      · rw [h] at hmark
        refine ⟨_, hmark, Or.inr ⟨?_, e, Proc.bind_error h⟩⟩
        intro d' hlet
        obtain ⟨hd', hin⟩ := hlet
        obtain rfl : d = d' := by simpa using hdev.symm.trans hd'
        rcases hin with hin | ⟨hst, hr⟩
        · rw [hc] at hin; exact absurd hin (by simp)
        · rcases hno with hno | hno
          · rw [hno] at hst; exact absurd hst (by simp)
          · exact hno hr

theorem speaker_marked (srv : Server) (tempID : String) (relay : Value) :
    Proc.Keeps (Marked srv (NamedBy tempID relay)) (speaker srv tempID relay) := by
  intro s
  obtain ⟨s', hmark, ⟨d, _, _, h⟩ | ⟨_, e, h⟩⟩ := speaker_cases srv tempID relay s
  · rw [h]; exact hmark
  · rw [h]; exact hmark

/-- The device that speaks is the one named, and cached from then on. -/
theorem speaker_ok {tempID d : String} {relay : Value} {s s' : Store}
    (h : speaker srv tempID relay s = (.ok d, s')) :
    deviceOf tempID relay = .ok (.str d) ∧ s'.deviceID_cache.has d = true := by
  obtain ⟨s'', _, ⟨d', hin, hc, h'⟩ | ⟨_, e, h'⟩⟩ := speaker_cases srv tempID relay s
  · obtain ⟨rfl, rfl⟩ : d' = d ∧ s'' = s' := by simpa using h'.symm.trans h
    exact ⟨hin.1, hc⟩
  · exact absurd (congrArg Prod.fst (h'.symm.trans h)) (by simp)

/-! ## `join` -/

/-- The rest of a join ends in one of five ways. -/
inductive JoinEnds (srv : Server) (tempID : String) (payload relay : Value) (d : String)
    (s : Store) : Except Exc Message × Store → Prop where
  /-- An interface cannot be read: nothing was inserted. -/
  | badInfo {e : Exc} : infoList payload relay d = .error e →
      JoinEnds srv tempID payload relay d s (.error e, s)
  /-- An interface row is refused: the rows before it stay pending. -/
  | deviceRefused {fs : List Fields} {e : Exc} {db1 : Database} :
      infoList payload relay d = .ok fs → insertRows srv .Device fs s.db = (.error e, db1) →
      JoinEnds srv tempID payload relay d s (.error e, ⟨s.deviceID_cache, db1⟩)
  /-- A neighbor cannot be read: the interface rows are committed. -/
  | badNeighbor {fs : List Fields} {e : Exc} {db1 : Database} :
      infoList payload relay d = .ok fs → insertRows srv .Device fs s.db = (.ok (), db1) →
      neighborList payload d = .error e →
      JoinEnds srv tempID payload relay d s (.error e, ⟨s.deviceID_cache, db1.commit⟩)
  /-- A neighbor row is refused: the interface rows are committed. -/
  | neighborRefused {fs ns : List Fields} {e : Exc} {db1 db2 : Database} :
      infoList payload relay d = .ok fs → insertRows srv .Device fs s.db = (.ok (), db1) →
      neighborList payload d = .ok ns → insertRows srv .Neighbor ns db1.commit = (.error e, db2) →
      JoinEnds srv tempID payload relay d s (.error e, ⟨s.deviceID_cache, db2⟩)
  /-- Every row is committed. -/
  | joined {fs ns : List Fields} {db1 db2 : Database} :
      infoList payload relay d = .ok fs → insertRows srv .Device fs s.db = (.ok (), db1) →
      neighborList payload d = .ok ns → insertRows srv .Neighbor ns db1.commit = (.ok (), db2) →
      JoinEnds srv tempID payload relay d s
        (.ok ⟨"/configuration/join_ack/" ++ tempID,
          .dict [("error:", .int 0), ("id", .str d), ("relay", relay)]⟩,
          ⟨s.deviceID_cache, db2.commit⟩)

/-- An insertion that goes through is committed, and its check is passed. -/
theorem insert_ok {t : Table} {fs : List Fields} {s : Store} {db1 : Database}
    (h : insertRows srv t fs s.db = (.ok (), db1)) (msg : String) {α : Type}
    (k : Unit → Proc Exc Store α) :
    (database (db_proc srv .insert (.onTable t fs)) >>= fun db_payload =>
      liftM (checkError db_payload msg) >>= k) s = k () ⟨s.deviceID_cache, db1.commit⟩ := by
  have hsent : database (db_proc srv .insert (.onTable t fs)) s =
      (.ok (.dict [("error", .int 0)]), ⟨s.deviceID_cache, db1.commit⟩) := by
    rw [database, Proc.zoom_apply, db_proc_insert, h]
  rw [Proc.bind_ok hsent, Proc.bind_lift_ok (checkError_zero msg)]

/-- An insertion that is refused raises, and is not committed. -/
theorem insert_error {t : Table} {fs : List Fields} {s : Store} {db1 : Database} {e : Exc}
    (h : insertRows srv t fs s.db = (.error e, db1)) {α : Type} (k : Value → Proc Exc Store α) :
    (database (db_proc srv .insert (.onTable t fs)) >>= k) s =
      (.error e, ⟨s.deviceID_cache, db1⟩) := by
  refine Proc.bind_error ?_
  rw [database, Proc.zoom_apply, db_proc_insert, h]

theorem joinRows_ends (srv : Server) (tempID : String) (payload relay : Value) (d : String)
    (s : Store) :
    JoinEnds srv tempID payload relay d s (joinRows srv tempID payload relay d s) := by
  cases hinfo : infoList payload relay d with
  | error e =>
    rw [joinRows, Proc.bind_lift_error hinfo]
    exact .badInfo hinfo
  | ok fs =>
    rw [joinRows, Proc.bind_lift_ok hinfo]
    rcases hdev : insertRows srv .Device fs s.db with ⟨r, db1⟩
    cases r with
    | error e =>
      rw [insert_error hdev]
      exact .deviceRefused hinfo hdev
    | ok _ =>
      -- the first commit is made before the neighbors are read
      rw [insert_ok hdev]
      cases hnbr : neighborList payload d with
      | error e =>
        rw [Proc.bind_lift_error rfl]
        exact .badNeighbor hinfo hdev hnbr
      | ok ns =>
        rw [Proc.bind_lift_ok rfl]
        rcases hins : insertRows srv .Neighbor ns db1.commit with ⟨r, db2⟩
        cases r with
        | error e =>
          rw [insert_error hins]
          exact .neighborRefused hinfo hdev hnbr hins
        | ok _ =>
          rw [insert_ok hins]
          exact .joined hinfo hdev hnbr hins

/-- A join ends before it generates an identifier, while it does, or as `joinRows` ends. -/
theorem joinBody_cases (srv : Server) (limit : Nat) (tempID : String) (payload relay : Value)
    (s : Store) :
    ((∀ base, deviceOf tempID relay ≠ .ok (.str base)) ∧
        ∃ e, joinBody srv limit tempID payload relay s = (.error e, s)) ∨
      ∃ base, deviceOf tempID relay = .ok (.str base) ∧
        ((∃ e s', join_genID srv limit base 0 s = (.error e, s') ∧
            joinBody srv limit tempID payload relay s = (.error e, s')) ∨
          ∃ d s', join_genID srv limit base 0 s = (.ok d, s') ∧
            joinBody srv limit tempID payload relay s =
              joinRows srv tempID payload relay d s') := by
  cases hdev : deviceOf tempID relay with
  | error e =>
    refine Or.inl ⟨fun base => by simp, e, ?_⟩
    rw [joinBody, Proc.bind_lift_error hdev]
  | ok v =>
    cases hstr : v.asStr with
    | error e =>
      refine Or.inl ⟨?_, e, ?_⟩
      · intro base h
        obtain rfl : v = .str base := by simpa using h
        exact absurd hstr (by simp)
      · rw [joinBody, Proc.bind_lift_ok hdev, Proc.bind_lift_error hstr]
    | ok base =>
      obtain rfl := Value.asStr_eq_ok.mp hstr
      refine Or.inr ⟨base, rfl, ?_⟩
      -- the identifier is generated before any row is built
      rw [joinBody, Proc.bind_lift_ok hdev, Proc.bind_lift_ok hstr]
      rcases hgen : join_genID srv limit base 0 s with ⟨r, s'⟩
      cases r with
      | error e => exact Or.inl ⟨e, s', rfl, Proc.bind_error hgen⟩
      | ok d => exact Or.inr ⟨d, s', rfl, Proc.bind_ok hgen⟩

/-! ## `leave` and `update` -/

/-- **A leave always fails**: `db_proc` has no branch for a deletion, and the answer it falls
through with has no `get`. Nothing changes. -/
theorem leaveBody_error (srv : Server) (tempID : String) (relay : Value) (s : Store) :
    ∃ e, leaveBody srv tempID relay s = (.error e, s) := by
  rw [leaveBody]
  cases hdev : deviceOf tempID relay with
  | error e => exact ⟨e, Proc.bind_lift_error rfl _ _⟩
  | ok v =>
    rw [Proc.bind_lift_ok rfl]
    cases hstr : v.asStr with
    | error e => exact ⟨e, Proc.bind_lift_error rfl _ _⟩
    | ok d => exact ⟨.attributeError, Proc.bind_lift_ok rfl _ _⟩

/-- **An update always fails**: its query for the registration has no `data` to select by. Only
the device check leaves a mark. -/
theorem updateBody_error (srv : Server) (tempID : String) (payload relay updateID : Value)
    (s : Store) :
    ∃ e s', updateBody srv tempID payload relay updateID s = (.error e, s') ∧
      Marked srv (NamedBy tempID relay) s s' := by
  have hmark := speaker_marked srv tempID relay s
  rw [updateBody]
  rcases hspk : speaker srv tempID relay s with ⟨r, s1⟩
  rw [hspk] at hmark
  cases r with
  | error e => exact ⟨e, s1, Proc.bind_error hspk, hmark⟩
  | ok d =>
    rw [Proc.bind_ok hspk]
    cases hid : payload.get "id" with
    | error e => exact ⟨e, s1, Proc.bind_lift_error rfl _ _, hmark⟩
    | ok id => exact ⟨.keyError, s1, Proc.bind_lift_ok rfl _ _, hmark⟩

/-! ## `register` -/

/-- One round of the loop over `registerList` only selects. -/
theorem registerItem_selected (d : String) (item : Value) :
    Proc.Keeps Selected (registerItem srv limit d item) := by
  refine selected_frame.bind (selected_frame.lift _) fun it => ?_
  refine selected_frame.bind (selected_frame.lift _) fun flag => ?_
  refine selected_frame.bind (selected_frame.lift _) fun hash_val => ?_
  refine selected_frame.bind ?_ fun id => ?_
  · unfold itemID
    split
    · exact register_genID_selected hash_val limit flag
    · exact selected_frame.pure _
  · exact selected_frame.bind (selected_frame.lift _) fun index =>
      selected_frame.pure _

/-- The loop over `registerList` only selects. -/
theorem registerItems_selected (srv : Server) (limit : Nat) (d : String) :
    ∀ items : List Value, Proc.Keeps Selected (registerItems srv limit d items)
  | [] => selected_frame.pure _
  | item :: items =>
      selected_frame.bind (registerItem_selected d item) fun _ =>
        selected_frame.bind (registerItems_selected srv limit d items) fun _ =>
          selected_frame.pure _

/-- The part of `register` before its insertion only marks. -/
theorem registerEntries_marked (srv : Server) (limit : Nat) (tempID : String)
    (payload relay : Value) :
    Proc.Keeps (Marked srv (NamedBy tempID relay))
      (registerEntries srv limit tempID payload relay) := by
  have hframe := marked_frame srv (NamedBy tempID relay)
  refine hframe.bind (speaker_marked srv tempID relay) fun d => ?_
  refine hframe.bind (hframe.lift _) fun w => ?_
  refine hframe.bind (hframe.lift _) fun items => ?_
  exact fun s => (registerItems_selected srv limit d items s).marked

/-- A registration that gets to its insertion speaks for a device that is cached by then. -/
theorem registerEntries_ok {tempID : String} {payload relay : Value} {s s' : Store}
    {entries : List (Value × Fields)}
    (h : registerEntries srv limit tempID payload relay s = (.ok entries, s')) :
    ∃ d, deviceOf tempID relay = .ok (.str d) ∧ s'.deviceID_cache.has d = true := by
  obtain ⟨d, s1, h1, h⟩ := Proc.bind_eq_ok.mp h
  obtain ⟨w, s2, h2, h⟩ := Proc.bind_eq_ok.mp h
  obtain ⟨items, s3, h3, h⟩ := Proc.bind_eq_ok.mp h
  obtain ⟨_, h12⟩ : _ ∧ s1 = s2 := by simpa using h2
  obtain ⟨_, h23⟩ : _ ∧ s2 = s3 := by simpa using h3
  obtain ⟨hdev, hc⟩ := speaker_ok h1
  refine ⟨d, hdev, ?_⟩
  have hitems := (registerItems_selected srv limit d items s3).cache
  rw [h] at hitems
  rw [hitems, ← h23, ← h12]
  exact hc

/-- A registration ends in one of three ways. -/
inductive RegisterEnds (srv : Server) (limit : Nat) (tempID : String)
    (payload relay registerID : Value) (s : Store) : Except Exc Message × Store → Prop where
  /-- It never gets to its insertion. -/
  | stopped {e : Exc} {s1 : Store} :
      registerEntries srv limit tempID payload relay s = (.error e, s1) →
      RegisterEnds srv limit tempID payload relay registerID s (.error e, s1)
  /-- A row is refused: the rows before it stay pending. -/
  | refused {entries : List (Value × Fields)} {e : Exc} {s1 : Store} {db1 : Database} :
      registerEntries srv limit tempID payload relay s = (.ok entries, s1) →
      insertRows srv .RegisterList (entries.map Prod.snd) s1.db = (.error e, db1) →
      RegisterEnds srv limit tempID payload relay registerID s (.error e, ⟨s1.deviceID_cache, db1⟩)
  /-- Every row is committed. -/
  | registered {entries : List (Value × Fields)} {s1 : Store} {db1 : Database} :
      registerEntries srv limit tempID payload relay s = (.ok entries, s1) →
      insertRows srv .RegisterList (entries.map Prod.snd) s1.db = (.ok (), db1) →
      RegisterEnds srv limit tempID payload relay registerID s
        (.ok ⟨"/configuration/register_ack/" ++ tempID,
          .dict [("error:", .int 0), ("registerID", registerID),
            ("idList", .list (entries.map Prod.fst)), ("relay", relay)]⟩,
          ⟨s1.deviceID_cache, db1.commit⟩)

theorem registerBody_ends (srv : Server) (limit : Nat) (tempID : String)
    (payload relay registerID : Value) (s : Store) :
    RegisterEnds srv limit tempID payload relay registerID s
      (registerBody srv limit tempID payload relay registerID s) := by
  rcases hentries : registerEntries srv limit tempID payload relay s with ⟨r, s1⟩
  cases r with
  | error e =>
    rw [registerBody, Proc.bind_error hentries]
    exact .stopped hentries
  | ok entries =>
    rw [registerBody, Proc.bind_ok hentries]
    rcases hins : insertRows srv .RegisterList (entries.map Prod.snd) s1.db with ⟨r, db1⟩
    cases r with
    | error e =>
      rw [send_DBquery, insert_error hins]
      exact .refused hentries hins
    | ok _ =>
      rw [send_DBquery, insert_ok hins]
      exact .registered hentries hins

/-! ## `query` -/

/-- A list of requirements the loop of `query` runs through: something to loop over, made of
objects. -/
def ReadableRequirements (v : Value) : Prop := ∃ reqs, v.iter = .ok reqs ∧ ∀ q ∈ reqs, q.IsDict

/-- One round of the loop raises exactly on what is not an object. -/
theorem readRequirement_ok {q : Value} : readRequirement q = .ok () ↔ q.IsDict := by
  refine ⟨?_, ?_⟩
  · intro h
    obtain ⟨w, hw, _⟩ := Except.bind_eq_ok.mp h
    exact (Value.get_isOk_iff q _).mp ⟨w, hw⟩
  · intro hsome
    obtain ⟨kvs, rfl⟩ := hsome
    rfl

theorem forM_readRequirement {reqs : List Value} :
    reqs.forM readRequirement = .ok () ↔ ∀ q ∈ reqs, q.IsDict :=
  Except.forM_eq_ok.trans (forall₂_congr fun _ _ => readRequirement_ok)

/-- What a query must have to be answered without an error: a device it is let in for,
requirements to loop over, and the one category that needs no selection. -/
structure QueryPasses (srv : Server) (tempID : String) (kvs : List (String × Value)) (s : Store) :
    Prop where
  device : ∃ d, LetIn srv tempID (field kvs "relay") s d
  requirements : ReadableRequirements (field kvs "requirements")
  queryType : ∃ q, field kvs "queryType" = .str q
  category : field kvs "category" = .str "Sensor"

/-- The successful answer of `query`. -/
def queryReply (tempID : String) (kvs : List (String × Value)) : Message :=
  ⟨"/utilization/reply/" ++ tempID,
    .dict [("error:", .int 0), ("queryID", field kvs "queryID"), ("desc", field kvs "desc"),
      ("ids", .list sensorIDs), ("relay", field kvs "relay")]⟩

/-- Sensors are answered from the fixed list, and any other category is selected by a column
`RegisterList` does not have. -/
theorem db_proc_query (srv : Server) (queryType category requirements : Value) (db : Database) :
    (category = .str "Sensor" ∧
        db_proc srv .select (.onTable .RegisterList [[("queryType", queryType),
          ("category", category), ("requirements", requirements)]]) db =
          (.ok (.dict [("error", .int 0), ("data", .list sensorIDs)]), db)) ∨
      (category ≠ .str "Sensor" ∧ ∃ e,
        db_proc srv .select (.onTable .RegisterList [[("queryType", queryType),
          ("category", category), ("requirements", requirements)]]) db = (.error e, db.tick)) := by
  have hget : (Dict.get [("queryType", queryType), ("category", category),
      ("requirements", requirements)] "category").getD .none = category := rfl
  rw [db_proc, hget]
  cases hcat : category.isStr "Sensor" with
  | true => exact Or.inl ⟨Value.isStr_eq_true.mp hcat, rfl⟩
  | false =>
    refine Or.inr ⟨fun h => by rw [h] at hcat; exact absurd hcat (by decide), ?_⟩
    simp only [Bool.false_eq_true, if_false, Proc.bind_apply, Server.execute]
    cases srv.refuses db.executed _ with
    | some code => exact ⟨_, rfl⟩
    | none => exact ⟨_, rfl⟩

/-- **A query is answered from the fixed list, or with an error.** -/
theorem queryBody_cases (srv : Server) (limit : Nat) (tempID : String)
    (kvs : List (String × Value)) (s : Store) :
    ∃ s', Marked srv (NamedBy tempID (field kvs "relay")) s s' ∧
      ((QueryPasses srv tempID kvs s ∧
          bodyOf srv limit .query tempID kvs s = (.ok (queryReply tempID kvs), s')) ∨
        (¬ QueryPasses srv tempID kvs s ∧
          ∃ e, bodyOf srv limit .query tempID kvs s = (.error e, s'))) := by
  have hbody : bodyOf srv limit .query tempID kvs =
      queryBody srv tempID (.dict kvs) (field kvs "relay") (field kvs "queryID") := rfl
  rw [hbody, queryBody]
  obtain ⟨s1, hmark, ⟨d, hin, _, hspk⟩ | ⟨hout, e, hspk⟩⟩ :=
    speaker_cases srv tempID (field kvs "relay") s
  · rw [Proc.bind_ok hspk]
    simp only [Proc.bind_apply, Proc.liftM_apply, get_field, database, Proc.zoom_apply,
      Proc.pure_apply]
    -- each part of `QueryPasses` is one point where the handler can raise
    cases hreqs : (field kvs "requirements").iter with
    | error e =>
      refine ⟨s1, hmark, Or.inr ⟨fun h => ?_, e, rfl⟩⟩
      obtain ⟨reqs, hiter, _⟩ := h.requirements
      exact absurd (hreqs.symm.trans hiter) (by simp)
    | ok reqs =>
      cases hall : reqs.forM readRequirement with
      | error e =>
        refine ⟨s1, hmark, Or.inr ⟨fun h => ?_, e, by simp only [hall]⟩⟩
        obtain ⟨reqs', hiter, hdicts⟩ := h.requirements
        obtain rfl : reqs = reqs' := by simpa using hreqs.symm.trans hiter
        rw [forM_readRequirement.mpr hdicts] at hall
        exact absurd hall (by simp)
      | ok _ =>
        cases htype : (field kvs "queryType").asStr with
        | error e =>
          refine ⟨s1, hmark, Or.inr ⟨fun h => ?_, e, by simp only [hall]⟩⟩
          obtain ⟨q, hq⟩ := h.queryType
          rw [hq] at htype
          exact absurd htype (by simp)
        | ok q =>
          rcases db_proc_query srv (field kvs "queryType") (field kvs "category")
            (field kvs "requirements") s1.db with ⟨hcat, hsel⟩ | ⟨hcat, e, hsel⟩
          · refine ⟨s1, hmark, Or.inl ⟨⟨⟨d, hin⟩, ⟨reqs, hreqs, forM_readRequirement.mp hall⟩,
              ⟨q, Value.asStr_eq_ok.mp htype⟩, hcat⟩, ?_⟩⟩
            simp only [hall, hsel]
            rfl
          · refine ⟨⟨s1.deviceID_cache, s1.db.tick⟩, ⟨hmark.log, hmark.grows, hmark.only⟩,
              Or.inr ⟨fun h => hcat h.category, e, ?_⟩⟩
            simp only [hall, hsel]
  · exact ⟨s1, hmark, Or.inr ⟨fun h => h.device.elim fun d hd => hout d hd, e,
      Proc.bind_error hspk⟩⟩

end Versatile.FlexIDMngerDb
