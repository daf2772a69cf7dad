import Versatile.Legible
import Versatile.FlexIDMngerDb.Registered

/-!
# The answers of `flexIDMnger_db.py` can be read

`on_message` with the bytes it really gets: UTF-8, and JSON in it. Every answer is made of
fields of the request, which were received, and of texts and numbers of the manager. So in every
run each answer goes out as bytes that any receiver reads as the very dictionary the manager
made, if it has the room the request took, and at least for three levels. The runs are those of
messages without a lone surrogate: there is no `String` for a text with one.
-/

namespace Versatile.FlexIDMngerDb

open Py Py.Json

variable {srv : Server} {limit : Nat} {float : String → String × Option Int} {n k : Nat}

/-! ## One answer -/

/-- Every answer ends with the relay of its request. -/
theorem relay_readable {kvs : List (String × Value)} (h : Readable float n (.dict kvs))
    (hk : n - 1 ≤ k) : ReadableMembers float k [("relay", field kvs "relay")] :=
  .cons (by simp [Dict.keys]) ((readable_field h "relay").mono hk) (.nil k)

/-- The failure message of a request. -/
theorem failureOf_readable {kvs : List (String × Value)} (h : Readable float n (.dict kvs))
    (hk : n - 1 ≤ k) (op : Op) (tempID : String) :
    Readable float (k + 1) (failureOf op tempID kvs).payload := by
  have hfield : ∀ name, Readable float k (field kvs name) :=
    fun name => (readable_field h name).mono hk
  have hrelay := relay_readable h hk
  cases op with
  | leave => exact (ReadableMembers.cons (by simp [Dict.keys]) (.int k 1) hrelay).dict
  | join =>
    exact (ReadableMembers.cons (by simp [Dict.keys]) (.int k 1)
      (.cons (by simp [Dict.keys]) (.str k _) hrelay)).dict
  | _ =>
    exact (ReadableMembers.cons (by simp [Dict.keys]) (.int k 1)
      (.cons (by simp [Dict.keys]) (hfield _) hrelay)).dict

/-- An entry of `idList` is a dictionary with one text. -/
theorem idEntry_readable {d : String} {items : List Value} {entries : List (Value × Fields)}
    (h : List.Forall₂ (Builds d) items entries) :
    ∀ entry ∈ entries, Readable float (k + 1) entry.1 := by
  induction h with
  | nil => exact fun _ hmem => absurd hmem (by simp)
  | cons hbuild _ ih =>
    intro entry hmem
    rcases List.mem_cons.mp hmem with rfl | hmem
    · cases hbuild with
      | item _ _ =>
        exact (ReadableMembers.cons (by simp [Dict.keys]) (.str k _) (.nil k)).dict
    · exact ih entry hmem

/-- So `idList` is a list of such entries. -/
theorem idList_readable {d : String} {items : List Value} {entries : List (Value × Fields)}
    (h : List.Forall₂ (Builds d) items entries) :
    Readable float (k + 2) (.list (entries.map Prod.fst)) := by
  refine .list fun v hv => ?_
  obtain ⟨entry, hentry, rfl⟩ := List.mem_map.mp hv
  exact idEntry_readable h entry hentry

/-- The reply to a query for sensors. -/
theorem queryReply_readable {kvs : List (String × Value)} (h : Readable float n (.dict kvs))
    (hk : n - 1 ≤ k + 2) (tempID : String) :
    Readable float (k + 3) (queryReply tempID kvs).payload := by
  have hfield : ∀ name, Readable float (k + 2) (field kvs name) :=
    fun name => (readable_field h name).mono hk
  have hids : Readable float (k + 2) (.list sensorIDs) := by
    refine .list fun v hv => ?_
    rcases List.mem_cons.mp hv with rfl | hv
    · exact .str _ _
    · obtain rfl := List.mem_singleton.mp hv
      exact .str _ _
  exact (ReadableMembers.cons (by simp [Dict.keys]) (.int _ 0)
    (.cons (by simp [Dict.keys]) (hfield _) (.cons (by simp [Dict.keys]) (hfield _)
      (.cons (by simp [Dict.keys]) hids (relay_readable h hk))))).dict

/-- The message of a `try` block that went through. -/
theorem bodyOf_readable {kvs : List (String × Value)} (h : Readable float n (.dict kvs))
    (hk : n - 1 ≤ k) (htwo : 2 ≤ k) {op : Op} {tempID : String} {s s' : Store} {msg : Message}
    (hb : bodyOf srv limit op tempID kvs s = (.ok msg, s')) :
    Readable float (k + 1) msg.payload := by
  have hfield : ∀ name, Readable float k (field kvs name) :=
    fun name => (readable_field h name).mono hk
  have hrelay := relay_readable h hk
  obtain ⟨j, rfl⟩ : ∃ j, k = j + 2 := ⟨k - 2, by omega⟩
  cases op with
  | join =>
    rcases joinBody_cases srv limit tempID (.dict kvs) (field kvs "relay") s with
      ⟨_, e, hno⟩ | ⟨base, _, ⟨e, s1, _, hno⟩ | ⟨d, s1, _, hrows⟩⟩
    · exact absurd (hno.symm.trans hb) (by simp)
    · exact absurd (hno.symm.trans hb) (by simp)
    · have hends := joinRows_ends srv tempID (.dict kvs) (field kvs "relay") d s1
      rw [← hrows, show joinBody srv limit tempID (.dict kvs) (field kvs "relay") s = _ from hb]
        at hends
      cases hends with
      | joined _ _ _ _ =>
        exact (ReadableMembers.cons (by simp [Dict.keys]) (.int _ 0)
          (.cons (by simp [Dict.keys]) (.str _ d) hrelay)).dict
  | leave =>
    obtain ⟨e, hno⟩ := leaveBody_error srv tempID (field kvs "relay") s
    exact absurd (hno.symm.trans hb) (by simp)
  | register =>
    have hends := registerBody_ends srv limit tempID (.dict kvs) (field kvs "relay")
      (field kvs "registerID") s
    rw [show registerBody srv limit tempID (.dict kvs) (field kvs "relay")
      (field kvs "registerID") s = _ from hb] at hends
    cases hends with
    | @registered entries _ _ hentries _ =>
      obtain ⟨d, items, _, _, hbuilds⟩ := registerEntries_builds hentries
      have hidList : Readable float (j + 2) (.list (entries.map Prod.fst)) :=
        idList_readable hbuilds
      exact (ReadableMembers.cons (by simp [Dict.keys]) (.int _ 0)
        (.cons (by simp [Dict.keys]) (hfield _) (.cons (by simp [Dict.keys]) hidList hrelay))).dict
  | update =>
    obtain ⟨e, s1, hno, _⟩ := updateBody_error srv tempID (.dict kvs) (field kvs "relay")
      (field kvs "updateID") s
    exact absurd (hno.symm.trans hb) (by simp)
  | query =>
    obtain ⟨s1, _, ⟨_, hq⟩ | ⟨_, e, hq⟩⟩ := queryBody_cases srv limit tempID kvs s
    · obtain ⟨rfl, _⟩ : queryReply tempID kvs = msg ∧ s1 = s' := by simpa using hq.symm.trans hb
      exact queryReply_readable h hk tempID
    · exact absurd (hq.symm.trans hb) (by simp)

/-- **Whatever a request is answered can be read**, where there was room for the request. -/
theorem step_readable {m : Manager} {r : Request} (h : Readable float n r.payload)
    (hk : n - 1 ≤ k) (htwo : 2 ≤ k)
    (hpub : ∀ msg ∈ m.published, Readable float (k + 1) msg.payload) :
    ∀ msg ∈ (step srv limit m r).published, Readable float (k + 1) msg.payload := by
  obtain ⟨op, tempID, payload⟩ := r
  by_cases hdict : payload.IsDict
  · obtain ⟨kvs, rfl⟩ := hdict
    rw [step_dict srv limit]
    intro msg hmsg
    rcases List.mem_append.mp hmsg with hmsg | hmsg
    · exact hpub msg hmsg
    · obtain rfl := List.mem_singleton.mp hmsg
      unfold reply
      split
      · rename_i msg hb
        exact bodyOf_readable h hk htwo (Prod.ext hb rfl)
      · exact failureOf_readable h hk op tempID
  · rw [step_not_dict hdict]
    exact hpub

/-! ## Runs -/

/-- One message received: its topic, and its bytes. There is no state behind a message with a lone
surrogate. -/
def received (srv : Server) (limit : Nat) (float : String → String × Option Int) (n : Nat)
    (m : Manager) (delivery : String × List UInt8) : Option Manager :=
  match receive float n delivery.2 with
  | .error .loneSurrogate => none
  | _ => some (on_message srv limit (receive float n) delivery.1 delivery.2 m).2

/-- What is received is a request, or it changes nothing. -/
theorem received_cases {m m' : Manager} {delivery : String × List UInt8}
    (h : received srv limit float n m delivery = some m') :
    m' = m ∨ ∃ r : Request, receive float n delivery.2 = .ok r.payload ∧
      m' = step srv limit m r := by
  obtain ⟨topic, bytes⟩ := delivery
  obtain rfl : (on_message srv limit (receive float n) topic bytes m).2 = m' := by
    unfold received at h
    split at h
    · exact absurd h (by simp)
    · exact Option.some.inj h
  unfold on_message
  simp only [Proc.bind_apply, Proc.liftM_apply]
  cases hload : receive float n bytes with
  | error e => exact Or.inl rfl
  | ok payload =>
    cases route (splitTopic topic) with
    | error e => exact Or.inl rfl
    | ok picked =>
      cases picked with
      | none => exact Or.inl rfl
      | some picked => exact Or.inr ⟨⟨picked.1, picked.2, payload⟩, rfl, rfl⟩

/--
**Every answer can be read.**

Whatever messages without a lone surrogate the manager receives, on whatever topics, and whatever
the database does, each answer it publishes goes out as bytes that a receiver decodes to the
dictionary the answer was made as. The receiver needs the room the manager has, and room for the
three levels of an `idList`.
-/
theorem published_legible (hfloat : ReprReads float) {room : Nat} (hn : n ≤ room)
    (hthree : 3 ≤ room) {tables : List (Table × Tuple)} {executed : Nat}
    {deliveries : List (String × List UInt8)} {m : Manager}
    (hrun : deliveries.foldlM (received srv limit float n) (start tables executed) = some m) :
    Legible float room m.published := by
  obtain ⟨k, rfl⟩ : ∃ k, room = k + 1 := ⟨room - 1, by omega⟩
  -- by induction on the deliveries, from any state with nothing but readable answers
  have hread : ∀ m0 : Manager, (∀ msg ∈ m0.published, Readable float (k + 1) msg.payload) →
      deliveries.foldlM (received srv limit float n) m0 = some m →
      ∀ msg ∈ m.published, Readable float (k + 1) msg.payload := by
    clear hrun
    induction deliveries with
    | nil =>
      intro m0 hpub hrun
      obtain rfl := Option.some.inj hrun
      exact hpub
    | cons delivery deliveries ih =>
      intro m0 hpub hrun
      obtain ⟨m1, hone, hrest⟩ := Option.bind_eq_some_iff.mp hrun
      refine ih m1 ?_ hrest
      rcases received_cases hone with rfl | ⟨r, hload, rfl⟩
      · exact hpub
      · exact step_readable (receive_readable hfloat hload) (by omega) (by omega) hpub
  have hstart := hread (start tables executed) (fun _ hmem => absurd hmem (by simp [start])) hrun
  exact fun msg hmsg => receive_send (hstart msg hmsg) (Nat.le_refl _)

/-- The theorem on a query with a float for its identifier, which the answer carries. -/
theorem published_legible_half :
    ∃ m, [("/utilization/query/t", halfBytes)].foldlM (received .exact 10 half 3) (start [] 0) =
        some m ∧
      m.published.map (dumps ·.payload) =
        ["\x7b\"error\": 1, \"queryID\": 0.5, \"relay\": \"none\"\x7d"] ∧
      Legible half 3 m.published := by
  have hrun : [("/utilization/query/t", halfBytes)].foldlM (received .exact 10 half 3)
      (start [] 0) = some (on_message .exact 10 (receive half 3) "/utilization/query/t" halfBytes
        (start [] 0)).2 := rfl
  exact ⟨_, hrun, by decide +kernel,
    published_legible half_reads (Nat.le_refl 3) (Nat.le_refl 3) hrun⟩

end Versatile.FlexIDMngerDb
