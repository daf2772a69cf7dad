import Versatile.Concurrent.Calls

/-!
# Every handler follows the protocol

Each handler of both resolvers, as a program of allowed operations: it changes what its message
asks for, commits, and only then answers with success. Reading the message is the same in the
handler and in what the message asks for, so the rows that were inserted are the rows asked for.
-/

namespace Versatile.Calls

open Py Diversity
open ResolverPer (Interpreter deviceIDOf requesterOf uniqueCodesOf)

variable {p : Process}

/-! ## What a program makes of its phase -/

/-- The phase after some changes. -/
structure Made (φ ψ : Phase p) (cs : List Change) : Prop where
  call : ψ.call = φ.call
  changes : ψ.changes = φ.changes ++ cs
  columns : φ.columns ≤ ψ.columns

theorem Made.refl (φ : Phase p) : Made φ φ [] := ⟨rfl, (List.append_nil _).symm, Nat.le_refl _⟩

theorem Made.trans {φ ψ χ : Phase p} {cs cs' : List Change} (h : Made φ ψ cs)
    (h' : Made ψ χ cs') : Made φ χ (cs ++ cs') where
  call := h'.call.trans h.call
  changes := by rw [h'.changes, h.changes, List.append_assoc]
  columns := Nat.le_trans h.columns h'.columns

theorem made_made (φ : Phase p) (c : Change) : Made φ (φ.made c) [c] :=
  ⟨rfl, rfl, Nat.le_refl _⟩

/-- An answer that the phase allows. -/
def Honest (payload : Value) (φ : Phase p) : Prop :=
  Success payload → φ.stored = true ∧ p.Asks φ.call payload φ.changes

theorem not_success_error {n : Int} (h : n ≠ 0) : ¬ Success (answerOf n) := by
  intro hcase
  rcases hcase with hzero | hgood
  · exact h (Option.some.inj hzero)
  · exact absurd hgood (by simp [answerOf])

theorem not_success_joinAnswer {n : Int} (h : n ≠ 0) (deviceID : String) :
    ¬ Success (joinAnswer n deviceID) := by
  intro hcase
  rcases hcase with hzero | hgood
  · exact h (Option.some.inj hzero)
  · exact absurd hgood (by simp [joinAnswer])

section Follows

variable {φ : Phase p} {α β : Type}

/-! ### Operations -/

/-- A call of the database, which may also fail. -/
theorem follows_execute {q : Statement} {A : q.Result → Phase p → Prop}
    (h : φ.allows (.execute q)) (hA : ∀ a, A a (φ.next (.execute q) (.ok a))) :
    Prog.Follows (protocol p) A (execute q) φ := by
  refine Prog.follows_bind (Prog.follows_perform (A := fun r ψ => ∀ a, r = .ok a → A a ψ) h ?_) ?_
  · intro _ _ a heq
    obtain rfl := heq
    exact hA a
  · intro r ψ hr
    exact Prog.follows_lift fun a ha => hr a (answered_eq_ok.mp ha)

/-- A new connection, before the first change. -/
theorem follows_connect (h : φ.changes = []) :
    Prog.Follows (protocol p) (fun _ ψ => ψ = φ) connect φ := by
  have hconnect : Prog.Only (fun o => o = .connect) connect := only_connect rfl
  refine hconnect.follows ?_ ?_
  · intro _ heq
    obtain rfl := heq
    exact h
  · intro _ _ b heq
    obtain rfl := heq
    rfl

theorem follows_commit :
    Prog.Follows (protocol p) (fun _ ψ => ψ = { φ with stored := true }) commit φ := by
  refine Prog.follows_bind (Prog.follows_perform
    (A := fun r ψ => r = .ok () → ψ = { φ with stored := true }) trivial ?_) ?_
  · intro _ _ heq
    obtain rfl := heq
    rfl
  · intro r ψ hr
    exact Prog.follows_lift fun _ ha => hr (answered_eq_ok.mp ha)

theorem follows_emit {ε : Type} {event : String} {payload : Value} (h : Honest payload φ) :
    Prog.Follows (protocol p) (fun _ ψ => ψ = φ)
      (emit event payload : Prog Act Act.Res ε Unit) φ := ⟨h, fun _ _ => rfl⟩

/-- An event that is no answer of success. -/
theorem follows_other {ε : Type} {event : String} {payload : Value} (h : ¬ Success payload) :
    Prog.Follows (protocol p) (fun _ _ => True)
      (emit event payload : Prog Act Act.Res ε Unit) φ :=
  (follows_emit fun hok => absurd hok h).mono fun _ _ _ => trivial

/-- A row for each value, if they can be built. -/
theorem follows_insertAll {t : Table} {rowOf : Value → Except Exc Row} {vs : List Value} :
    Prog.Follows (protocol p) (fun _ ψ => ∃ cs, inserts t rowOf vs = .ok cs ∧ Made φ ψ cs)
      (insertAll t rowOf vs) φ := by
  induction vs generalizing φ with
  | nil => exact ⟨[], rfl, Made.refl φ⟩
  | cons v vs ih =>
    refine Prog.follows_lift_bind fun row hrow => ?_
    refine Prog.follows_bind (A := fun _ ψ => ψ = φ.made (.insert t row))
      (follows_execute trivial fun _ => rfl) ?_
    intro _ ψ heq
    obtain rfl := heq
    refine ih.mono ?_
    intro _ χ hrest
    obtain ⟨cs, hcs, hmade⟩ := hrest
    refine ⟨.insert t row :: cs, ?_, (made_made φ _).trans hmade⟩
    obtain ⟨rows, hrows, hpure⟩ := Except.bind_eq_ok.mp hcs
    obtain rfl := Except.pure_eq_ok.mp hpure
    exact Except.bind_eq_ok.mpr ⟨row :: rows,
      Except.mapM_cons_eq_ok.mpr ⟨row, rows, hrow, hrows, rfl⟩, rfl⟩

/-- **Work, a commit, and an answer.** What follows the commit knows what the work did. -/
theorem follows_transaction {work : Handler α} {answer : α → Handler β}
    {Q : α → List Change → Prop} {A : β → Phase p → Prop}
    (hwork : Prog.Follows (protocol p) (fun a ψ => ∃ cs, Q a cs ∧ Made φ ψ cs) work φ)
    (hanswer : ∀ a cs ψ, Q a cs → Made φ ψ cs → ψ.stored = true →
      Prog.Follows (protocol p) A (answer a) ψ) :
    Prog.Follows (protocol p) A (work >>= fun a => commit >>= fun _ => answer a) φ := by
  refine Prog.follows_bind hwork ?_
  intro a ψ hdone
  obtain ⟨cs, hQ, hmade⟩ := hdone
  refine Prog.follows_bind follows_commit ?_
  intro _ χ heq
  obtain rfl := heq
  exact hanswer a cs _ hQ ⟨hmade.call, hmade.changes, hmade.columns⟩ rfl

/-- The next device ID changes nothing. -/
theorem follows_newDeviceID (h : φ.changes = []) :
    Prog.Follows (protocol p) (fun _ ψ => ψ = φ) newDeviceID φ := by
  refine Prog.follows_bind (follows_connect h) ?_
  intro _ ψ heq
  obtain rfl := heq
  refine Prog.follows_bind (A := fun _ ψ' => ψ' = ψ) (follows_execute trivial fun _ => rfl) ?_
  intro _ χ heq
  exact heq

/-- Deletions of a device in some tables, one after another. -/
theorem follows_delete {t : Table} {deviceID : String} (h : p.Leaves φ.call deviceID) :
    Prog.Follows (protocol p) (fun _ ψ => Made φ ψ [.delete t deviceID])
      (execute (.delete t deviceID)) φ :=
  follows_execute h fun _ => made_made φ _

/-! ### Updates -/

/-- The columns from `n` on, the first of which is at most the next. -/
theorem follows_addColumns {n count : Nat} (h : n ≤ φ.columns + 1) :
    Prog.Follows (protocol p) (fun _ ψ => Made φ ψ []) (ResolverPer.addColumns n count) φ := by
  induction count generalizing n φ with
  | zero => exact Made.refl φ
  | succ count ih =>
    refine Prog.follows_bind (A := fun _ ψ => ψ = { φ with columns := max φ.columns n })
      (follows_execute h fun _ => rfl) ?_
    intro _ ψ heq
    obtain rfl := heq
    refine (ih (Nat.succ_le_succ (Nat.le_max_right _ _))).mono ?_
    intro _ χ hmade
    exact ⟨hmade.call, hmade.changes, Nat.le_trans (Nat.le_max_left _ _) hmade.columns⟩

/-- The loop over the services, by its round. -/
theorem follows_services {idOf : Nat → Value → String → Prop} {deviceID : String} {attrCount : Nat}
    {round : Value → Handler Unit} {loop : List Value → Handler Unit} (hnil : loop [] = pure ())
    (hcons : ∀ v vs, loop (v :: vs) = round v >>= fun _ => loop vs)
    (hround : ∀ v (φ : Phase p), attrCount ≤ φ.columns → Prog.Follows (protocol p)
      (fun _ ψ => ∃ c, StoresService idOf deviceID v c ∧ Made φ ψ [c]) (round v) φ)
    (services : List Value) (h : attrCount ≤ φ.columns) :
    Prog.Follows (protocol p)
      (fun _ ψ => ∃ cs, List.Forall₂ (StoresService idOf deviceID) services cs ∧ Made φ ψ cs)
      (loop services) φ := by
  induction services generalizing φ with
  | nil =>
    rw [hnil]
    exact ⟨[], .nil, Made.refl φ⟩
  | cons v vs ih =>
    rw [hcons]
    refine Prog.follows_bind (hround v φ h) ?_
    intro _ ψ hdone
    obtain ⟨c, hc, hmade⟩ := hdone
    refine (ih (Nat.le_trans h hmade.columns)).mono ?_
    intro _ χ hrest
    obtain ⟨cs, hcs, hmade'⟩ := hrest
    exact ⟨c :: cs, .cons hc hcs, hmade.trans hmade'⟩

/-- An update of a device, from the count of the columns on. -/
theorem follows_updateRows {idOf : Nat → Value → String → Prop} {deviceID : String}
    {content : Value} (loop : Nat → List Value → Handler Unit)
    (hloop : ∀ attrCount services (ψ : Phase p), attrCount ≤ ψ.columns →
      Prog.Follows (protocol p)
        (fun _ χ => ∃ cs, List.Forall₂ (StoresService idOf deviceID) services cs ∧ Made ψ χ cs)
        (loop attrCount services) ψ)
    (hd : deviceIDOf content = .ok deviceID) :
    Prog.Follows (protocol p) (fun _ ψ => ∃ cs, UpdateChanges idOf content cs ∧ Made φ ψ cs)
      ((do
        let serviceList ← content.get "services"
        let columns ← columnCount
        let services ← serviceList.iter
        loop (columns - 4) services) : Handler Unit) φ := by
  refine Prog.follows_lift_bind fun serviceList hlist => ?_
  refine Prog.follows_bind
    (A := fun columns ψ => ψ = { φ with columns := max φ.columns (columns - 4) })
    (follows_execute trivial fun _ => rfl) ?_
  intro columns ψ heq
  obtain rfl := heq
  refine Prog.follows_lift_bind fun services hiter => ?_
  refine (hloop _ services _ (Nat.le_max_right _ _)).mono ?_
  intro _ χ hdone
  obtain ⟨cs, hcs, hmade⟩ := hdone
  exact ⟨cs, ⟨deviceID, serviceList, services, hd, hlist, hiter, hcs⟩, hmade.call, hmade.changes,
    Nat.le_trans (Nat.le_max_left _ _) hmade.columns⟩

/-! ### Requests -/

/-- The insertions of a request that was read. -/
theorem requestChanges_ok {content deviceID' qosRequirements : Value}
    {requestID serviceID deviceID : String} {vs : List Value} {cs : List Change}
    (hget : content.get "deviceID" = .ok deviceID') (hd : deviceID'.asStr = .ok deviceID)
    (hqos : content.get "qosRequirements" = .ok qosRequirements)
    (hiter : qosRequirements.iter = .ok vs)
    (hcs : inserts .QosRequirement (ResolverPer.requirementRow requestID) vs = .ok cs) :
    requestChanges content requestID serviceID =
      .ok (requestInsert requestID deviceID serviceID :: cs) := by
  have hrequester : requesterOf content = .ok deviceID :=
    Except.bind_eq_ok.mpr ⟨deviceID', hget, hd⟩
  simp only [requestChanges, Except.bind_eq_ok]
  exact ⟨deviceID, hrequester, qosRequirements, hqos, vs, hiter, cs, hcs, rfl⟩

/-- The largest service ID, if there is one. -/
theorem follows_anyService :
    Prog.Follows (protocol p) (fun _ ψ => ψ = φ) ResolverPer.anyService φ := by
  refine Prog.follows_bind (A := fun _ ψ => ψ = φ) (follows_execute trivial fun _ => rfl) ?_
  intro serviceID ψ heq
  cases serviceID with
  | none => trivial
  | some serviceID => exact heq

end Follows

/-! ## The handlers of `resolver_per.py` -/

section Sockets

variable {py : Interpreter} {js : String} {content : Value} {deviceID : String}
  {φ : Phase (.sockets py)}

theorem follows_perJoinRows : Prog.Follows (protocol (.sockets py))
    (fun _ ψ => ∃ cs, perJoinChanges content deviceID = .ok cs ∧ Made φ ψ cs)
    (ResolverPer.joinRows content deviceID) φ := by
  refine Prog.follows_lift_bind fun relay hrelay => ?_
  refine Prog.follows_lift_bind fun relayText htext => ?_
  refine Prog.follows_lift_bind fun neighbors hneighbors => ?_
  refine Prog.follows_bind follows_insertAll ?_
  intro _ ψ hdone
  obtain ⟨cs, hcs, hmade⟩ := hdone
  refine Prog.follows_lift_bind fun uniqueCodes hcodes => ?_
  refine follows_insertAll.mono ?_
  intro _ χ hdone
  obtain ⟨cs', hcs', hmade'⟩ := hdone
  refine ⟨cs ++ cs', ?_, hmade.trans hmade'⟩
  simp only [perJoinChanges, Except.bind_eq_ok]
  exact ⟨relay, hrelay, relayText, htext, neighbors, hneighbors, cs, hcs, uniqueCodes, hcodes, cs',
    hcs', rfl⟩

theorem follows_perJoin (hjs : py.loads js = .ok content) (hφ : φ.call = (.Join, js))
    (hnew : φ.changes = []) : Prog.Follows (protocol (.sockets py)) (fun _ _ => True)
      (ResolverPer.joinTry content) φ := by
  refine Prog.follows_bind (Prog.follows_tryExcept (follows_newDeviceID hnew) fun _ _ => trivial) ?_
  intro deviceID ψ heq
  obtain rfl := heq
  refine Prog.follows_tryExcept ?_ fun _ _ => trivial
  refine follows_transaction follows_perJoinRows ?_
  intro _ cs χ hcs hmade hstored
  refine (follows_emit fun _ => ⟨hstored, ?_⟩).mono fun _ _ _ => trivial
  rw [hmade.call, hφ, hmade.changes, hnew]
  exact ⟨content, hjs, deviceID, rfl, hcs⟩

theorem follows_perService {attrCount : Nat} {service : Value} (h : attrCount ≤ φ.columns) :
    Prog.Follows (protocol (.sockets py))
      (fun _ ψ => ∃ c, StoresService perID deviceID service c ∧ Made φ ψ [c])
      (ResolverPer.updateService deviceID attrCount service) φ := by
  refine Prog.follows_lift_bind fun serviceType htype => ?_
  refine Prog.follows_bind (A := fun serviceID ψ => ψ = φ ∧ ∃ manageNum,
    ResolverPer.serviceIDOf manageNum serviceType = .ok serviceID) ?_ ?_
  · refine ⟨trivial, fun _ manageNum => ?_⟩
    exact Prog.follows_lift fun serviceID hid => ⟨rfl, manageNum, hid⟩
  intro serviceID ψ hid
  obtain ⟨rfl, manageNum, hid⟩ := hid
  refine Prog.follows_lift_bind fun attributes hattributes => ?_
  refine Prog.follows_lift_bind fun length _ => ?_
  refine Prog.follows_bind (follows_addColumns (Nat.succ_le_succ h)) ?_
  intro _ ψ hmade
  refine Prog.follows_lift_bind fun texts htexts => ?_
  refine Prog.follows_lift_bind fun id hidText => ?_
  refine Prog.follows_lift_bind fun type htypeText => ?_
  obtain rfl := Value.asStr_eq_ok.mp hidText
  obtain rfl := Value.asStr_eq_ok.mp htypeText
  refine follows_execute trivial fun _ => ?_
  exact ⟨_, ⟨manageNum, type, id, attributes, texts, htype, hid, hattributes, htexts, rfl⟩,
    hmade.trans (made_made ψ _)⟩

theorem follows_perUpdate (hjs : py.loads js = .ok content) (hφ : φ.call = (.Update, js))
    (hnew : φ.changes = []) : Prog.Follows (protocol (.sockets py)) (fun _ _ => True)
      (ResolverPer.updateBody content) φ := by
  refine Prog.follows_bind (A := fun r ψ => ψ = φ ∧ deviceIDOf content = .ok r.1) ?_ ?_
  · refine Prog.follows_bind (follows_connect hnew) ?_
    intro _ ψ heq
    obtain rfl := heq
    refine Prog.follows_lift_bind fun deviceID hd => ?_
    exact Prog.follows_bind (A := fun _ χ => χ = ψ) (follows_execute trivial fun _ => rfl)
      fun _ χ heq => ⟨heq, hd⟩
  intro r ψ hfound
  obtain ⟨deviceID, exist⟩ := r
  obtain ⟨rfl, hd⟩ := hfound
  by_cases hexist : exist = 0
  · simp only [if_pos hexist]
    trivial
  · simp only [if_neg hexist]
    refine follows_transaction (follows_updateRows (ResolverPer.updateServices deviceID)
      (fun attrCount services χ hle => follows_services rfl (fun _ _ => rfl)
        (fun _ _ h => follows_perService h) services hle) hd) ?_
    intro _ cs χ hcs hmade hstored
    refine Prog.follows_bind (follows_emit fun _ => ⟨hstored, ?_⟩) fun _ _ _ => trivial
    rw [hmade.call, hφ, hmade.changes, hnew]
    exact ⟨content, hjs, hcs⟩

theorem follows_perLeave (hjs : py.loads js = .ok content) (hφ : φ.call = (.Leave, js))
    (hnew : φ.changes = []) : Prog.Follows (protocol (.sockets py)) (fun _ _ => True)
      (ResolverPer.leaveBody content) φ := by
  refine follows_transaction (Q := fun _ cs => ∃ deviceID, deviceIDOf content = .ok deviceID ∧
    cs = leaveChanges [.Device, .Service, .Neighbor] deviceID) ?_ ?_
  · refine Prog.follows_lift_bind fun deviceID hd => ?_
    have hleaves : ∀ {ψ : Phase (.sockets py)}, ψ.call = φ.call →
        (Process.sockets py).Leaves ψ.call deviceID := by
      intro ψ hcall
      rw [hcall, hφ]
      exact ⟨rfl, content, hjs, hd⟩
    refine Prog.follows_bind (follows_connect hnew) ?_
    intro _ ψ heq
    obtain rfl := heq
    refine Prog.follows_bind (follows_delete (hleaves rfl)) ?_
    intro _ χ hmade
    refine Prog.follows_bind (follows_delete (hleaves hmade.call)) ?_
    intro _ χ' hmade'
    refine (follows_delete (hleaves (hmade.trans hmade').call)).mono ?_
    intro _ _ hmade''
    exact ⟨_, ⟨deviceID, hd, rfl⟩, (hmade.trans hmade').trans hmade''⟩
  · intro _ cs χ hcs hmade hstored
    refine (follows_emit fun _ => ⟨hstored, ?_⟩).mono fun _ _ _ => trivial
    rw [hmade.call, hφ, hmade.changes, hnew]
    exact ⟨content, hjs, hcs⟩

theorem follows_perRequestRows (hnew : φ.changes = []) :
    Prog.Follows (protocol (.sockets py)) (fun _ ψ => ∃ cs, (∃ requestID serviceID,
      requestChanges content requestID serviceID = .ok cs) ∧ Made φ ψ cs)
      (ResolverPer.requestRows content) φ := by
  refine Prog.follows_bind (follows_connect hnew) ?_
  intro _ ψ heq
  obtain rfl := heq
  refine Prog.follows_bind (A := fun _ χ => χ = ψ) (follows_execute trivial fun _ => rfl) ?_
  intro maxID χ heq
  obtain rfl := heq
  refine Prog.follows_bind follows_anyService ?_
  intro serviceID χ' heq
  obtain rfl := heq
  refine Prog.follows_lift_bind fun deviceID hd => ?_
  refine Prog.follows_lift_bind fun _ _ => ?_
  refine Prog.follows_lift_bind fun qosRequirements hqos => ?_
  refine Prog.follows_lift_bind fun _ _ => ?_
  refine Prog.follows_lift_bind fun serviceType _ => ?_
  refine Prog.follows_lift_bind fun _ _ => ?_
  obtain ⟨deviceID', hget, hd⟩ := Except.bind_eq_ok.mp hd
  refine Prog.follows_bind (A := fun _ ψ => ψ = χ'.made (requestInsert _ deviceID serviceID))
    (follows_execute trivial fun _ => rfl) ?_
  intro _ ψ heq
  obtain rfl := heq
  refine Prog.follows_lift_bind fun vs hiter => ?_
  refine Prog.follows_bind follows_insertAll ?_
  intro _ ψ hdone
  obtain ⟨cs, hcs, hmade⟩ := hdone
  exact ⟨_, ⟨_, _, requestChanges_ok hget hd hqos hiter hcs⟩, (made_made χ' _).trans hmade⟩

/-- The test data is no answer of success. -/
theorem follows_matching (serviceType : String) :
    Prog.Follows (protocol (.sockets py)) (fun _ ψ => ψ = φ)
      (ResolverPer.sendMatching (ResolverPer.matching serviceType)) φ := by
  have hevents : ∀ v ∈ ResolverPer.matching serviceType, ¬ Success v := by
    intro v hv hcase
    have hentry : ∃ a b c d e f, v = ResolverPer.matchingEntry a b c d e f := by
      rw [ResolverPer.matching] at hv
      split at hv
      · simp only [List.mem_cons, List.not_mem_nil, or_false] at hv
        rcases hv with rfl | rfl <;> exact ⟨_, _, _, _, _, _, rfl⟩
      · simp only [List.mem_cons, List.not_mem_nil, or_false] at hv
        rcases hv with rfl | rfl | rfl <;> exact ⟨_, _, _, _, _, _, rfl⟩
    obtain ⟨a, b, c, d, e, f, rfl⟩ := hentry
    rcases hcase with hzero | hgood
    · have hnone : errorOf (ResolverPer.matchingEntry a b c d e f) = none := rfl
      exact absurd (hnone.symm.trans hzero) (by simp)
    · exact absurd hgood (by simp [ResolverPer.matchingEntry])
  generalize ResolverPer.matching serviceType = results at hevents
  induction results with
  | nil => rfl
  | cons v results ih =>
    obtain ⟨hfirst, hrest⟩ := List.forall_mem_cons.mp hevents
    refine Prog.follows_bind (follows_emit fun hok => absurd hok hfirst) ?_
    intro _ ψ heq
    obtain rfl := heq
    exact ih hrest

theorem follows_perRequest (hjs : py.loads js = .ok content) (hφ : φ.call = (.Request, js))
    (hnew : φ.changes = []) : Prog.Follows (protocol (.sockets py)) (fun _ _ => True)
      (ResolverPer.requestBody content) φ := by
  refine follows_transaction (follows_perRequestRows hnew) ?_
  intro serviceType cs χ hcs hmade hstored
  refine Prog.follows_bind (follows_matching serviceType) ?_
  intro _ ψ heq
  obtain rfl := heq
  refine (follows_emit fun _ => ⟨hstored, ?_⟩).mono fun _ _ _ => trivial
  rw [hmade.call, hφ, hmade.changes, hnew]
  exact ⟨content, hjs, hcs⟩

/-- **Every handler of `resolver_per.py` follows the protocol.** -/
theorem follows_per (m : ResolverPer.Message) (js : String) :
    Prog.Follows (protocol (.sockets py)) (fun _ _ => True) (ResolverPer.handler py m js)
      ((Process.sockets py).start (m, js)) := by
  cases m with
  | Join =>
    refine Prog.follows_lift_bind fun content hjs => ?_
    exact Prog.follows_bind (A := fun _ _ => True) (Prog.follows_tryExcept
      (follows_perJoin hjs rfl rfl) fun _ _ => follows_other
        (not_success_joinAnswer (by decide) _)) fun _ _ _ => trivial
  | Update =>
    refine Prog.follows_lift_bind fun content hjs => ?_
    exact Prog.follows_tryExcept (follows_perUpdate hjs rfl rfl) fun _ _ =>
      Prog.follows_bind (follows_other (not_success_error (by decide))) fun _ _ _ => trivial
  | Leave =>
    refine Prog.follows_lift_bind fun content hjs => ?_
    exact Prog.follows_bind (A := fun _ _ => True) (Prog.follows_tryExcept
      (follows_perLeave hjs rfl rfl) fun _ _ => follows_other
        (not_success_error (by decide))) fun _ _ _ => trivial
  | Request =>
    refine Prog.follows_lift_bind fun content hjs => ?_
    exact Prog.follows_bind (A := fun _ _ => True) (Prog.follows_tryExcept
      (follows_perRequest hjs rfl rfl) fun _ _ => follows_other
        (not_success_error (by decide))) fun _ _ _ => trivial

end Sockets

/-! ## The handlers of `resolver.py` -/

section Http

variable {exc : ExcText} {body : Resolver.Body} {deviceID : String} {φ : Phase (.http exc)}

theorem follows_httpJoin (hφ : φ.call = (.Join, body)) (hnew : φ.changes = []) :
    Prog.Follows (protocol (.http exc)) Honest (Resolver.Join body) φ := by
  refine Prog.follows_bind (Prog.follows_tryExcept (follows_newDeviceID hnew) fun _ _ => trivial) ?_
  intro deviceID ψ heq
  obtain rfl := heq
  refine Prog.follows_tryExcept ?_ fun _ _ hok =>
    absurd hok (not_success_joinAnswer (by decide) deviceID)
  refine follows_transaction (Q := fun _ cs => ∃ content, body = .ok content ∧
    joinChanges content deviceID = .ok cs) ?_ ?_
  · refine Prog.follows_lift_bind fun content hbody => ?_
    refine Prog.follows_lift_bind fun relay hrelay => ?_
    refine Prog.follows_lift_bind fun relayText htext => ?_
    refine Prog.follows_lift_bind fun codes hget => ?_
    refine Prog.follows_lift_bind fun uniqueCodes hiter => ?_
    refine follows_insertAll.mono ?_
    intro _ χ hdone
    obtain ⟨cs, hcs, hmade⟩ := hdone
    have hcodes : uniqueCodesOf content = .ok uniqueCodes :=
      Except.bind_eq_ok.mpr ⟨codes, hget, hiter⟩
    refine ⟨cs, ⟨content, hbody, ?_⟩, hmade⟩
    simp only [joinChanges, Except.bind_eq_ok]
    exact ⟨relay, hrelay, relayText, htext, uniqueCodes, hcodes, hcs⟩
  · intro _ cs χ hcs hmade hstored
    obtain ⟨content, hbody, hcs⟩ := hcs
    refine fun _ => ⟨hstored, ?_⟩
    rw [hmade.call, hφ, hmade.changes, hnew]
    exact ⟨content, hbody, deviceID, rfl, hcs⟩

theorem follows_httpService {attrCount : Nat} {service : Value} (h : attrCount ≤ φ.columns) :
    Prog.Follows (protocol (.http exc))
      (fun _ ψ => ∃ c, StoresService httpID deviceID service c ∧ Made φ ψ [c])
      (Resolver.updateService deviceID attrCount service) φ := by
  refine Prog.follows_lift_bind fun serviceType htype => ?_
  refine Prog.follows_bind (A := fun serviceID ψ => ψ = φ ∧ ∃ manageNum,
    Resolver.serviceIDOf manageNum serviceType = serviceID) ?_ ?_
  · exact ⟨trivial, fun _ manageNum => ⟨rfl, manageNum, rfl⟩⟩
  intro serviceID ψ hid
  obtain ⟨rfl, manageNum, hid⟩ := hid
  refine Prog.follows_lift_bind fun attributes hattributes => ?_
  refine Prog.follows_lift_bind fun length _ => ?_
  refine Prog.follows_bind (follows_addColumns (Nat.succ_le_succ h)) ?_
  intro _ ψ hmade
  refine Prog.follows_lift_bind fun texts htexts => ?_
  refine Prog.follows_lift_bind fun type htypeText => ?_
  obtain rfl := Value.asStr_eq_ok.mp htypeText
  refine follows_execute trivial fun _ => ?_
  exact ⟨_, ⟨manageNum, type, _, attributes, texts, htype, congrArg Value.text hid, hattributes,
    htexts, rfl⟩, hmade.trans (made_made ψ _)⟩

theorem follows_httpUpdate (hφ : φ.call = (.Update, body)) (hnew : φ.changes = []) :
    Prog.Follows (protocol (.http exc)) Honest (Resolver.Update body) φ := by
  refine Prog.follows_tryExcept ?_ fun _ _ hok => absurd hok (not_success_error (by decide))
  refine Prog.follows_bind (follows_connect hnew) ?_
  intro _ ψ heq
  obtain rfl := heq
  refine Prog.follows_lift_bind fun content hbody => ?_
  refine Prog.follows_lift_bind fun deviceID hd => ?_
  refine Prog.follows_bind (A := fun _ χ => χ = ψ) (follows_execute trivial fun _ => rfl) ?_
  intro exist χ heq
  obtain rfl := heq
  by_cases hexist : exist = 0
  · rw [if_pos hexist]
    exact fun hok => absurd hok (not_success_error (by decide))
  · rw [if_neg hexist]
    refine follows_transaction (follows_updateRows (Resolver.updateServices deviceID)
      (fun attrCount services χ hle => follows_services rfl (fun _ _ => rfl)
        (fun _ _ h => follows_httpService h) services hle) hd) ?_
    intro _ cs χ hcs hmade hstored
    refine fun _ => ⟨hstored, ?_⟩
    rw [hmade.call, hφ, hmade.changes, hnew]
    exact ⟨content, hbody, hcs⟩

theorem follows_httpLeave (hφ : φ.call = (.Leave, body)) (hnew : φ.changes = []) :
    Prog.Follows (protocol (.http exc)) Honest (Resolver.Leave body) φ := by
  refine Prog.follows_tryExcept ?_ fun _ _ hok => absurd hok (not_success_error (by decide))
  refine follows_transaction (Q := fun _ cs => ∃ content, body = .ok content ∧ ∃ deviceID,
    deviceIDOf content = .ok deviceID ∧ cs = leaveChanges [.Device, .Service] deviceID) ?_ ?_
  · refine Prog.follows_lift_bind fun content hbody => ?_
    refine Prog.follows_lift_bind fun deviceID hd => ?_
    have hleaves : ∀ {ψ : Phase (.http exc)}, ψ.call = φ.call →
        (Process.http exc).Leaves ψ.call deviceID := by
      intro ψ hcall
      rw [hcall, hφ]
      exact ⟨rfl, content, hbody, hd⟩
    refine Prog.follows_bind (follows_connect hnew) ?_
    intro _ ψ heq
    obtain rfl := heq
    refine Prog.follows_bind (follows_delete (hleaves rfl)) ?_
    intro _ χ hmade
    refine (follows_delete (hleaves hmade.call)).mono ?_
    intro _ _ hmade'
    exact ⟨_, ⟨content, hbody, deviceID, hd, rfl⟩, hmade.trans hmade'⟩
  · intro _ cs χ hcs hmade hstored
    obtain ⟨content, hbody, hcs⟩ := hcs
    refine fun _ => ⟨hstored, ?_⟩
    rw [hmade.call, hφ, hmade.changes, hnew]
    exact ⟨content, hbody, hcs⟩

theorem follows_newRequestID {p : Process} {φ : Phase p} :
    Prog.Follows (protocol p) (fun _ ψ => ψ = φ) Resolver.newRequestID φ := by
  refine Prog.follows_bind (A := fun _ ψ => ψ = φ) (follows_execute trivial fun _ => rfl) ?_
  intro maxID ψ heq
  cases maxID with
  | none => exact heq
  | some maxID => exact Prog.follows_lift_bind fun _ _ => heq

theorem follows_httpRequest (hφ : φ.call = (.Request, body)) (hnew : φ.changes = []) :
    Prog.Follows (protocol (.http exc)) Honest (Resolver.Request exc.text body) φ := by
  refine Prog.follows_tryExcept ?_ ?_
  · refine follows_transaction (Q := fun _ cs => ∃ content, body = .ok content ∧
      ∃ requestID serviceID, requestChanges content requestID serviceID = .ok cs) ?_ ?_
    · refine Prog.follows_bind (follows_connect hnew) ?_
      intro _ ψ heq
      obtain rfl := heq
      refine Prog.follows_bind follows_newRequestID ?_
      intro requestID χ heq
      obtain rfl := heq
      refine Prog.follows_bind follows_anyService ?_
      intro serviceID ψ heq
      obtain rfl := heq
      refine Prog.follows_lift_bind fun content hbody => ?_
      refine Prog.follows_lift_bind fun deviceID' hget => ?_
      refine Prog.follows_lift_bind fun qosRequirements hqos => ?_
      refine Prog.follows_lift_bind fun deviceID hd => ?_
      refine Prog.follows_bind (A := fun _ χ => χ = ψ.made (requestInsert requestID deviceID
        serviceID)) (follows_execute trivial fun _ => rfl) ?_
      intro _ χ heq
      obtain rfl := heq
      refine Prog.follows_lift_bind fun vs hiter => ?_
      refine follows_insertAll.mono ?_
      intro _ χ hdone
      obtain ⟨cs, hcs, hmade⟩ := hdone
      exact ⟨_, ⟨content, hbody, _, _, requestChanges_ok hget hd hqos hiter hcs⟩,
        (made_made ψ _).trans hmade⟩
    · intro _ cs χ hcs hmade hstored
      obtain ⟨content, hbody, hcs⟩ := hcs
      refine fun _ => ⟨hstored, ?_⟩
      rw [hmade.call, hφ, hmade.changes, hnew]
      exact ⟨content, hbody, hcs⟩
  · intro e ψ hok
    rcases hok with hzero | hgood
    · exact absurd hzero (by simp [errorOf, Value.get])
    · exact absurd (Value.str.inj hgood) (exc.not_good e)

/-- **Every handler of `resolver.py` follows the protocol.** -/
theorem follows_http (e : Endpoint) (body : Resolver.Body) :
    Prog.Follows (protocol (.http exc)) (fun _ _ => True)
      (Resolver.respond (handler exc e body)) ((Process.http exc).start (e, body)) := by
  have hhandler : Prog.Follows (protocol (.http exc)) Honest (handler exc e body)
      ((Process.http exc).start (e, body)) := by
    cases e with
    | Join => exact follows_httpJoin rfl rfl
    | Update => exact follows_httpUpdate rfl rfl
    | Leave => exact follows_httpLeave rfl rfl
    | Request => exact follows_httpRequest rfl rfl
  refine Prog.follows_bind hhandler ?_
  intro answer ψ hhonest
  exact Prog.follows_bind (follows_emit hhonest) fun _ _ _ => trivial

end Http

/-- **Every call follows the protocol**, from the phase it begins in. -/
theorem follows_program (p : Process) (call : p.Call) :
    Prog.Follows (protocol p) (fun _ _ => True) (p.program call) (p.start call) := by
  cases p with
  | sockets py => exact follows_per call.1 call.2
  | http exc => exact follows_http call.1 call.2

end Versatile.Calls
