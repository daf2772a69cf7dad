import Versatile.Lib.Interleaving
import Versatile.Resolver.Handlers
import Versatile.ResolverPer.Rows

/-!
# Joins and leaves at once

Any number of `Join` and `Leave` handlers of both resolvers run at the same time over one
database, each on a connection of its own, one operation at a time and in any order. A handler that
runs alone does what it does in a sequence of messages (`alone`). The phase of a handler is how far
it is: a join reads the maximum, holds a number until it commits, and then answers with it; a leave
deletes rows of one device and commits.
-/

namespace Versatile.Concurrent

open Py Diversity
open ResolverPer (Interpreter)

/-! ## Handlers -/

/-- A call of one of the handlers. -/
inductive Request where
  | perJoin (js : String)
  | perLeave (js : String)
  | join (body : Resolver.Body)
  | leave (body : Resolver.Body)

/-- What a call runs. -/
def Request.program (py : Interpreter) : Request → Handler Value
  | perJoin js => ResolverPer.Join py js
  | perLeave js => ResolverPer.Leave py js
  | join body => Resolver.respond (Resolver.Join body)
  | leave body => Resolver.respond (Resolver.Leave body)

/-! ## Phases -/

/-- How far a handler is. -/
inductive Phase where
  /-- A join that has read no maximum. -/
  | joins
  /-- A join with a number, and how many commits stored a device before it read the maximum. -/
  | holds (deviceID : String) (version : Nat)
  /-- A join that has committed and not answered. -/
  | stored (deviceID : String)
  | leaves
  | ended
  deriving DecidableEq, Repr

/-- The phase a call begins in. -/
def Request.phase : Request → Phase
  | perJoin _ => .joins
  | perLeave _ => .leaves
  | join _ => .joins
  | leave _ => .leaves

/-- The event is an answer with error 0 and this ID. -/
def Answers (deviceID : String) : Event → Prop
  | .emitted _ payload => errorOf payload = some 0 ∧ idOf payload = some deviceID
  | .committed _ => False

/-- The event is a commit that deletes this device. -/
def Deletes (deviceID : String) : Event → Prop
  | .committed changes => Change.delete .Device deviceID ∈ changes
  | .emitted _ _ => False

/-- A phase after its commit. -/
def Phase.commit : Phase → Phase
  | holds deviceID _ => stored deviceID
  | φ => φ

/-- The phase after an operation. A call that fails changes nothing, and an answer is the end. -/
def Phase.next (version : Nat) (φ : Phase) : (o : Act) → o.Res → Phase
  | .execute (.maxSigned _ _), .ok maxID => holds (nextID maxID) version
  | .commit, .ok _ => φ.commit
  | .emit _ _, _ => ended
  | _, _ => φ

/-- The device ID comes first in the row. -/
def Leads (deviceID : String) (row : Row) : Prop := ∃ rest, row = ("deviceID", deviceID) :: rest

/-- The operations a phase allows. -/
def Phase.allows : Phase → Act → Prop
  | _, .connect => True
  | φ, .execute (.maxSigned t column) => φ = joins ∧ t = .Device ∧ column = "deviceID"
  | φ, .execute (.insert t row) =>
      ∃ deviceID version, φ = holds deviceID version ∧ (t = .Device → Leads deviceID row)
  | φ, .execute (.delete _ deviceID) => φ = leaves ∧ ∃ n : Int, deviceID = toString n
  | φ, .commit => φ = leaves ∨ ∃ deviceID version, φ = holds deviceID version
  | φ, .emit event payload =>
      ∀ deviceID, Answers deviceID (.emitted event payload) → φ = stored deviceID
  | _, _ => False

/-- What both resolvers do, in phases. -/
def protocol : Protocol Act Act.Res Nat Phase where
  allows := Phase.allows
  next := Phase.next

/-! ## The system -/

/-- The database, and what all threads have shown. -/
structure Shared where
  world : World
  log : List Event

/-- One operation of a thread, on its own connection. -/
def actOn (srv : Server) (faults : Faults) (o : Act) (g : Shared) (conn : List Change) :
    o.Res × Shared × List Change :=
  let r := act srv faults o ⟨g.world, conn, g.log⟩
  (r.1, ⟨r.2.world, r.2.log⟩, r.2.conn)

/-- The change stores a device. -/
def storesDevice : Change → Bool
  | .insert .Device _ => true
  | _ => false

/-- The event is a commit that stores a device. -/
def commitsDevice : Event → Bool
  | .committed changes => changes.any storesDevice
  | .emitted _ _ => false

/-- How many commits stored a device. -/
def version (log : List Event) : Nat := log.countP commitsDevice

/-- A handler on its way, and its connection. -/
abbrev Thread := Interleaving.Thread Act Act.Res Exc Value Phase (List Change)

/-- The handlers over one database. -/
abbrev System := Interleaving.System Act Act.Res Exc Value Phase Shared (List Change)

/-- Handler `i` performs its next operation. -/
def step (srv : Server) (faults : Faults) : System → Nat → System :=
  Interleaving.step protocol (fun g => version g.log) (actOn srv faults)

/-- Some calls, none of them begun. -/
def boot (py : Interpreter) (w : World) (requests : List Request) : System :=
  ⟨⟨w, []⟩, requests.map fun r => ⟨r.program py, [], r.phase⟩⟩

/-! ## The handlers follow the protocol -/

section Follows

variable {φ : Phase} {deviceID : String} {version : Nat}

/-- A call of the database, which may also fail. -/
theorem follows_execute {q : Statement} {A : q.Result → Phase → Prop}
    (h : φ.allows (.execute q))
    (hA : ∀ version a, A a (φ.next version (.execute q) (.ok a))) :
    Prog.Follows protocol A (execute q) φ := by
  refine Prog.follows_bind (Prog.follows_perform (A := fun r ψ => ∀ a, r = .ok a → A a ψ) h ?_) ?_
  · intro version _ a heq
    obtain rfl := heq
    exact hA version a
  · intro r ψ hr
    exact Prog.follows_lift fun a ha => hr a (answered_eq_ok.mp ha)

theorem follows_connect : Prog.Follows protocol (fun _ ψ => ψ = φ) connect φ := by
  have hquiet : Prog.Only (fun o => o = .connect) connect := only_connect rfl
  refine hquiet.follows ?_ ?_
  · intro _ heq
    obtain rfl := heq
    trivial
  · intro version _ b heq
    obtain rfl := heq
    rfl

/-- A join has its number: the next ID. -/
theorem follows_newDeviceID : Prog.Follows protocol
    (fun deviceID ψ => ∃ version, ψ = .holds deviceID version) newDeviceID .joins := by
  refine Prog.follows_bind follows_connect ?_
  intro _ ψ heq
  obtain rfl := heq
  refine Prog.follows_bind (A := fun maxID ψ => ∃ version, ψ = .holds (nextID maxID) version)
    (follows_execute ⟨rfl, rfl, rfl⟩ fun version a => ⟨version, rfl⟩) ?_
  intro maxID ψ hψ
  exact hψ

/-- Insertions of rows of the ID it holds. -/
def Writes (deviceID : String) (o : Act) : Prop :=
  ∃ t row, o = .execute (.insert t row) ∧ (t = .Device → Leads deviceID row)

theorem follows_writes {p : Handler Unit} (hp : Prog.Only (Writes deviceID) p) :
    Prog.Follows protocol (fun _ ψ => ψ = .holds deviceID version) p (.holds deviceID version) := by
  refine hp.follows ?_ ?_
  · intro _ hsome
    obtain ⟨t, row, rfl, hrow⟩ := hsome
    exact ⟨deviceID, version, rfl, hrow⟩
  · intro _ _ _ hsome
    obtain ⟨t, row, rfl, _⟩ := hsome
    rfl

/-- The commit of what is held. -/
theorem follows_commit : Prog.Follows protocol (fun _ ψ => ψ = .stored deviceID) commit
    (.holds deviceID version) := by
  refine Prog.follows_bind (Prog.follows_perform
    (A := fun r ψ => r = .ok () → ψ = .stored deviceID) (.inr ⟨_, _, rfl⟩) ?_) ?_
  · intro version _ heq
    obtain rfl := heq
    rfl
  · intro r ψ hr
    exact Prog.follows_lift fun _ ha => hr (answered_eq_ok.mp ha)

theorem follows_emit {event : String} {payload : Value} {ε : Type}
    (h : ∀ deviceID, Answers deviceID (.emitted event payload) → φ = .stored deviceID) :
    Prog.Follows protocol (fun _ _ => True)
      (emit event payload : Prog Act Act.Res ε Unit) φ := ⟨h, fun _ _ => trivial⟩

/-- An answer that carries no ID, or not error 0, is allowed at any time. -/
theorem follows_other {event : String} {payload : Value} {ε : Type}
    (h : errorOf payload = some 0 → idOf payload = none) :
    Prog.Follows protocol (fun _ _ => True)
      (emit event payload : Prog Act Act.Res ε Unit) φ := by
  refine follows_emit ?_
  intro deviceID hboth
  obtain ⟨hzero, hid⟩ := hboth
  exact absurd ((h hzero).symm.trans hid) (by simp)

theorem leads_deviceRow {placeholder relay : String} {v : Value} {row : Row}
    (h : deviceRow placeholder deviceID relay v = .ok row) : Leads deviceID row := by
  simp only [deviceRow, Except.bind_eq_ok] at h
  obtain ⟨_, _, _, _, _, _, _, _, _, _, _, _, _, _, _, _, h⟩ := h
  obtain rfl := Except.pure_eq_ok.mp h
  exact ⟨_, rfl⟩

/-! ### `resolver_per.py` -/

theorem writes_perJoinRows (content : Value) (deviceID : String) :
    Prog.Only (Writes deviceID) (ResolverPer.joinRows content deviceID) := by
  refine ResolverPer.only_joinRows ?_ ?_
  · intro v row hrow
    exact ⟨.Neighbor, row, rfl, fun ht => absurd ht (by simp)⟩
  · intro relay v row hrow
    exact ⟨.Device, row, rfl, fun _ => leads_deviceRow hrow⟩

theorem follows_perJoinBody (content : Value) : Prog.Follows protocol (fun _ _ => True)
    (ResolverPer.joinBody content deviceID) (.holds deviceID version) := by
  refine Prog.follows_bind (follows_writes (writes_perJoinRows content deviceID)) ?_
  intro _ ψ heq
  obtain rfl := heq
  refine Prog.follows_bind follows_commit ?_
  intro _ ψ heq
  obtain rfl := heq
  refine follows_emit ?_
  intro deviceID' hboth
  obtain ⟨_, hid⟩ := hboth
  rw [← Option.some.inj hid]

theorem follows_perJoin (py : Interpreter) (js : String) :
    Prog.Follows protocol (fun _ _ => True) (ResolverPer.Join py js) .joins := by
  refine Prog.follows_lift_bind fun content _ => ?_
  refine Prog.follows_bind (A := fun _ _ => True) (Prog.follows_tryExcept ?_ ?_)
    fun _ _ _ => trivial
  · refine Prog.follows_bind (Prog.follows_tryExcept follows_newDeviceID fun _ _ => trivial) ?_
    intro deviceID ψ hsome
    obtain ⟨version, rfl⟩ := hsome
    exact Prog.follows_tryExcept (follows_perJoinBody content) fun _ _ => trivial
  · intro e ψ
    exact follows_other fun h => absurd h (by simp)

/-- What a leave does before it answers. -/
def Removes (o : Act) : Prop :=
  o = .connect ∨ o = .commit ∨ ∃ t, ∃ n : Int, o = .execute (.delete t (toString n))

theorem follows_removes {α : Type} {p : Handler α} (hp : Prog.Only Removes p) :
    Prog.Follows protocol (fun _ _ => True) p .leaves := by
  have hfollows : Prog.Follows protocol (fun _ ψ => ψ = .leaves) p .leaves := by
    refine hp.follows ?_ ?_
    · intro _ hcase
      rcases hcase with rfl | rfl | ⟨t, n, rfl⟩
      · trivial
      · exact Or.inl rfl
      · exact ⟨rfl, n, rfl⟩
    · intro version _ b hcase
      rcases hcase with rfl | rfl | ⟨t, n, rfl⟩
      · rfl
      · cases b <;> rfl
      · rfl
  exact hfollows.mono fun _ _ _ => trivial

/-- The deletions, the commit, and an answer that is allowed at any time. -/
theorem follows_leaveBlock {α : Type} {rows : Handler Unit} {answer : Handler α}
    {A : α → Phase → Prop} (hrows : Prog.Only Removes rows)
    (hanswer : ∀ ψ, Prog.Follows protocol A answer ψ) :
    Prog.Follows protocol A (rows >>= fun _ => commit >>= fun _ => answer) .leaves := by
  have hremoves : Prog.Only Removes (rows >>= fun _ => commit) :=
    Prog.only_bind hrows fun _ => only_commit (Or.inr (Or.inl rfl))
  have hassoc : (rows >>= fun _ => commit >>= fun _ => answer) =
      (rows >>= fun _ => commit) >>= fun _ => answer := (Prog.bind_assoc _ _ _).symm
  rw [hassoc]
  exact Prog.follows_bind (follows_removes hremoves) fun _ ψ _ => hanswer ψ

theorem deviceIDOf_number {content : Value} {deviceID : String}
    (h : ResolverPer.deviceIDOf content = .ok deviceID) : ∃ n : Int, deviceID = toString n := by
  simp only [ResolverPer.deviceIDOf, Except.bind_eq_ok] at h
  obtain ⟨_, _, n, _, h⟩ := h
  exact ⟨n, (Except.pure_eq_ok.mp h).symm⟩

theorem removes_perLeaveRows (content : Value) :
    Prog.Only Removes (ResolverPer.leaveRows content) := by
  refine ResolverPer.only_leaveRows (Or.inl rfl) fun t deviceID hd => ?_
  obtain ⟨n, rfl⟩ := deviceIDOf_number hd
  exact Or.inr (Or.inr ⟨t, n, rfl⟩)

theorem follows_perLeave (py : Interpreter) (js : String) :
    Prog.Follows protocol (fun _ _ => True) (ResolverPer.Leave py js) .leaves := by
  refine Prog.follows_lift_bind fun content _ => ?_
  refine Prog.follows_bind (A := fun _ _ => True) (Prog.follows_tryExcept ?_ ?_)
    fun _ _ _ => trivial
  · exact follows_leaveBlock (removes_perLeaveRows content) fun _ => follows_other fun _ => rfl
  · intro e ψ
    exact follows_other fun _ => rfl

/-! ### `resolver.py` -/

theorem writes_joinRows (body : Resolver.Body) (deviceID : String) :
    Prog.Only (Writes deviceID) (Resolver.joinRows body deviceID) := by
  refine Prog.only_lift_bind fun jsonDict _ => ?_
  refine Prog.only_lift_bind fun _ _ => ?_
  refine Prog.only_lift_bind fun relay _ => ?_
  refine Prog.only_lift_bind fun _ _ => ?_
  refine Prog.only_lift_bind fun uniqueCodes _ => ?_
  exact only_insertAll fun v _ row hrow =>
    ⟨.Device, row, rfl, fun _ => leads_deviceRow hrow⟩

/-- A join returns error 0 only with the ID it has stored. -/
theorem follows_joinBody (body : Resolver.Body) : Prog.Follows protocol
    (fun answer ψ => errorOf answer = some 0 → ∃ deviceID, idOf answer = some deviceID ∧
      ψ = .stored deviceID)
    (Resolver.joinBody body deviceID) (.holds deviceID version) := by
  refine Prog.follows_bind (follows_writes (writes_joinRows body deviceID)) ?_
  intro _ ψ heq
  obtain rfl := heq
  refine Prog.follows_bind follows_commit ?_
  intro _ ψ heq
  obtain rfl := heq
  exact fun _ => ⟨deviceID, rfl, rfl⟩

theorem follows_join (body : Resolver.Body) : Prog.Follows protocol (fun _ _ => True)
    (Resolver.respond (Resolver.Join body)) .joins := by
  refine Prog.follows_bind (A := fun answer ψ => errorOf answer = some 0 →
    ∃ deviceID, idOf answer = some deviceID ∧ ψ = .stored deviceID) ?_ ?_
  · refine Prog.follows_bind (Prog.follows_tryExcept follows_newDeviceID fun _ _ => trivial) ?_
    intro deviceID ψ hsome
    obtain ⟨version, rfl⟩ := hsome
    refine Prog.follows_tryExcept (follows_joinBody body) fun _ _ h => ?_
    exact absurd h (by simp)
  · intro answer ψ hanswer
    refine Prog.follows_bind (A := fun _ _ => True) (follows_emit ?_) fun _ _ _ => trivial
    intro deviceID hboth
    obtain ⟨hzero, hid⟩ := hboth
    obtain ⟨deviceID', hid', hψ⟩ := hanswer hzero
    rw [hψ, Option.some.inj (hid'.symm.trans hid)]

theorem removes_leaveRows (body : Resolver.Body) :
    Prog.Only Removes (Resolver.leaveRows body) := by
  refine Prog.only_lift_bind fun jsonDict _ => ?_
  refine Prog.only_lift_bind fun deviceID hd => ?_
  obtain ⟨n, rfl⟩ := deviceIDOf_number hd
  refine Prog.only_bind (only_connect (Or.inl rfl)) fun _ => ?_
  refine Prog.only_bind (only_execute (Or.inr (Or.inr ⟨_, n, rfl⟩))) fun _ => ?_
  exact only_execute (Or.inr (Or.inr ⟨_, n, rfl⟩))

theorem follows_leave (body : Resolver.Body) : Prog.Follows protocol (fun _ _ => True)
    (Resolver.respond (Resolver.Leave body)) .leaves := by
  refine Prog.follows_bind (A := fun answer _ => idOf answer = none) ?_ ?_
  · refine Prog.follows_tryExcept ?_ fun _ _ => rfl
    exact follows_leaveBlock (removes_leaveRows body) fun _ => rfl
  · intro answer ψ hid
    exact Prog.follows_bind (A := fun _ _ => True) (follows_other fun _ => hid)
      fun _ _ _ => trivial

end Follows

/-- **Every handler follows the protocol**, from the phase it begins in. -/
theorem follows_program (py : Interpreter) (request : Request) :
    Prog.Follows protocol (fun _ _ => True) (request.program py) request.phase := by
  cases request with
  | perJoin js => exact follows_perJoin py js
  | perLeave js => exact follows_perLeave py js
  | join body => exact follows_join body
  | leave body => exact follows_leave body

theorem obeys_boot (py : Interpreter) (w : World) (requests : List Request) :
    Interleaving.Obeys protocol (boot py w requests) := by
  intro t ht
  obtain ⟨r, _, rfl⟩ := List.mem_map.mp ht
  exact follows_program py r

/-! ## One handler alone -/

/-- A program on the shared part of the state and a connection, and on the whole state. -/
theorem run_actOn {ε α : Type} (srv : Server) (faults : Faults) (p : Prog Act Act.Res ε α)
    (s : State) :
    p.run (fun o σ => actOn srv faults o σ.1 σ.2) (⟨s.world, s.log⟩, s.conn) =
      ((perform srv faults p s).1, ⟨(perform srv faults p s).2.world,
        (perform srv faults p s).2.log⟩, (perform srv faults p s).2.conn) := by
  induction p generalizing s with
  | ret a => rfl
  | raise e => rfl
  | call o k ih => exact ih _ (act srv faults o s).2

/-- **A call that runs alone** leaves what its handler leaves. -/
theorem alone (srv : Server) (faults : Faults) (py : Interpreter) (w : World)
    (request : Request) : ∃ n,
      ((List.replicate n 0).foldl (step srv faults) (boot py w [request])).shared =
        ⟨(perform srv faults (request.program py) ⟨w, [], []⟩).2.world,
          (perform srv faults (request.program py) ⟨w, [], []⟩).2.log⟩ := by
  obtain ⟨n, hn⟩ := Interleaving.run_alone (P := protocol) (i := 0)
    (s := boot py w [request]) rfl
  refine ⟨n, hn.trans ?_⟩
  exact congrArg (fun r => r.2.1) (run_actOn srv faults (request.program py) ⟨w, [], []⟩)

end Versatile.Concurrent
