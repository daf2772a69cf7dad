import Versatile.Concurrent.Threads
import Versatile.Lib.Run
import Versatile.Lib.Trace
import Versatile.ResolverPer.Fresh

/-!
# Joins that run at once are answered with different IDs

A join makes its number the maximum plus one, and nothing reserves the number before the commit.
If no other join commits a device in between, and the join itself stores a row, the number is new
when it is committed and taken from then on. It is free again once a leave has deleted the device,
which must not happen before the join is answered.

The invariant says, phase by phase, what a thread may rely on (`Sound`): the number it holds is
above all devices as long as none was stored since it read the maximum; the device it stored has
a row, and is not one that was answered and is still there.
-/

namespace Versatile.Concurrent

open Py Diversity
open ResolverPer (Interpreter Carries largestID)

/-! ## What keeps the answers different -/

/-- The thread has committed this device and not answered. -/
def Waits (s : System) (deviceID : String) : Prop := ∃ u ∈ s.threads, u.phase = .stored deviceID

/-- A read leaves room in `BIGINT`; a join commits a row of a device, and none was stored since it
read the maximum; a leave deletes no device whose join is not answered. -/
def Careful (srv : Server) (s : System) (t : Thread) : Act → Prop
  | .execute (.maxSigned _ _) => InBigint (largestID srv s.shared.world.rows + 1)
  | .commit => match t.phase with
    | .holds _ read => read = version s.shared.log ∧ t.own.any storesDevice
    | _ => ∀ deviceID, Change.delete .Device deviceID ∈ t.own → ¬ Waits s deviceID
  | _ => True

/-- The operation thread `i` is about to perform is a careful one, unless the database fails it. -/
def Orderly (srv : Server) (faults : Faults) (s : System) (i : Nat) : Prop :=
  ∀ t o k, s.threads[i]? = some t → t.program = .call o k →
    faults s.shared.world.asked = none → Careful srv s t o

/-! ## Devices -/

/-- The device has a row. -/
def Stored (deviceID : String) (rows : Rows) : Prop :=
  ∃ row, (Table.Device, row) ∈ rows ∧ Carries deviceID row

/-- The device was answered, and not deleted since. -/
def Live (deviceID : String) (log : List Event) : Prop :=
  Trace.Since (Answers deviceID) (Deletes deviceID) log

/-- All devices are below `n`. -/
def Below (srv : Server) (n : Int) (rows : Rows) : Prop :=
  ∀ text ∈ Rows.cells rows .Device "deviceID", srv.castSigned text < n

/-- The ID is a number. -/
def IsNumber (deviceID : String) : Prop := ∃ n : Int, deviceID = toString n

variable {srv : Server} {faults : Faults} {rows rows' : Rows} {log : List Event}
  {deviceID : String} {changes : List Change}

theorem Below.not_stored {n : Int} (h : Below srv n rows) (hn : InBigint n) :
    ¬ Stored (toString n) rows := by
  intro hsome
  obtain ⟨row, hmem, hrow⟩ := hsome
  have hlt := h _ (ResolverPer.mem_cells.mpr ⟨row, hmem, hrow⟩)
  rw [srv.cast_int n hn] at hlt
  exact Int.lt_irrefl n hlt

theorem below_largestID (srv : Server) (rows : Rows) : Below srv (largestID srv rows + 1) rows := by
  intro text htext
  have := ResolverPer.castSigned_le_largestID srv htext
  omega

theorem Below.mono {n : Int} (h : Below srv n rows) (hsub : ∀ e ∈ rows', e ∈ rows) :
    Below srv n rows' := by
  intro text htext
  obtain ⟨row, hmem, hrow⟩ := ResolverPer.mem_cells.mp htext
  exact h text (ResolverPer.mem_cells.mpr ⟨row, hsub _ hmem, hrow⟩)

/-! ## Changes of joins and of leaves -/

/-- Insertions; if one stores a device, one stores a device with this ID. -/
structure Inserts (deviceID : String) (changes : List Change) : Prop where
  adds : ∀ c ∈ changes, c.Adds fun _ => True
  own : changes.any storesDevice →
    ∃ row, Change.insert .Device row ∈ changes ∧ Carries deviceID row

/-- Deletions under numbers. -/
def Removals (changes : List Change) : Prop :=
  ∀ c ∈ changes, ∃ t, ∃ n : Int, c = .delete t (toString n)

theorem inserts_nil (deviceID : String) : Inserts deviceID [] :=
  ⟨fun _ hc => absurd hc (by simp), fun hany => absurd hany (by simp)⟩

theorem Inserts.subset (h : Inserts deviceID changes) {e : Table × Row} (he : e ∈ rows) :
    e ∈ applyAll srv changes rows := by
  obtain ⟨new, hrows, _, _⟩ := applyAll_adds srv h.adds rows
  rw [hrows]
  exact List.mem_append_left _ he

/-- A device that was stored has a row. -/
theorem Inserts.stored (h : Inserts deviceID changes) (hany : changes.any storesDevice) :
    Stored deviceID (applyAll srv changes rows) := by
  obtain ⟨new, hrows, _, hchanges⟩ := applyAll_adds srv h.adds rows
  obtain ⟨row, hmem, hcarries⟩ := h.own hany
  rw [hchanges] at hmem
  obtain ⟨⟨t, row'⟩, hnew, heq⟩ := List.mem_map.mp hmem
  obtain ⟨rfl, rfl⟩ := Change.insert.inj heq
  rw [hrows]
  exact ⟨row', List.mem_append_right _ hnew, hcarries⟩

theorem Removals.not_storesDevice (h : Removals changes) : changes.any storesDevice = false := by
  rw [List.any_eq_false]
  intro c hc
  obtain ⟨t, n, rfl⟩ := h c hc
  simp [storesDevice]

theorem mem_of_mem_applyAll (h : Removals changes) {e : Table × Row}
    (he : e ∈ applyAll srv changes rows) : e ∈ rows := by
  induction changes generalizing rows with
  | nil => exact he
  | cons c changes ih =>
    obtain ⟨t, n, rfl⟩ := h c (by simp)
    have hrest : e ∈ applyAll srv changes (Change.apply srv rows (.delete t (toString n))) := he
    have hkept := ih (fun c hc => h c (List.mem_cons_of_mem _ hc)) hrest
    exact (List.mem_filter.mp hkept).1

/-- A device that is not deleted keeps its row. -/
theorem Removals.stored (h : Removals changes) (hnumber : IsNumber deviceID)
    (hnot : Change.delete .Device deviceID ∉ changes) (hstored : Stored deviceID rows) :
    Stored deviceID (applyAll srv changes rows) := by
  induction changes generalizing rows with
  | nil => exact hstored
  | cons c changes ih =>
    obtain ⟨t, n, rfl⟩ := h c (by simp)
    refine ih (fun c hc => h c (List.mem_cons_of_mem _ hc))
      (fun hmem => hnot (List.mem_cons_of_mem _ hmem)) ?_
    obtain ⟨row, hmem, hrow⟩ := hstored
    obtain ⟨m, rfl⟩ := hnumber
    refine ⟨row, List.mem_filter.mpr ⟨hmem, ?_⟩, hrow⟩
    by_contra hgone
    -- the row is deleted, so it is a device of the number `n`
    simp only [Bool.not_eq_true', Bool.not_eq_false, Bool.and_eq_true, decide_eq_true_eq] at hgone
    obtain ⟨rfl, hnames⟩ := hgone
    rw [Server.names, show Row.cell row "deviceID" = some (toString m) from hrow] at hnames
    obtain rfl := srv.same_int m n hnames
    exact hnot (List.mem_cons_self)

/-! ## The log -/

theorem version_committed : version (log ++ [.committed changes]) =
    version log + if changes.any storesDevice then 1 else 0 := by
  simp [version, List.countP_append, List.countP_cons, commitsDevice]

theorem version_emitted {event : String} {payload : Value} :
    version (log ++ [.emitted event payload]) = version log := by
  simp [version, List.countP_append, commitsDevice]

theorem live_committed : Live deviceID (log ++ [.committed changes]) ↔
    Live deviceID log ∧ Change.delete .Device deviceID ∉ changes := by
  rw [Live, Trace.since_concat]
  simp [Answers, Deletes, Live]

theorem live_emitted {event : String} {payload : Value} :
    Live deviceID (log ++ [.emitted event payload]) ↔
      Answers deviceID (.emitted event payload) ∨ Live deviceID log := by
  rw [Live, Trace.since_concat]
  simp [Deletes, Live]

/-! ## The invariant -/

/-- What a join relies on that holds a number: if its open changes store a device, they store one
under it, and if no device was stored since it read the maximum, all are below. -/
structure Held (srv : Server) (rows : Rows) (log : List Event) (changes : List Change)
    (deviceID : String) (read : Nat) : Prop where
  plain : Plain deviceID
  inserts : Inserts deviceID changes
  past : read ≤ version log
  above : read = version log →
    ∃ n : Int, InBigint n ∧ deviceID = toString n ∧ Below srv n rows

/-- What a join relies on that has committed: its device has a row, and none of its ID was answered
that is still there. -/
structure Unanswered (rows : Rows) (log : List Event) (deviceID : String) : Prop where
  number : IsNumber deviceID
  stored : Stored deviceID rows
  dead : ¬ Live deviceID log

/-- What a thread relies on in each phase. -/
def Sound (srv : Server) (rows : Rows) (log : List Event) (changes : List Change) : Phase → Prop
  | .joins => changes = []
  | .holds deviceID read => Held srv rows log changes deviceID read
  | .stored deviceID => Unanswered rows log deviceID
  | .leaves => Removals changes
  | .ended => True

/-- What holds of the tables and the log: an answered device that is still there has a row, and
two answers with one ID have a deletion between them. -/
structure Told (rows : Rows) (log : List Event) : Prop where
  number : ∀ deviceID, Live deviceID log → IsNumber deviceID
  stored : ∀ deviceID, Live deviceID log → Stored deviceID rows
  separated : ∀ deviceID, Trace.Separated (Answers deviceID) (Deletes deviceID) log

/-- The invariant. -/
structure Consistent (srv : Server) (s : System) : Prop where
  told : Told s.shared.world.rows s.shared.log
  sound : ∀ t ∈ s.threads, Sound srv s.shared.world.rows s.shared.log t.own t.phase
  /-- No two threads wait to answer with one ID. -/
  apart : ∀ (i j : Nat) (t u : Thread) (deviceID : String), s.threads[i]? = some t →
    s.threads[j]? = some u → t.phase = .stored deviceID → u.phase = .stored deviceID → i = j

variable {s : System} {i : Nat} {t t' : Thread} {g : Shared}

/-- A step of one thread: what it and the others rely on still holds. -/
theorem Consistent.set (h : Consistent srv s) (htold : Told g.world.rows g.log)
    (hothers : ∀ j u, j ≠ i → s.threads[j]? = some u →
      Sound srv g.world.rows g.log u.own u.phase)
    (hown : Sound srv g.world.rows g.log t'.own t'.phase)
    (hapart : ∀ deviceID, t'.phase = .stored deviceID → ∀ j u, j ≠ i →
      s.threads[j]? = some u → u.phase ≠ .stored deviceID) :
    Consistent srv ⟨g, s.threads.set i t'⟩ := by
  refine ⟨htold, Interleaving.forall_set hothers hown, ?_⟩
  intro j k u v deviceID hu hv hju hkv
  have hget : ∀ j u, (s.threads.set i t')[j]? = some u →
      (j = i ∧ u = t') ∨ (j ≠ i ∧ s.threads[j]? = some u) := by
    intro j u hu
    rw [List.getElem?_set] at hu
    split at hu
    · rename_i hij
      split at hu
      · exact Or.inl ⟨hij.symm, (Option.some.inj hu).symm⟩
      · exact absurd hu (by simp)
    · rename_i hij
      exact Or.inr ⟨Ne.symm hij, hu⟩
  rcases hget j u hu with ⟨rfl, rfl⟩ | ⟨hji, hu'⟩
  · rcases hget k v hv with ⟨rfl, _⟩ | ⟨hki, hv'⟩
    · rfl
    · exact absurd hkv (hapart deviceID hju k v hki hv')
  · rcases hget k v hv with ⟨rfl, rfl⟩ | ⟨hki, hv'⟩
    · exact absurd hju (hapart deviceID hkv j u hji hu')
    · exact h.apart j k u v deviceID hu' hv' hju hkv

/-! ## What a step can do -/

/-- What a thread with these open changes, in this phase, can do to the rows, the log, its changes
and its phase. `Waiting` are the IDs that joins have stored and not answered. -/
inductive Move (srv : Server) (Waiting : String → Prop) (rows : Rows) (log : List Event) :
    List Change → Phase → Rows → List Event → List Change → Phase → Prop where
  | fail (changes : List Change) (φ : Phase) :
      Move srv Waiting rows log changes φ rows log changes φ
  | connect (changes : List Change) (φ : Phase) : Move srv Waiting rows log changes φ rows log [] φ
  | read (changes : List Change) (hroom : InBigint (largestID srv rows + 1)) :
      Move srv Waiting rows log changes .joins rows log changes
        (.holds (toString (largestID srv rows + 1)) (version log))
  | insert (changes : List Change) (deviceID : String) (read : Nat) (t : Table) (new : List Row)
      (hnew : t = .Device → ∃ r ∈ new, Carries deviceID r) :
      Move srv Waiting rows log changes (.holds deviceID read) rows log
        (changes ++ new.map (Change.insert t)) (.holds deviceID read)
  | delete (changes : List Change) (t : Table) (n : Int) :
      Move srv Waiting rows log changes .leaves rows log
        (changes ++ [.delete t (toString n)]) .leaves
  | store (changes : List Change) (deviceID : String) (hany : changes.any storesDevice) :
      Move srv Waiting rows log changes (.holds deviceID (version log)) (applyAll srv changes rows)
        (log ++ [.committed changes]) [] (.stored deviceID)
  | remove (changes : List Change)
      (hfree : ∀ deviceID, Change.delete .Device deviceID ∈ changes → ¬ Waiting deviceID) :
      Move srv Waiting rows log changes .leaves (applyAll srv changes rows)
        (log ++ [.committed changes]) [] .leaves
  | answer (changes : List Change) (φ : Phase) (event : String) (payload : Value)
      (hid : ∀ deviceID, Answers deviceID (.emitted event payload) → φ = .stored deviceID) :
      Move srv Waiting rows log changes φ rows (log ++ [.emitted event payload]) changes .ended

/-- **An operation the phase allows is one of these moves**, if it is a careful one. -/
theorem move_of_allows {o : Act} (hsound : Sound srv s.shared.world.rows s.shared.log t.own t.phase)
    (hallows : t.phase.allows o)
    (hcareful : faults s.shared.world.asked = none → Careful srv s t o) :
    Move srv (Waits s) s.shared.world.rows s.shared.log t.own t.phase
      (actOn srv faults o s.shared t.own).2.1.world.rows
      (actOn srv faults o s.shared t.own).2.1.log
      (actOn srv faults o s.shared t.own).2.2
      (t.phase.next (version s.shared.log) o (actOn srv faults o s.shared t.own).1) := by
  obtain ⟨program, changes, φ⟩ := t
  cases o with
  | connect =>
    simp only [actOn, act, call]
    cases hfault : faults s.shared.world.asked with
    | some code => exact Move.fail changes φ
    | none => exact Move.connect changes φ
  | manage => exact absurd hallows (by simp [Phase.allows])
  | emit event payload => exact Move.answer changes φ event payload hallows
  | commit =>
    simp only [actOn, act, call]
    cases hfault : faults s.shared.world.asked with
    | some code => exact Move.fail changes φ
    | none =>
      rcases hallows with hφ | ⟨deviceID, read, hφ⟩
      · obtain rfl : φ = .leaves := hφ
        exact Move.remove changes (hcareful hfault)
      · obtain rfl : φ = .holds deviceID read := hφ
        obtain ⟨rfl, hany⟩ : read = version s.shared.log ∧ changes.any storesDevice :=
          hcareful hfault
        exact Move.store changes deviceID hany
  | execute q =>
    simp only [actOn, act, call]
    cases hfault : faults s.shared.world.asked with
    | some code => cases q <;> exact Move.fail changes φ
    | none =>
      cases q with
      | maxSigned table column =>
        obtain ⟨hφ, rfl, rfl⟩ := hallows
        obtain rfl : φ = .joins := hφ
        obtain rfl : changes = [] := hsound
        have hmove : Move srv (Waits s) s.shared.world.rows s.shared.log [] .joins _ _ _ _ :=
          Move.read [] (hcareful hfault)
        rw [← ResolverPer.nextID_eq] at hmove
        exact hmove
      | insert table row =>
        obtain ⟨deviceID, read, hφ, hrow⟩ := hallows
        obtain rfl : φ = .holds deviceID read := hφ
        have hheld : Held srv _ _ changes deviceID read := hsound
        rcases eval_insert_cases srv table row
          (State.tick ⟨s.shared.world, changes, s.shared.log⟩) with
          ⟨code, heval⟩ | ⟨new, hreads, _, heval⟩
        · simp only [heval]
          exact Move.fail changes (.holds deviceID read)
        · simp only [heval]
          -- its own ID is in front of whatever text breaks its literal
          refine Move.insert changes deviceID read table new fun ht => ?_
          obtain ⟨rest, rfl⟩ := hrow ht
          exact reads_first (readText_plain hheld.plain) hreads
      | delete table deviceID =>
        obtain ⟨hφ, n, rfl⟩ := hallows
        obtain rfl : φ = .leaves := hφ
        exact Move.delete changes table n
      | maxText table column => exact absurd hallows (by simp [Phase.allows])
      | exist deviceID => exact absurd hallows (by simp [Phase.allows])
      | columnCount => exact absurd hallows (by simp [Phase.allows])
      | alter n => exact absurd hallows (by simp [Phase.allows])

/-! ## What a commit of a join keeps -/

theorem Stored.store (h : Stored deviceID rows) {deviceID' : String}
    (hinserts : Inserts deviceID' changes) : Stored deviceID (applyAll srv changes rows) := by
  obtain ⟨row, hmem, hrow⟩ := h
  exact ⟨row, hinserts.subset hmem, hrow⟩

/-- Another thread: a number it holds is out of date. -/
theorem Sound.store {own : List Change} {φ : Phase} (h : Sound srv rows log own φ)
    (hinserts : Inserts deviceID changes) (hany : changes.any storesDevice) :
    Sound srv (applyAll srv changes rows) (log ++ [.committed changes]) own φ := by
  have hversion : version (log ++ [.committed changes]) = version log + 1 := by
    rw [version_committed, if_pos hany]
  cases φ with
  | joins => exact h
  | leaves => exact h
  | ended => trivial
  | stored deviceID' =>
    refine ⟨h.number, h.stored.store hinserts, fun hlive => ?_⟩
    exact h.dead (live_committed.mp hlive).1
  | holds deviceID' read =>
    have hpast : read ≤ version log := h.past
    refine ⟨h.plain, h.inserts, by omega, fun hread => ?_⟩
    omega

theorem Told.store (h : Told rows log) (hinserts : Inserts deviceID changes) :
    Told (applyAll srv changes rows) (log ++ [.committed changes]) where
  number deviceID hlive := h.number deviceID (live_committed.mp hlive).1
  stored deviceID hlive := (h.stored deviceID (live_committed.mp hlive).1).store hinserts
  separated deviceID := Trace.separated_concat (h.separated deviceID) fun ha => absurd ha id

/-! ## What a commit of a leave keeps -/

/-- Another thread, unless its device is deleted before it answers. -/
theorem Sound.remove {own : List Change} {φ : Phase} (h : Sound srv rows log own φ)
    (hremovals : Removals changes)
    (hfree : ∀ deviceID, φ = .stored deviceID → Change.delete .Device deviceID ∉ changes) :
    Sound srv (applyAll srv changes rows) (log ++ [.committed changes]) own φ := by
  have hversion : version (log ++ [.committed changes]) = version log := by
    rw [version_committed, hremovals.not_storesDevice]
    rfl
  cases φ with
  | joins => exact h
  | leaves => exact h
  | ended => trivial
  | stored deviceID =>
    refine ⟨h.number, hremovals.stored h.number (hfree deviceID rfl) h.stored, fun hlive => ?_⟩
    exact h.dead (live_committed.mp hlive).1
  | holds deviceID read =>
    refine ⟨h.plain, h.inserts, hversion ▸ h.past, fun hread => ?_⟩
    obtain ⟨n, hn, hnumber, hbelow⟩ := h.above (hversion ▸ hread)
    exact ⟨n, hn, hnumber, hbelow.mono fun e he => mem_of_mem_applyAll hremovals he⟩

theorem Told.remove (h : Told rows log) (hremovals : Removals changes) :
    Told (applyAll srv changes rows) (log ++ [.committed changes]) where
  number deviceID hlive := h.number deviceID (live_committed.mp hlive).1
  stored deviceID hlive := by
    obtain ⟨hlive, hnot⟩ := live_committed.mp hlive
    exact hremovals.stored (h.number deviceID hlive) hnot (h.stored deviceID hlive)
  separated deviceID := Trace.separated_concat (h.separated deviceID) fun ha => absurd ha id

/-! ## What an answer keeps -/

/-- Another thread, unless it waits to answer with the same ID. -/
theorem Sound.answer {own : List Change} {φ : Phase} {event : String} {payload : Value}
    (h : Sound srv rows log own φ)
    (hother : ∀ deviceID, φ = .stored deviceID → ¬ Answers deviceID (.emitted event payload)) :
    Sound srv rows (log ++ [.emitted event payload]) own φ := by
  cases φ with
  | joins => exact h
  | leaves => exact h
  | ended => trivial
  | stored deviceID =>
    refine ⟨h.number, h.stored, fun hlive => ?_⟩
    rcases live_emitted.mp hlive with hanswer | hlive
    · exact hother deviceID rfl hanswer
    · exact h.dead hlive
  | holds deviceID read =>
    have hversion : version (log ++ [.emitted event payload]) = version log := version_emitted
    exact ⟨h.plain, h.inserts, hversion ▸ h.past, fun hread => h.above (hversion ▸ hread)⟩

/-- A join answers with an ID that was not answered, or was deleted since. -/
theorem Told.answer (h : Told rows log) {event : String} {payload : Value}
    (hunanswered : ∀ deviceID, Answers deviceID (.emitted event payload) →
      Unanswered rows log deviceID) :
    Told rows (log ++ [.emitted event payload]) where
  number deviceID hlive :=
    (live_emitted.mp hlive).elim (fun ha => (hunanswered deviceID ha).number) (h.number deviceID)
  stored deviceID hlive :=
    (live_emitted.mp hlive).elim (fun ha => (hunanswered deviceID ha).stored) (h.stored deviceID)
  separated deviceID :=
    Trace.separated_concat (h.separated deviceID) fun ha => (hunanswered deviceID ha).dead

/-! ## Every step keeps the invariant -/

theorem inserts_concat (h : Inserts deviceID changes) {t : Table} {new : List Row}
    (hnew : t = .Device → ∃ r ∈ new, Carries deviceID r) :
    Inserts deviceID (changes ++ new.map (Change.insert t)) := by
  refine ⟨fun c hc => ?_, fun hany => ?_⟩
  · rcases List.mem_append.mp hc with hc | hc
    · exact h.adds c hc
    · obtain ⟨r, _, rfl⟩ := List.mem_map.mp hc
      trivial
  · rw [List.any_append, Bool.or_eq_true] at hany
    rcases hany with hany | hany
    · obtain ⟨row, hmem, hcarries⟩ := h.own hany
      exact ⟨row, List.mem_append_left _ hmem, hcarries⟩
    · obtain ⟨c, hc, hdevice⟩ := List.any_eq_true.mp hany
      obtain ⟨_, _, rfl⟩ := List.mem_map.mp hc
      have ht : t = .Device := by
        cases t with
        | Device => rfl
        | _ => exact absurd hdevice (by simp [storesDevice])
      subst ht
      obtain ⟨r, hr, hcarries⟩ := hnew rfl
      exact ⟨r, List.mem_append_right _ (List.mem_map_of_mem hr), hcarries⟩

theorem removals_concat (h : Removals changes) {t : Table} {n : Int} :
    Removals (changes ++ [.delete t (toString n)]) := by
  intro c hc
  rcases List.mem_append.mp hc with hc | hc
  · exact h c hc
  · exact ⟨t, n, List.mem_singleton.mp hc⟩

theorem Sound.connect {own : List Change} {φ : Phase} (h : Sound srv rows log own φ) :
    Sound srv rows log [] φ := by
  cases φ with
  | joins => rfl
  | leaves => intro c hc; exact absurd hc (by simp)
  | ended => trivial
  | stored deviceID => exact h
  | holds deviceID read => exact ⟨h.plain, inserts_nil deviceID, h.past, h.above⟩

/-- A move that leaves the rows and the log. -/
theorem Consistent.quiet (h : Consistent srv s) (ht : s.threads[i]? = some t)
    (hrows : g.world.rows = s.shared.world.rows) (hlog : g.log = s.shared.log)
    (hown : Sound srv s.shared.world.rows s.shared.log t'.own t'.phase)
    (hphase : ∀ deviceID, t'.phase = .stored deviceID → t.phase = .stored deviceID) :
    Consistent srv ⟨g, s.threads.set i t'⟩ := by
  have hapart : ∀ deviceID, t'.phase = .stored deviceID → ∀ j u, j ≠ i →
      s.threads[j]? = some u → u.phase ≠ .stored deviceID := by
    intro deviceID ht' j u hji hu hju
    exact hji (h.apart j i u t deviceID hu ht hju (hphase deviceID ht'))
  refine h.set ?_ ?_ ?_ hapart
  · rw [hrows, hlog]
    exact h.told
  · intro j u _ hu
    rw [hrows, hlog]
    exact h.sound u (List.mem_of_getElem? hu)
  · rw [hrows, hlog]
    exact hown

/-- **One move keeps the invariant.** -/
theorem consistent_move (h : Consistent srv s) (ht : s.threads[i]? = some t)
    (hmove : Move srv (Waits s) s.shared.world.rows s.shared.log t.own t.phase
      g.world.rows g.log t'.own t'.phase) :
    Consistent srv ⟨g, s.threads.set i t'⟩ := by
  have hsound := h.sound t (List.mem_of_getElem? ht)
  have hother : ∀ (j : Nat) (u : Thread), s.threads[j]? = some u →
      Sound srv s.shared.world.rows s.shared.log u.own u.phase :=
    fun j u hu => h.sound u (List.mem_of_getElem? hu)
  obtain ⟨program, own, φ⟩ := t
  obtain ⟨program', own', φ'⟩ := t'
  obtain ⟨⟨rows', attrs, asked, manageNum⟩, log'⟩ := g
  dsimp only at hsound hmove
  cases hmove with
  | fail => exact h.quiet ht rfl rfl hsound fun _ hφ => hφ
  | connect => exact h.quiet ht rfl rfl hsound.connect fun _ hφ => hφ
  | read hroom =>
    obtain rfl : own = [] := hsound
    refine h.quiet ht rfl rfl ⟨plain_toString_int _, inserts_nil _, Nat.le_refl _, fun _ => ?_⟩
      fun _ hφ => absurd hφ (by simp)
    exact ⟨_, hroom, rfl, below_largestID srv _⟩
  | insert deviceID read table new hnew =>
    have hheld : Held srv _ _ own deviceID read := hsound
    exact h.quiet ht rfl rfl
      ⟨hheld.plain, inserts_concat hheld.inserts hnew, hheld.past, hheld.above⟩ fun _ hφ => hφ
  | delete table n => exact h.quiet ht rfl rfl (removals_concat hsound) fun _ hφ => hφ
  | store deviceID hany =>
    have hheld : Held srv _ _ own deviceID _ := hsound
    obtain ⟨n, hn, rfl, hbelow⟩ := hheld.above rfl
    have hnew : ¬ Stored (toString n) s.shared.world.rows := hbelow.not_stored hn
    refine h.set (h.told.store hheld.inserts) ?_ ⟨⟨n, rfl⟩, hheld.inserts.stored hany, ?_⟩ ?_
    · intro j u _ hu
      exact (hother j u hu).store hheld.inserts hany
    · intro hlive
      exact hnew (h.told.stored _ (live_committed.mp hlive).1)
    · intro deviceID' hφ j u _ hu hju
      obtain rfl : toString n = deviceID' := Phase.stored.inj hφ
      have hwaits := hother j u hu
      rw [hju] at hwaits
      exact hnew hwaits.stored
  | remove hfree =>
    have hremovals : Removals own := hsound
    refine h.set (h.told.remove hremovals) ?_ (fun c hc => absurd hc (by simp))
      fun _ hφ => absurd hφ (by simp)
    intro j u _ hu
    refine (hother j u hu).remove hremovals fun deviceID hju hmem => ?_
    exact hfree deviceID hmem ⟨u, List.mem_of_getElem? hu, hju⟩
  | answer _ event payload hid =>
    have hunanswered : ∀ deviceID, Answers deviceID (.emitted event payload) →
        Unanswered s.shared.world.rows s.shared.log deviceID := by
      intro deviceID ha
      rw [hid deviceID ha] at hsound
      exact hsound
    refine h.set (h.told.answer hunanswered) ?_ trivial fun _ hφ => absurd hφ (by simp)
    intro j u hji hu
    refine (hother j u hu).answer fun deviceID hju ha => ?_
    exact hji (h.apart j i u _ deviceID hu ht hju (hid deviceID ha))

/-! ## Runs -/

/-- **One orderly step keeps the invariant.** -/
theorem consistent_step (hobeys : Interleaving.Obeys protocol s) (h : Consistent srv s)
    (horderly : Orderly srv faults s i) : Consistent srv (step srv faults s i) := by
  rcases Interleaving.step_cases (i := i) hobeys with hstep | ⟨t, o, k, ht, hp, hallows, hstep⟩
  · rw [step, hstep]
    exact h
  · rw [step, hstep]
    refine consistent_move h ht ?_
    exact move_of_allows (h.sound t (List.mem_of_getElem? ht)) hallows (horderly t o k ht hp)

/-- Before the first step nothing is answered. -/
theorem consistent_boot (srv : Server) (py : Interpreter) (w : World) (requests : List Request) :
    Consistent srv (boot py w requests) := by
  have hlive : ∀ deviceID, ¬ Live deviceID [] := fun _ => Trace.not_since_nil
  have hstored : ∀ (r : Request) deviceID, r.phase ≠ .stored deviceID := by
    intro r deviceID
    cases r <;> simp [Request.phase]
  refine ⟨⟨fun d h => absurd h (hlive d), fun d h => absurd h (hlive d),
    fun _ => Trace.separated_nil⟩, ?_, ?_⟩
  · intro t ht
    obtain ⟨r, _, rfl⟩ := List.mem_map.mp ht
    have hnil : Removals [] := fun c hc => absurd hc (by simp)
    cases r with
    | perJoin js => rfl
    | perLeave js => exact hnil
    | join body => rfl
    | leave body => exact hnil
  · intro i j t u deviceID ht _ hphase
    obtain ⟨r, _, rfl⟩ := List.mem_map.mp (List.mem_of_getElem? ht)
    exact absurd hphase (hstored r deviceID)

/-- **In every interleaving of orderly steps, two answers with one ID have a leave between
them.** -/
theorem distinct_of_orderly (srv : Server) (faults : Faults) (py : Interpreter) (w : World)
    (requests : List Request) (is : List Nat)
    (hrun : Machine.Along (step srv faults) (Orderly srv faults) (boot py w requests) is)
    (deviceID : String) : Trace.Separated (Answers deviceID) (Deletes deviceID)
      (is.foldl (step srv faults) (boot py w requests)).shared.log := by
  have hstep : ∀ s i, Interleaving.Obeys protocol s ∧ Consistent srv s → Orderly srv faults s i →
      Interleaving.Obeys protocol (step srv faults s i) ∧ Consistent srv (step srv faults s i) :=
    fun _ _ h hi => ⟨Interleaving.obeys_step h.1, consistent_step h.1 h.2 hi⟩
  have hboot := And.intro (obeys_boot py w requests) (consistent_boot srv py w requests)
  exact (Machine.along_invariant hstep hrun hboot).2.told.separated deviceID

/-! ## Two joins -/

/-- A device with one interface. -/
def oneInterface : Resolver.Body :=
  .ok (.dict [("uniqueCodes", .list [.dict [("hwAddress", .str "m")]])])

/-- Its row. -/
def deviceOf (deviceID : String) : Row :=
  [("deviceID", deviceID), ("interface", "."), ("mac", "m"), ("ip", "."), ("wifiSSID", "."),
    ("relay", "none")]

/-- Two such devices that join at once. -/
def twoJoins : System := boot .plain ⟨[], 0, 0, 0⟩ [.join oneInterface, .join oneInterface]

/-- If both read the maximum before one commits, both get the same ID. -/
theorem race_log : ([0, 0, 1, 1, 0, 0, 0, 1, 1, 1].foldl (step .plain fun _ => none)
    twoJoins).shared.log =
      [.committed [.insert .Device (deviceOf "1")], .emitted "response" (joinAnswer 0 "1"),
        .committed [.insert .Device (deviceOf "1")], .emitted "response" (joinAnswer 0 "1")] := by
  rfl

/-- Not every interleaving answers with different IDs. -/
theorem not_distinct : ¬ ∀ srv faults py w requests (is : List Nat) deviceID,
    Trace.Separated (Answers deviceID) (Deletes deviceID)
      (is.foldl (step srv faults) (boot py w requests)).shared.log := by
  intro h
  have hrace := h .plain (fun _ => none) .plain ⟨[], 0, 0, 0⟩
    [.join oneInterface, .join oneInterface] [0, 0, 1, 1, 0, 0, 0, 1, 1, 1] "1"
  have hanswer : Answers "1" (.emitted "response" (joinAnswer 0 "1")) := ⟨rfl, rfl⟩
  obtain ⟨e, he, hdeletes⟩ := hrace [_] _ [_] _ [] race_log hanswer hanswer
  obtain rfl := List.mem_singleton.mp he
  exact absurd hdeletes (by simp [Deletes])

/-- A step is orderly if the operation that comes next is careful. -/
theorem orderly_of_careful {s : System} {i : Nat} (h : match s.threads[i]? with
      | some t => match t.program with
        | .call o _ => Careful srv s t o
        | _ => True
      | none => True) : Orderly srv faults s i := by
  intro t o k ht hp _
  simpa only [ht, hp] using h

/-- The theorem on two joins at once, the second of which reads the maximum behind the commit of
the first. -/
theorem distinct_twoJoins : Trace.Separated (Answers "1") (Deletes "1")
    ([0, 1, 0, 0, 0, 1, 1, 1, 0, 1].foldl (step .plain fun _ => none) twoJoins).shared.log := by
  have hfirst : InBigint (largestID .plain [] + 1) := by decide
  have hsecond : InBigint (largestID .plain [(.Device, deviceOf "1")] + 1) := by decide +kernel
  refine distinct_of_orderly .plain (fun _ => none) .plain ⟨[], 0, 0, 0⟩
    [.join oneInterface, .join oneInterface] [0, 1, 0, 0, 0, 1, 1, 1, 0, 1]
    ⟨orderly_of_careful trivial, orderly_of_careful trivial, orderly_of_careful hfirst,
      orderly_of_careful trivial, orderly_of_careful (And.intro rfl rfl),
      orderly_of_careful hsecond, orderly_of_careful trivial,
      orderly_of_careful (And.intro rfl rfl), orderly_of_careful trivial,
      orderly_of_careful trivial, trivial⟩ "1"

end Versatile.Concurrent
