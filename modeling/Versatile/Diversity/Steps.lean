import Versatile.Diversity.Handler

/-!
# What a handler does to the database, step by step

Each relation here is kept by certain operations, and so by every program that performs no
others. A `quiet` operation commits nothing, emits nothing and adds no column. An operation
that `adds` rows in `P` makes no other change, so neither does what it commits. And once the
database refuses every call, no operation commits anything.
-/

namespace Versatile.Diversity

open Py

variable {srv : Server} {faults : Faults} {α β ε : Type}

/-! ## Calls -/

/-- A call leaves what the database makes of it, or only counts. -/
theorem call_state (f : State → Except Nat α × State) (s : State) :
    (call faults f s).2 = s.tick ∨ (call faults f s).2 = (f s.tick).2 := by
  rw [call]
  cases faults s.world.asked with
  | some code => exact Or.inl rfl
  | none => exact Or.inr rfl

/-- What an operation does where the database does not fail it. -/
def Act.granted (srv : Server) : Act → State → State
  | .connect, s => s.opened
  | .execute q, s => (q.eval srv s).2
  | .commit, s => s.commit srv
  | .emit event payload, s => s.shown (.emitted event payload)
  | .manage, s => s.manage

/-- **A relation that counting a call keeps, and the operation itself, the operation keeps** whether
it is failed or not. -/
theorem act_keeps {R : State → State → Prop} (hR : Proc.Frame R) (htick : ∀ s, R s s.tick) {o : Act}
    (hgranted : ∀ s, R s (o.granted srv s)) (s : State) : R s (act srv faults o s).2 := by
  have hcall : ∀ (β : Type) (f : State → Except Nat β × State), (∀ s, R s (f s).2) →
      R s (call faults f s).2 := by
    intro β f hf
    rcases call_state f s with h | h
    · rw [h]
      exact htick s
    · rw [h]
      exact hR.trans (htick s) (hf s.tick)
  cases o with
  | connect => exact hcall _ _ hgranted
  | execute q => exact hcall _ _ hgranted
  | commit => exact hcall _ _ hgranted
  | emit event payload => exact hgranted s
  | manage => exact hgranted s

/-! ## Programs, by the operations they perform -/

section Only

variable {P : Act → Prop}

theorem only_connect (h : P .connect) : Prog.Only P connect :=
  Prog.only_bind (Prog.only_perform h) fun _ => Prog.only_lift _

theorem only_execute {q : Statement} (h : P (.execute q)) : Prog.Only P (execute q) :=
  Prog.only_bind (Prog.only_perform h) fun _ => Prog.only_lift _

theorem only_commit (h : P .commit) : Prog.Only P commit :=
  Prog.only_bind (Prog.only_perform h) fun _ => Prog.only_lift _

theorem only_emit {event : String} {payload : Value} (h : P (.emit event payload)) :
    Prog.Only P (emit event payload : Prog Act Act.Res ε Unit) := Prog.only_perform h

theorem only_nextManageNum (h : P .manage) : Prog.Only P nextManageNum := Prog.only_perform h

theorem only_insertAll {t : Table} {rowOf : Value → Except Exc Row} {vs : List Value}
    (h : ∀ v ∈ vs, ∀ row, rowOf v = .ok row → P (.execute (.insert t row))) :
    Prog.Only P (insertAll t rowOf vs) := by
  induction vs with
  | nil => trivial
  | cons v vs ih =>
    obtain ⟨hfirst, hrest⟩ := List.forall_mem_cons.mp h
    rw [insertAll]
    refine Prog.only_lift_bind fun row hrow => ?_
    exact Prog.only_bind (only_execute (hfirst row hrow)) fun _ => ih hrest

end Only

/-! ## Programs, by their parts -/

section Parts

variable {ε' : Type} {R : State → State → Prop}

theorem keeps_bind (hR : Proc.Frame R) {p : Prog Act Act.Res ε α} {f : α → Prog Act Act.Res ε β}
    (hp : Proc.Keeps R (perform srv faults p)) (hf : ∀ a, Proc.Keeps R (perform srv faults (f a))) :
    Proc.Keeps R (perform srv faults (p >>= f)) := by
  rw [perform, Prog.run_bind]
  exact hR.bind hp hf

/-- A computation without operations, and what follows its value. -/
theorem keeps_lift_bind (hR : Proc.Frame R) {x : Except ε α} {f : α → Prog Act Act.Res ε β}
    (hf : ∀ a, x = .ok a → Proc.Keeps R (perform srv faults (f a))) :
    Proc.Keeps R (perform srv faults ((liftM x : Prog Act Act.Res ε α) >>= f)) := by
  cases x with
  | ok a => exact hf a rfl
  | error e => exact hR.raise e

theorem keeps_tryExcept (hR : Proc.Frame R) {p : Prog Act Act.Res ε α}
    {handler : ε → Prog Act Act.Res ε' α} (hp : Proc.Keeps R (perform srv faults p))
    (hh : ∀ e, Proc.Keeps R (perform srv faults (handler e))) :
    Proc.Keeps R (perform srv faults (Prog.tryExcept p handler)) := by
  intro s
  have hkept := hp s
  rcases hrun : perform srv faults p s with ⟨r, s'⟩
  rw [hrun] at hkept
  cases r with
  | ok a =>
    rw [perform_try_ok hrun]
    exact hkept
  | error e =>
    rw [perform_try_error hrun]
    exact hR.trans hkept (hh e s')

end Parts

/-! ## Quiet programs -/

/-- What is stored and what was shown stay. -/
structure Kept (s s' : State) : Prop where
  stored : s'.world.stored = s.world.stored
  log : s'.log = s.log

theorem Kept.refl (s : State) : Kept s s := ⟨rfl, rfl⟩

theorem Kept.trans {a b c : State} (h1 : Kept a b) (h2 : Kept b c) : Kept a c :=
  ⟨h2.stored.trans h1.stored, h2.log.trans h1.log⟩

/-- So the rows stay. -/
theorem Kept.rows {s s' : State} (h : Kept s s') : s'.world.rows = s.world.rows :=
  (stored_eq_iff.mp h.stored).1

/-- The columns stay too. -/
structure Quiet (s s' : State) : Prop where
  rows : s'.world.rows = s.world.rows
  attrs : s'.world.attrs = s.world.attrs
  log : s'.log = s.log

theorem Quiet.refl (s : State) : Quiet s s := ⟨rfl, rfl, rfl⟩

theorem Quiet.trans {a b c : State} (h1 : Quiet a b) (h2 : Quiet b c) : Quiet a c :=
  ⟨h2.rows.trans h1.rows, h2.attrs.trans h1.attrs, h2.log.trans h1.log⟩

theorem Quiet.toKept {s s' : State} (h : Quiet s s') : Kept s s' :=
  ⟨stored_eq_iff.mpr ⟨h.rows, fun _ => h.attrs⟩, h.log⟩

theorem quiet_frame : Proc.Frame Quiet := ⟨Quiet.refl, Quiet.trans⟩

/-- The operations that are quiet from every state. -/
def Act.quiet : Act → Prop
  | .execute (.alter _) => False
  | .commit => False
  | .emit _ _ => False
  | _ => True

/-- A statement that adds no column is quiet. -/
theorem eval_quiet {q : Statement} (hq : (Act.execute q).quiet) (s : State) :
    Quiet s (q.eval srv s).2 := by
  cases q with
  | alter n => exact absurd hq (by simp [Act.quiet])
  | insert t row =>
    rcases eval_insert_cases srv t row s with ⟨code, heval⟩ | ⟨new, _, _, heval⟩
    · rw [heval]
      exact Quiet.refl s
    · rw [heval]
      exact ⟨rfl, rfl, rfl⟩
  | delete t deviceID => exact ⟨rfl, rfl, rfl⟩
  | _ => exact Quiet.refl s

theorem act_quiet {o : Act} (ho : o.quiet) (s : State) : Quiet s (act srv faults o s).2 := by
  refine act_keeps quiet_frame (fun _ => ⟨rfl, rfl, rfl⟩) (fun s => ?_) s
  cases o with
  | connect => exact ⟨rfl, rfl, rfl⟩
  | execute q => exact eval_quiet ho s
  | manage => exact ⟨rfl, rfl, rfl⟩
  | commit => exact absurd ho (by simp [Act.quiet])
  | emit event payload => exact absurd ho (by simp [Act.quiet])

/-- **A program of quiet operations is quiet**, however it ends. -/
theorem keeps_quiet (srv : Server) (faults : Faults) {p : Prog Act Act.Res ε α}
    (hp : Prog.Only Act.quiet p) : Proc.Keeps Quiet (perform srv faults p) :=
  hp.run_keeps quiet_frame fun _ s ho => act_quiet ho s

/-! ## Rows that are added -/

/-- An open change that inserts a row in `P`. -/
def Change.Adds (P : Table × Row → Prop) : Change → Prop
  | .insert t row => P (t, row)
  | .delete _ _ => False

/-- The operations that change nothing but to add rows in `P`, whatever the rows they find. -/
def Act.adds (srv : Server) (P : Table × Row → Prop) : Act → Prop
  | .execute (.insert t row) => ∀ rows new, srv.reads rows t row = .ok new → ∀ r ∈ new, P (t, r)
  | .execute (.delete _ _) => False
  | _ => True

/-- An insertion of exactly what its texts are read as. -/
theorem adds_of_exact {P : Table × Row → Prop} {t : Table} {row : Row} (hexact : srv.Exact t row)
    (hr : ∀ r, readTexts row = some r → P (t, r)) : Act.adds srv P (.execute (.insert t row)) := by
  intro rows new hreads
  obtain ⟨r, hread, rfl⟩ := hexact rows new hreads
  exact List.forall_mem_singleton.mpr (hr r hread)

/-- From open changes that add rows in `P`: the open ones still are, and what was committed
adds rows in `P`. -/
def Grows (P : Table × Row → Prop) (s s' : State) : Prop :=
  (∀ c ∈ s.conn, c.Adds P) → (∀ c ∈ s'.conn, c.Adds P) ∧
    ∃ new, s'.world.rows = s.world.rows ++ new ∧ ∀ e ∈ new, P e

theorem grows_frame (P : Table × Row → Prop) : Proc.Frame (Grows P) where
  refl := fun s h => ⟨h, [], by simp, by simp⟩
  trans := by
    intro a b c hab hbc ha
    obtain ⟨hb, new, hrows, hnew⟩ := hab ha
    obtain ⟨hc, new', hrows', hnew'⟩ := hbc hb
    refine ⟨hc, new ++ new', by rw [hrows', hrows, List.append_assoc], ?_⟩
    intro e he
    exact (List.mem_append.mp he).elim (hnew e) (hnew' e)

theorem applyAll_append (cs cs' : List Change) (rows : Rows) :
    applyAll srv (cs ++ cs') rows = applyAll srv cs' (applyAll srv cs rows) := List.foldl_append

/-- Insertions add their rows behind the others. -/
theorem applyAll_waiting (new before : Rows) :
    applyAll srv (new.map fun e => Change.insert e.1 e.2) before = before ++ new := by
  induction new generalizing before with
  | nil => exact (List.append_nil before).symm
  | cons e new ih =>
    have hstep : applyAll srv ((e :: new).map fun e => Change.insert e.1 e.2) before =
        applyAll srv (new.map fun e => Change.insert e.1 e.2) (before ++ [e]) := rfl
    rw [hstep, ih, List.append_assoc, List.singleton_append]

/-- The same for rows of one table. -/
theorem applyAll_inserts (t : Table) (rows : List Row) (before : Rows) :
    applyAll srv (rows.map (Change.insert t)) before = before ++ rows.map fun r => (t, r) := by
  have hwaiting := @applyAll_waiting srv (rows.map fun r => (t, r)) before
  rwa [List.map_map] at hwaiting

/-- Changes that add rows add them behind the others. -/
theorem applyAll_adds (srv : Server) {P : Table × Row → Prop} {cs : List Change}
    (h : ∀ c ∈ cs, c.Adds P) (rows : Rows) : ∃ new, applyAll srv cs rows = rows ++ new ∧
      (∀ e ∈ new, P e) ∧ cs = new.map fun e => Change.insert e.1 e.2 := by
  have hinserts : ∃ new : Rows, (∀ e ∈ new, P e) ∧
      cs = new.map fun e => Change.insert e.1 e.2 := by
    induction cs with
    | nil => exact ⟨[], by simp, rfl⟩
    | cons c cs ih =>
      obtain ⟨hc, hcs⟩ := List.forall_mem_cons.mp h
      obtain ⟨new, hnew, rfl⟩ := ih hcs
      cases c with
      | delete t deviceID => exact absurd hc (by simp [Change.Adds])
      | insert t row => exact ⟨(t, row) :: new, List.forall_mem_cons.mpr ⟨hc, hnew⟩, rfl⟩
  obtain ⟨new, hnew, rfl⟩ := hinserts
  exact ⟨new, applyAll_waiting new rows, hnew, rfl⟩

theorem grows_commit (P : Table × Row → Prop) (s : State) : Grows P s (s.commit srv) := by
  intro h
  obtain ⟨new, hrows, hnew, _⟩ := applyAll_adds srv h s.world.rows
  exact ⟨by simp [State.commit], new, hrows, hnew⟩

theorem grows_commitOpen (P : Table × Row → Prop) (s : State) :
    Grows P s (s.commitOpen srv) := by
  rw [State.commitOpen]
  split
  · exact (grows_frame P).refl s
  · exact grows_commit P s

/-- A state that differs in no row and no open change. -/
theorem grows_same (P : Table × Row → Prop) {s s' : State} (hrows : s'.world.rows = s.world.rows)
    (hconn : s'.conn = s.conn) : Grows P s s' :=
  fun h => ⟨hconn ▸ h, [], by simp [hrows], by simp⟩

theorem eval_grows {P : Table × Row → Prop} {q : Statement} (hq : (Act.execute q).adds srv P)
    (s : State) : Grows P s (q.eval srv s).2 := by
  cases q with
  | alter n =>
    rw [Statement.eval]
    split
    · exact (grows_frame P).trans (grows_commitOpen P s) (grows_same P rfl rfl)
    · exact grows_commitOpen P s
  | insert t row =>
    rcases eval_insert_cases srv t row s with ⟨code, heval⟩ | ⟨new, hreads, _, heval⟩
    · rw [heval]
      exact (grows_frame P).refl s
    · rw [heval]
      intro h
      refine ⟨?_, [], by simp [State.push], by simp⟩
      intro c hc
      rcases List.mem_append.mp hc with hc | hc
      · exact h c hc
      · obtain ⟨r, hr, rfl⟩ := List.mem_map.mp hc
        exact hq _ _ hreads r hr
  | delete t deviceID => exact absurd hq (by simp [Act.adds])
  | _ => exact (grows_frame P).refl s

theorem act_grows {P : Table × Row → Prop} {o : Act} (ho : o.adds srv P) (s : State) :
    Grows P s (act srv faults o s).2 := by
  refine act_keeps (grows_frame P) (fun _ => grows_same P rfl rfl) (fun s => ?_) s
  cases o with
  | connect =>
    exact fun _ => ⟨by simp [Act.granted, State.opened], [],
      by simp [Act.granted, State.opened], by simp⟩
  | execute q => exact eval_grows ho s
  | commit => exact grows_commit P s
  | emit event payload => exact grows_same P rfl rfl
  | manage => exact grows_same P rfl rfl

/-- **A program whose insertions are in `P`, and that deletes nothing, adds rows in `P`**,
however it ends. -/
theorem keeps_grows (srv : Server) (faults : Faults) {P : Table × Row → Prop}
    {p : Prog Act Act.Res ε α} (hp : Prog.Only (Act.adds srv P) p) :
    Proc.Keeps (Grows P) (perform srv faults p) :=
  hp.run_keeps (grows_frame P) fun _ s ho => act_grows ho s

/-! ## A database that refuses everything from some call on -/

/-- The calls from `i` up to `k` are granted. -/
def Grants (faults : Faults) (i k : Nat) : Prop := ∀ n, i ≤ n → n < k → faults n = none

/-- The calls from `k` on are refused. -/
def Refuses (faults : Faults) (k : Nat) : Prop := ∀ n, k ≤ n → ∃ code, faults n = some code

/-- From call `k` on, nothing that is stored changes. -/
def Stuck (k : Nat) (s s' : State) : Prop :=
  k ≤ s.world.asked → k ≤ s'.world.asked ∧ s'.world.stored = s.world.stored

theorem stuck_frame (k : Nat) : Proc.Frame (Stuck k) where
  refl := fun _ h => ⟨h, rfl⟩
  trans := by
    intro a b c hab hbc ha
    obtain ⟨hb, hstored⟩ := hab ha
    obtain ⟨hc, hstored'⟩ := hbc hb
    exact ⟨hc, hstored'.trans hstored⟩

theorem call_stuck {k : Nat} (hrefuses : Refuses faults k) (f : State → Except Nat α × State)
    (s : State) : Stuck k s (call faults f s).2 := by
  intro h
  obtain ⟨code, hcode⟩ := hrefuses s.world.asked h
  rw [call, hcode]
  exact ⟨Nat.le_succ_of_le h, rfl⟩

theorem act_stuck {k : Nat} (hrefuses : Refuses faults k) (o : Act) (s : State) :
    Stuck k s (act srv faults o s).2 := by
  cases o with
  | connect => exact call_stuck hrefuses _ s
  | execute q => exact call_stuck hrefuses _ s
  | commit => exact call_stuck hrefuses _ s
  | emit event payload => exact fun h => ⟨h, rfl⟩
  | manage => exact fun h => ⟨h, rfl⟩

/-- **Whatever a program still does**, nothing that is stored changes any more. -/
theorem keeps_stuck (srv : Server) {k : Nat} (hrefuses : Refuses faults k)
    (p : Prog Act Act.Res ε α) : Proc.Keeps (Stuck k) (perform srv faults p) :=
  (Prog.only_true p).run_keeps (stuck_frame k) fun o s _ => act_stuck hrefuses o s

/-- The same for what follows the first part of a program. -/
theorem stuck_rest (srv : Server) {k : Nat} (hrefuses : Refuses faults k)
    (p : Prog Act Act.Res ε α) (f : α → Prog Act Act.Res ε β) (s : State) :
    Stuck k (perform srv faults p s).2 (perform srv faults (p >>= f) s).2 := by
  rw [perform_bind]
  rcases perform srv faults p s with ⟨r, s'⟩
  cases r with
  | error e => exact (stuck_frame k).refl s'
  | ok a => exact keeps_stuck srv hrefuses (f a) s'

/-! ## Transactions -/

/-- **Work, a commit, and an answer**: if the work keeps the committed rows, either it or the
commit failed and they stay, or everything it did is committed and the answer follows. -/
theorem transaction_cases {work : Handler α} {s : State} (answer : α → Handler β)
    (hwork : Kept s (perform srv faults work s).2) :
    (∃ e s', perform srv faults (work >>= fun a => commit >>= fun _ => answer a) s =
        (.error e, s') ∧ Kept s s') ∨
      ∃ a s', perform srv faults work s = (.ok a, s') ∧ Kept s s' ∧
        perform srv faults (work >>= fun a => commit >>= fun _ => answer a) s =
          perform srv faults (answer a) (s'.tick.commit srv) := by
  rcases hrun : perform srv faults work s with ⟨r, s'⟩
  rw [hrun] at hwork
  cases r with
  | error e => exact Or.inl ⟨e, s', perform_bind_error hrun, hwork⟩
  | ok a =>
    rw [perform_bind_ok hrun, perform_bind, perform_commit]
    cases faults s'.world.asked with
    | some code => exact Or.inl ⟨_, s'.tick, rfl, ⟨hwork.stored, hwork.log⟩⟩
    | none => exact Or.inr ⟨a, s', rfl, hwork, rfl⟩

end Versatile.Diversity
