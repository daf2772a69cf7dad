import Versatile.FlexIDMngerDb.Handlers

/-!
# Runs of `flexIDMnger_db.py`

What every run does to the database: rows are only added, each by a request of the operation
that writes its table, and commits only move forward. A row keeps its position in the log
for good, so "this row, later in the run" is a position.
-/

namespace Versatile

/-- The tables an operation inserts into. -/
def Op.writes : Op → Table → Bool
  | .join, .Device => true
  | .join, .Neighbor => true
  | .register, .RegisterList => true
  | _, _ => false

namespace FlexIDMngerDb

open Py

variable {srv : Server} {limit : Nat}

/-- The rows of all tables, as the manager's connection sees them. -/
abbrev Manager.log (m : Manager) : TxLog (Table × Tuple) := m.store.db.log

/-- An operation adds only rows of the tables it writes. -/
abbrev Writes (op : Op) : TxLog (Table × Tuple) → TxLog (Table × Tuple) → Prop :=
  TxLog.Extends fun e => op.writes e.1 = true

theorem Appended.extends {t : Table} {rows : List Tuple} {db db' : Database}
    (h : Appended t rows db db') : TxLog.Extends (fun e => e.1 = t) db.log db'.log := by
  refine ⟨⟨_, h.all, ?_⟩, by rw [h.committed]⟩
  intro e he
  obtain ⟨r, _, rfl⟩ := List.mem_map.mp he
  rfl

/-- The insertions of an operation, refused or not, write its tables. -/
theorem insertRows_writes (op : Op) {t : Table} (hop : op.writes t = true) {fs : List Fields}
    {db db' : Database} {r : Except Exc Unit} (h : insertRows srv t fs db = (r, db')) :
    Writes op db.log db'.log := by
  obtain ⟨rows, happ⟩ := insertRows_appended srv t fs db
  rw [h] at happ
  exact happ.extends.mono fun e he => he ▸ hop

theorem Marked.writes {asked : String → Prop} {s s' : Store} (h : Marked srv asked s s') (op : Op) :
    Writes op s.db.log s'.db.log := h.log ▸ TxLog.Extends.refl _ _

/-- The rest of a join, with its identifier. -/
theorem joinRows_writes (tempID : String) (payload relay : Value) (d : String) (s : Store) :
    Writes .join s.db.log (joinRows srv tempID payload relay d s).2.db.log := by
  have hcommit : ∀ l : TxLog (Table × Tuple), Writes .join l l.commit := TxLog.extends_commit _
  have hends := joinRows_ends srv tempID payload relay d s
  generalize joinRows srv tempID payload relay d s = res at hends
  cases hends with
  | badInfo => exact TxLog.Extends.refl _ _
  | deviceRefused _ hdev => exact insertRows_writes _ rfl hdev
  | badNeighbor _ hdev => exact (insertRows_writes _ rfl hdev).trans (hcommit _)
  | neighborRefused _ hdev _ hins =>
    exact ((insertRows_writes _ rfl hdev).trans (hcommit _)).trans (insertRows_writes _ rfl hins)
  | joined _ hdev _ hins =>
    exact (((insertRows_writes _ rfl hdev).trans (hcommit _)).trans
      (insertRows_writes _ rfl hins)).trans (hcommit _)

/-- **Every handler writes only the tables of its operation.** -/
theorem bodyOf_writes (op : Op) (tempID : String) (kvs : List (String × Value)) (s : Store) :
    Writes op s.db.log (bodyOf srv limit op tempID kvs s).2.db.log := by
  cases op with
  | join =>
    rcases joinBody_cases srv limit tempID (.dict kvs) (field kvs "relay") s with
      ⟨_, e, h⟩ | ⟨base, _, ⟨e, s', hgen, h⟩ | ⟨d, s', hgen, h⟩⟩
    · rw [bodyOf, h]; exact TxLog.Extends.refl _ _
    · have hlog := join_genID_log srv limit base 0 s
      rw [hgen] at hlog
      rw [bodyOf, h, hlog]; exact TxLog.Extends.refl _ _
    · have hlog := join_genID_log srv limit base 0 s
      rw [hgen] at hlog
      rw [bodyOf, h, ← hlog]
      exact joinRows_writes tempID _ _ d s'
  | leave =>
    obtain ⟨e, h⟩ := leaveBody_error srv tempID (field kvs "relay") s
    rw [bodyOf, h]; exact TxLog.Extends.refl _ _
  | register =>
    -- before the insertion only the cache is written
    have hmark := registerEntries_marked srv limit tempID (.dict kvs)
      (field kvs "relay") s
    have hends := registerBody_ends srv limit tempID (.dict kvs)
      (field kvs "relay") (field kvs "registerID") s
    rw [bodyOf]
    generalize registerBody srv limit tempID (.dict kvs) (field kvs "relay")
      (field kvs "registerID") s = res at hends
    cases hends with
    | stopped hentries => rw [hentries] at hmark; exact hmark.writes _
    | refused hentries hins =>
      rw [hentries] at hmark
      exact (hmark.writes _).trans (insertRows_writes _ rfl hins)
    | registered hentries hins =>
      rw [hentries] at hmark
      exact ((hmark.writes _).trans (insertRows_writes _ rfl hins)).trans (TxLog.extends_commit _ _)
  | update =>
    obtain ⟨e, s', h, hmark⟩ := updateBody_error srv tempID (.dict kvs)
      (field kvs "relay") (field kvs "updateID") s
    rw [bodyOf, h]; exact hmark.writes _
  | query =>
    obtain ⟨s', hmark, ⟨_, h⟩ | ⟨_, e, h⟩⟩ :=
      queryBody_cases srv limit tempID kvs s
    · rw [h]; exact hmark.writes _
    · rw [h]; exact hmark.writes _

/-- **What one request does to the log.** -/
theorem step_writes (srv : Server) (limit : Nat) (m : Manager) (r : Request) :
    Writes r.op m.log (step srv limit m r).log := by
  obtain ⟨op, tempID, payload⟩ := r
  by_cases h : payload.IsDict
  · obtain ⟨kvs, rfl⟩ := h
    rw [step_dict srv limit]
    exact bodyOf_writes op tempID kvs m.store
  · rw [step_not_dict h]; exact TxLog.Extends.refl _ _

/-- **What a run does to the log**: whatever is there stays. -/
theorem run_extends (m : Manager) (rs : List Request) :
    TxLog.Extends (fun _ => True) m.log (run srv limit m rs).log :=
  Machine.foldl_rel (R := fun m m' : Manager => TxLog.Extends (fun _ => True) m.log m'.log)
    (fun m => TxLog.Extends.refl _ m.log) (fun h1 h2 => h1.trans h2)
    (fun m r => (step_writes srv limit m r).mono fun _ _ => trivial) rs m

@[simp] theorem run_nil (m : Manager) : run srv limit m [] = m := rfl

theorem run_cons (m : Manager) (r : Request) (rs : List Request) :
    run srv limit m (r :: rs) = run srv limit (step srv limit m r) rs := rfl

theorem run_append (m : Manager) (rs rs' : List Request) :
    run srv limit m (rs ++ rs') = run srv limit (run srv limit m rs) rs' := List.foldl_append ..

end FlexIDMngerDb

end Versatile
