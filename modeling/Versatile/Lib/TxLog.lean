import Mathlib.Data.List.Basic

/-!
# A transactional append-only log

One connection with autocommit off, over tables that only grow: the entries already
committed, and the ones this connection has inserted since. The connection reads both; a
commit moves the second part behind the first. Entries never move, so the position of an
entry names it for good, and "entry `i` is committed" is `i < committed.length`.
-/

/-- Committed entries, and the entries inserted since the last commit. -/
structure TxLog (α : Type) where
  committed : List α
  pending : List α

namespace TxLog

variable {α : Type}

/-- What the connection itself sees. -/
def all (l : TxLog α) : List α := l.committed ++ l.pending

/-- Append one entry to the open transaction. -/
def insert (l : TxLog α) (a : α) : TxLog α := { l with pending := l.pending ++ [a] }

/-- Close the transaction. -/
def commit (l : TxLog α) : TxLog α := { committed := l.all, pending := [] }

/-- Give the transaction up. -/
def rollback (l : TxLog α) : TxLog α := { l with pending := [] }

@[simp] theorem all_insert (l : TxLog α) (a : α) : (l.insert a).all = l.all ++ [a] := by
  simp [all, insert]

@[simp] theorem all_commit (l : TxLog α) : l.commit.all = l.all := by simp [all, commit]

@[simp] theorem committed_insert (l : TxLog α) (a : α) :
    (l.insert a).committed = l.committed := rfl

@[simp] theorem committed_commit (l : TxLog α) : l.commit.committed = l.all := rfl

@[simp] theorem pending_commit (l : TxLog α) : l.commit.pending = [] := rfl

@[simp] theorem pending_insert (l : TxLog α) (a : α) :
    (l.insert a).pending = l.pending ++ [a] := rfl

@[simp] theorem committed_rollback (l : TxLog α) : l.rollback.committed = l.committed := rfl

@[simp] theorem pending_rollback (l : TxLog α) : l.rollback.pending = [] := rfl

/-- Entry `i` of the log is committed. -/
def Committed (l : TxLog α) (i : Nat) : Prop := i < l.committed.length

/-- `l'` is `l` after some inserts of entries in `P`, and some commits: both parts only moved
forward. -/
structure Extends (P : α → Prop) (l l' : TxLog α) : Prop where
  /-- Nothing the connection saw is gone or has moved, and what is new is in `P`. -/
  all : ∃ new, l'.all = l.all ++ new ∧ ∀ a ∈ new, P a
  /-- Nothing committed is gone or has moved. -/
  committed : l.committed <+: l'.committed

variable {P Q : α → Prop} {l l' l'' : TxLog α}

theorem Extends.refl (P : α → Prop) (l : TxLog α) : Extends P l l :=
  ⟨⟨[], by simp, by simp⟩, List.prefix_rfl⟩

theorem Extends.trans (h1 : Extends P l l') (h2 : Extends P l' l'') : Extends P l l'' := by
  obtain ⟨new1, heq1, hnew1⟩ := h1.all
  obtain ⟨new2, heq2, hnew2⟩ := h2.all
  refine ⟨⟨new1 ++ new2, by rw [heq2, heq1, List.append_assoc], ?_⟩,
    h1.committed.trans h2.committed⟩
  intro a ha
  exact (List.mem_append.mp ha).elim (hnew1 a) (hnew2 a)

theorem Extends.mono (h : Extends P l l') (hPQ : ∀ a, P a → Q a) : Extends Q l l' := by
  obtain ⟨new, heq, hnew⟩ := h.all
  exact ⟨⟨new, heq, fun a ha => hPQ a (hnew a ha)⟩, h.committed⟩

theorem extends_commit (P : α → Prop) (l : TxLog α) : Extends P l l.commit :=
  ⟨⟨[], by simp, by simp⟩, List.prefix_append ..⟩

/-- The log never gets shorter. -/
theorem Extends.length_le (h : Extends P l l') : l.all.length ≤ l'.all.length := by
  obtain ⟨new, heq, _⟩ := h.all
  rw [heq, List.length_append]
  omega

/-- A position that was seen keeps its entry for good. -/
theorem Extends.getElem? (h : Extends P l l') {i : Nat} (hi : i < l.all.length) :
    l'.all[i]? = l.all[i]? := by
  obtain ⟨new, heq, _⟩ := h.all
  rw [heq, List.getElem?_append_left hi]

/-- A position that was not seen before holds an entry in `P`. -/
theorem Extends.new (h : Extends P l l') {i : Nat} {a : α} (hi : l.all.length ≤ i)
    (ha : l'.all[i]? = some a) : P a := by
  obtain ⟨new, heq, hnew⟩ := h.all
  rw [heq, List.getElem?_append_right hi] at ha
  exact hnew a (List.mem_of_getElem? ha)

/-- A committed entry stands at the same position of what is seen. -/
theorem getElem?_committed {i : Nat} {a : α} (h : l.committed[i]? = some a) :
    l.all[i]? = some a := by
  rw [all, List.getElem?_append_left (List.getElem?_eq_some_iff.mp h).1, h]

end TxLog
