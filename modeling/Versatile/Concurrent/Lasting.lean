import Mathlib.Data.List.Forall2
import Versatile.Concurrent.Follows
import Versatile.Concurrent.Distinct

/-!
# What was answered with success lasts

The rows of the database are what the commits make of the first ones, in their order
(`Consistent`), and the changes of each call are partly committed and partly open on its own
connection (`Sound`), each as what the server reads its statement as (`ReadAs`). An operation
either works on what is open or commits all of it (`Effect`), which is all the invariant needs to
know. Behind an answer of success nothing is open any more, so everything the call asked for is in
the history; from there on a row goes only by a leave.
-/

namespace Versatile.Calls

open Py Diversity
open Concurrent (Shared actOn)

variable {srv : Server} {faults : Faults} {p : Process}

/-! ## Changes on rows -/

/-- A row that no change deletes stays. -/
theorem mem_applyAll {cs : List Change} {rows : Rows} {e : Table × Row} (he : e ∈ rows)
    (hkeep : ∀ deviceID, Change.delete e.1 deviceID ∈ cs → srv.names deviceID e.2 = false) :
    e ∈ applyAll srv cs rows := by
  induction cs generalizing rows with
  | nil => exact he
  | cons c cs ih =>
    refine ih ?_ fun deviceID hc => hkeep deviceID (List.mem_cons_of_mem _ hc)
    cases c with
    | insert t row => exact List.mem_append_left _ he
    | delete t deviceID =>
      refine List.mem_filter.mpr ⟨he, ?_⟩
      by_cases ht : e.1 = t
      · subst ht
        simp [hkeep deviceID List.mem_cons_self]
      · simp [ht]

/-- A row that is there was there before, or was inserted. -/
theorem of_mem_applyAll {cs : List Change} {rows : Rows} {e : Table × Row}
    (he : e ∈ applyAll srv cs rows) : e ∈ rows ∨ Change.insert e.1 e.2 ∈ cs := by
  induction cs generalizing rows with
  | nil => exact Or.inl he
  | cons c cs ih =>
    rcases ih he with hmem | hmem
    · cases c with
      | insert t row =>
        rcases List.mem_append.mp hmem with hmem | hmem
        · exact Or.inl hmem
        · obtain rfl := List.mem_singleton.mp hmem
          exact Or.inr List.mem_cons_self
      | delete t deviceID => exact Or.inl (List.mem_filter.mp hmem).1
    · exact Or.inr (List.mem_cons_of_mem _ hmem)

/-- What a deletion leaves does not match it. -/
theorem not_names_of_mem_delete {t : Table} {deviceID : String} {rows : Rows} {row : Row}
    (h : (t, row) ∈ Change.apply srv rows (.delete t deviceID)) :
    srv.names deviceID row = false := by
  have hkept := (List.mem_filter.mp h).2
  simpa using hkept

theorem history_committed (log : List Event) (changes : List Change) :
    history (log ++ [.committed changes]) = history log ++ changes := by
  simp [history, changesOf]

theorem history_emitted (log : List Event) (event : String) (payload : Value) :
    history (log ++ [.emitted event payload]) = history log := by
  simp [history, changesOf]

/-! ## Changes as they are read -/

/-- What a change becomes that a statement asks for: an insertion stores the rows its texts are
read as. -/
def ReadAs (srv : Server) : Change → List Change → Prop
  | .insert t row, cs => ∃ rows new, srv.reads rows t row = .ok new ∧ cs = new.map (.insert t)
  | .delete t deviceID, cs => cs = [.delete t deviceID]

/-- The texts of a change have no apostrophes and backslashes. -/
def PlainChange : Change → Prop
  | .insert _ row => ∀ c ∈ row, Plain c.2
  | .delete _ _ => True

/-- A plain change becomes itself. -/
theorem ReadAs.eq {c : Change} {cs : List Change} (h : ReadAs srv c cs) (hplain : PlainChange c) :
    cs = [c] := by
  cases c with
  | delete t deviceID => exact h
  | insert t row =>
    obtain ⟨rows, new, hreads, rfl⟩ := h
    obtain rfl := Except.ok.inj ((reads_of_readTexts (readTexts_plain hplain)).symm.trans hreads)
    rfl

/-- **Plain changes become themselves.** -/
theorem flatten_plain {asked : List Change} {parts : List (List Change)}
    (h : List.Forall₂ (ReadAs srv) asked parts) (hplain : ∀ c ∈ asked, PlainChange c) :
    parts.flatten = asked := by
  induction h with
  | nil => rfl
  | cons hfirst _ ih =>
    obtain ⟨hc, hcs⟩ := List.forall_mem_cons.mp hplain
    rw [List.flatten_cons, hfirst.eq hc, ih hcs]
    rfl

/-! ## What an operation does -/

/-- What holds of a call, of its connection and of the database. -/
structure Sound (srv : Server) (g : Shared) (own : List Change) (φ : Phase p) : Prop where
  columns : φ.columns ≤ g.world.attrs
  changes : ∃ parts saved, List.Forall₂ (ReadAs srv) φ.changes parts ∧
    parts.flatten = saved ++ own ∧ saved.Sublist (history g.log)
  stored : φ.stored = true → own = []
  leaves : ∀ t deviceID, Change.delete t deviceID ∈ own → p.Leaves φ.call deviceID
  fits : ∀ row, Change.insert .Service row ∈ own → g.world.hasColumns .Service row = true

/-- A change that the call may make, on a table with these columns. -/
structure Fits (w : World) (φ : Phase p) (c : Change) : Prop where
  leaves : ∀ t deviceID, c = .delete t deviceID → p.Leaves φ.call deviceID
  columns : ∀ row, c = .insert .Service row → w.hasColumns .Service row = true

/-- **The two kinds of operations**: those that work on what is open, and those that commit it. -/
inductive Effect (srv : Server) (g : Shared) (own : List Change) (φ : Phase p) (g' : Shared)
    (own' : List Change) (φ' : Phase p) : Prop where
  | works (cs : List Change) (parts : List (List Change))
      (hread : List.Forall₂ (ReadAs srv) cs parts) (hfits : ∀ c ∈ parts.flatten, Fits g.world φ c)
      (hrows : g'.world.rows = g.world.rows) (hattrs : g'.world.attrs = g.world.attrs)
      (hlog : history g'.log = history g.log) (hown : own' = own ++ parts.flatten)
      (hcall : φ'.call = φ.call) (hchanges : φ'.changes = φ.changes ++ cs)
      (hcolumns : φ'.columns ≤ max φ.columns g.world.attrs)
      (hstored : φ'.stored = true → φ.stored = true ∧ cs = [])
  | flushes (hrows : g'.world.rows = applyAll srv own g.world.rows)
      (hattrs : g.world.attrs ≤ g'.world.attrs) (hlog : history g'.log = history g.log ++ own)
      (hown : own' = []) (hcall : φ'.call = φ.call) (hchanges : φ'.changes = φ.changes)
      (hcolumns : φ'.columns ≤ max φ.columns g'.world.attrs)

section Effects

variable {g : Shared} {own : List Change} {φ : Phase p}

/-- An operation that only looks. -/
theorem effect_looks {g' : Shared} {φ' : Phase p} (hrows : g'.world.rows = g.world.rows)
    (hattrs : g'.world.attrs = g.world.attrs) (hlog : history g'.log = history g.log)
    (hcall : φ'.call = φ.call) (hchanges : φ'.changes = φ.changes)
    (hcolumns : φ'.columns ≤ max φ.columns g.world.attrs) (hstored : φ'.stored = φ.stored) :
    Effect srv g own φ g' own φ' := by
  refine .works [] [] .nil (fun c hc => absurd hc (by simp)) hrows hattrs hlog
    (List.append_nil _).symm hcall (hchanges.trans (List.append_nil _).symm) hcolumns ?_
  intro hφ'
  exact ⟨hstored ▸ hφ', rfl⟩

/-- A call of the database: it fails and changes nothing, or it is taken. -/
theorem effect_call {β : Type} {f : State → Except Nat β × State} (next : Except Nat β → Phase p)
    (hfail : ∀ code, next (.error code) = φ)
    (htaken : Effect srv g own φ ⟨(f (State.tick ⟨g.world, own, g.log⟩)).2.world,
        (f (State.tick ⟨g.world, own, g.log⟩)).2.log⟩
      (f (State.tick ⟨g.world, own, g.log⟩)).2.conn
      (next (f (State.tick ⟨g.world, own, g.log⟩)).1)) :
    Effect srv g own φ ⟨(call faults f ⟨g.world, own, g.log⟩).2.world,
        (call faults f ⟨g.world, own, g.log⟩).2.log⟩
      (call faults f ⟨g.world, own, g.log⟩).2.conn
      (next (call faults f ⟨g.world, own, g.log⟩).1) := by
  rw [call]
  cases faults (State.mk g.world own g.log).world.asked with
  | none => exact htaken
  | some code =>
    have hphase := hfail code
    refine effect_looks rfl rfl rfl ?_ ?_ ?_ ?_ <;> simp only [hphase]
    exact Nat.le_max_left _ _

/-- The commit in front of `ALTER TABLE` changes what a commit changes. -/
theorem commitOpen_effect (srv : Server) (s : State) :
    (s.commitOpen srv).world.rows = applyAll srv s.conn s.world.rows ∧
      (s.commitOpen srv).world.attrs = s.world.attrs ∧
      history (s.commitOpen srv).log = history s.log ++ s.conn ∧ (s.commitOpen srv).conn = [] := by
  obtain ⟨w, conn, log⟩ := s
  cases conn with
  | nil => exact ⟨rfl, rfl, (List.append_nil _).symm, rfl⟩
  | cons c cs => exact ⟨rfl, rfl, history_committed log (c :: cs), rfl⟩

/-- A statement that is taken. -/
theorem effect_eval {q : Statement} (hallows : φ.allows (.execute q)) :
    Effect srv g own φ ⟨(q.eval srv (State.tick ⟨g.world, own, g.log⟩)).2.world,
        (q.eval srv (State.tick ⟨g.world, own, g.log⟩)).2.log⟩
      (q.eval srv (State.tick ⟨g.world, own, g.log⟩)).2.conn
      (φ.next (.execute q) (q.eval srv (State.tick ⟨g.world, own, g.log⟩)).1) := by
  have hmax : φ.columns ≤ max φ.columns g.world.attrs := Nat.le_max_left _ _
  cases q with
  | maxSigned t column => exact effect_looks rfl rfl rfl rfl rfl hmax rfl
  | maxText t column => exact effect_looks rfl rfl rfl rfl rfl hmax rfl
  | exist deviceID => exact effect_looks rfl rfl rfl rfl rfl hmax rfl
  | columnCount =>
    refine effect_looks rfl rfl rfl rfl rfl ?_ rfl
    have hcount : (serviceColumns g.world.attrs).length - 4 = g.world.attrs := by
      simp [serviceColumns]
    exact Nat.max_le.mpr ⟨hmax, Nat.le_trans (Nat.le_of_eq hcount) (Nat.le_max_right _ _)⟩
  | alter n =>
    obtain ⟨hrows, hattrs, hlog, hconn⟩ :=
      commitOpen_effect srv (State.tick ⟨g.world, own, g.log⟩)
    rw [Statement.eval]
    split
    · rename_i hn
      refine .flushes hrows ?_ hlog hconn rfl rfl ?_
      · exact Nat.le_trans (Nat.le_of_eq hattrs.symm) (Nat.le_succ _)
      · exact Nat.max_le.mpr ⟨Nat.le_max_left _ _, Nat.le_trans (Nat.le_of_eq hn)
          (Nat.le_max_right _ _)⟩
    · exact .flushes hrows (Nat.le_of_eq hattrs.symm) hlog hconn rfl rfl
        (Nat.le_max_left _ _)
  | insert t row =>
    rcases eval_insert_cases srv t row (State.tick ⟨g.world, own, g.log⟩) with ⟨code, heval⟩ |
      ⟨new, hreads, hcolumns, heval⟩
    · rw [heval]
      exact effect_looks rfl rfl rfl rfl rfl hmax rfl
    · rw [heval]
      refine .works [.insert t row] [new.map (Change.insert t)] (.cons ⟨_, new, hreads, rfl⟩ .nil)
        ?_ rfl rfl rfl ?_ rfl rfl hmax fun h => absurd h (by simp [Phase.next, Phase.made])
      · intro c hc
        rw [List.flatten_singleton] at hc
        obtain ⟨r, hr, rfl⟩ := List.mem_map.mp hc
        refine ⟨fun _ _ heq => absurd heq (by simp), fun row' heq => ?_⟩
        obtain ⟨rfl, rfl⟩ := Change.insert.inj heq
        exact hasColumns_reads hcolumns hreads hr
      · rw [List.flatten_singleton]
        rfl
  | delete t deviceID =>
    refine .works [.delete t deviceID] [[.delete t deviceID]] (.cons rfl .nil) ?_ rfl rfl rfl rfl
      rfl rfl hmax fun h => absurd h (by simp [Phase.next, Phase.made, Statement.eval])
    intro c hc
    obtain rfl := List.mem_singleton.mp hc
    refine ⟨fun _ _ heq => ?_, fun _ heq => absurd heq (by simp)⟩
    obtain ⟨rfl, rfl⟩ := Change.delete.inj heq
    exact hallows

/-- **What an allowed operation does**, failed or taken. -/
theorem effect_of_allows (srv : Server) (faults : Faults) (o : Act) (hsound : Sound srv g own φ)
    (hallows : φ.allows o) :
    Effect srv g own φ (actOn srv faults o g own).2.1 (actOn srv faults o g own).2.2
      (φ.next o (actOn srv faults o g own).1) := by
  cases o with
  | connect =>
    -- nothing is open when the connection is replaced
    obtain ⟨parts, saved, hread, hsaved, _⟩ := hsound.changes
    rw [show φ.changes = [] from hallows] at hread
    obtain rfl := List.forall₂_nil_left_iff.mp hread
    obtain rfl : own = [] := (List.append_eq_nil_iff.mp hsaved.symm).2
    refine effect_call (fun _ => φ) (fun _ => rfl) ?_
    exact effect_looks rfl rfl rfl rfl rfl (Nat.le_max_left _ _) rfl
  | execute q =>
    refine effect_call (fun r => φ.next (.execute q) r) (fun code => ?_)
      (effect_eval hallows)
    cases q <;> rfl
  | commit =>
    refine effect_call (fun r => φ.next .commit r) (fun code => rfl) ?_
    exact .flushes rfl (Nat.le_refl _) (history_committed _ _) rfl rfl rfl (Nat.le_max_left _ _)
  | emit event payload =>
    exact effect_looks rfl rfl (history_emitted _ _ _) rfl rfl (Nat.le_max_left _ _) rfl
  | manage => exact effect_looks rfl rfl rfl rfl rfl (Nat.le_max_left _ _) rfl

end Effects

/-! ## The invariant -/

/-- The rows are what the commits make of the first ones; each call is sound; only leaves delete,
and committed services fit the table. -/
structure Consistent (srv : Server) (calls : List p.Call) (w : World) (s : System p) : Prop where
  rows : s.shared.world.rows = applyAll srv (history s.shared.log) w.rows
  sound : ∀ t ∈ s.threads, Sound srv s.shared t.own t.phase
  called : ∀ (i : Nat) (t : Thread p), s.threads[i]? = some t → calls[i]? = some t.phase.call
  leaves : ∀ t deviceID, Change.delete t deviceID ∈ history s.shared.log →
    ∃ call ∈ calls, p.Leaves call deviceID
  fits : ∀ row, Change.insert .Service row ∈ history s.shared.log →
    s.shared.world.hasColumns .Service row = true

/-- The history goes on, and no column is lost. -/
structure Grown (g g' : Shared) : Prop where
  history : ∃ more, Calls.history g'.log = Calls.history g.log ++ more
  attrs : g.world.attrs ≤ g'.world.attrs

theorem Grown.refl (g : Shared) : Grown g g := ⟨⟨[], (List.append_nil _).symm⟩, Nat.le_refl _⟩

theorem Grown.trans {a b c : Shared} (h : Grown a b) (h' : Grown b c) : Grown a c := by
  obtain ⟨more, hmore⟩ := h.history
  obtain ⟨more', hmore'⟩ := h'.history
  exact ⟨⟨more ++ more', by rw [hmore', hmore, List.append_assoc]⟩, Nat.le_trans h.attrs h'.attrs⟩

/-- A row that fits a table fits one with more columns. -/
theorem hasColumns_mono {w w' : World} (h : w.attrs ≤ w'.attrs) {t : Table} {row : Row}
    (hrow : w.hasColumns t row = true) : w'.hasColumns t row = true := by
  rw [World.hasColumns, Bool.or_eq_true] at hrow ⊢
  rcases hrow with hother | hall
  · exact Or.inl hother
  · refine Or.inr (List.all_eq_true.mpr fun c hc => ?_)
    have hcolumn := of_decide_eq_true (List.all_eq_true.mp hall c hc)
    refine decide_eq_true ?_
    unfold serviceColumns at hcolumn ⊢
    rcases List.mem_append.mp hcolumn with hfixed | hattr
    · exact List.mem_append_left _ hfixed
    · obtain ⟨i, hi, hname⟩ := List.mem_map.mp hattr
      have hlt := List.mem_range.mp hi
      exact List.mem_append_right _ (List.mem_map.mpr ⟨i, List.mem_range.mpr (by omega), hname⟩)

/-- What the others do does not disturb a call. -/
theorem Sound.grown {g g' : Shared} {own : List Change} {φ : Phase p} (h : Sound srv g own φ)
    (hgrown : Grown g g') : Sound srv g' own φ where
  columns := Nat.le_trans h.columns hgrown.attrs
  changes := by
    obtain ⟨parts, saved, hread, heq, hsub⟩ := h.changes
    obtain ⟨more, hmore⟩ := hgrown.history
    exact ⟨parts, saved, hread, heq, hmore ▸ hsub.trans (List.sublist_append_left _ _)⟩
  stored := h.stored
  leaves := h.leaves
  fits row hrow := hasColumns_mono hgrown.attrs (h.fits row hrow)

section Step

variable {calls : List p.Call} {w : World} {g g' : Shared} {own own' : List Change}
  {φ φ' : Phase p}

theorem Effect.grown (h : Effect srv g own φ g' own' φ') : Grown g g' := by
  cases h with
  | works cs parts _ _ _ hattrs hlog =>
    exact ⟨⟨[], by rw [hlog, List.append_nil]⟩, Nat.le_of_eq hattrs.symm⟩
  | flushes _ hattrs hlog => exact ⟨⟨own, hlog⟩, hattrs⟩

/-- **An operation keeps its own call sound.** -/
theorem Sound.effect (h : Sound srv g own φ) (heffect : Effect srv g own φ g' own' φ') :
    Sound srv g' own' φ' := by
  obtain ⟨parts, saved, hread, hsaved, hsub⟩ := h.changes
  have hgrown := heffect.grown
  have hle := h.columns
  have hattrs := hgrown.attrs
  cases heffect with
  | works cs parts' hread' hcs _ _ hlog hown hcall hchanges hcolumns hstored =>
    subst hown
    refine ⟨by omega, ⟨parts ++ parts', saved, ?_, ?_, hlog ▸ hsub⟩, ?_, ?_, ?_⟩
    · rw [hchanges]
      exact List.rel_append hread hread'
    · rw [List.flatten_append, hsaved, List.append_assoc]
    · intro hφ'
      obtain ⟨hφ, rfl⟩ := hstored hφ'
      obtain rfl := List.forall₂_nil_left_iff.mp hread'
      rw [h.stored hφ]
      rfl
    · intro t deviceID hmem
      rw [hcall]
      rcases List.mem_append.mp hmem with hmem | hmem
      · exact h.leaves t deviceID hmem
      · exact (hcs _ hmem).leaves t deviceID rfl
    · intro row hmem
      refine hasColumns_mono hattrs ?_
      rcases List.mem_append.mp hmem with hmem | hmem
      · exact h.fits row hmem
      · exact (hcs _ hmem).columns row rfl
  | flushes _ _ hlog hown hcall hchanges hcolumns =>
    subst hown
    refine ⟨by omega, ⟨parts, saved ++ own, hchanges ▸ hread, ?_, ?_⟩, fun _ => rfl, ?_, ?_⟩
    · rw [hsaved, List.append_nil]
    · rw [hlog]
      exact hsub.append (List.Sublist.refl own)
    · intro t deviceID hmem
      exact absurd hmem (by simp)
    · intro row hmem
      exact absurd hmem (by simp)

/-- **One operation keeps the invariant.** -/
theorem Consistent.effect {s : System p} {i : Nat} {t t' : Thread p}
    (h : Consistent srv calls w s) (ht : s.threads[i]? = some t)
    (heffect : Effect srv s.shared t.own t.phase g' t'.own t'.phase) :
    Consistent srv calls w ⟨g', s.threads.set i t'⟩ := by
  have hsound := h.sound t (List.mem_of_getElem? ht)
  have hgrown := heffect.grown
  have hmine := hsound.effect heffect
  have hcall : t'.phase.call = t.phase.call := by cases heffect <;> assumption
  refine ⟨?_, ?_, ?_, ?_, ?_⟩
  · cases heffect with
    | works cs parts _ _ hrows _ hlog => rw [hrows, hlog, h.rows]
    | flushes hrows _ hlog => rw [hrows, hlog, h.rows, applyAll_append]
  · refine Interleaving.forall_set ?_ hmine
    intro j u _ hu
    exact (h.sound u (List.mem_of_getElem? hu)).grown hgrown
  · intro j u hu
    by_cases hij : i = j
    · subst hij
      rw [List.getElem?_set_self (List.getElem?_eq_some_iff.mp ht).1] at hu
      obtain rfl := Option.some.inj hu
      rw [hcall]
      exact h.called i t ht
    · rw [List.getElem?_set_ne hij] at hu
      exact h.called j u hu
  · intro tbl deviceID hmem
    cases heffect with
    | works cs parts _ _ _ _ hlog => exact h.leaves tbl deviceID (hlog ▸ hmem)
    | flushes _ _ hlog =>
      rw [hlog] at hmem
      rcases List.mem_append.mp hmem with hmem | hmem
      · exact h.leaves tbl deviceID hmem
      · exact ⟨_, List.mem_of_getElem? (h.called i t ht), hsound.leaves tbl deviceID hmem⟩
  · intro row hmem
    refine hasColumns_mono hgrown.attrs ?_
    cases heffect with
    | works cs parts _ _ _ _ hlog => exact h.fits row (hlog ▸ hmem)
    | flushes _ _ hlog =>
      rw [hlog] at hmem
      rcases List.mem_append.mp hmem with hmem | hmem
      · exact h.fits row hmem
      · exact hsound.fits row hmem

end Step

/-! ## Runs -/

section Run

variable {calls : List p.Call} {w : World} {s : System p}

/-- One step keeps the invariant, and goes on from where it is. -/
theorem consistent_step (faults : Faults) (hobeys : Interleaving.Obeys (protocol p) s)
    (h : Consistent srv calls w s) (i : Nat) :
    Consistent srv calls w (step srv faults s i) ∧
      Grown s.shared (step srv faults s i).shared := by
  rcases Interleaving.step_cases (i := i) hobeys with hstep | ⟨t, o, k, ht, _, hallows, hstep⟩
  · rw [step, hstep]
    exact ⟨h, Grown.refl _⟩
  · rw [step, hstep]
    have heffect := effect_of_allows srv faults o
      (h.sound t (List.mem_of_getElem? ht)) hallows
    exact ⟨h.effect ht heffect, heffect.grown⟩

/-- What holds of a system on the way. -/
structure Running (srv : Server) (calls : List p.Call) (w : World) (s : System p) : Prop where
  obeys : Interleaving.Obeys (protocol p) s
  consistent : Consistent srv calls w s

/-- **Every run keeps the invariant**, in any order of steps. -/
theorem running_run (faults : Faults) (h : Running srv calls w s) (is : List Nat) :
    Running srv calls w (is.foldl (step srv faults) s) ∧
      Grown s.shared (is.foldl (step srv faults) s).shared := by
  induction is generalizing s with
  | nil => exact ⟨h, Grown.refl _⟩
  | cons i is ih =>
    obtain ⟨hnext, hgrown⟩ := consistent_step faults h.obeys h.consistent i
    obtain ⟨hrun, hrest⟩ := ih (s := step srv faults s i)
      ⟨Interleaving.obeys_step h.obeys, hnext⟩
    exact ⟨hrun, hgrown.trans hrest⟩

theorem running_boot (srv : Server) (p : Process) (w : World) (calls : List p.Call) :
    Running srv calls w (boot p w calls) := by
  refine ⟨?_, rfl, ?_, ?_, fun _ _ h => absurd h (by simp [history, boot]),
    fun _ h => absurd h (by simp [history, boot])⟩
  · intro t ht
    obtain ⟨call, _, rfl⟩ := List.mem_map.mp ht
    exact follows_program p call
  · intro t ht
    obtain ⟨call, _, rfl⟩ := List.mem_map.mp ht
    exact ⟨Nat.zero_le _, ⟨[], [], .nil, rfl, List.nil_sublist _⟩, fun _ => rfl,
      fun _ _ h => absurd h (by simp), fun _ h => absurd h (by simp)⟩
  · intro i t ht
    obtain ⟨call, hcall, rfl⟩ := Option.map_eq_some_iff.mp ((List.getElem?_map ..).symm.trans ht)
    exact hcall

end Run

/-! ## Answers of success -/

/-- Handler `i` is about to show this event. -/
def Emits (s : System p) (i : Nat) (event : String) (payload : Value) : Prop :=
  ∃ t k, s.threads[i]? = some t ∧ t.program = .call (.emit event payload) k

/-- Behind a change, `after` was committed and these are the rows: what was inserted is there
unless a leave deleted it, and what matches a deletion was inserted again. -/
def Stands (srv : Server) (calls : List p.Call) (after : List Change) (rows : Rows) :
    Change → Prop
  | .insert t row => (t, row) ∈ rows ∨ ∃ deviceID, Change.delete t deviceID ∈ after ∧
      srv.names deviceID row = true ∧ ∃ call ∈ calls, p.Leaves call deviceID
  | .delete t deviceID => ∀ row, (t, row) ∈ rows → srv.names deviceID row = true →
      Change.insert t row ∈ after

/-- The change was committed, and stands. -/
def Lasts (srv : Server) (calls : List p.Call) (g : Shared) (c : Change) : Prop :=
  ∃ before after, history g.log = before ++ c :: after ∧ Stands srv calls after g.world.rows c

/-- In every state of a run a committed change stands. -/
theorem Consistent.lasts {calls : List p.Call} {w : World} {s : System p}
    (h : Consistent srv calls w s) {c : Change} (hc : c ∈ history s.shared.log) :
    Lasts srv calls s.shared c := by
  obtain ⟨before, after, hsplit⟩ := List.append_of_mem hc
  refine ⟨before, after, hsplit, ?_⟩
  have hrows : s.shared.world.rows =
      applyAll srv after (Change.apply srv (applyAll srv before w.rows) c) := by
    rw [h.rows, hsplit, applyAll_append]
    rfl
  cases c with
  | insert t row =>
    by_cases hdelete : ∃ deviceID, Change.delete t deviceID ∈ after ∧
        srv.names deviceID row = true
    · obtain ⟨deviceID, hmem, hnames⟩ := hdelete
      have hhistory : Change.delete t deviceID ∈ history s.shared.log := by
        rw [hsplit]
        exact List.mem_append_right _ (List.mem_cons_of_mem _ hmem)
      exact Or.inr ⟨deviceID, hmem, hnames, h.leaves t deviceID hhistory⟩
    · refine Or.inl ?_
      rw [hrows]
      refine mem_applyAll (List.mem_append_right _ (List.mem_singleton_self _)) ?_
      intro deviceID hmem
      by_contra hnames
      exact hdelete ⟨deviceID, hmem, by simpa using hnames⟩
  | delete t deviceID =>
    intro row hrow hnames
    rw [hrows] at hrow
    rcases of_mem_applyAll hrow with hbefore | hinserted
    · exact absurd hnames (by simp [not_names_of_mem_delete hbefore])
    · exact hinserted

/--
**What was answered with success was done, and lasts.**

Any number of calls of one resolver run at once, in any order, and the database fails any of its
calls. If one of them answers with success, then what its message asks for was committed before,
all of it and in its order, each insertion as the rows the server reads its texts as, which is the
row itself where they are plain; and in every later state the rows it inserted are there unless a
leave of their device deleted them, and the rows it deleted are gone unless they were inserted anew.
-/
theorem answered_lasting (srv : Server) (faults : Faults) (p : Process) (w : World)
    (calls : List p.Call) (is js : List Nat) (i : Nat) (call : p.Call) (event : String)
    (payload : Value) (hcall : calls[i]? = some call)
    (hanswer : Emits (is.foldl (step srv faults) (boot p w calls)) i event payload)
    (hok : Success payload) : ∃ changes parts, p.Asks call payload changes ∧
      List.Forall₂ (ReadAs srv) changes parts ∧
      ((∀ c ∈ changes, PlainChange c) → parts.flatten = changes) ∧
      parts.flatten.Sublist (history (is.foldl (step srv faults) (boot p w calls)).shared.log) ∧
      ∀ c ∈ parts.flatten,
        Lasts srv calls ((is ++ js).foldl (step srv faults) (boot p w calls)).shared c := by
  obtain ⟨hrun, _⟩ := running_run faults (running_boot srv p w calls) is
  obtain ⟨t, k, ht, hprogram⟩ := hanswer
  have hmem := List.mem_of_getElem? ht
  have hfollows := hrun.obeys t hmem
  rw [hprogram] at hfollows
  obtain ⟨hstored, hasks⟩ := hfollows.1 hok
  have hmine : t.phase.call = call :=
    Option.some.inj ((hrun.consistent.called i t ht).symm.trans hcall)
  have hsound := hrun.consistent.sound t hmem
  obtain ⟨parts, saved, hread, hsaved, hsub⟩ := hsound.changes
  rw [hsound.stored hstored, List.append_nil] at hsaved
  refine ⟨t.phase.changes, parts, hmine ▸ hasks, hread, flatten_plain hread, hsaved ▸ hsub, ?_⟩
  intro c hc
  obtain ⟨hlater, hgrown⟩ := running_run faults hrun js
  obtain ⟨more, hmore⟩ := hgrown.history
  rw [List.foldl_append]
  refine hlater.consistent.lasts ?_
  rw [hmore]
  exact List.mem_append_left _ (hsub.subset (hsaved ▸ hc))

/-- The server of `resolver.py`, and exceptions without a text. -/
def plainHttp : Process := .http ⟨fun _ => "", fun _ => by simp⟩

/-- A device that joins while it is deleted. -/
def joinAndLeave : List plainHttp.Call :=
  [(.Join, Concurrent.oneInterface), (.Leave, .ok (.dict [("deviceID", .int 1)]))]

/-- The theorem on that join, which is answered while the leave has a connection, and deleted once
the leave has committed. -/
theorem answered_lasting_join : ∃ changes parts,
    plainHttp.Asks (.Join, Concurrent.oneInterface) (joinAnswer 0 "1") changes ∧
    List.Forall₂ (ReadAs .plain) changes parts ∧
    ((∀ c ∈ changes, PlainChange c) → parts.flatten = changes) ∧
    parts.flatten.Sublist (history ([0, 1, 0, 0, 0].foldl (step .plain fun _ => none)
      (boot plainHttp ⟨[], 0, 0, 0⟩ joinAndLeave)).shared.log) ∧
    ∀ c ∈ parts.flatten, Lasts .plain joinAndLeave
      (([0, 1, 0, 0, 0] ++ [0, 1, 1, 1]).foldl (step .plain fun _ => none)
        (boot plainHttp ⟨[], 0, 0, 0⟩ joinAndLeave)).shared c :=
  answered_lasting .plain (fun _ => none) plainHttp ⟨[], 0, 0, 0⟩ joinAndLeave [0, 1, 0, 0, 0]
    [0, 1, 1, 1] 0 (.Join, Concurrent.oneInterface) "response" (joinAnswer 0 "1") rfl
    ⟨_, _, rfl, rfl⟩ (Or.inl rfl)

/-! ## The columns of services -/

/-- Handler `i` is about to add this column. -/
def Alters (s : System p) (i n : Nat) : Prop :=
  ∃ t k, s.threads[i]? = some t ∧ t.program = .call (.execute (.alter n)) k

/--
**Updates that run at once leave no gap between the columns.**

Each of them counts the columns once and adds the missing ones by number, while others do the
same. Still no `ALTER TABLE` names a column beyond the next one, so that it adds the next or finds
its column there; no column is ever lost; and a committed service names columns that exist.
-/
theorem columns_contiguous (srv : Server) (faults : Faults) (p : Process) (w : World)
    (calls : List p.Call) (is js : List Nat) :
    (∀ i n, Alters (is.foldl (step srv faults) (boot p w calls)) i n →
      n ≤ (is.foldl (step srv faults) (boot p w calls)).shared.world.attrs + 1) ∧
    (is.foldl (step srv faults) (boot p w calls)).shared.world.attrs ≤
      ((is ++ js).foldl (step srv faults) (boot p w calls)).shared.world.attrs ∧
    ∀ row, Change.insert .Service row ∈
        history (is.foldl (step srv faults) (boot p w calls)).shared.log →
      (is.foldl (step srv faults) (boot p w calls)).shared.world.hasColumns .Service row =
        true := by
  obtain ⟨hrun, _⟩ := running_run faults (running_boot srv p w calls) is
  obtain ⟨_, hgrown⟩ := running_run faults hrun js
  refine ⟨?_, ?_, hrun.consistent.fits⟩
  · intro i n halters
    obtain ⟨t, k, ht, hprogram⟩ := halters
    have hmem := List.mem_of_getElem? ht
    have hfollows := hrun.obeys t hmem
    rw [hprogram] at hfollows
    have hnext : n ≤ t.phase.columns + 1 := hfollows.1
    have hseen := (hrun.consistent.sound t hmem).columns
    omega
  · rw [List.foldl_append]
    exact hgrown.attrs

/-- Two updates of one device that both need its first attribute column. -/
def twoUpdates : List plainHttp.Call :=
  let update := Value.dict [("deviceID", .int 1), ("services", .list [.dict
    [("serviceType", .str "Web"), ("attributes", .list [.str "x"])]])]
  [(.Update, .ok update), (.Update, .ok update)]

/-- Their steps up to the second request for the column, and one more. -/
abbrev bothCounted : List Nat := [0, 0, 0, 1, 1, 1, 0, 0, 1]

/-- The system in which they start. -/
abbrev twoUpdaters : System plainHttp :=
  boot plainHttp ⟨[(.Device, Concurrent.deviceOf "1")], 0, 0, 0⟩ twoUpdates

/-- The theorem on them: the second has counted the columns before the first added one, and now
asks for a column that is there. -/
theorem columns_contiguous_updates :
    (∀ i n, Alters (bothCounted.foldl (step .plain fun _ => none) twoUpdaters) i n →
      n ≤ (bothCounted.foldl (step .plain fun _ => none) twoUpdaters).shared.world.attrs + 1) ∧
    (bothCounted.foldl (step .plain fun _ => none) twoUpdaters).shared.world.attrs ≤
      ((bothCounted ++ [1]).foldl (step .plain fun _ => none) twoUpdaters).shared.world.attrs ∧
    ∀ row, Change.insert .Service row ∈
        history (bothCounted.foldl (step .plain fun _ => none) twoUpdaters).shared.log →
      (bothCounted.foldl (step .plain fun _ => none) twoUpdaters).shared.world.hasColumns .Service
        row = true :=
  columns_contiguous .plain (fun _ => none) plainHttp
    ⟨[(.Device, Concurrent.deviceOf "1")], 0, 0, 0⟩ twoUpdates bothCounted [1]

/-- The second does ask for it. -/
example : Alters (bothCounted.foldl (step .plain fun _ => none) twoUpdaters) 1 1 :=
  ⟨_, _, rfl, rfl⟩

end Versatile.Calls
