import Versatile.Lib.Run

/-!
# Loading and unloading the kernel module

`af_flex_init` registers the protocol, the socket family and the packet handler, and undoes what it
did when one of the first two fails. Its last label is not left out when none does: the protocol is
unregistered again, and `af_flex_exit`, which takes back the other two, never does it.
-/

namespace Versatile.Socket

/-- What is registered, and whether the last load went through and was not undone. -/
structure ModuleState where
  proto : Bool
  family : Bool
  handler : Bool
  loaded : Bool
  deriving DecidableEq, Repr

/-- Nothing is registered. -/
def ModuleState.none : ModuleState := ⟨false, false, false, false⟩

/-- `af_flex_init`. The arguments are what `proto_register` and `sock_register` return; each
registers exactly if that is 0. -/
def af_flex_init (m : ModuleState) (proto_rc sock_rc : Int) : Int × ModuleState :=
  if proto_rc ≠ 0 then (proto_rc, m)
  else
    let m := { m with proto := true }
    if sock_rc ≠ 0 then (sock_rc, { m with proto := false })
    else
      let m := { m with family := true, handler := true }
      -- `out_proto`: nothing jumps over it
      (sock_rc, { m with proto := false })

/-- `af_flex_exit`. -/
def af_flex_exit (m : ModuleState) : ModuleState := { m with handler := false, family := false }

/-- What is asked of the module. -/
inductive Load where
  | init (proto_rc sock_rc : Int)
  | exit

/-- A call; `af_flex_exit` is called only after a load that went through. -/
def load (m : ModuleState) : Load → ModuleState
  | .init proto_rc sock_rc =>
    let out := af_flex_init m proto_rc sock_rc
    { out.2 with loaded := if out.1 = 0 then true else m.loaded }
  | .exit => if m.loaded then { af_flex_exit m with loaded := false } else m

/-- All three are registered. -/
def ModuleState.All (m : ModuleState) : Prop := m.proto = true ∧ m.family = true ∧ m.handler = true

/-- None of the three is. -/
def ModuleState.Nothing (m : ModuleState) : Prop :=
  m.proto = false ∧ m.family = false ∧ m.handler = false

/-- What a call should leave: everything after a load that went through, nothing after one that
failed and after an unload. -/
def Consistent (m : ModuleState) : Load → Prop
  | .init proto_rc sock_rc =>
    ((af_flex_init m proto_rc sock_rc).1 = 0 → (load m (.init proto_rc sock_rc)).All) ∧
      ((af_flex_init m proto_rc sock_rc).1 ≠ 0 → (load m (.init proto_rc sock_rc)).Nothing)
  | .exit => m.loaded = true → (load m .exit).Nothing

/-- Both registrations of the load go through. -/
def Succeeds : Load → Prop
  | .init proto_rc sock_rc => proto_rc = 0 ∧ sock_rc = 0
  | .exit => False

/-! ## What a load does -/

/-- **A load that goes through** registers two of the three. -/
theorem af_flex_init_ok (m : ModuleState) :
    af_flex_init m 0 0 = (0, { m with proto := false, family := true, handler := true }) := rfl

/-- One that fails says so, and registers nothing. -/
theorem af_flex_init_failed {m : ModuleState} {proto_rc sock_rc : Int}
    (h : ¬ (proto_rc = 0 ∧ sock_rc = 0)) :
    (af_flex_init m proto_rc sock_rc).1 ≠ 0 ∧
      ((af_flex_init m proto_rc sock_rc).2 = m ∨
        (af_flex_init m proto_rc sock_rc).2 = { m with proto := false }) := by
  unfold af_flex_init
  by_cases hproto : proto_rc = 0
  · have hsock : sock_rc ≠ 0 := fun h0 => h ⟨hproto, h0⟩
    rw [if_neg (not_not_intro hproto)]
    dsimp only
    rw [if_pos hsock]
    exact ⟨hsock, Or.inr rfl⟩
  · rw [if_pos hproto]
    exact ⟨hproto, Or.inl rfl⟩

/-- The protocol is missing after every load that goes through. -/
theorem not_consistent_of_succeeds (m : ModuleState) {op : Load} (h : Succeeds op) :
    ¬ Consistent m op := by
  cases op with
  | exit => exact absurd h id
  | init proto_rc sock_rc =>
    intro hcons
    obtain ⟨hproto, hsock⟩ := h
    rw [hproto, hsock] at hcons
    have hall := (hcons.1 (by rw [af_flex_init_ok])).1
    exact absurd hall (by simp [load, af_flex_init_ok])

/-- A load that fails leaves a module that was not loaded as it was. -/
theorem load_none {op : Load} (h : ¬ Succeeds op) :
    load .none op = .none ∧ Consistent .none op := by
  cases op with
  | exit => exact ⟨rfl, fun hloaded => absurd hloaded (by decide)⟩
  | init proto_rc sock_rc =>
    obtain ⟨hrc, hkept⟩ := af_flex_init_failed (m := .none) h
    have hload : load .none (.init proto_rc sock_rc) = .none := by
      unfold load
      dsimp only
      rw [if_neg hrc]
      rcases hkept with hkept | hkept
      · rw [hkept]
      · rw [hkept]
        rfl
    refine ⟨hload, fun h0 => absurd h0 hrc, fun _ => ?_⟩
    rw [hload]
    exact ⟨rfl, rfl, rfl⟩

/--
**When the registrations are consistent.**

In a run of loads and unloads every call leaves what it should exactly if no load of it goes
through.
-/
theorem consistent_iff (ops : List Load) :
    Machine.Along load Consistent .none ops ↔ ∀ op ∈ ops, ¬ Succeeds op := by
  refine ⟨fun hrun op hop hsucc => ?_, fun hfail => ?_⟩
  · obtain ⟨m, hcons⟩ := Machine.along_mem hrun hop
    exact not_consistent_of_succeeds m hsucc hcons
  · have hsame : ∀ m op, m = ModuleState.none → ¬ Succeeds op → load m op = .none :=
      fun m op hm hop => hm ▸ (load_none hop).1
    have hcons : ∀ m op, m = ModuleState.none → ¬ Succeeds op → Consistent m op :=
      fun m op hm hop => hm ▸ (load_none hop).2
    exact Machine.along_of_invariant hsame hcons (Machine.along_of_forall hfail) rfl

/-- **They are not consistent** after a load that goes through. -/
theorem not_consistent : ¬ Machine.Along load Consistent .none [.init 0 0] := by
  intro hrun
  have hsucc : Succeeds (.init 0 0) := ⟨rfl, rfl⟩
  exact not_consistent_of_succeeds .none hsucc hrun.1

/-! ## What does hold -/

/-- The module is loaded only when it is not. -/
def Loader (m : ModuleState) : Load → Prop
  | .init _ _ => m.loaded = false
  | .exit => True

/-- Nothing is registered unless the module is loaded, and never the protocol. -/
def Tidy (m : ModuleState) : Prop := m.proto = false ∧ (m.loaded = false → m = .none)

/-- The half of the condition that is about what is taken back. -/
def TakenBack (m : ModuleState) : Load → Prop
  | .init proto_rc sock_rc =>
    (af_flex_init m proto_rc sock_rc).1 ≠ 0 → load m (.init proto_rc sock_rc) = .none
  | .exit => load m .exit = .none

theorem tidy_load {m : ModuleState} {op : Load} (h : Tidy m) (hop : Loader m op) :
    Tidy (load m op) ∧ TakenBack m op := by
  cases op with
  | init proto_rc sock_rc =>
    have hm : m = .none := h.2 hop
    by_cases hsucc : Succeeds (.init proto_rc sock_rc)
    · obtain ⟨hproto, hsock⟩ := hsucc
      rw [hproto, hsock]
      refine ⟨⟨rfl, fun hloaded => ?_⟩, fun hrc => absurd rfl hrc⟩
      exact absurd hloaded (by simp [load, af_flex_init_ok])
    · rw [hm]
      refine ⟨?_, fun _ => (load_none hsucc).1⟩
      rw [(load_none hsucc).1]
      exact ⟨rfl, fun _ => rfl⟩
  | exit =>
    have hexit : load m .exit = .none := by
      unfold load
      dsimp only
      by_cases hloaded : m.loaded = true
      · rw [if_pos hloaded]
        obtain ⟨proto, family, handler, loaded⟩ := m
        have hproto : proto = false := h.1
        rw [hproto]
        rfl
      · rw [if_neg hloaded]
        exact h.2 (Bool.not_eq_true _ ▸ hloaded)
    refine ⟨?_, hexit⟩
    rw [hexit]
    exact ⟨rfl, fun _ => rfl⟩

/-- **Whatever was registered is taken back**: after a load that failed, and after an unload,
nothing is registered. -/
theorem taken_back {ops : List Load} (hrun : Machine.Along load Loader .none ops) :
    Machine.Along load TakenBack .none ops := by
  have hkeep : ∀ m op, Tidy m → Loader m op → Tidy (load m op) :=
    fun m op h hop => (tidy_load h hop).1
  have hback : ∀ m op, Tidy m → Loader m op → TakenBack m op :=
    fun m op h hop => (tidy_load h hop).2
  exact Machine.along_of_invariant hkeep hback hrun ⟨rfl, fun _ => rfl⟩

end Versatile.Socket
