import Versatile.FlexIDMngerDb.GenID
import Versatile.FlexIDMnger.GenID

/-!
# Collision resolution and the collision field

`gen_flag` refuses to count more than fifteen collisions, but no generator asks it: each adds
`collision_inc` to the flag until its selection finds nothing. So an identifier keeps the bits
that were requested exactly while one of the sixteen candidates of the field is found nowhere,
and the search fails where it should unless one of them is free, or it fails before it meets
any candidate that is not found.
-/

namespace Versatile

open Py

namespace FlexIDMngerDb

/-- An identifier that no device has: it is neither cached nor stored. -/
def FreeDevice (srv : Server) (s : Store) (id : String) : Prop :=
  s.deviceID_cache.has id = false ∧ deviceStored srv s.db id = false

/-- An identifier that nothing is registered under. -/
def FreeProviding (srv : Server) (s : Store) (id : String) : Prop :=
  providingStored srv s.db id = false

theorem join_genID_inField_iff (srv : Server) (limit : Nat) (base : String) (s : Store) :
    InField (newID · base) (.bool false) (.bool false) (FreeDevice srv s)
        (join_genID srv limit base 0 s).1 ↔
      Search.Bounded (cachedCandidate base 0 s) (foundCandidate srv base 0 s)
        (joinFails srv base 0 limit s) (fun i => FreeDevice srv s (candidate base 0 i)) 15 := by
  obtain ⟨o, hrun, hret⟩ := @join_genID_search srv base 0 limit s
  exact inField_iff (newID_injective base) hrun hret

theorem register_genID_inField_iff (srv : Server) (limit : Nat) (hash_val : String) (c seg : Value)
    (s : Store) :
    InField (newID · hash_val) c seg (FreeProviding srv s)
        (register_genID srv limit hash_val (baseFlag c seg) s).1 ↔
      Search.Bounded (fun _ => false) (foundRegistered srv hash_val (baseFlag c seg) s)
        (registerFails srv hash_val (baseFlag c seg) limit s)
        (fun i => FreeProviding srv s (candidate hash_val (baseFlag c seg) i)) 15 := by
  obtain ⟨o, hrun, hret⟩ := @register_genID_search srv hash_val (baseFlag c seg) limit s
  exact inField_iff (newID_injective hash_val) hrun hret

end FlexIDMngerDb

namespace FlexIDMnger

variable {ω : Type} {env : Env ω} {device providing : ω → String → Bool}

/-- An identifier that no device has. -/
def FreeDevice (device : ω → String → Bool) (s : State ω) (id : String) : Prop :=
  s.deviceID_cache.has (.str id) = false ∧ device s.world id = false

/-- An identifier that nothing is registered under. -/
def FreeProviding (providing : ω → String → Bool) (s : State ω) (id : String) : Prop :=
  providing s.world id = false

theorem join_genID_inField_iff (htruth : Truthful env deviceByID device) {limit : Nat}
    {base : String} {s : State ω} {res : Except Exc String × State ω}
    (h : runs env (join_genID limit base 0) s = some res) :
    InField (newID · base) (.bool false) (.bool false) (FreeDevice device s) res.1 ↔
      Search.Bounded (cachedCandidate base 0 s) (storedCandidate (device s.world) base 0)
        (tooDeep limit) (fun i => FreeDevice device s (candidate base 0 i)) 15 := by
  obtain ⟨o, hrun, hret⟩ := join_genID_search htruth h
  exact inField_iff (newID_injective base) hrun hret

theorem register_genID_inField_iff (htruth : Truthful env providingByID providing) {limit : Nat}
    {hash_val : String} {c seg : Value} {s : State ω} {res : Except Exc String × State ω}
    (h : runs env (register_genID limit hash_val (baseFlag c seg)) s = some res) :
    InField (newID · hash_val) c seg (FreeProviding providing s) res.1 ↔
      Search.Bounded (fun _ => false)
        (storedCandidate (providing s.world) hash_val (baseFlag c seg)) (tooDeep limit)
        (fun i => FreeProviding providing s (candidate hash_val (baseFlag c seg) i)) 15 := by
  obtain ⟨o, hrun, hret⟩ := register_genID_search htruth h
  exact inField_iff (newID_injective hash_val) hrun hret

end FlexIDMnger

/--
**When collision resolution stays inside the collision field**, for the four generators: when
one of the sixteen candidates of the field is neither cached nor found by its selection, and
one of them is free, or the search breaks before it meets any candidate that is neither.
-/
theorem collisions_inField_iff (srv : Server) (limit : Nat) (base : String) {c seg : Value}
    {flag : Nat} (hflag : gen_flag c seg 0 = .ok flag) (m : FlexIDMngerDb.Store) {ω : Type}
    {env : FlexIDMnger.Env ω} {device providing : ω → String → Bool}
    (hdevice : FlexIDMnger.Truthful env FlexIDMnger.deviceByID device)
    (hproviding : FlexIDMnger.Truthful env FlexIDMnger.providingByID providing)
    (s : FlexIDMnger.State ω) :
    (InField (FlexIDMngerDb.newID · base) (.bool false) (.bool false)
          (FlexIDMngerDb.FreeDevice srv m) (FlexIDMngerDb.join_genID srv limit base 0 m).1 ↔
        Search.Bounded (FlexIDMngerDb.cachedCandidate base 0 m)
          (FlexIDMngerDb.foundCandidate srv base 0 m)
          (FlexIDMngerDb.joinFails srv base 0 limit m)
          (fun i => FlexIDMngerDb.FreeDevice srv m (FlexIDMngerDb.candidate base 0 i)) 15) ∧
      (InField (FlexIDMngerDb.newID · base) c seg (FlexIDMngerDb.FreeProviding srv m)
          (FlexIDMngerDb.register_genID srv limit base flag m).1 ↔
        Search.Bounded (fun _ => false) (FlexIDMngerDb.foundRegistered srv base flag m)
          (FlexIDMngerDb.registerFails srv base flag limit m)
          (fun i => FlexIDMngerDb.FreeProviding srv m (FlexIDMngerDb.candidate base flag i))
          15) ∧
      (∀ res, FlexIDMnger.runs env (FlexIDMnger.join_genID limit base 0) s = some res →
        (InField (FlexIDMnger.newID · base) (.bool false) (.bool false)
            (FlexIDMnger.FreeDevice device s) res.1 ↔
          Search.Bounded (FlexIDMnger.cachedCandidate base 0 s)
            (FlexIDMnger.storedCandidate (device s.world) base 0) (FlexIDMnger.tooDeep limit)
            (fun i => FlexIDMnger.FreeDevice device s (FlexIDMnger.candidate base 0 i)) 15)) ∧
      (∀ res, FlexIDMnger.runs env (FlexIDMnger.register_genID limit base flag) s = some res →
        (InField (FlexIDMnger.newID · base) c seg (FlexIDMnger.FreeProviding providing s) res.1 ↔
          Search.Bounded (fun _ => false)
            (FlexIDMnger.storedCandidate (providing s.world) base flag)
            (FlexIDMnger.tooDeep limit)
            (fun i => FlexIDMnger.FreeProviding providing s (FlexIDMnger.candidate base flag i))
            15)) := by
  obtain rfl := Except.ok.inj ((gen_flag_zero c seg).symm.trans hflag)
  refine ⟨?_, ?_, fun res h => ?_, fun res h => ?_⟩
  · exact FlexIDMngerDb.join_genID_inField_iff srv limit base m
  · exact FlexIDMngerDb.register_genID_inField_iff srv limit base c seg m
  · exact FlexIDMnger.join_genID_inField_iff hdevice h
  · exact FlexIDMnger.register_genID_inField_iff hproviding h

/-- A process that has generated `0t`, on a database with the device `4t` and something
registered under `64t`. -/
def metBefore : FlexIDMngerDb.Store :=
  ⟨[("0t", .bool true)], ⟨⟨[(.Device, [("deviceId", "4t")]),
    (.RegisterList, [("providingId", "64t"), ("deviceId", "4t")])], []⟩, 0⟩⟩

/-- The same for the other manager. -/
def metRemote : FlexIDMnger.State (BitVec 32) :=
  { FlexIDMnger.start 0 with deviceID_cache := [(.str "t0", .bool true)] }

/-- Behind one candidate in the cache and one in the database the third is in the field still,
and behind one that is registered the second, with the segment bit set. -/
theorem collisions_inField_third :
    InField (FlexIDMngerDb.newID · "t") (.bool false) (.bool false)
        (FlexIDMngerDb.FreeDevice Server.exact metBefore)
        (FlexIDMngerDb.join_genID Server.exact 10 "t" 0 metBefore).1 ∧
      InField (FlexIDMngerDb.newID · "t") (.bool false) (.bool true)
        (FlexIDMngerDb.FreeProviding Server.exact metBefore)
        (FlexIDMngerDb.register_genID Server.exact 10 "t" 64 metBefore).1 ∧
      InField (FlexIDMnger.newID · "t") (.bool false) (.bool false)
        (FlexIDMnger.FreeDevice (fun _ id => id ∈ ["t4", "t64"]) metRemote) (.ok "t8") ∧
      InField (FlexIDMnger.newID · "t") (.bool false) (.bool true)
        (FlexIDMnger.FreeProviding (fun _ id => id ∈ ["t4", "t64"]) metRemote) (.ok "t68") := by
  have hflag : gen_flag (.bool false) (.bool true) 0 = .ok 64 := rfl
  obtain ⟨h1, h2, h3, h4⟩ := collisions_inField_iff Server.exact 10 "t" hflag metBefore
    (FlexIDMnger.fixedDb_truthful ["t4", "t64"] fun _ => rfl)
    (FlexIDMnger.fixedDb_truthful ["t4", "t64"] fun _ => rfl) metRemote
  refine ⟨h1.mpr ?_, h2.mpr ?_, (h3 (.ok "t8", _) rfl).mpr ?_, (h4 (.ok "t68", _) rfl).mpr ?_⟩
  · exact Or.inl ⟨⟨2, by decide, rfl, rfl⟩, 2, by decide, rfl, rfl⟩
  · exact Or.inl ⟨⟨1, by decide, rfl, rfl⟩, 1, by decide, rfl⟩
  · exact Or.inl ⟨⟨2, by decide, rfl, rfl⟩, 2, by decide, rfl, rfl⟩
  · exact Or.inl ⟨⟨1, by decide, rfl, rfl⟩, 1, by decide, rfl⟩

/-- A cache that knows the sixteen candidates for the base `t`. -/
def sixteenCached : FlexIDMngerDb.Store :=
  ⟨(List.range 16).map fun m => (FlexIDMngerDb.newID (collision_inc * m) "t", .str "None"),
    ⟨⟨[], []⟩, 0⟩⟩

/-- The flag of the next identifier is 64, which is the segment bit. -/
theorem not_inField : ¬ InField (FlexIDMngerDb.newID · "t") (.bool false) (.bool false)
    (FlexIDMngerDb.FreeDevice Server.exact sixteenCached)
    (FlexIDMngerDb.join_genID Server.exact 10 "t" 0 sixteenCached).1 := by
  intro h
  have hres : (FlexIDMngerDb.join_genID Server.exact 10 "t" 0 sixteenCached).1 =
    .ok (FlexIDMngerDb.newID 64 "t") := rfl
  obtain ⟨m, f, hm, hf, heq⟩ := h.inside _ hres
  obtain rfl := FlexIDMngerDb.newID_injective "t" heq
  have hbase : baseFlag (.bool false) (.bool false) = 0 := rfl
  rw [gen_flag_of_le hm, hbase, collision_inc] at hf
  have hflag := Except.ok.inj hf
  omega

end Versatile
