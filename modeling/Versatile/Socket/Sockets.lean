import Versatile.Lib.Refs

/-!
# The sockets of the kernel module

`flex_create` takes a `sock` object for a socket before it knows whether the type of the socket is
supported; `flex_release` puts it. The kernel calls the latter only for a socket whose creation
returned 0, so an object that a failed creation leaves with the socket is put by nobody.
-/

namespace Versatile.Socket

open Refs

/-! ## Creation and release -/

/-- The operations a socket is given. -/
inductive ProtoOps where
  | flex_reliable_ops
  | flex_unreliable_ops
  deriving DecidableEq, Repr

/-- The states of a socket the module knows. -/
inductive SocketState where
  | SS_FREE
  | SS_UNCONNECTED
  deriving DecidableEq, Repr

/-- What the module uses of `struct socket`. -/
structure FlexSocket where
  type : Int
  state : SocketState
  ops : Option ProtoOps
  sk : Option Nat

def PF_FLEX : Int := 38
def SOCK_STREAM : Int := 1
def SOCK_DGRAM : Int := 2
def EPROTONOSUPPORT : Int := 93
def ESOCKTNOSUPPORT : Int := 94
def ENOBUFS : Int := 105

/-- `flex_alloc_socket`: `sock_init_data` gives the object its reference. -/
def flex_alloc_socket (heap : Heap) (alloc : Bool) : Option Nat × Heap :=
  if alloc then (some heap.alloc.1, heap.alloc.2) else (none, heap)

/-- `flex_create`. The second `sock_init_data` attaches the object to the socket. -/
def flex_create (heap : Heap) (sock : FlexSocket) (protocol : Int) (alloc : Bool) :
    Int × FlexSocket × Heap :=
  if protocol ≠ 0 ∧ protocol ≠ PF_FLEX then (-EPROTONOSUPPORT, sock, heap)
  else
    let sock := { sock with state := .SS_UNCONNECTED }
    match flex_alloc_socket heap alloc with
    | (none, heap) => (-ENOBUFS, sock, heap)
    | (some sk, heap) =>
      let sock := { sock with sk := some sk }
      if sock.type = SOCK_STREAM then (0, { sock with ops := some .flex_reliable_ops }, heap)
      else if sock.type = SOCK_DGRAM then
        (0, { sock with ops := some .flex_unreliable_ops }, heap)
      else (-ESOCKTNOSUPPORT, sock, heap)

/-- `flex_release`: an object is on no list, so that its reference is the one of the socket. -/
def flex_release (heap : Heap) (sock : FlexSocket) : FlexSocket × Heap :=
  match sock.sk with
  | none => (sock, heap)
  | some sk => ({ sock with sk := none }, heap.put sk)

/-! ## The kernel -/

/-- A socket that was created: what `flex_create` returned for it, and whether it was released. -/
structure Created where
  sock : FlexSocket
  rc : Int
  released : Bool

/-- The objects, and the sockets in the order of their creation. -/
structure Kernel where
  heap : Heap
  sockets : List Created

/-- Nothing was created. -/
def Kernel.init : Kernel := ⟨Heap.empty, []⟩

/-- What is asked of the module. -/
inductive Op where
  | create (type protocol : Int) (alloc : Bool)
  | release (i : Nat)

/-- A socket as the kernel hands it to `flex_create`. -/
def newSocket (type : Int) : FlexSocket := ⟨type, .SS_FREE, none, none⟩

/-- A socket of its own is created each time; only one whose creation went through is released. -/
def step (k : Kernel) : Op → Kernel
  | .create type protocol alloc =>
    let out := flex_create k.heap (newSocket type) protocol alloc
    ⟨out.2.2, k.sockets ++ [⟨out.2.1, out.1, false⟩]⟩
  | .release i =>
    match k.sockets[i]? with
    | none => k
    | some c =>
      if c.rc = 0 then
        let out := flex_release k.heap c.sock
        ⟨out.2, k.sockets.set i ⟨out.1, c.rc, true⟩⟩
      else k

/-- The objects that are allocated are those of the sockets whose creation returned 0 and that were
not released. -/
def Balanced (k : Kernel) : Prop :=
  ∀ id, k.heap.Live id ↔
    ∃ c ∈ k.sockets, c.rc = 0 ∧ c.released = false ∧ c.sock.sk = some id

/-- The creation finds out about the type when it has the object. -/
def Leaks : Op → Prop
  | .create type protocol alloc =>
    (protocol = 0 ∨ protocol = PF_FLEX) ∧ alloc = true ∧ type ≠ SOCK_STREAM ∧ type ≠ SOCK_DGRAM
  | .release _ => False

/-! ## What a call does -/

/-- **A creation** leaves the objects as they were and the socket without one, or gives the socket
a new one; then it is the type that makes it fail. -/
theorem flex_create_cases (heap : Heap) (type protocol : Int) (alloc : Bool) :
    (∃ rc sock, flex_create heap (newSocket type) protocol alloc = (rc, sock, heap) ∧
      rc ≠ 0 ∧ sock.sk = none ∧ ¬ Leaks (.create type protocol alloc)) ∨
    (∃ rc sock, flex_create heap (newSocket type) protocol alloc = (rc, sock, heap.alloc.2) ∧
      sock.sk = some heap.alloc.1 ∧ (rc ≠ 0 ↔ Leaks (.create type protocol alloc))) := by
  unfold flex_create flex_alloc_socket Leaks
  by_cases hproto : protocol ≠ 0 ∧ protocol ≠ PF_FLEX
  · refine Or.inl ⟨_, _, if_pos hproto, by decide, rfl, ?_⟩
    intro hleak
    rcases hleak.1 with h | h
    · exact hproto.1 h
    · exact hproto.2 h
  · have hknown : protocol = 0 ∨ protocol = PF_FLEX := by
      by_contra h
      exact hproto ⟨fun h0 => h (Or.inl h0), fun hp => h (Or.inr hp)⟩
    rw [if_neg hproto]
    cases alloc with
    | false => exact Or.inl ⟨_, _, rfl, by decide, rfl, by simp⟩
    | true =>
      refine Or.inr ?_
      by_cases hstream : type = SOCK_STREAM
      · exact ⟨0, ⟨type, .SS_UNCONNECTED, some .flex_reliable_ops, some heap.alloc.1⟩,
          by simp [newSocket, hstream], rfl, by simp [hstream]⟩
      · by_cases hdgram : type = SOCK_DGRAM
        · exact ⟨0, ⟨type, .SS_UNCONNECTED, some .flex_unreliable_ops, some heap.alloc.1⟩,
            by simp [newSocket, hdgram, SOCK_DGRAM, SOCK_STREAM], rfl, by simp [hdgram]⟩
        · exact ⟨-ESOCKTNOSUPPORT, ⟨type, .SS_UNCONNECTED, none, some heap.alloc.1⟩,
            by simp [newSocket, hstream, hdgram], rfl,
            by simp [hstream, hdgram, hknown, ESOCKTNOSUPPORT]⟩

/-! ## Which socket has which object -/

/-- A socket of the list has the object. -/
def Holds (sockets : List Created) (i id : Nat) : Prop :=
  ∃ c, sockets[i]? = some c ∧ c.sock.sk = some id

/-- A socket has one object at most. -/
theorem Holds.inj {sockets : List Created} {i a b : Nat} (ha : Holds sockets i a)
    (hb : Holds sockets i b) : a = b := by
  obtain ⟨c, hc, hca⟩ := ha
  obtain ⟨d, hd, hdb⟩ := hb
  rw [hc] at hd
  rw [← Option.some.inj hd, hca] at hdb
  exact Option.some.inj hdb

theorem holds_append {sockets : List Created} {c : Created} {i id : Nat} :
    Holds (sockets ++ [c]) i id ↔
      Holds sockets i id ∨ (i = sockets.length ∧ c.sock.sk = some id) := by
  unfold Holds
  by_cases hlt : i < sockets.length
  · rw [List.getElem?_append_left hlt]
    have hne : i ≠ sockets.length := by omega
    simp [hne]
  · have hnone : sockets[i]? = none := List.getElem?_eq_none (by omega)
    by_cases hi : i = sockets.length
    · rw [hi, List.getElem?_concat_length]
      simp
    · have hout : (sockets ++ [c])[i]? = none := by
        refine List.getElem?_eq_none ?_
        rw [List.length_append, List.length_singleton]
        omega
      simp [hout, hnone, hi]

/-- A socket whose object was put. -/
theorem holds_set {sockets : List Created} {c : Created} {i j id : Nat} (hc : c.sock.sk = none) :
    Holds (sockets.set i c) j id ↔ Holds sockets j id ∧ j ≠ i := by
  unfold Holds
  by_cases hj : j = i
  · rw [hj]
    by_cases hlt : i < sockets.length
    · rw [List.getElem?_set_self hlt]
      simp [hc]
    · rw [List.getElem?_eq_none (by rw [List.length_set]; omega)]
      simp
  · rw [List.getElem?_set_ne (fun h => hj h.symm)]
    simp [hj]

/-- What holds of the kernel after any calls: the allocated objects are those that some socket has,
each with one reference and of one socket, and a socket that was released has none. -/
structure Accounted (k : Kernel) : Prop where
  live : ∀ id, k.heap.Live id ↔ ∃ i, Holds k.sockets i id
  one : ∀ i id, Holds k.sockets i id → k.heap.count id = 1
  apart : ∀ i j id, Holds k.sockets i id → Holds k.sockets j id → i = j
  released : ∀ c ∈ k.sockets, c.rc = 0 → (c.released = true ↔ c.sock.sk = none)

theorem accounted_init : Accounted Kernel.init where
  live := fun id => iff_of_false (not_live_empty id) fun h => by simp [Holds, Kernel.init] at h
  one := fun i id h => by simp [Holds, Kernel.init] at h
  apart := fun i j id h => by simp [Holds, Kernel.init] at h
  released := fun c h => absurd h List.not_mem_nil

/-- A creation that took no object. -/
theorem accounted_append {k : Kernel} (h : Accounted k) {c : Created} (hsk : c.sock.sk = none)
    (hrc : c.rc ≠ 0) : Accounted ⟨k.heap, k.sockets ++ [c]⟩ := by
  have hholds : ∀ i id, Holds (k.sockets ++ [c]) i id ↔ Holds k.sockets i id := by
    intro i id
    rw [holds_append, hsk]
    simp
  refine ⟨fun id => ?_, fun i id hi => ?_, fun i j id hi hj => ?_, fun c' hc' hrc' => ?_⟩
  · simp only [hholds]
    exact h.live id
  · exact h.one i id ((hholds i id).mp hi)
  · exact h.apart i j id ((hholds i id).mp hi) ((hholds j id).mp hj)
  · rcases List.mem_append.mp hc' with hold | hnew
    · exact h.released c' hold hrc'
    · rw [List.mem_singleton.mp hnew] at hrc'
      exact absurd hrc' hrc

/-- A creation that took one. -/
theorem accounted_alloc {k : Kernel} (h : Accounted k) {c : Created}
    (hsk : c.sock.sk = some k.heap.alloc.1) (hrel : c.released = false) :
    Accounted ⟨k.heap.alloc.2, k.sockets ++ [c]⟩ := by
  have hnew : ∀ i, ¬ Holds k.sockets i k.heap.alloc.1 :=
    fun i hi => not_live_next k.heap ((h.live _).mpr ⟨i, hi⟩)
  have hholds : ∀ i id, Holds (k.sockets ++ [c]) i id ↔
      Holds k.sockets i id ∨ (i = k.sockets.length ∧ k.heap.alloc.1 = id) := by
    intro i id
    rw [holds_append, hsk, Option.some.injEq]
  refine ⟨fun id => ?_, fun i id hi => ?_, fun i j id hi hj => ?_, fun c' hc' hrc' => ?_⟩
  · rw [live_alloc, h.live]
    simp only [hholds]
    refine ⟨fun hid => ?_, fun hid => ?_⟩
    · rcases hid with hid | hid
      · exact ⟨k.sockets.length, Or.inr ⟨rfl, hid.symm⟩⟩
      · obtain ⟨i, hi⟩ := hid
        exact ⟨i, Or.inl hi⟩
    · obtain ⟨i, hi | hi⟩ := hid
      · exact Or.inr ⟨i, hi⟩
      · exact Or.inl hi.2.symm
  · rcases (hholds i id).mp hi with hi | hi
    · show k.heap.alloc.2.count id = 1
      rw [count_alloc_of_live ((h.live id).mpr ⟨i, hi⟩)]
      exact h.one i id hi
    · rw [← hi.2]
      exact count_alloc_self k.heap
  · -- no other socket has the new object
    rcases (hholds i id).mp hi with hi | hi
    · rcases (hholds j id).mp hj with hj | hj
      · exact h.apart i j id hi hj
      · exact absurd (hj.2 ▸ hi) (hnew i)
    · rcases (hholds j id).mp hj with hj | hj
      · exact absurd (hi.2 ▸ hj) (hnew j)
      · exact hi.1.trans hj.1.symm
  · rcases List.mem_append.mp hc' with hold | hlast
    · exact h.released c' hold hrc'
    · rw [List.mem_singleton.mp hlast, hsk, hrel]
      simp

/-- A release that put an object. -/
theorem accounted_put {k : Kernel} (h : Accounted k) {i id : Nat} {c : Created}
    (hi : Holds k.sockets i id) (hsk : c.sock.sk = none) (hrel : c.released = true) :
    Accounted ⟨k.heap.put id, k.sockets.set i c⟩ := by
  have hone := h.one i id hi
  refine ⟨fun j => ?_, fun m j hm => ?_, fun m n j hm hn => ?_, fun c' hc' hrc' => ?_⟩
  · rw [live_put hone, h.live]
    simp only [holds_set hsk]
    refine ⟨fun hj => ?_, fun hj => ?_⟩
    · obtain ⟨⟨m, hm⟩, hne⟩ := hj
      exact ⟨m, hm, fun hmi => hne ((hmi ▸ hm).inj hi)⟩
    · obtain ⟨m, hm, hmi⟩ := hj
      refine ⟨⟨m, hm⟩, fun hjid => hmi ?_⟩
      rw [hjid] at hm
      exact h.apart m i id hm hi
  · obtain ⟨hm, hmi⟩ := (holds_set hsk).mp hm
    have hne : j ≠ id := fun hjid => hmi (h.apart m i id (hjid ▸ hm) hi)
    show (k.heap.put id).count j = 1
    rw [count_put_of_ne hne]
    exact h.one m j hm
  · exact h.apart m n j ((holds_set hsk).mp hm).1 ((holds_set hsk).mp hn).1
  · rcases List.mem_or_eq_of_mem_set hc' with hold | hnew
    · exact h.released c' hold hrc'
    · rw [hnew, hsk, hrel]
      simp

/-- **What a release does**: nothing, or it puts the object of a socket whose creation returned
0. -/
theorem release_cases {k : Kernel} (h : Accounted k) (i : Nat) :
    step k (.release i) = k ∨
      ∃ id c c', k.sockets[i]? = some c ∧ c.rc = 0 ∧ c.sock.sk = some id ∧ c'.rc = 0 ∧
        c'.sock.sk = none ∧ c'.released = true ∧
        step k (.release i) = ⟨k.heap.put id, k.sockets.set i c'⟩ := by
  cases hc : k.sockets[i]? with
  | none =>
    refine Or.inl ?_
    simp only [step, hc]
  | some c =>
    by_cases hrc : c.rc = 0
    · have hstep : step k (.release i) = ⟨(flex_release k.heap c.sock).2,
          k.sockets.set i ⟨(flex_release k.heap c.sock).1, c.rc, true⟩⟩ := by
        simp only [step, hc, if_pos hrc]
      cases hsk : c.sock.sk with
      | some id =>
        refine Or.inr ⟨id, c, ⟨{ c.sock with sk := none }, c.rc, true⟩, rfl, hrc, hsk, hrc, rfl,
          rfl, ?_⟩
        rw [hstep]
        simp only [flex_release, hsk]
      | none =>
        -- the socket was released before
        obtain ⟨hlt, hget⟩ := List.getElem?_eq_some_iff.mp hc
        have hrel : c.released = true :=
          (h.released c (List.mem_of_getElem? hc) hrc).mpr hsk
        have hsame : (⟨c.sock, c.rc, true⟩ : Created) = k.sockets[i] := by
          rw [hget, ← hrel]
        refine Or.inl ?_
        rw [hstep]
        simp only [flex_release, hsk]
        rw [hsame, List.set_getElem_self]
    · refine Or.inl ?_
      simp only [step, hc, if_neg hrc]

/-- What a creation leaves. -/
theorem step_create {k : Kernel} {type protocol rc : Int} {alloc : Bool} {sock : FlexSocket}
    {heap : Heap} (hout : flex_create k.heap (newSocket type) protocol alloc = (rc, sock, heap)) :
    step k (.create type protocol alloc) = ⟨heap, k.sockets ++ [⟨sock, rc, false⟩]⟩ := by
  simp only [step, hout]

theorem accounted_step {k : Kernel} (h : Accounted k) (op : Op) : Accounted (step k op) := by
  cases op with
  | create type protocol alloc =>
    rcases flex_create_cases k.heap type protocol alloc with hcase | hcase
    · obtain ⟨rc, sock, hout, hrc, hsk, -⟩ := hcase
      rw [step_create hout]
      exact accounted_append h hsk hrc
    · obtain ⟨rc, sock, hout, hsk, -⟩ := hcase
      rw [step_create hout]
      exact accounted_alloc h hsk rfl
  | release i =>
    rcases release_cases h i with hsame | hput
    · rw [hsame]
      exact h
    · obtain ⟨id, c, c', hc, -, hid, -, hsk, hrel, hstep⟩ := hput
      rw [hstep]
      exact accounted_put h ⟨c, hc, hid⟩ hsk hrel

/-! ## Which objects are lost -/

/-- A creation failed and left its object. -/
def Lost (k : Kernel) : Prop := ∃ c ∈ k.sockets, c.rc ≠ 0 ∧ c.sock.sk ≠ none

/-- **A step loses an object** exactly if it is a creation that leaks. -/
theorem lost_step {k : Kernel} (h : Accounted k) (op : Op) :
    Lost (step k op) ↔ Lost k ∨ Leaks op := by
  cases op with
  | create type protocol alloc =>
    have happend : ∀ (heap : Heap) (c : Created),
        Lost ⟨heap, k.sockets ++ [c]⟩ ↔ Lost k ∨ (c.rc ≠ 0 ∧ c.sock.sk ≠ none) := by
      intro heap c
      simp only [Lost, List.mem_append, List.mem_singleton, or_and_right, exists_or,
        exists_eq_left]
    rcases flex_create_cases k.heap type protocol alloc with hcase | hcase
    · obtain ⟨rc, sock, hout, -, hsk, hleak⟩ := hcase
      rw [step_create hout, happend, hsk]
      simp [hleak]
    · obtain ⟨rc, sock, hout, hsk, hleak⟩ := hcase
      rw [step_create hout, happend, hsk, ← hleak]
      simp
  | release i =>
    have hnot : ¬ Leaks (.release i) := id
    rw [or_iff_left hnot]
    rcases release_cases h i with hsame | hput
    · rw [hsame]
    · obtain ⟨id, c, c', hc, hrc, -, hrc', -, -, hstep⟩ := hput
      rw [hstep]
      refine ⟨fun hlost => ?_, fun hlost => ?_⟩
      · obtain ⟨a, ha, harc, hask⟩ := hlost
        rcases List.mem_or_eq_of_mem_set ha with hold | hnew
        · exact ⟨a, hold, harc, hask⟩
        · exact absurd (hnew ▸ hrc') harc
      · -- the socket that was released is not the one that lost its object
        obtain ⟨a, ha, harc, hask⟩ := hlost
        obtain ⟨j, hj⟩ := List.mem_iff_getElem?.mp ha
        have hne : i ≠ j := by
          intro hij
          rw [hij, hj] at hc
          exact harc (Option.some.inj hc ▸ hrc)
        refine ⟨a, List.mem_of_getElem? (i := j) ?_, harc, hask⟩
        rw [List.getElem?_set_ne hne]
        exact hj

/-- **The objects balance** exactly if none is lost. -/
theorem balanced_iff_not_lost {k : Kernel} (h : Accounted k) : Balanced k ↔ ¬ Lost k := by
  refine ⟨fun hbal hlost => ?_, fun hnone id => ?_⟩
  · obtain ⟨c, hc, hrc, hsk⟩ := hlost
    obtain ⟨id, hid⟩ := Option.ne_none_iff_exists'.mp hsk
    obtain ⟨i, hi⟩ := List.mem_iff_getElem?.mp hc
    have hlive : k.heap.Live id := (h.live id).mpr ⟨i, c, hi, hid⟩
    obtain ⟨c', hc', hrc', -, hid'⟩ := (hbal id).mp hlive
    obtain ⟨j, hj⟩ := List.mem_iff_getElem?.mp hc'
    have hij : i = j := h.apart i j id ⟨c, hi, hid⟩ ⟨c', hj, hid'⟩
    rw [hij, hj] at hi
    exact hrc (Option.some.inj hi ▸ hrc')
  · rw [h.live]
    refine ⟨fun hid => ?_, fun hid => ?_⟩
    · obtain ⟨i, c, hi, hsk⟩ := hid
      have hc := List.mem_of_getElem? hi
      have hrc : c.rc = 0 := by
        by_contra hne
        exact hnone ⟨c, hc, hne, by rw [hsk]; exact Option.some_ne_none id⟩
      refine ⟨c, hc, hrc, ?_, hsk⟩
      rw [← Bool.not_eq_true, h.released c hc hrc, hsk]
      exact Option.some_ne_none id
    · obtain ⟨c, hc, -, -, hsk⟩ := hid
      obtain ⟨i, hi⟩ := List.mem_iff_getElem?.mp hc
      exact ⟨i, c, hi, hsk⟩

/-- A run: what is accounted for stays so, and an object is lost by some step of it. -/
theorem run_lost {k : Kernel} (h : Accounted k) (ops : List Op) :
    Accounted (ops.foldl step k) ∧ (Lost (ops.foldl step k) ↔ Lost k ∨ ∃ op ∈ ops, Leaks op) := by
  induction ops generalizing k with
  | nil => exact ⟨h, by simp⟩
  | cons op ops ih =>
    obtain ⟨hacc, hlost⟩ := ih (accounted_step h op)
    refine ⟨hacc, hlost.trans ?_⟩
    rw [lost_step h op, or_assoc]
    simp only [List.mem_cons, or_and_right, exists_or, exists_eq_left]

/--
**When the sockets do not leak.**

After any creations and releases, the objects that are allocated are those of the sockets that were
created and not released, exactly if no creation got an object for a type that is not supported.
-/
theorem balanced_iff (ops : List Op) :
    Balanced (ops.foldl step Kernel.init) ↔ ∀ op ∈ ops, ¬ Leaks op := by
  obtain ⟨hacc, hlost⟩ := run_lost accounted_init ops
  have hinit : ¬ Lost Kernel.init := fun h => by simp [Lost, Kernel.init] at h
  rw [balanced_iff_not_lost hacc, hlost, or_iff_right hinit]
  simp only [not_exists, not_and]

/-- `SOCK_RAW`. -/
def SOCK_RAW : Int := 3

/-- **They do leak**: the object of a raw socket stays. -/
theorem not_balanced : ¬ Balanced ([.create SOCK_RAW 0 true].foldl step Kernel.init) := by
  intro h
  have hlive : (step Kernel.init (.create SOCK_RAW 0 true)).heap.Live 0 := by decide
  obtain ⟨c, hc, hrc, -⟩ := (h 0).mp hlive
  rw [List.mem_singleton.mp hc] at hrc
  exact absurd hrc (by decide)

end Versatile.Socket
