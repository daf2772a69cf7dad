import Versatile.FlexIDMnger.Process

/-!
# Which operations the handlers of `flexIDMnger.py` perform

Most of a handler only talks to the database (`Act.Asks`); the device check and `join_genID`
also write the cache (`Act.Marks`); one operation alone takes a key out of it, at the end of
`leave`, and one alone publishes, at the end of every handler.
-/

namespace Versatile.FlexIDMnger

open Py

/-- The operations on the database. -/
def Act.Asks : Act → Prop
  | send _ _ => True
  | strand => True
  | reply _ => True
  | drop _ => True
  | _ => False

/-- The operations that neither take a key out of the cache nor publish. -/
def Act.Marks : Act → Prop
  | cacheDel _ => False
  | publish _ => False
  | _ => True

/-- The operations that do not publish. -/
def Act.Mute : Act → Prop
  | publish _ => False
  | _ => True

theorem Act.Asks.marks {o : Act} (h : o.Asks) : o.Marks := by cases o <;> trivial

theorem Act.Marks.mute {o : Act} (h : o.Marks) : o.Mute := by cases o <;> trivial

variable {P : Act → Prop}

/-! ## Programs that only ask -/

theorem send_asks (q : DbQuery) (t : DbTopic) : Prog.Only Act.Asks (send_DBquery q t) :=
  Prog.only_perform trivial

theorem breakOff_only {α : Type} (h : P .strand) :
    Prog.Only P (breakOff : Handler α) :=
  Prog.only_bind (Prog.only_perform h) fun _ => trivial

theorem dbReply_asks (id : String) : Prog.Only Act.Asks (dbReply id) := by
  refine Prog.only_bind (Prog.only_perform trivial) fun payload => ?_
  cases payload <;> trivial

theorem dbDrop_asks (id : String) : Prog.Only Act.Asks (dbDrop id) := by
  refine Prog.only_bind (Prog.only_perform trivial) fun present => ?_
  cases present <;> trivial

theorem ask_asks (q : DbQuery) (t : DbTopic) : Prog.Only Act.Asks (ask q t) :=
  Prog.only_bind (send_asks q t) fun id => Prog.only_bind (dbReply_asks id) fun _ => trivial

theorem askData_asks (q : DbQuery) : Prog.Only Act.Asks (askData q) :=
  Prog.only_bind (ask_asks q _) fun _ => Prog.only_bind (Prog.only_lift _) fun _ =>
    Prog.only_bind (dbDrop_asks _) fun _ => trivial

theorem askInsert_asks (q : DbQuery) (msg : String) : Prog.Only Act.Asks (askInsert q msg) :=
  Prog.only_bind (ask_asks q _) fun _ => Prog.only_lift _

theorem askError_asks (q : DbQuery) (t : DbTopic) (msg : String) :
    Prog.Only Act.Asks (askError q t msg) :=
  Prog.only_bind (ask_asks q t) fun _ => Prog.only_bind (Prog.only_lift _) fun _ => dbDrop_asks _

theorem joinRows_asks (tempID : String) (payload relay : Value) (d : String) :
    Prog.Only Act.Asks (joinRows tempID payload relay d) :=
  Prog.only_bind (Prog.only_lift _) fun _ => Prog.only_bind (askInsert_asks _ _) fun _ =>
    Prog.only_bind (Prog.only_lift _) fun _ => Prog.only_bind (askInsert_asks _ _) fun _ => trivial

theorem register_genID_asks (hash_val : String) :
    ∀ limit flag : Nat, Prog.Only Act.Asks (register_genID limit hash_val flag)
  | 0, _ => breakOff_only trivial
  | limit + 1, flag => by
      refine Prog.only_bind (askData_asks _) fun exist => ?_
      split
      · trivial
      · exact register_genID_asks hash_val limit _

theorem registerItem_asks (limit : Nat) (d : String) (attrList : List Value) (item : Value) :
    Prog.Only Act.Asks (registerItem limit d attrList item) := by
  refine Prog.only_bind (Prog.only_lift _) fun it => ?_
  refine Prog.only_bind (Prog.only_lift _) fun flag => ?_
  refine Prog.only_bind (Prog.only_lift _) fun hash_val => ?_
  refine Prog.only_bind ?_ fun id => Prog.only_bind (Prog.only_lift _) fun _ => trivial
  unfold itemID
  split
  · exact register_genID_asks hash_val limit flag
  · trivial

theorem registerItems_asks (limit : Nat) (d : String) :
    ∀ attrList items : List Value, Prog.Only Act.Asks (registerItems limit d attrList items)
  | _, [] => trivial
  | attrList, item :: items =>
      Prog.only_bind (registerItem_asks limit d attrList item) fun r =>
        Prog.only_bind (registerItems_asks limit d r.2.2 items) fun _ => trivial

theorem updateRest_asks (tempID : String) (payload relay updateID : Value) :
    Prog.Only Act.Asks (updateRest tempID payload relay updateID) := by
  refine Prog.only_bind (Prog.only_lift _) fun providingID => ?_
  refine Prog.only_bind (askData_asks _) fun exist => ?_
  split
  · trivial
  · refine Prog.only_bind ?_ fun _ => trivial
    refine Prog.only_bind (Prog.only_lift _) fun deregister => ?_
    split
    · exact askError_asks _ _ _
    · exact Prog.only_bind (Prog.only_lift _) fun _ => Prog.only_bind (Prog.only_lift _) fun _ =>
        askError_asks _ _ _

/-! ## Programs that mark -/

theorem cacheSet_marks (k : Key) (v : Value) : Prog.Only Act.Marks (cacheSet k v) :=
  Prog.only_perform trivial

theorem deviceCache_marks : Prog.Only Act.Marks deviceCache := Prog.only_perform trivial

theorem isCached_marks (v : Value) : Prog.Only Act.Marks (isCached v) :=
  Prog.only_bind (Prog.only_lift _) fun _ => Prog.only_bind deviceCache_marks fun _ => trivial

theorem join_genID_marks (base : String) :
    ∀ limit flag : Nat, Prog.Only Act.Marks (join_genID limit base flag)
  | 0, _ => Prog.only_bind deviceCache_marks fun _ => Prog.only_bind (cacheSet_marks _ _) fun _ =>
      breakOff_only trivial
  | limit + 1, flag => by
      refine Prog.only_bind deviceCache_marks fun cache => ?_
      refine Prog.only_bind (cacheSet_marks _ _) fun _ => ?_
      refine Prog.only_bind ((askData_asks _).mono fun _ => Act.Asks.marks) fun exist => ?_
      refine Prog.only_bind (Prog.only_bind (Prog.only_lift _) fun _ => cacheSet_marks _ _)
        fun _ => ?_
      split
      · trivial
      · exact join_genID_marks base limit _

theorem deviceExists_marks (v : Value) (id : String) : Prog.Only Act.Marks (deviceExists v id) := by
  refine Prog.only_bind ((dbReply_asks id).mono fun _ => Act.Asks.marks) fun payload => ?_
  refine Prog.only_bind (Prog.only_lift _) fun exist => ?_
  refine Prog.only_bind ((dbDrop_asks id).mono fun _ => Act.Asks.marks) fun _ => ?_
  split
  · trivial
  · exact Prog.only_bind (Prog.only_lift _) fun _ => cacheSet_marks _ _

theorem checkDevice_marks (v : Value) : Prog.Only Act.Marks (checkDevice v) := by
  refine Prog.only_bind (isCached_marks v) fun cached => ?_
  split
  · trivial
  · exact Prog.only_bind ((send_asks _ _).mono fun _ => Act.Asks.marks) fun id =>
      deviceExists_marks v id

theorem speaker_marks (tempID : String) (relay : Value) :
    Prog.Only Act.Marks (speaker tempID relay) :=
  Prog.only_bind (Prog.only_lift _) fun _ => Prog.only_bind (Prog.only_lift _) fun _ =>
    Prog.only_bind (checkDevice_marks _) fun _ => trivial

theorem withID_only {α : Type} (queryID : Value) {part : Handler α} (h : Prog.Only P part) :
    Prog.Only P (withID queryID part) := Prog.only_tryExcept h fun _ => trivial

theorem queryCheck_marks (deviceID queryID : Value) :
    Prog.Only Act.Marks (queryCheck deviceID queryID) := by
  refine Prog.only_bind (withID_only _ (isCached_marks _)) fun cached => ?_
  split
  · trivial
  · have hsend := (send_asks (deviceQuery deviceID) .select).mono fun _ => Act.Asks.marks
    refine Prog.only_bind (withID_only _ hsend) fun id => ?_
    exact Prog.only_bind (withID_only _ (deviceExists_marks _ _)) fun _ => trivial

theorem queryRest_asks (tempID : String) (payload relay deviceID queryID : Value) :
    Prog.Only Act.Asks (queryRest tempID payload relay deviceID queryID) := by
  refine Prog.only_bind (withID_only _ (Prog.only_lift _)) fun desc => ?_
  refine Prog.only_bind (withID_only _ (Prog.only_lift _)) fun qosRequirements => ?_
  refine Prog.only_bind (withID_only _ (Prog.only_lift _)) fun _ => ?_
  refine Prog.only_bind (withID_only _ (send_asks _ _)) fun id => ?_
  refine Prog.only_bind (withID_only _ ?_) fun _ => trivial
  exact Prog.only_bind (dbReply_asks _) fun _ => Prog.only_bind (Prog.only_lift _) fun _ =>
    dbDrop_asks _

/-! ## The bodies of the handlers -/

theorem joinBody_marks (limit : Nat) (tempID : String) (payload relay : Value) :
    Prog.Only Act.Marks (joinBody limit tempID payload relay) :=
  Prog.only_bind (Prog.only_lift _) fun _ => Prog.only_bind (Prog.only_lift _) fun base =>
    Prog.only_bind (join_genID_marks base limit 0) fun d =>
      (joinRows_asks tempID payload relay d).mono fun _ => Act.Asks.marks

theorem registerBody_marks (limit : Nat) (tempID : String) (payload relay registerID : Value) :
    Prog.Only Act.Marks (registerBody limit tempID payload relay registerID) :=
  Prog.only_bind (speaker_marks _ _) fun d => Prog.only_bind (Prog.only_lift _) fun _ =>
    Prog.only_bind (Prog.only_lift _) fun items =>
      Prog.only_bind ((registerItems_asks limit d [] items).mono fun _ => Act.Asks.marks) fun _ =>
        Prog.only_bind ((askError_asks _ _ _).mono fun _ => Act.Asks.marks) fun _ => trivial

theorem updateBody_marks (tempID : String) (payload relay updateID : Value) :
    Prog.Only Act.Marks (updateBody tempID payload relay updateID) :=
  Prog.only_bind (speaker_marks _ _) fun _ =>
    (updateRest_asks tempID payload relay updateID).mono fun _ => Act.Asks.marks

theorem queryBody_marks (tempID : String) (payload relay queryID : Value) :
    Prog.Only Act.Marks (queryBody tempID payload relay queryID) :=
  Prog.only_bind (withID_only _ (Prog.only_lift _)) fun deviceID =>
    Prog.only_bind (queryCheck_marks _ _) fun id =>
      (queryRest_asks tempID payload relay deviceID id).mono fun _ => Act.Asks.marks

theorem leaveBody_mute (tempID : String) (relay : Value) :
    Prog.Only Act.Mute (leaveBody tempID relay) := by
  have hask : ∀ d, Prog.Only Act.Mute (askError (deviceQuery (.str d)) .delete "Leave DB error") :=
    fun d => (askError_asks _ _ _).mono fun _ h => h.marks.mute
  refine Prog.only_bind (Prog.only_lift _) fun _ => Prog.only_bind (Prog.only_lift _) fun d => ?_
  refine Prog.only_bind (hask d) fun _ => Prog.only_bind ?_ fun _ => trivial
  refine Prog.only_bind (Prog.only_perform trivial) fun present => ?_
  cases present <;> trivial

/-! ## What they keep -/

variable {ω ε α : Type} {env : Env ω} {p : Prog Act Act.Res ε α} {s s' : State ω}
  {r : Except ε α}

/-- One operation on the database leaves the cache of devices and the published messages alone. -/
theorem act_asks_frame {o : Act} {b : o.Res} (ho : o.Asks)
    (h : perform env o s = some (b, s')) :
    s'.deviceID_cache = s.deviceID_cache ∧ s'.published = s.published := by
  cases o with
  | send q t =>
    obtain ⟨n, a, w, _, _, _, rfl⟩ := perform_send_eq_some.mp h
    exact ⟨rfl, rfl⟩
  | cache => exact ho.elim
  | cacheSet k v => exact ho.elim
  | cacheDel k => exact ho.elim
  | publish msg => exact ho.elim
  | _ =>
    obtain ⟨_, rfl⟩ := Prod.mk.inj (Option.some.inj h)
    exact ⟨rfl, rfl⟩

/-- A program that only asks leaves the cache of devices and the published messages alone. -/
theorem asks_frame (hp : Prog.Only Act.Asks p) (h : runs env p s = some (r, s')) :
    s'.deviceID_cache = s.deviceID_cache ∧ s'.published = s.published := by
  have hkeeps : Prog.Keeps (perform env)
      (fun s s' => s'.deviceID_cache = s.deviceID_cache ∧ s'.published = s.published) p := by
    refine hp.keeps (fun s => ⟨rfl, rfl⟩) (fun h1 h2 => ⟨h2.1.trans h1.1, h2.2.trans h1.2⟩) ?_
    intro o s b s' ho h
    exact act_asks_frame ho h
  exact hkeeps s r s' h

/-- One operation that marks takes no key out of the cache, and publishes nothing. -/
theorem act_marks_frame {o : Act} {b : o.Res} (ho : o.Marks)
    (h : perform env o s = some (b, s')) :
    (∀ k, s.deviceID_cache.has k = true → s'.deviceID_cache.has k = true) ∧
      s'.published = s.published := by
  cases o with
  | cacheSet k v =>
    obtain ⟨_, rfl⟩ := Prod.mk.inj (Option.some.inj h)
    exact ⟨fun k' hk => by simp only [Dict.has_set, hk, Bool.or_true], rfl⟩
  | cache =>
    obtain ⟨_, rfl⟩ := Prod.mk.inj (Option.some.inj h)
    exact ⟨fun _ hk => hk, rfl⟩
  | send q t =>
    obtain ⟨hcache, hpub⟩ := act_asks_frame (o := .send q t) trivial h
    exact ⟨fun k hk => by rw [hcache]; exact hk, hpub⟩
  | strand =>
    obtain ⟨hcache, hpub⟩ := act_asks_frame (o := .strand) trivial h
    exact ⟨fun k hk => by rw [hcache]; exact hk, hpub⟩
  | reply id =>
    obtain ⟨hcache, hpub⟩ := act_asks_frame (o := .reply id) trivial h
    exact ⟨fun k hk => by rw [hcache]; exact hk, hpub⟩
  | drop id =>
    obtain ⟨hcache, hpub⟩ := act_asks_frame (o := .drop id) trivial h
    exact ⟨fun k hk => by rw [hcache]; exact hk, hpub⟩
  | cacheDel k => exact ho.elim
  | publish msg => exact ho.elim

/-- A program that marks takes no key out of the cache, and publishes nothing. -/
theorem marks_frame (hp : Prog.Only Act.Marks p) (h : runs env p s = some (r, s')) :
    (∀ k, s.deviceID_cache.has k = true → s'.deviceID_cache.has k = true) ∧
      s'.published = s.published := by
  have hkeeps : Prog.Keeps (perform env) (fun s s' =>
      (∀ k, s.deviceID_cache.has k = true → s'.deviceID_cache.has k = true) ∧
        s'.published = s.published) p := by
    refine hp.keeps (fun s => ⟨fun _ hk => hk, rfl⟩)
      (fun h1 h2 => ⟨fun k hk => h2.1 k (h1.1 k hk), h2.2.trans h1.2⟩) ?_
    intro o s b s' ho h
    exact act_marks_frame ho h
  exact hkeeps s r s' h

/-- A program that does not publish leaves the published messages alone. -/
theorem mute_frame (hp : Prog.Only Act.Mute p) (h : runs env p s = some (r, s')) :
    s'.published = s.published := by
  have hkeeps : Prog.Keeps (perform env) (fun s s' => s'.published = s.published) p := by
    refine hp.keeps (R := fun s s' : State ω => s'.published = s.published) (fun _ => rfl)
      (fun h1 h2 => h2.trans h1) ?_
    intro o s b s' ho h
    cases o with
    | publish msg => exact ho.elim
    | send q t => exact (act_asks_frame (o := .send q t) trivial h).2
    | _ =>
      obtain ⟨_, rfl⟩ := Prod.mk.inj (Option.some.inj h)
      rfl
  exact hkeeps s r s' h

end Versatile.FlexIDMnger
