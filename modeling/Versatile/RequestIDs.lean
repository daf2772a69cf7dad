import Versatile.SameRows

/-!
# Collision avoidance inside one request

Both managers look up the identifiers of a request one by one, in a table that holds none of
them before the last is chosen. So two items of one request can be given one identifier: those
with one hash and one flag always are, and others where the table leaves them the same text
(`keepsApart_iff`).
-/

namespace Versatile

open Py

/-- An entry acknowledges an identifier, and stores it. -/
structure NamesID (e : Value × Fields) (id : String) : Prop where
  acknowledged : ∃ index, e.1 = .dict [(index, .str id)]
  stored : Dict.get e.2 "providingId" = some (.str id)

theorem namesID_unique : Relator.RightUnique NamesID := by
  intro e id id' h h'
  have := h.stored.symm.trans h'.stored
  simpa using this

/-- Collision avoidance works among the entries built for some items: those of the items that
avoid collisions have an identifier that was not registered, and that no other entry has. -/
def KeepsApart (registered : String → Bool) (items : List Value) (entries : List (Value × Fields)) :
    Prop :=
  ∃ bases ids, items.mapM baseOf = .ok bases ∧ List.Forall₂ NamesID entries ids ∧
    Distinguishes registered bases ids

/-- No item that avoids collisions clashes with another: by equal hashes with all flags between
theirs taken, or by a hash with digits that a flag goes on with. -/
def ItemsApart (glue : String → String → String) (registered : String → Bool)
    (items : List Value) : Prop :=
  ∀ bases, items.mapM baseOf = .ok bases → AllApart glue registered bases

section Issues

variable (glue : String → String → String) (registered : String → Bool)

/-- The entries of some items, with the identifiers that were issued for them. -/
def Issues (items : List Value) (entries : List (Value × Fields)) : Prop :=
  ∃ bases ids, items.mapM baseOf = .ok bases ∧ List.Forall₂ NamesID entries ids ∧
    List.Forall₂ (Issued (identifier glue) registered) bases ids

variable {glue registered}

theorem issues_nil : Issues glue registered [] [] := ⟨[], [], rfl, .nil, .nil⟩

theorem Issues.cons {raw : Value} {items : List Value} {item : Item} {d index hash_val id : String}
    {f : Nat} {as : List Value} {entries : List (Value × Fields)}
    (h : Issues glue registered items entries) (hread : readItem raw = .ok item)
    (hflag : gen_flag item.cache item.segment 0 = .ok f) (hhash : item.hash = .str hash_val)
    (hid : Issued (identifier glue) registered ⟨f, hash_val, item.collisionAvoid.truthy⟩ id) :
    Issues glue registered (raw :: items)
      ((.dict [(index, .str id)], registerFields d id item as) :: entries) := by
  obtain ⟨bases, ids, hbases, hnames, hissued⟩ := h
  have hbase : baseOf raw = .ok ⟨f, hash_val, item.collisionAvoid.truthy⟩ := by
    unfold baseOf
    refine Except.bind_eq_ok.mpr ⟨item, hread, Except.bind_eq_ok.mpr ⟨f, hflag, ?_⟩⟩
    rw [hhash]
    rfl
  exact ⟨_ :: bases, id :: ids, Except.mapM_cons_eq_ok.mpr ⟨_, bases, hbase, hbases, rfl⟩,
    .cons ⟨⟨index, rfl⟩, rfl⟩ hnames, .cons hid hissued⟩

/-- **When collision avoidance works among issued identifiers.** -/
theorem Issues.apart_iff (hglue : Joins glue) {items : List Value}
    {entries : List (Value × Fields)} (h : Issues glue registered items entries) :
    KeepsApart registered items entries ↔ ItemsApart glue registered items := by
  obtain ⟨bases, ids, hbases, hnames, hissued⟩ := h
  refine ⟨?_, ?_⟩
  · intro hsome bases'' hbases''
    obtain ⟨bases', ids', hbases', hnames', hdist⟩ := hsome
    obtain rfl := Except.ok.inj (hbases.symm.trans hbases')
    obtain rfl := Except.ok.inj (hbases.symm.trans hbases'')
    obtain rfl := namesID_unique.forall₂ hnames hnames'
    exact (distinguishes_iff hglue hissued).mp hdist
  · intro hall
    exact ⟨bases, ids, hbases, hnames, (distinguishes_iff hglue hissued).mpr (hall bases hbases)⟩

end Issues

/-! ## The entries of the managers -/

namespace FlexIDMngerDb

variable {srv : Server} {limit : Nat}

/-- **What is issued where the selections tell what is registered**, by induction on the
rounds. -/
theorem Rounds.issues {db : Database} {d : String} {n n' : Nat} {items : List Value}
    {entries : List (Value × Fields)} (h : Rounds srv limit db d n items entries n')
    (htells : SelectionsTell srv db n items) :
    Issues inFront (providingStored srv db) items entries := by
  induction h with
  | nil => exact issues_nil
  | cons hround _ ih =>
    cases hround with
    | own hreads havoid =>
      have hrest := (selectionsTell_own hreads havoid).mp htells
      exact (ih hrest).cons hreads.read hreads.flag hreads.hash (issued_own havoid)
    | avoided hreads havoid hpicks =>
      obtain ⟨k, hk, hrest⟩ := (selectionsTell_avoided hreads havoid).mp htells
      obtain rfl := hpicks.eq_of_tells hk
      have hissued := (issued_picked_iff havoid hpicks).mpr hk
      exact (ih hrest).cons hreads.read hreads.flag hreads.hash hissued

end FlexIDMngerDb

namespace FlexIDMnger

variable {ω : Type} {env : Env ω} {providing : ω → String → Bool} {limit : Nat}

theorem buildsAll_issues {registered : String → Bool} {d : String} {attrList items : List Value}
    {entries : List (Value × Fields)} (h : BuildsAll registered d attrList items entries) :
    Issues behind registered items entries := by
  induction h with
  | nil => exact issues_nil
  | cons hb _ ih =>
    obtain ⟨hread, _, hhash, hflag, hid⟩ := hb
    exact ih.cons hread hflag hhash hid

/-- **The part of `register` before its insertion**: the identifiers are looked up in what was
stored when the request arrived. -/
theorem registerEntries_builds (htruth : Truthful env providingByID providing) {tempID : String}
    {kvs : List (String × Value)} {relay : Value} {entries : List (Value × Fields)}
    {s s' : State ω}
    (h : runs env (registerEntries limit tempID (.dict kvs) relay) s = some (.ok entries, s')) :
    ∃ d items, (field kvs "registerList").iter = .ok items ∧
      BuildsAll (providing s.world) d [] items entries := by
  obtain ⟨d, s1, h1, h⟩ := Prog.exec_bind_eq_ok.mp h
  obtain ⟨w, s2, h2, h⟩ := Prog.exec_bind_eq_ok.mp h
  obtain ⟨rfl, rfl⟩ : field kvs "registerList" = w ∧ s1 = s2 := by simpa [field] using h2
  obtain ⟨items, s3, h3, h⟩ := Prog.exec_bind_eq_ok.mp h
  obtain ⟨hiter, rfl⟩ : (field kvs "registerList").iter = .ok items ∧ s1 = s3 := by simpa using h3
  have hbuilds := registerItems_ok htruth h
  rw [selects_keep htruth.keeps (speaker_selects tempID relay) h1] at hbuilds
  exact ⟨d, items, hiter, hbuilds⟩

end FlexIDMnger

/-- **When collision avoidance works inside one request**, in both managers: exactly if no item
that avoids collisions clashes with another. What is pasted into a selection is read as a text of
SQL, so for `flexIDMnger_db.py` the selections have to tell what is registered, as they do for
every plain hash. -/
theorem keepsApart_iff {ω : Type} {env : FlexIDMnger.Env ω} {providing : ω → String → Bool}
    (htruth : FlexIDMnger.Truthful env FlexIDMnger.providingByID providing) (srv : Server)
    (limit : Nat) (tempID : String) {kvs : List (String × Value)} {items : List Value}
    (hiter : (field kvs "registerList").iter = .ok items) :
    (∀ s s' entries, FlexIDMngerDb.registerEntries srv limit tempID (.dict kvs) (field kvs "relay")
        s = (.ok entries, s') → FlexIDMngerDb.TellsRegistered srv s tempID kvs →
      (KeepsApart (FlexIDMngerDb.providingStored srv s.db) items entries ↔
        ItemsApart inFront (FlexIDMngerDb.providingStored srv s.db) items)) ∧
    ∀ s s' entries, FlexIDMnger.runs env
        (FlexIDMnger.registerEntries limit tempID (.dict kvs) (field kvs "relay")) s =
          some (.ok entries, s') →
      (KeepsApart (providing s.world) items entries ↔
        ItemsApart behind (providing s.world) items) := by
  refine ⟨?_, ?_⟩
  · intro s s' entries h htells
    obtain ⟨d, s1, items', n, hspk, hiter', hrounds, _⟩ :=
      FlexIDMngerDb.registerEntries_iff.mp h
    obtain rfl := Except.ok.inj (hiter.symm.trans hiter')
    rw [FlexIDMngerDb.speaker_executed hspk] at hrounds
    have hissues := hrounds.issues (htells d items (FlexIDMngerDb.speaker_ok hspk).1 hiter)
    exact hissues.apart_iff inFront_joins
  · intro s s' entries h
    obtain ⟨d, items', hiter', hbuilds⟩ := FlexIDMnger.registerEntries_builds htruth h
    obtain rfl := Except.ok.inj (hiter.symm.trans hiter')
    exact (FlexIDMnger.buildsAll_issues hbuilds).apart_iff behind_joins

/-- The items of a registration of `h` with two flags, both to avoid collisions, and of `g`. -/
def differentFlags : List Value :=
  [.dict [("index", .str "1"), ("hash", .str "h"), ("collisionAvoid", .bool true),
      ("attributes", .list [])],
    .dict [("index", .str "2"), ("hash", .str "h"), ("cache", .bool true),
      ("collisionAvoid", .bool true), ("attributes", .list [])],
    .dict [("index", .str "3"), ("hash", .str "g"), ("attributes", .list [])]]

/-- The items of a registration that registers `h` twice, and is to avoid collisions. -/
def sameHash : List Value :=
  [.dict [("index", .str "1"), ("hash", .str "h"), ("collisionAvoid", .bool true),
      ("attributes", .list [])],
    .dict [("index", .str "2"), ("hash", .str "h"), ("collisionAvoid", .bool true),
      ("attributes", .list [])]]

/-- Only the first two of them have one hash. -/
theorem differentFlags_pair {bases : List Base} (hbases : differentFlags.mapM baseOf = .ok bases)
    {i j : Nat} {a b : Base} (hij : i ≠ j) (ha : bases[i]? = some a) (hb : bases[j]? = some b)
    (hhash : a.hash_val = b.hash_val) :
    (a = ⟨0, "h", true⟩ ∧ b = ⟨128, "h", true⟩) ∨ (a = ⟨128, "h", true⟩ ∧ b = ⟨0, "h", true⟩) := by
  obtain rfl := Except.ok.inj hbases
  rcases i with _ | _ | _ | i
  · obtain rfl := Option.some.inj ha
    rcases j with _ | _ | _ | j
    · exact absurd rfl hij
    · exact Or.inl ⟨rfl, (Option.some.inj hb).symm⟩
    · obtain rfl := Option.some.inj hb
      exact absurd hhash (by decide)
    · exact absurd hb (by simp)
  · obtain rfl := Option.some.inj ha
    rcases j with _ | _ | _ | j
    · exact Or.inr ⟨rfl, (Option.some.inj hb).symm⟩
    · exact absurd rfl hij
    · obtain rfl := Option.some.inj hb
      exact absurd hhash (by decide)
    · exact absurd hb (by simp)
  · obtain rfl := Option.some.inj ha
    rcases j with _ | _ | _ | j
    · obtain rfl := Option.some.inj hb
      exact absurd hhash (by decide)
    · obtain rfl := Option.some.inj hb
      exact absurd hhash (by decide)
    · exact absurd rfl hij
    · exact absurd hb (by simp)
  · exact absurd ha (by simp)

/-- They keep apart while the identifier of `h` with flag 4 is free: it lies between their flags,
and no hash is another with digits. -/
theorem differentFlags_apart {glue : String → String → String} (hglue : Joins glue)
    {registered : String → Bool} (hfree : registered (glue "4" "h") = false) :
    ItemsApart glue registered differentFlags := by
  intro bases hbases i j a b hij ha hb havoid hclash
  cases hclash with
  | @upward k hhash hflag htaken _ =>
    rcases differentFlags_pair hbases hij ha hb hhash with ⟨rfl, rfl⟩ | ⟨rfl, rfl⟩
    · unfold collision_inc at hflag
      exact absurd (hfree.symm.trans (htaken 1 (by simp only at hflag; omega))) (by simp)
    · exact absurd hflag (by simp only; omega)
  | @downward k hhash _ hflag htaken =>
    rcases differentFlags_pair hbases hij ha hb hhash with ⟨rfl, rfl⟩ | ⟨rfl, rfl⟩
    · exact absurd hflag (by simp only; omega)
    · unfold collision_inc at hflag
      exact absurd (hfree.symm.trans (htaken 1 (by simp only at hflag; omega))) (by simp)
  | digits hext _ _ _ _ =>
    have hone : ∀ c ∈ bases, c.hash_val.length = 1 := by
      obtain rfl := Except.ok.inj hbases
      decide
    have ha1 := hone a (List.mem_of_getElem? ha)
    have hb1 := hone b (List.mem_of_getElem? hb)
    rcases hext with hext | hext
    · have := hext.length_lt hglue
      omega
    · have := hext.length_lt hglue
      omega

/-- Beside a registered `0h`, the two flags of `h` keep apart, in both managers. -/
theorem keepsApart_flags :
    (∃ entries s', FlexIDMngerDb.registerEntries Server.exact 2 "t"
        (.dict [("relay", .list [.str "0t"]), ("registerList", .list differentFlags)])
        (.list [.str "0t"]) FlexIDMngerDb.registeredOnce.store = (.ok entries, s') ∧
      KeepsApart (FlexIDMngerDb.providingStored Server.exact FlexIDMngerDb.registeredOnce.store.db)
        differentFlags entries) ∧
    ∃ entries s', FlexIDMnger.runs (FlexIDMnger.fixedDb ["h0"])
        (FlexIDMnger.registerEntries 2 "t"
          (.dict [("relay", .list [.str "0t"]), ("registerList", .list differentFlags)])
          (.list [.str "0t"])) knownDevice = some (.ok entries, s') ∧
      KeepsApart (fun id => id ∈ ["h0"]) differentFlags entries := by
  have hiter : (field [("relay", .list [.str "0t"]), ("registerList", .list differentFlags)]
      "registerList").iter = .ok differentFlags := rfl
  have hiff := keepsApart_iff (FlexIDMnger.fixedDb_truthful ["h0"] (fun _ => rfl)) Server.exact 2
    "t" hiter
  obtain ⟨entries, s', hrun⟩ : ∃ entries s', FlexIDMnger.runs (FlexIDMnger.fixedDb ["h0"])
      (FlexIDMnger.registerEntries 2 "t"
        (.dict [("relay", .list [.str "0t"]), ("registerList", .list differentFlags)])
        (.list [.str "0t"])) knownDevice = some (.ok entries, s') := ⟨_, _, rfl⟩
  refine ⟨⟨_, _, rfl, (hiff.1 FlexIDMngerDb.registeredOnce.store _ _ rfl ?_).mpr ?_⟩,
    entries, s', hrun, (hiff.2 knownDevice s' entries hrun).mpr ?_⟩
  · intro d items hdev hiter'
    obtain rfl := Except.ok.inj hiter'
    obtain rfl := Value.str.inj (Except.ok.inj hdev)
    -- `0h` is passed, and both flags are free behind it
    have hpassed : ∀ i, FlexIDMngerDb.providingStored Server.exact
        FlexIDMngerDb.registeredOnce.store.db (FlexIDMngerDb.candidate "h" 0 i) = false →
          1 ≤ i := by
      intro i hi
      rcases i with _ | i
      · exact absurd hi (by decide)
      · omega
    exact .avoided ⟨rfl, rfl, rfl, rfl⟩ rfl (k := 1) ⟨⟨by decide, hpassed⟩, by decide⟩
      (.avoided ⟨rfl, rfl, rfl, rfl⟩ rfl (k := 0)
        ⟨⟨by decide, fun i _ => Nat.zero_le i⟩, by decide⟩ (.own ⟨rfl, rfl, rfl, rfl⟩ rfl (.nil _)))
  · exact differentFlags_apart inFront_joins (by decide)
  · exact differentFlags_apart behind_joins (by decide)

/-- Equal hashes do not: both items are given `0h`. -/
theorem not_keepsApart : ¬ ∀ entries s',
    FlexIDMngerDb.registerEntries Server.exact 1 "t"
        (.dict [("relay", .list [.str "0t"]), ("registerList", .list sameHash)])
        (.list [.str "0t"]) FlexIDMngerDb.knowsDevice = (.ok entries, s') →
      KeepsApart (FlexIDMngerDb.providingStored Server.exact FlexIDMngerDb.knowsDevice.db) sameHash
        entries := by
  intro h
  obtain ⟨bases, ids, hbases, hnames, hdist⟩ := h _ _ rfl
  obtain rfl := Except.ok.inj hbases
  obtain rfl : ids = ["0h", "0h"] :=
    namesID_unique.forall₂ hnames (.cons ⟨⟨"1", rfl⟩, rfl⟩ (.cons ⟨⟨"2", rfl⟩, rfl⟩ .nil))
  exact hdist.apart 0 1 _ "0h" (by decide) rfl rfl rfl rfl

end Versatile
