import Versatile.FlexIDMngerDb.Registered
import Versatile.FlexIDMnger.Registered

/-!
# The rows of the two managers

The loops of the two `register` functions differ in one accumulator: `flexIDMnger_db.py` makes
its list of attributes for each item, `flexIDMnger.py` once for the whole request. A row takes
as many attributes as its item has from the front of that list. So the two build the same rows
exactly while the front of what was read before an item reads like the item's own attributes.
-/

namespace Versatile

open Py

/-- Read an item as far as its row needs it: its flag, its hash and its index as well. -/
def readRow (raw : Value) : Except Exc Item := do
  let _ ← baseOf raw
  let item ← readItem raw
  let _ ← item.index.asStr
  return item

theorem readRow_eq_ok {raw : Value} {item : Item} :
    readRow raw = .ok item ↔ readItem raw = .ok item ∧ ∃ f hash_val index,
      gen_flag item.cache item.segment 0 = .ok f ∧ item.hash = .str hash_val ∧
      item.index = .str index := by
  unfold readRow baseOf
  refine ⟨?_, ?_⟩
  · intro h
    obtain ⟨b, hb, h⟩ := Except.bind_eq_ok.mp h
    obtain ⟨item', hread, h⟩ := Except.bind_eq_ok.mp h
    obtain ⟨index, hindex, h⟩ := Except.bind_eq_ok.mp h
    obtain rfl := Except.pure_eq_ok.mp h
    obtain ⟨item'', hread', hb⟩ := Except.bind_eq_ok.mp hb
    obtain rfl := Except.ok.inj (hread'.symm.trans hread)
    obtain ⟨f, hflag, hb⟩ := Except.bind_eq_ok.mp hb
    obtain ⟨hash_val, hhash, _⟩ := Except.bind_eq_ok.mp hb
    exact ⟨hread, f, hash_val, index, hflag, Value.asStr_eq_ok.mp hhash,
      Value.asStr_eq_ok.mp hindex⟩
  · intro hsome
    obtain ⟨hread, f, hash_val, index, hflag, hhash, hindex⟩ := hsome
    refine Except.bind_eq_ok.mpr ⟨⟨f, hash_val, item.collisionAvoid.truthy⟩, ?_, ?_⟩
    · refine Except.bind_eq_ok.mpr ⟨item, hread, Except.bind_eq_ok.mpr ⟨f, hflag, ?_⟩⟩
      rw [hhash]
      rfl
    · refine Except.bind_eq_ok.mpr ⟨item, hread, ?_⟩
      rw [hindex]
      rfl

/-- The identifiers the loop asks about when none of them is registered. -/
def Asks (layout : Nat → String → String) (items : List Value) (id : String) : Prop :=
  ∃ raw ∈ items, ∃ b, baseOf raw = .ok b ∧ b.avoid = true ∧ id = b.candidate layout 0

theorem Asks.cons {layout : Nat → String → String} {raw : Value} {items : List Value} {id : String}
    (h : Asks layout items id) : Asks layout (raw :: items) id := by
  obtain ⟨raw', hmem, hasks⟩ := h
  exact ⟨raw', List.mem_cons_of_mem raw hmem, hasks⟩

theorem asks_head {layout : Nat → String → String} {raw : Value} {items : List Value} {item : Item}
    {f : Nat} {hash_val : String} (hread : readItem raw = .ok item)
    (hflag : gen_flag item.cache item.segment 0 = .ok f) (hhash : item.hash = .str hash_val)
    (havoid : item.collisionAvoid.truthy = true) :
    Asks layout (raw :: items) (layout f hash_val) := by
  refine ⟨raw, List.mem_cons_self, ⟨f, hash_val, item.collisionAvoid.truthy⟩, ?_, havoid, rfl⟩
  unfold baseOf
  refine Except.bind_eq_ok.mpr ⟨item, hread, Except.bind_eq_ok.mpr ⟨f, hflag, ?_⟩⟩
  rw [hhash]
  rfl

/-- The rows of one item after the other: the `k`-th is built from some attributes. -/
structure RowsWith (attrs : Nat → Item → List Value) (d : String) (its : List Item)
    (rows : List Fields) : Prop where
  length : rows.length = its.length
  row : ∀ (k : Nat) (item : Item) (row : Fields), its[k]? = some item → rows[k]? = some row →
    ∃ id, row = registerFields d id item (attrs k item)

theorem rowsWith_nil {attrs : Nat → Item → List Value} {d : String} : RowsWith attrs d [] [] :=
  ⟨rfl, fun _ _ _ hitem => absurd hitem (by simp)⟩

theorem RowsWith.cons {attrs : Nat → Item → List Value} {d id : String} {item : Item}
    {its : List Item} {rows : List Fields} (h : RowsWith (fun k => attrs (k + 1)) d its rows) :
    RowsWith attrs d (item :: its) (registerFields d id item (attrs 0 item) :: rows) := by
  refine ⟨congrArg Nat.succ h.length, fun k it row hit hrow => ?_⟩
  cases k with
  | zero =>
    obtain rfl := Option.some.inj hit
    exact ⟨id, (Option.some.inj hrow).symm⟩
  | succ k => exact h.row k it row hit hrow

/-! ## The rows of `flexIDMnger_db.py` -/

namespace FlexIDMngerDb

variable {srv : Server} {limit : Nat}

/-- Every selection the loop makes for these items is answered, with nothing found. -/
def NothingFound (srv : Server) (s : Store) (items : List Value) : Prop :=
  ∀ id, Asks newID items id → ∀ n,
    providingFound srv s.db n id = false ∧ srv.refuses n (providingProbe id) = none

theorem NothingFound.tail {raw : Value} {items : List Value} {s s' : Store}
    (h : NothingFound srv s (raw :: items)) (hlog : s'.db.log = s.db.log) :
    NothingFound srv s' items := by
  intro id hid n
  rw [providingFound_congr hlog]
  exact h id hid.cons n

/-- An item that can be read has a row. -/
theorem registerItem_sends (limit : Nat) (d : String) {raw : Value} {items : List Value}
    {item : Item} {s : Store}
    (hread : readRow raw = .ok item) (hnone : NothingFound srv s (raw :: items)) :
    ∃ e s', registerItem srv (limit + 1) d raw s = (.ok e, s') := by
  obtain ⟨hread, f, hash_val, index, hflag, hhash, hindex⟩ := readRow_eq_ok.mp hread
  have hid : ∃ id s', itemID srv (limit + 1) item.collisionAvoid hash_val f s = (.ok id, s') := by
    unfold itemID
    cases hc : item.collisionAvoid.truthy with
    | false => exact ⟨newID f hash_val, s, rfl⟩
    | true =>
      obtain ⟨hfree, hanswered⟩ := hnone _ (asks_head hread hflag hhash hc) s.db.executed
      rw [if_pos rfl]
      rcases register_genID_cases srv limit (s := s) (rfl : newID f hash_val = _) with
        ⟨code, hrefused, _⟩ | ⟨_, _, h⟩ | ⟨_, hst, _⟩
      · rw [hanswered] at hrefused
        exact absurd hrefused (by simp)
      · exact ⟨_, _, h⟩
      · rw [hfree] at hst
        exact absurd hst (by simp)
  obtain ⟨id, s', hid⟩ := hid
  refine ⟨(.dict [(index, .str id)], registerFields d id item item.attributes), s', ?_⟩
  unfold registerItem
  refine Proc.bind_eq_ok.mpr ⟨item, s, by rw [hread]; rfl, ?_⟩
  refine Proc.bind_eq_ok.mpr ⟨f, s, by rw [hflag]; rfl, ?_⟩
  refine Proc.bind_eq_ok.mpr ⟨hash_val, s, by rw [hhash]; rfl, ?_⟩
  refine Proc.bind_eq_ok.mpr ⟨id, s', hid, ?_⟩
  refine Proc.bind_eq_ok.mpr ⟨index, s', by rw [hindex]; rfl, ?_⟩
  rfl

/-- **The loop comes to its end** when every item can be read. -/
theorem registerItems_sends (limit : Nat) (d : String) {items : List Value} {its : List Item}
    {s : Store}
    (hread : items.mapM readRow = .ok its) (hnone : NothingFound srv s items) :
    ∃ entries s', registerItems srv (limit + 1) d items s = (.ok entries, s') := by
  induction items generalizing its s with
  | nil => exact ⟨[], s, rfl⟩
  | cons raw items ih =>
    obtain ⟨item, its', hitem, hrest, rfl⟩ := Except.mapM_cons_eq_ok.mp hread
    obtain ⟨e, s1, h1⟩ := registerItem_sends limit d hitem hnone
    have hlog : s1.db.log = s.db.log := by
      have hsel := (registerItem_selected d raw s :
        Selected s (registerItem srv (limit + 1) d raw s).2)
      rw [h1] at hsel
      exact hsel.log
    obtain ⟨entries, s2, h2⟩ := ih hrest (hnone.tail hlog)
    exact ⟨e :: entries, s2, Proc.bind_eq_ok.mpr ⟨e, s1, h1,
      Proc.bind_eq_ok.mpr ⟨entries, s2, h2, rfl⟩⟩⟩

/-- The rows that were built: one for each item, with the item's own attributes. -/
theorem builds_rows {d : String} {items : List Value} {entries : List (Value × Fields)}
    (h : List.Forall₂ (Builds d) items entries) :
    ∃ its, items.mapM readRow = .ok its ∧
      RowsWith (fun _ => Item.attributes) d its (entries.map Prod.snd) := by
  induction h with
  | nil => exact ⟨[], rfl, rowsWith_nil⟩
  | cons hb _ ih =>
    obtain ⟨its, hits, hrows⟩ := ih
    cases hb with
    | @item item f index hash_val k hreads =>
      have hrow := readRow_eq_ok.mpr
        ⟨hreads.read, f, hash_val, index, hreads.flag, hreads.hash, hreads.index⟩
      exact ⟨item :: its, Except.mapM_cons_eq_ok.mpr ⟨item, its, hrow, hits, rfl⟩, hrows.cons⟩

/-- The rows that `register` inserts, if it comes to its insertion. -/
def rowsInserted (srv : Server) (limit : Nat) (tempID : String) (kvs : List (String × Value))
    (s : Store) : Option (List Fields) :=
  match registerEntries srv limit tempID (.dict kvs) (field kvs "relay") s with
  | (.ok entries, _) => some (entries.map Prod.snd)
  | _ => none

theorem rowsInserted_spec (limit : Nat) {tempID d : String} {kvs : List (String × Value)}
    {items : List Value}
    {s s1 : Store} (hdev : speaker srv tempID (field kvs "relay") s = (.ok d, s1))
    (hiter : (field kvs "registerList").iter = .ok items) (hnone : NothingFound srv s1 items) :
    (∃ its rows, items.mapM readRow = .ok its ∧ RowsWith (fun _ => Item.attributes) d its rows ∧
        rowsInserted srv (limit + 1) tempID kvs s = some rows) ∨
      ((∀ its, items.mapM readRow ≠ .ok its) ∧
        rowsInserted srv (limit + 1) tempID kvs s = none) := by
  have hentries : registerEntries srv (limit + 1) tempID (.dict kvs) (field kvs "relay") s =
      registerItems srv (limit + 1) d items s1 := by
    refine (Proc.bind_ok hdev).trans ?_
    refine (Proc.bind_lift_ok (get_field kvs "registerList") _ s1).trans ?_
    exact Proc.bind_lift_ok hiter _ s1
  unfold rowsInserted
  rw [hentries]
  rcases hres : registerItems srv (limit + 1) d items s1 with ⟨r, s'⟩
  cases r with
  | ok entries =>
    obtain ⟨n, hrounds, _⟩ := registerItems_iff.mp hres
    obtain ⟨its, hits, hown⟩ := builds_rows hrounds.builds
    exact Or.inl ⟨its, _, hits, hown, rfl⟩
  | error e =>
    refine Or.inr ⟨fun its hits => ?_, rfl⟩
    obtain ⟨entries, s2, hok⟩ := registerItems_sends limit d hits hnone
    exact absurd (hres.symm.trans hok) (by simp)

end FlexIDMngerDb

/-! ## The rows of `flexIDMnger.py` -/

namespace FlexIDMnger

variable {ω : Type} {env : Env ω} {providing : ω → String → Bool} {limit : Nat}

/-- Every selection the loop makes for these items is answered, with nothing found. -/
def NothingFound (env : Env ω) (providing : ω → String → Bool) (s : State ω)
    (items : List Value) : Prop :=
  ∀ id, Asks newID items id → providing s.world id = false ∧
    ∀ w, providing w = providing s.world →
      (env.exchange w s.dbQuery_cache.keys (providingByID id) .select).isSome

theorem NothingFound.tail {raw : Value} {items : List Value} {s s' : State ω}
    (h : NothingFound env providing s (raw :: items))
    (hcache : s'.dbQuery_cache = s.dbQuery_cache)
    (hkeep : providing s'.world = providing s.world) : NothingFound env providing s' items := by
  intro id hid
  rw [hcache, hkeep]
  exact h id hid.cons

/-- A selection that finds nothing. -/
theorem register_genID_free (htruth : Truthful env providingByID providing) {hash_val : String}
    {f : Nat} {s : State ω} (hfree : providing s.world (newID f hash_val) = false)
    (hanswered : (env.exchange s.world s.dbQuery_cache.keys (providingByID (newID f hash_val))
      .select).isSome) :
    ∃ w, runs env (register_genID (limit + 1) hash_val f) s =
        some (.ok (newID f hash_val), { s with world := w }) ∧
      providing w = providing s.world := by
  obtain ⟨⟨n, a, w⟩, hexchange⟩ := Option.isSome_iff_exists.mp hanswered
  obtain ⟨exist, hget, htruthy⟩ := htruth.data hexchange
  have hready : a.isStr "None" = false := by
    cases a with
    | dict _ => rfl
    | _ => exact absurd hget (by simp [Value.get])
  have hask : runs env (askData (providingQuery (.str (newID f hash_val)))) s =
      some (.ok exist, { s with world := w }) := by
    rw [runs_askData, show providingQuery (.str (newID f hash_val)) =
      providingByID (newID f hash_val) from rfl, hexchange]
    simp only [hready, hget]
    rfl
  refine ⟨w, ?_, htruth.keeps hexchange⟩
  have hnothing : exist.truthy = false := htruthy.trans hfree
  refine (Prog.exec_bind_ok hask).trans ?_
  rw [hnothing]
  rfl

/-- An item that can be read has a row. -/
theorem registerItem_sends (htruth : Truthful env providingByID providing) (limit : Nat)
    (d : String) (attrList : List Value) {raw : Value} {items : List Value} {item : Item}
    {s : State ω}
    (hread : readRow raw = .ok item) (hnone : NothingFound env providing s (raw :: items)) :
    ∃ e s', runs env (registerItem (limit + 1) d attrList raw) s = some (.ok e, s') ∧
      s'.dbQuery_cache = s.dbQuery_cache ∧ providing s'.world = providing s.world := by
  obtain ⟨hread, f, hash_val, index, hflag, hhash, hindex⟩ := readRow_eq_ok.mp hread
  have hid : ∃ id w, runs env (itemID (limit + 1) item.collisionAvoid hash_val f) s =
      some (.ok id, { s with world := w }) ∧ providing w = providing s.world := by
    unfold itemID
    cases hc : item.collisionAvoid.truthy with
    | false => exact ⟨newID f hash_val, s.world, rfl, rfl⟩
    | true =>
      obtain ⟨hfree, hanswered⟩ := hnone _ (asks_head hread hflag hhash hc)
      rw [if_pos rfl]
      exact ⟨_, register_genID_free htruth hfree (hanswered s.world rfl)⟩
  obtain ⟨id, w, hid, hkeep⟩ := hid
  refine ⟨(.dict [(index, .str id)], registerFields d id item
    ((attrList ++ item.attributes).take item.attributes.length), attrList ++ item.attributes),
    { s with world := w }, ?_, rfl, hkeep⟩
  unfold registerItem
  refine Prog.exec_bind_eq_ok.mpr ⟨item, s, by rw [hread]; rfl, ?_⟩
  refine Prog.exec_bind_eq_ok.mpr ⟨f, s, by rw [hflag]; rfl, ?_⟩
  refine Prog.exec_bind_eq_ok.mpr ⟨hash_val, s, by rw [hhash]; rfl, ?_⟩
  refine Prog.exec_bind_eq_ok.mpr ⟨id, _, hid, ?_⟩
  refine Prog.exec_bind_eq_ok.mpr ⟨index, _, by rw [hindex]; rfl, ?_⟩
  rfl

/-- **The loop comes to its end** when every item can be read. -/
theorem registerItems_sends (htruth : Truthful env providingByID providing) (limit : Nat)
    (d : String) (attrList : List Value) {items : List Value} {its : List Item} {s : State ω}
    (hread : items.mapM readRow = .ok its) (hnone : NothingFound env providing s items) :
    ∃ entries s', runs env (registerItems (limit + 1) d attrList items) s =
      some (.ok entries, s') := by
  induction items generalizing attrList its s with
  | nil => exact ⟨[], s, rfl⟩
  | cons raw items ih =>
    obtain ⟨item, its', hitem, hrest, rfl⟩ := Except.mapM_cons_eq_ok.mp hread
    obtain ⟨⟨idEntry, row, attrList'⟩, s1, h1, hcache, hkeep⟩ :=
      registerItem_sends htruth limit d attrList hitem hnone
    obtain ⟨entries, s2, h2⟩ := ih attrList' hrest (hnone.tail hcache hkeep)
    exact ⟨(idEntry, row) :: entries, s2, Prog.exec_bind_eq_ok.mpr ⟨_, s1, h1,
      Prog.exec_bind_eq_ok.mpr ⟨entries, s2, h2, rfl⟩⟩⟩

/-- The attributes of the `k`-th row: as many as its item has, from the front of all that were
read. -/
def frontAttributes (attrList : List Value) (its : List Item) (k : Nat) (item : Item) :
    List Value :=
  (attrList ++ (its.take k).flatMap Item.attributes ++ item.attributes).take item.attributes.length

/-- The rows that were built: one for each item, with the attributes at the front. -/
theorem buildsAll_rows {registered : String → Bool} {d : String} {attrList items : List Value}
    {entries : List (Value × Fields)} (h : BuildsAll registered d attrList items entries) :
    ∃ its, items.mapM readRow = .ok its ∧
      RowsWith (frontAttributes attrList its) d its (entries.map Prod.snd) := by
  induction h with
  | nil => exact ⟨[], rfl, rowsWith_nil⟩
  | @cons attrList _ _ _ _ _ _ hb _ ih =>
    obtain ⟨its, hits, hrows⟩ := ih
    obtain @⟨item, index, hash_val, id, f, hread, hindex, hhash, hflag, _⟩ := hb
    have hrow := readRow_eq_ok.mpr ⟨hread, f, hash_val, index, hflag, hhash, hindex⟩
    refine ⟨item :: its, Except.mapM_cons_eq_ok.mpr ⟨item, its, hrow, hits, rfl⟩, ?_⟩
    -- what was read before the other items starts with the attributes of this one
    have hshift : frontAttributes (attrList ++ item.attributes) its =
        fun k => frontAttributes attrList (item :: its) (k + 1) := by
      funext k it
      simp only [frontAttributes, List.take_succ_cons, List.flatMap_cons, List.append_assoc]
    have hzero : frontAttributes attrList (item :: its) 0 item =
        (attrList ++ item.attributes).take item.attributes.length := by
      simp [frontAttributes]
    rw [hshift] at hrows
    rw [List.map_cons, ← hzero]
    exact hrows.cons

/-- The rows that `register` sends, if it comes to its insertion. -/
def rowsSent (env : Env ω) (limit : Nat) (tempID : String) (kvs : List (String × Value))
    (s : State ω) : Option (List Fields) :=
  match runs env (registerEntries limit tempID (.dict kvs) (field kvs "relay")) s with
  | some (.ok entries, _) => some (entries.map Prod.snd)
  | _ => none

theorem rowsSent_spec (htruth : Truthful env providingByID providing) (limit : Nat)
    {tempID d : String} {kvs : List (String × Value)} {items : List Value} {s s1 : State ω}
    (hdev : runs env (speaker tempID (field kvs "relay")) s = some (.ok d, s1))
    (hiter : (field kvs "registerList").iter = .ok items)
    (hnone : NothingFound env providing s1 items) :
    (∃ its rows, items.mapM readRow = .ok its ∧ RowsWith (frontAttributes [] its) d its rows ∧
        rowsSent env (limit + 1) tempID kvs s = some rows) ∨
      ((∀ its, items.mapM readRow ≠ .ok its) ∧ rowsSent env (limit + 1) tempID kvs s = none) := by
  have hentries : runs env (registerEntries (limit + 1) tempID (.dict kvs) (field kvs "relay")) s =
      runs env (registerItems (limit + 1) d [] items) s1 := by
    refine (Prog.exec_bind_ok hdev).trans ?_
    refine (Prog.exec_bind_ok (show runs env _ s1 = some (.ok (field kvs "registerList"), s1)
      from rfl)).trans ?_
    exact Prog.exec_bind_ok (by rw [hiter]; rfl)
  unfold rowsSent
  rw [hentries]
  rcases hres : runs env (registerItems (limit + 1) d [] items) s1 with _ | ⟨r, s'⟩
  · refine Or.inr ⟨fun its hits => ?_, rfl⟩
    obtain ⟨entries, s2, hok⟩ := registerItems_sends htruth limit d [] hits hnone
    exact absurd (hres.symm.trans hok) (by simp)
  · cases r with
    | ok entries =>
      obtain ⟨its, hits, hfront⟩ := buildsAll_rows (registerItems_ok htruth hres)
      exact Or.inl ⟨its, _, hits, hfront, rfl⟩
    | error e =>
      refine Or.inr ⟨fun its hits => ?_, rfl⟩
      obtain ⟨entries, s2, hok⟩ := registerItems_sends htruth limit d [] hits hnone
      exact absurd (hres.symm.trans hok) (by simp)

end FlexIDMnger

/-! ## The two -/

/-- The rows of one item: they agree on every column but the identifier, on the item's own
data. -/
structure SameRow (d : String) (item : Item) (row row' : Fields) : Prop where
  columns : ∀ col, col ≠ "providingId" → Dict.get row col = Dict.get row' col
  deviceId : Dict.get row "deviceId" = some (.str d)
  hash : Dict.get row "hash" = some item.hash
  registerType : Dict.get row "registerType" = some item.registerType
  category : Dict.get row "category" = some item.category
  attributes : ∀ i, Dict.get row (FlexIDMngerDb.attrName i) = item.attributes[i]?

/-- The two managers register the same data: neither comes to its insertion, or both insert
one row for each item, and the two agree. -/
def SameRows (d : String) (items : List Value) : Option (List Fields) → Option (List Fields) → Prop
  | none, none => True
  | some rows, some rows' => ∃ its, items.mapM readRow = .ok its ∧
      rows.length = its.length ∧ rows'.length = its.length ∧
      ∀ (k : Nat) (item : Item) (row row' : Fields), its[k]? = some item →
        rows[k]? = some row → rows'[k]? = some row' → SameRow d item row row'
  | _, _ => False

/-- What was read before an item, and the item's attributes behind it, begin with the item's
attributes. -/
def OwnAttributes (items : List Value) : Prop :=
  ∀ its, items.mapM readRow = .ok its → ∀ (k : Nat) (item : Item), its[k]? = some item →
    item.attributes <+: (its.take k).flatMap Item.attributes ++ item.attributes

/-- The rows of one item agree exactly if they were built from the same attributes. -/
theorem sameRow_iff {d id id' : String} {item : Item} {as : List Value} :
    SameRow d item (registerFields d id item as) (registerFields d id' item item.attributes) ↔
      as = item.attributes := by
  refine ⟨?_, ?_⟩
  · intro h
    refine List.ext_getElem? fun i => ?_
    rw [← h.attributes i, FlexIDMngerDb.registerFields_attr]
  · intro heq
    obtain rfl := heq
    refine ⟨fun col hcol => ?_, rfl, rfl, rfl, rfl, fun i => ?_⟩
    · simp only [registerFields, List.cons_append, Dict.get_cons, if_neg hcol]
    · rw [FlexIDMngerDb.registerFields_attr]

/-- **When the two managers register the same data**: exactly if every item is read behind
attributes that begin with its own. -/
theorem sameRows_iff {ω : Type} {env : FlexIDMnger.Env ω} {providing : ω → String → Bool}
    (htruth : FlexIDMnger.Truthful env FlexIDMnger.providingByID providing) {srv : Server}
    {tempID d : String} {kvs : List (String × Value)} {items : List Value} {limit limit' : Nat}
    {s s1 : FlexIDMnger.State ω} {t t1 : FlexIDMngerDb.Store}
    (hiter : (field kvs "registerList").iter = .ok items)
    (hremote : FlexIDMnger.runs env (FlexIDMnger.speaker tempID (field kvs "relay")) s =
      some (.ok d, s1))
    (hnone : FlexIDMnger.NothingFound env providing s1 items)
    (hlocal : FlexIDMngerDb.speaker srv tempID (field kvs "relay") t = (.ok d, t1))
    (hnone' : FlexIDMngerDb.NothingFound srv t1 items) :
    SameRows d items (FlexIDMnger.rowsSent env (limit + 1) tempID kvs s)
        (FlexIDMngerDb.rowsInserted srv (limit' + 1) tempID kvs t) ↔
      OwnAttributes items := by
  rcases FlexIDMnger.rowsSent_spec htruth limit hremote hiter hnone with
    ⟨its, rows, hits, ⟨hlen, hfront⟩, hrows⟩ | ⟨hunread, hrows⟩
  · rcases FlexIDMngerDb.rowsInserted_spec limit' hlocal hiter hnone' with
      ⟨its', rows', hits', hown, hrows'⟩ | ⟨hunread, _⟩
    · obtain rfl := Except.ok.inj (hits.symm.trans hits')
      obtain ⟨hlen', hown⟩ := hown
      rw [hrows, hrows']
      refine ⟨?_, ?_⟩
      · intro hsome its'' hits'' k item hitem
        obtain ⟨its', hits', _, _, hsame⟩ := hsome
        obtain rfl := Except.ok.inj (hits.symm.trans hits')
        obtain rfl := Except.ok.inj (hits.symm.trans hits'')
        obtain ⟨hk, _⟩ := List.getElem?_eq_some_iff.mp hitem
        have hrow : rows[k]? = some rows[k] := List.getElem?_eq_getElem (hlen ▸ hk)
        have hrow' : rows'[k]? = some rows'[k] := List.getElem?_eq_getElem (hlen' ▸ hk)
        obtain ⟨id, hid⟩ := hfront k item _ hitem hrow
        obtain ⟨id', hid'⟩ := hown k item _ hitem hrow'
        have h := hsame k item _ _ hitem hrow hrow'
        rw [hid, hid', sameRow_iff] at h
        exact List.prefix_iff_eq_take.mpr h.symm
      · intro h
        refine ⟨its, hits, hlen, hlen', fun k item row row' hitem hrow hrow' => ?_⟩
        obtain ⟨id, rfl⟩ := hfront k item row hitem hrow
        obtain ⟨id', rfl⟩ := hown k item row' hitem hrow'
        exact sameRow_iff.mpr (List.prefix_iff_eq_take.mp (h its hits k item hitem)).symm
    · exact absurd hits (hunread its)
  · rcases FlexIDMngerDb.rowsInserted_spec limit' hlocal hiter hnone' with
      ⟨its', _, hits', _⟩ | ⟨_, hrows'⟩
    · exact absurd hits' (hunread its')
    · rw [hrows, hrows']
      exact ⟨fun _ its hits => absurd hits (hunread its), fun _ => trivial⟩

/-- The state of `flexIDMnger.py` that knows the device `0t`, before a database without rows. -/
def knownDevice : FlexIDMnger.State (BitVec 32) := ⟨[(.str "0t", .bool true)], [], 0, [], 0⟩

/-- Two items, the first of them without attributes, have the same rows. -/
theorem sameRows_two :
    SameRows "0t"
      [.dict [("index", .str "1"), ("hash", .str "h"), ("collisionAvoid", .bool true),
          ("attributes", .list [])],
        .dict [("index", .str "2"), ("hash", .str "g"), ("cache", .bool true),
          ("attributes", .list [.str "a"])]]
      (FlexIDMnger.rowsSent FlexIDMnger.emptyDb 1 "t" FlexIDMngerDb.twoItems knownDevice)
      (FlexIDMngerDb.rowsInserted Server.exact 1 "t" FlexIDMngerDb.twoItems
        FlexIDMngerDb.knowsDevice) := by
  have hremote : FlexIDMnger.runs FlexIDMnger.emptyDb (FlexIDMnger.speaker "t"
      (field FlexIDMngerDb.twoItems "relay")) knownDevice = some (.ok "0t", knownDevice) := rfl
  have hlocal : FlexIDMngerDb.speaker Server.exact "t" (field FlexIDMngerDb.twoItems "relay")
      FlexIDMngerDb.knowsDevice = (.ok "0t", FlexIDMngerDb.knowsDevice) := rfl
  refine (sameRows_iff (FlexIDMnger.emptyDb_truthful _) rfl hremote ?_ hlocal ?_).mpr ?_
  · exact fun id _ => ⟨rfl, fun w _ => rfl⟩
  · -- only the first item is asked for
    intro id hasks n
    obtain ⟨raw, hraw, b, hb, havoid, rfl⟩ := hasks
    rcases List.mem_cons.mp hraw with rfl | hraw
    · obtain rfl := Except.ok.inj hb
      exact ⟨FlexIDMngerDb.providingFound_plain (by decide : Plain "0h") _ n, rfl⟩
    · obtain rfl := List.mem_singleton.mp hraw
      obtain rfl := Except.ok.inj hb
      exact absurd havoid (by decide)
  · intro its hits k item hitem
    obtain rfl := Except.ok.inj hits
    rcases k with _ | _ | k
    · obtain rfl := Option.some.inj hitem
      exact List.nil_prefix
    · obtain rfl := Option.some.inj hitem
      exact List.prefix_rfl
    · exact absurd hitem (by simp)

/-- A registration of two items with one attribute each. -/
def twoAttributes : List (String × Value) :=
  [("relay", .list [.str "0t"]), ("registerList", .list
    [.dict [("index", .str "1"), ("hash", .str "h"), ("attributes", .list [.str "a"])],
      .dict [("index", .str "2"), ("hash", .str "g"), ("attributes", .list [.str "b"])]])]

/-- `flexIDMnger.py` sends the attribute of the first item for the second as well. -/
theorem not_sameRows :
    ¬ SameRows "0t"
      [.dict [("index", .str "1"), ("hash", .str "h"), ("attributes", .list [.str "a"])],
        .dict [("index", .str "2"), ("hash", .str "g"), ("attributes", .list [.str "b"])]]
      (FlexIDMnger.rowsSent FlexIDMnger.emptyDb 1 "t" twoAttributes knownDevice)
      (FlexIDMngerDb.rowsInserted Server.exact 1 "t" twoAttributes
        FlexIDMngerDb.knowsDevice) := by
  intro hsome
  obtain ⟨its, hits, _, _, h⟩ := hsome
  obtain rfl := Except.ok.inj hits
  have hcolumn : some (Value.str "a") = some (Value.str "b") :=
    (h 1 _ _ _ rfl rfl rfl).columns "attr1" (by decide)
  exact absurd hcolumn (by simp)

end Versatile
