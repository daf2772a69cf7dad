import Versatile.Issued
import Versatile.FlexIDMngerDb.Plain

/-!
# What a registration stores, and what it acknowledges

The loop of `register` builds two lists in step: the identifiers it will acknowledge, and the
rows it will insert. One round is described by `Round`; the batch insertion stores one row for
each entry, or the request fails. So a registration that is acknowledged has stored what the
acknowledgement says, item by item, as far as its selections told what is registered
(`register_stores_iff`).
-/

namespace Versatile.FlexIDMngerDb

open Py

variable {srv : Server} {limit : Nat}

/-! ## One identifier -/

/-- A call of `register_genID` whose first selection is the `n`-th statement picks candidate `k`:
the first that is not found, with no selection up to it refused, and calls enough. -/
structure Picks (srv : Server) (limit : Nat) (db : Database) (n : Nat) (hash_val : String)
    (flag k : Nat) : Prop where
  unfound : providingFound srv db (n + k) (candidate hash_val flag k) = false
  passed : ∀ i, i < k → providingFound srv db (n + i) (candidate hash_val flag i) = true
  answered : ∀ i, i ≤ k → srv.refuses (n + i) (providingProbe (candidate hash_val flag i)) = none
  room : k < limit

/-- A first candidate that is found moves the search on to the next flag. -/
theorem picks_succ {db : Database} {n : Nat} {hash_val : String} {flag k : Nat}
    (hanswered : srv.refuses n (providingProbe (newID flag hash_val)) = none)
    (hfound : providingFound srv db n (newID flag hash_val) = true) :
    Picks srv (limit + 1) db n hash_val flag (k + 1) ↔
      Picks srv limit db (n + 1) hash_val (flag + collision_inc) k := by
  have hcand : ∀ i, candidate hash_val (flag + collision_inc) i =
      candidate hash_val flag (i + 1) := by
    intro i
    unfold candidate collision_inc
    rw [show flag + 4 + 4 * i = flag + 4 * (i + 1) by omega]
  have hnum : ∀ i, n + 1 + i = n + (i + 1) := fun i => by omega
  refine ⟨?_, ?_⟩
  · intro h
    refine ⟨?_, fun i hi => ?_, fun i hi => ?_, by have := h.room; omega⟩
    · rw [hcand, hnum]; exact h.unfound
    · rw [hcand, hnum]; exact h.passed _ (by omega)
    · rw [hcand, hnum]; exact h.answered _ (by omega)
  · intro h
    have hroom := h.room
    refine ⟨?_, fun i hi => ?_, fun i hi => ?_, by omega⟩
    · have hfree := h.unfound
      rwa [hcand, hnum] at hfree
    · rcases i with _ | i
      · exact hfound
      · have hpassed := h.passed i (by omega)
        rwa [hcand, hnum] at hpassed
    · rcases i with _ | i
      · exact hanswered
      · have hnone := h.answered i (by omega)
        rwa [hcand, hnum] at hnone

/-- A search looks at the rows alone. -/
theorem Picks.congr {db db' : Database} (hlog : db'.log = db.log) {n : Nat} {hash_val : String}
    {flag k : Nat} (h : Picks srv limit db' n hash_val flag k) :
    Picks srv limit db n hash_val flag k where
  unfound := by rw [← providingFound_congr hlog]; exact h.unfound
  passed := fun i hi => by rw [← providingFound_congr hlog]; exact h.passed i hi
  answered := h.answered
  room := h.room

/-- **What `register_genID` returns**, by induction on the calls it makes. -/
theorem register_genID_iff {hash_val id : String} {flag : Nat} {s s' : Store} :
    register_genID srv limit hash_val flag s = (.ok id, s') ↔
      ∃ k, Picks srv limit s.db s.db.executed hash_val flag k ∧ id = candidate hash_val flag k ∧
        s' = ⟨s.deviceID_cache, { s.db with executed := s.db.executed + k + 1 }⟩ := by
  induction limit generalizing flag s with
  | zero =>
    refine ⟨fun h => absurd (congrArg Prod.fst h) (by simp [register_genID, Proc.raise]), ?_⟩
    intro h
    obtain ⟨k, hpicks, _⟩ := h
    exact absurd hpicks.room (Nat.not_lt_zero k)
  | succ limit ih =>
    have hzero : candidate hash_val flag 0 = newID flag hash_val := rfl
    rcases register_genID_cases srv limit (s := s) (rfl : newID flag hash_val = _) with
      ⟨code, hrefused, hrun⟩ | ⟨hanswered, hfree, hrun⟩ | ⟨hanswered, hfound, hrun⟩
    · rw [hrun]
      refine ⟨fun h => absurd (congrArg Prod.fst h) (by simp), ?_⟩
      intro h
      obtain ⟨k, hpicks, _⟩ := h
      have hnone := hpicks.answered 0 (Nat.zero_le k)
      rw [Nat.add_zero, hzero, hrefused] at hnone
      exact absurd hnone (by simp)
    · rw [hrun]
      refine ⟨?_, ?_⟩
      · intro h
        obtain ⟨hid, rfl⟩ := Prod.mk.inj h
        refine ⟨0, ⟨hfree, fun i hi => absurd hi (Nat.not_lt_zero i), fun i hi => ?_,
          Nat.succ_pos limit⟩, (Except.ok.inj hid).symm, rfl⟩
        obtain rfl := Nat.le_zero.mp hi
        exact hanswered
      · intro h
        obtain ⟨k, hpicks, rfl, rfl⟩ := h
        rcases k with _ | k
        · rfl
        · have hfound := hpicks.passed 0 (Nat.succ_pos k)
          rw [Nat.add_zero, hzero, hfree] at hfound
          exact absurd hfound (by simp)
    · rw [hrun, ih]
      have hmove : ∀ k, s.db.tick.executed + k + 1 = s.db.executed + (k + 1) + 1 := fun k => by
        rw [Database.tick_executed]; omega
      refine ⟨?_, ?_⟩
      · intro h
        obtain ⟨k, hpicks, rfl, rfl⟩ := h
        refine ⟨k + 1, (picks_succ hanswered hfound).mpr (hpicks.congr (by rfl)), ?_, ?_⟩
        · unfold candidate collision_inc
          rw [show flag + 4 + 4 * k = flag + 4 * (k + 1) by omega]
        · rw [hmove]
          rfl
      · intro h
        obtain ⟨k, hpicks, rfl, rfl⟩ := h
        rcases k with _ | k
        · have hfree := hpicks.unfound
          rw [Nat.add_zero, hzero, hfound] at hfree
          exact absurd hfree (by simp)
        · refine ⟨k, ((picks_succ hanswered hfound).mp hpicks).congr (by rfl), ?_, ?_⟩
          · unfold candidate collision_inc
            rw [show flag + 4 + 4 * k = flag + 4 * (k + 1) by omega]
          · rw [hmove]
            rfl

/-! ## One item -/

/-- What is read of an item before its identifier is chosen, and its index. -/
structure Reads (raw : Value) (item : Item) (flag : Nat) (hash_val index : String) : Prop where
  read : readItem raw = .ok item
  flag : gen_flag item.cache item.segment 0 = .ok flag
  hash : item.hash = .str hash_val
  index : item.index = .str index

/-- An item is read in one way. -/
theorem Reads.unique {raw : Value} {item item' : Item} {flag flag' : Nat}
    {hash_val hash_val' index index' : String} (h : Reads raw item flag hash_val index)
    (h' : Reads raw item' flag' hash_val' index') :
    item = item' ∧ flag = flag' ∧ hash_val = hash_val' ∧ index = index' := by
  obtain rfl := Except.ok.inj (h.read.symm.trans h'.read)
  exact ⟨rfl, Except.ok.inj (h.flag.symm.trans h'.flag), by simpa using h.hash.symm.trans h'.hash,
    by simpa using h.index.symm.trans h'.index⟩

/-- The entry that is built for an item. -/
def entryOf (d : String) (item : Item) (index id : String) : Value × Fields :=
  (.dict [(index, .str id)], registerFields d id item item.attributes)

/-- What one round of the loop builds from an item: an entry with some candidate of it. -/
inductive Builds (d : String) : Value → Value × Fields → Prop where
  | item {raw : Value} {item : Item} {flag : Nat} {index hash_val : String} (k : Nat) :
      Reads raw item flag hash_val index →
      Builds d raw (entryOf d item index (candidate hash_val flag k))

/-- One round of the loop whose first statement is the `n`-th: the entry that is built, and the
number of the statement behind it. -/
inductive Round (srv : Server) (limit : Nat) (db : Database) (d : String) (n : Nat) :
    Value → Value × Fields → Nat → Prop where
  /-- The identifier is the item's own. -/
  | own {raw : Value} {item : Item} {flag : Nat} {index hash_val : String} :
      Reads raw item flag hash_val index → item.collisionAvoid.truthy = false →
      Round srv limit db d n raw (entryOf d item index (candidate hash_val flag 0)) n
  /-- The identifier is searched for. -/
  | avoided {raw : Value} {item : Item} {flag k : Nat} {index hash_val : String} :
      Reads raw item flag hash_val index → item.collisionAvoid.truthy = true →
      Picks srv limit db n hash_val flag k →
      Round srv limit db d n raw (entryOf d item index (candidate hash_val flag k)) (n + k + 1)

theorem Round.builds {db : Database} {d : String} {n n' : Nat} {raw : Value} {e : Value × Fields}
    (h : Round srv limit db d n raw e n') : Builds d raw e := by
  cases h with
  | own hreads _ => exact .item 0 hreads
  | avoided hreads _ _ => exact .item _ hreads

/-- A round looks at the rows alone. -/
theorem Round.congr {db db' : Database} (hlog : db'.log = db.log) {d : String} {n n' : Nat}
    {raw : Value} {e : Value × Fields} (h : Round srv limit db' d n raw e n') :
    Round srv limit db d n raw e n' := by
  cases h with
  | own hreads hc => exact .own hreads hc
  | avoided hreads hc hpicks => exact .avoided hreads hc (hpicks.congr hlog)

/-- **One round of the loop.** -/
theorem registerItem_iff {d : String} {raw : Value} {e : Value × Fields} {s s' : Store} :
    registerItem srv limit d raw s = (.ok e, s') ↔
      ∃ n, Round srv limit s.db d s.db.executed raw e n ∧
        s' = ⟨s.deviceID_cache, { s.db with executed := n }⟩ := by
  refine ⟨?_, ?_⟩
  · intro h
    obtain ⟨item, s1, h1, h⟩ := Proc.bind_eq_ok.mp h
    obtain ⟨hread, rfl⟩ : readItem raw = .ok item ∧ s = s1 := by simpa using h1
    obtain ⟨flag, s2, h2, h⟩ := Proc.bind_eq_ok.mp h
    obtain ⟨hflag, rfl⟩ : gen_flag item.cache item.segment 0 = .ok flag ∧ s = s2 := by
      simpa using h2
    obtain ⟨hash_val, s3, h3, h⟩ := Proc.bind_eq_ok.mp h
    obtain ⟨hhash, rfl⟩ : item.hash.asStr = .ok hash_val ∧ s = s3 := by simpa using h3
    obtain ⟨id, s4, h4, h⟩ := Proc.bind_eq_ok.mp h
    obtain ⟨index, s5, h5, h⟩ := Proc.bind_eq_ok.mp h
    obtain ⟨hindex, rfl⟩ : item.index.asStr = .ok index ∧ s4 = s5 := by simpa using h5
    obtain ⟨hentry, rfl⟩ := Prod.mk.inj h
    obtain rfl := Except.ok.inj hentry
    have hreads : Reads raw item flag hash_val index :=
      ⟨hread, hflag, Value.asStr_eq_ok.mp hhash, Value.asStr_eq_ok.mp hindex⟩
    unfold itemID at h4
    cases hc : item.collisionAvoid.truthy with
    | true =>
      rw [hc, if_pos rfl] at h4
      obtain ⟨k, hpicks, rfl, rfl⟩ := register_genID_iff.mp h4
      exact ⟨_, .avoided hreads hc hpicks, rfl⟩
    | false =>
      rw [hc] at h4
      obtain ⟨hid, rfl⟩ := Prod.mk.inj h4
      obtain rfl := Except.ok.inj hid
      exact ⟨_, .own hreads hc, rfl⟩
  · intro h
    obtain ⟨n, hround, rfl⟩ := h
    have hbuild : ∀ {item : Item} {flag : Nat} {hash_val index id : String} {s' : Store},
        Reads raw item flag hash_val index →
        itemID srv limit item.collisionAvoid hash_val flag s = (.ok id, s') →
        registerItem srv limit d raw s = (.ok (entryOf d item index id), s') := by
      intro item flag hash_val index id s' hreads hid
      unfold registerItem
      refine Proc.bind_eq_ok.mpr ⟨item, s, by rw [hreads.read]; rfl, ?_⟩
      refine Proc.bind_eq_ok.mpr ⟨flag, s, by rw [hreads.flag]; rfl, ?_⟩
      refine Proc.bind_eq_ok.mpr ⟨hash_val, s, by rw [hreads.hash]; rfl, ?_⟩
      refine Proc.bind_eq_ok.mpr ⟨id, s', hid, ?_⟩
      exact Proc.bind_eq_ok.mpr ⟨index, s', by rw [hreads.index]; rfl, rfl⟩
    cases hround with
    | own hreads hc =>
      refine hbuild hreads ?_
      unfold itemID
      rw [hc]
      rfl
    | avoided hreads hc hpicks =>
      refine hbuild hreads ?_
      unfold itemID
      rw [hc, if_pos rfl]
      exact register_genID_iff.mpr ⟨_, hpicks, rfl, rfl⟩

/-! ## The loop -/

/-- The rounds of the loop, one behind the other. -/
inductive Rounds (srv : Server) (limit : Nat) (db : Database) (d : String) :
    Nat → List Value → List (Value × Fields) → Nat → Prop where
  | nil (n : Nat) : Rounds srv limit db d n [] [] n
  | cons {n n' n'' : Nat} {raw : Value} {e : Value × Fields} {items : List Value}
      {entries : List (Value × Fields)} :
      Round srv limit db d n raw e n' → Rounds srv limit db d n' items entries n'' →
      Rounds srv limit db d n (raw :: items) (e :: entries) n''

theorem Rounds.builds {db : Database} {d : String} {n n' : Nat} {items : List Value}
    {entries : List (Value × Fields)} (h : Rounds srv limit db d n items entries n') :
    List.Forall₂ (Builds d) items entries := by
  induction h with
  | nil => exact .nil
  | cons hround _ ih => exact .cons hround.builds ih

theorem Rounds.congr {db db' : Database} (hlog : db'.log = db.log) {d : String} {n n' : Nat}
    {items : List Value} {entries : List (Value × Fields)}
    (h : Rounds srv limit db' d n items entries n') : Rounds srv limit db d n items entries n' := by
  induction h with
  | nil => exact .nil _
  | cons hround _ ih => exact .cons (hround.congr hlog) ih

/-- **The whole loop**, by induction on the items: its selections change nothing for the items
behind. -/
theorem registerItems_iff {d : String} {items : List Value} {entries : List (Value × Fields)}
    {s s' : Store} : registerItems srv limit d items s = (.ok entries, s') ↔
      ∃ n, Rounds srv limit s.db d s.db.executed items entries n ∧
        s' = ⟨s.deviceID_cache, { s.db with executed := n }⟩ := by
  induction items generalizing s entries with
  | nil =>
    refine ⟨?_, ?_⟩
    · intro h
      obtain ⟨hnil, rfl⟩ := Prod.mk.inj h
      obtain rfl := Except.ok.inj hnil
      exact ⟨_, .nil _, rfl⟩
    · intro h
      obtain ⟨n, hrounds, rfl⟩ := h
      cases hrounds
      rfl
  | cons raw items ih =>
    refine ⟨?_, ?_⟩
    · intro h
      obtain ⟨e, s1, h1, h⟩ := Proc.bind_eq_ok.mp h
      obtain ⟨rest, s2, h2, h⟩ := Proc.bind_eq_ok.mp h
      obtain ⟨hcons, rfl⟩ := Prod.mk.inj h
      obtain rfl := Except.ok.inj hcons
      obtain ⟨n, hround, rfl⟩ := registerItem_iff.mp h1
      obtain ⟨n', hrounds, rfl⟩ := ih.mp h2
      exact ⟨n', .cons hround (hrounds.congr (by rfl)), rfl⟩
    · intro h
      obtain ⟨n, hrounds, rfl⟩ := h
      cases hrounds with
      | @cons _ n' _ _ e _ rest hround hrest =>
        refine Proc.bind_eq_ok.mpr ⟨e, _, registerItem_iff.mpr ⟨n', hround, rfl⟩, ?_⟩
        exact Proc.bind_eq_ok.mpr ⟨rest, _, ih.mpr ⟨n, hrest.congr (by rfl), rfl⟩, rfl⟩

/-- The head of a registration inserts nothing. -/
theorem speaker_log {tempID d : String} {relay : Value} {s s' : Store}
    (h : speaker srv tempID relay s = (.ok d, s')) : s'.db.log = s.db.log := by
  have hmark := (speaker_marked srv tempID relay s).log
  rwa [h] at hmark

/-- **The part of `register` before its insertion**: its head, and the loop. -/
theorem registerEntries_iff {tempID : String} {kvs : List (String × Value)} {relay : Value}
    {entries : List (Value × Fields)} {s s' : Store} :
    registerEntries srv limit tempID (.dict kvs) relay s = (.ok entries, s') ↔
      ∃ d s1 items n, speaker srv tempID relay s = (.ok d, s1) ∧
        (field kvs "registerList").iter = .ok items ∧
        Rounds srv limit s.db d s1.db.executed items entries n ∧
        s' = ⟨s1.deviceID_cache, { s1.db with executed := n }⟩ := by
  refine ⟨?_, ?_⟩
  · intro h
    obtain ⟨d, s1, h1, h⟩ := Proc.bind_eq_ok.mp h
    obtain ⟨w, s2, h2, h⟩ := Proc.bind_eq_ok.mp h
    obtain ⟨rfl, rfl⟩ : field kvs "registerList" = w ∧ s1 = s2 := by simpa [field] using h2
    obtain ⟨items, s3, h3, h⟩ := Proc.bind_eq_ok.mp h
    obtain ⟨hiter, rfl⟩ : (field kvs "registerList").iter = .ok items ∧ s1 = s3 := by
      simpa using h3
    obtain ⟨n, hrounds, rfl⟩ := registerItems_iff.mp h
    exact ⟨d, s1, items, n, h1, hiter, hrounds.congr (speaker_log h1), rfl⟩
  · intro h
    obtain ⟨d, s1, items, n, h1, hiter, hrounds, rfl⟩ := h
    refine Proc.bind_eq_ok.mpr ⟨d, s1, h1, ?_⟩
    refine Proc.bind_eq_ok.mpr ⟨field kvs "registerList", s1, rfl, ?_⟩
    refine Proc.bind_eq_ok.mpr ⟨items, s1, by rw [hiter]; rfl, ?_⟩
    exact registerItems_iff.mpr ⟨n, hrounds.congr (speaker_log h1).symm, rfl⟩

/-- The entries of a registration are built from its items. -/
theorem registerEntries_builds {tempID : String} {kvs : List (String × Value)} {relay : Value}
    {entries : List (Value × Fields)} {s s' : Store}
    (h : registerEntries srv limit tempID (.dict kvs) relay s = (.ok entries, s')) :
    ∃ d items, deviceOf tempID relay = .ok (.str d) ∧
      (field kvs "registerList").iter = .ok items ∧ List.Forall₂ (Builds d) items entries := by
  obtain ⟨d, s1, items, n, hspk, hiter, hrounds, _⟩ := registerEntries_iff.mp h
  exact ⟨d, items, (speaker_ok hspk).1, hiter, hrounds.builds⟩

/-! ## The rows -/

/-- The name of an attribute column. -/
def attrName (i : Nat) : String := "attr" ++ toString (i + 1)

theorem attrName_injective : Function.Injective attrName := by
  intro i j h
  have := Decimal.toString_nat_injective ((String.append_right_inj "attr").mp h)
  omega

/-- No attribute column is one of the columns in front. -/
theorem attrName_ne {col : String} (h : col.toList.take 4 ≠ ['a', 't', 't', 'r']) (i : Nat) :
    attrName i ≠ col := by
  intro heq
  obtain rfl := heq
  exact h (by rw [attrName, String.toList_append]; rfl)

/-- The attribute columns hold the attributes, in order. -/
theorem attrFields_get (as : List Value) (j i : Nat) :
    Dict.get (attrFields j as) (attrName (j + i)) = as[i]? := by
  induction as generalizing j i with
  | nil => rfl
  | cons a as ih =>
    rw [attrFields, Dict.get_cons]
    cases i with
    | zero => simp [attrName]
    | succ i =>
      have hne : attrName (j + (i + 1)) ≠ "attr" ++ toString (j + 1) := fun heq => by
        have := attrName_injective heq
        omega
      rw [if_neg hne, show j + (i + 1) = j + 1 + i by omega]
      exact ih (j + 1) i

/-- They stand behind five other columns. -/
theorem registerFields_attr (d id : String) (item : Item) (as : List Value) (i : Nat) :
    Dict.get (registerFields d id item as) (attrName i) = as[i]? := by
  have hne : ∀ col ∈ ["deviceId", "providingId", "hash", "registerType", "category"],
      attrName i ≠ col := by
    intro col hcol
    refine attrName_ne ?_ i
    revert col
    decide
  have hget := attrFields_get as 0 i
  rw [Nat.zero_add] at hget
  simp only [registerFields, List.cons_append, List.nil_append, Dict.get_cons,
    if_neg (hne _ (by simp : "deviceId" ∈ _)), if_neg (hne _ (by simp : "providingId" ∈ _)),
    if_neg (hne _ (by simp : "hash" ∈ _)), if_neg (hne _ (by simp : "registerType" ∈ _)),
    if_neg (hne _ (by simp : "category" ∈ _)), hget]

theorem attrFields_names (as : List Value) (j : Nat) :
    (attrFields j as).map Prod.fst = (List.range as.length).map fun i => attrName (j + i) := by
  induction as generalizing j with
  | nil => rfl
  | cons a as ih =>
    rw [attrFields, List.map_cons, ih, List.length_cons, List.range_succ_eq_map, List.map_cons,
      List.map_map]
    refine congrArg (List.cons _) (List.map_congr_left fun i _ => ?_)
    rw [Function.comp_apply, show j + 1 + i = j + (i + 1) by omega]

/-- Among the columns of an insertion there is one with what `db_proc` pastes for a value. -/
def Pastes (cells : List Cell) (col : String) (v : Value) : Prop :=
  ∃ c ∈ cells, insertCell (col, v) = .ok c

/-- A value of a row is pasted. -/
theorem pastes_of_get {f : Fields} {cells : List Cell} (h : f.mapM insertCell = .ok cells)
    {col : String} {v : Value} (hv : Dict.get f col = some v) : Pastes cells col v :=
  Except.exists_mem_mapM h (Dict.mem_of_get hv)

/-- The columns an insertion gives for an item: the identifier, the device, and the data of the
item. -/
structure ItemCells (d id hash_val : String) (item : Item) (cells : List Cell) : Prop where
  providingId : Pastes cells "providingId" (.str id)
  deviceId : Pastes cells "deviceId" (.str d)
  hash : Pastes cells "hash" (.str hash_val)
  registerType : Pastes cells "registerType" item.registerType
  category : Pastes cells "category" item.category
  /-- `attr1`, `attr2`, .. are the item's own attributes, in order. -/
  attributes : ∀ i v, item.attributes[i]? = some v → Pastes cells (attrName i) v
  /-- There are no other columns, and none is given twice. -/
  columns : cells.map Cell.column = ["deviceId", "providingId", "hash", "registerType",
    "category"] ++ (List.range item.attributes.length).map attrName

/-- **The columns given for one item.** -/
theorem itemCells {d id hash_val : String} {item : Item} {cells : List Cell}
    (hhash : item.hash = .str hash_val)
    (h : (registerFields d id item item.attributes).mapM insertCell = .ok cells) :
    ItemCells d id hash_val item cells where
  providingId := pastes_of_get h rfl
  deviceId := pastes_of_get h rfl
  hash := pastes_of_get h (by rw [← hhash]; rfl)
  registerType := pastes_of_get h rfl
  category := pastes_of_get h rfl
  attributes := fun i v hi => pastes_of_get h (by rw [registerFields_attr, hi])
  columns := by
    rw [mapM_insertCell_columns h, registerFields, List.map_append, attrFields_names]
    simp only [Nat.zero_add]
    rfl

/-! ## The identifiers -/

/-- The identifier of an item: made of its flag, or of the first flag behind it whose
identifier is not registered. -/
def IssuedID (srv : Server) (db : Database) (item : Item) (hash_val id : String) : Prop :=
  ∃ f, gen_flag item.cache item.segment 0 = .ok f ∧
    Issued newID (providingStored srv db) ⟨f, hash_val, item.collisionAvoid.truthy⟩ id

/-- The selections for an item that avoids collisions tell what is registered, up to its first
candidate `k` that is not; the first of them is the `n`-th statement. -/
structure TellsUpTo (srv : Server) (db : Database) (n : Nat) (hash_val : String) (flag k : Nat) :
    Prop where
  least : IsLeast {i | providingStored srv db (candidate hash_val flag i) = false} k
  tells : ∀ i, i ≤ k → providingFound srv db (n + i) (candidate hash_val flag i) =
    providingStored srv db (candidate hash_val flag i)

/-- The selections for the items of a registration tell what is registered; the first of them is
the `n`-th statement. -/
inductive SelectionsTell (srv : Server) (db : Database) : Nat → List Value → Prop where
  | nil (n : Nat) : SelectionsTell srv db n []
  /-- Nothing is selected for an item that avoids no collisions. -/
  | own {n : Nat} {raw : Value} {item : Item} {flag : Nat} {index hash_val : String}
      {items : List Value} : Reads raw item flag hash_val index →
      item.collisionAvoid.truthy = false → SelectionsTell srv db n items →
      SelectionsTell srv db n (raw :: items)
  | avoided {n : Nat} {raw : Value} {item : Item} {flag k : Nat} {index hash_val : String}
      {items : List Value} : Reads raw item flag hash_val index →
      item.collisionAvoid.truthy = true → TellsUpTo srv db n hash_val flag k →
      SelectionsTell srv db (n + k + 1) items → SelectionsTell srv db n (raw :: items)

/-- A search that is told what is registered picks the first candidate that is not. -/
theorem Picks.eq_of_tells {db : Database} {n : Nat} {hash_val : String} {flag k k' : Nat}
    (h : Picks srv limit db n hash_val flag k') (htells : TellsUpTo srv db n hash_val flag k) :
    k' = k := by
  rcases Nat.lt_trichotomy k' k with hlt | heq | hgt
  · -- what is not found is not registered either
    have hfree := htells.tells k' (by omega)
    rw [h.unfound] at hfree
    exact absurd (htells.least.2 hfree.symm) (Nat.not_le_of_lt hlt)
  · exact heq
  · have hfound := h.passed k hgt
    rw [htells.tells k (Nat.le_refl k), htells.least.1] at hfound
    exact absurd hfound (by simp)

/-- A search that picks the first candidate that is not registered was told so. -/
theorem Picks.tells {db : Database} {n : Nat} {hash_val : String} {flag k : Nat}
    (h : Picks srv limit db n hash_val flag k)
    (hleast : IsLeast {i | providingStored srv db (candidate hash_val flag i) = false} k) :
    TellsUpTo srv db n hash_val flag k := by
  refine ⟨hleast, fun i hi => ?_⟩
  rcases Nat.lt_or_eq_of_le hi with hlt | rfl
  · rw [h.passed i hlt]
    by_contra hno
    have hfree := Bool.eq_false_iff.mpr fun heq => hno heq.symm
    exact absurd (hleast.2 hfree) (Nat.not_le_of_lt hlt)
  · rw [h.unfound, hleast.1]

/-! ## The request -/

/-- A row that the server makes of the columns of an insertion. -/
def GivenRow (srv : Server) (t : Table) (f : Fields) (row : Tuple) : Prop :=
  ∃ cells db, f.mapM insertCell = .ok cells ∧ row = srv.newRow db t cells

/-- **An insertion that goes through** appends a row for each that was given. -/
theorem insertRows_given {t : Table} {fs : List Fields} {db db' : Database}
    (h : insertRows srv t fs db = (.ok (), db')) :
    ∃ rows, List.Forall₂ (GivenRow srv t) fs rows ∧ Appended t rows db db' := by
  induction fs generalizing db with
  | nil =>
    obtain ⟨_, rfl⟩ := Prod.mk.inj h
    exact ⟨[], .nil, Appended.refl t db⟩
  | cons f fs ih =>
    obtain ⟨db1, hrow, hrest⟩ := insertRows_cons_eq_ok.mp h
    obtain ⟨cells, hcells, _, _, rfl⟩ := insertRow_eq_ok.mp hrow
    obtain ⟨rows, hgiven, happ⟩ := ih hrest
    refine ⟨_, .cons ⟨cells, db, hcells, rfl⟩ hgiven, happ.committed, ?_⟩
    rw [happ.pending]
    simp

/-- The head of a registration asks for its device, if that is not cached. -/
theorem speaker_executed {tempID d : String} {relay : Value} {s s' : Store}
    (h : speaker srv tempID relay s = (.ok d, s')) :
    s'.db.executed = s.db.executed + if s.deviceID_cache.has d then 0 else 1 := by
  obtain ⟨v, s1, h1, h⟩ := Proc.bind_eq_ok.mp h
  obtain ⟨_, rfl⟩ : deviceOf tempID relay = .ok v ∧ s = s1 := by simpa using h1
  obtain ⟨x, s2, h2, h⟩ := Proc.bind_eq_ok.mp h
  obtain ⟨_, rfl⟩ : v.asStr = .ok x ∧ s = s2 := by simpa using h2
  obtain ⟨_, s3, h3, h⟩ := Proc.bind_eq_ok.mp h
  obtain ⟨hx, rfl⟩ := Prod.mk.inj h
  obtain rfl := Except.ok.inj hx
  rcases checkDevice_cases srv x s with ⟨hc, hrun⟩ | ⟨hc, _, _, hrun⟩ | ⟨_, _, e, hrun⟩
  · obtain ⟨_, rfl⟩ := Prod.mk.inj (hrun.symm.trans h3)
    rw [if_pos hc, Nat.add_zero]
  · obtain ⟨_, rfl⟩ := Prod.mk.inj (hrun.symm.trans h3)
    rw [hc]
    rfl
  · exact absurd (congrArg Prod.fst (hrun.symm.trans h3)) (by simp)

/-- An item, what is acknowledged for it, and the row that is stored for it: the server makes it
of the columns given. -/
inductive ItemStored (srv : Server) (db : Database) (d : String) :
    Value → Value × Tuple → Prop where
  | item {raw : Value} {item : Item} {index hash_val id : String} {cells : List Cell}
      {db' : Database} : readItem raw = .ok item → item.index = .str index →
      item.hash = .str hash_val → IssuedID srv db item hash_val id →
      ItemCells d id hash_val item cells →
      ItemStored srv db d raw (.dict [(index, .str id)], srv.newRow db' .RegisterList cells)

/-- A registration is acknowledged without an error. -/
def RegisterAcked (srv : Server) (limit : Nat) (m : Manager) (r : Request) (ack : Message) : Prop :=
  r.op = .register ∧ ack ∈ acks srv limit m r ∧ ack.payload.get "error:" = .ok (.int 0)

/-- **A registration that is acknowledged** ran through: its entries were built, and inserted. -/
theorem registerAcked_run {m : Manager} {tempID : String} {kvs : List (String × Value)}
    {ack : Message} (h : RegisterAcked srv limit m ⟨.register, tempID, .dict kvs⟩ ack) :
    ∃ entries s1 db1,
      registerEntries srv limit tempID (.dict kvs) (field kvs "relay") m.store =
        (.ok entries, s1) ∧
      insertRows srv .RegisterList (entries.map Prod.snd) s1.db = (.ok (), db1) ∧
      ack.payload.get "idList" = .ok (.list (entries.map Prod.fst)) ∧
      (step srv limit m ⟨.register, tempID, .dict kvs⟩).store =
        ⟨s1.deviceID_cache, db1.commit⟩ := by
  obtain ⟨_, hack, hok⟩ := h
  have hbody : bodyOf srv limit .register tempID kvs = registerBody srv limit tempID (.dict kvs)
      (field kvs "relay") (field kvs "registerID") := rfl
  have hends := registerBody_ends srv limit tempID (.dict kvs) (field kvs "relay")
    (field kvs "registerID") m.store
  rw [acks_dict, hbody, reply, List.mem_singleton] at hack
  rw [step_dict, hbody]
  rcases hres : registerBody srv limit tempID (.dict kvs) (field kvs "relay")
    (field kvs "registerID") m.store with ⟨r, s'⟩
  rw [hres] at hends hack
  have hfailed : ∀ e, r = .error e → False := by
    intro e heq
    obtain rfl := heq
    obtain rfl : ack = failureOf .register tempID kvs := hack
    have hnone : (failureOf .register tempID kvs).payload.get "error:" = .ok .none := rfl
    rw [hnone] at hok
    exact absurd hok (by simp)
  cases hends with
  | stopped _ => exact absurd rfl (hfailed _)
  | refused _ _ => exact absurd rfl (hfailed _)
  | @registered entries s1 db1 hentries hins =>
    obtain rfl := hack
    exact ⟨entries, s1, db1, hentries, hins, rfl, rfl⟩

/-- A registration acknowledges exactly what it stores: one identifier for each item, in order,
and a committed row with that identifier and the item's own data. -/
def AcksStored (srv : Server) (limit : Nat) (m : Manager) (tempID : String)
    (kvs : List (String × Value)) (ack : Message) : Prop :=
  ∃ d items idList rows, deviceOf tempID (field kvs "relay") = .ok (.str d) ∧
    (field kvs "registerList").iter = .ok items ∧
    ack.payload.get "idList" = .ok (.list idList) ∧ idList.length = rows.length ∧
    List.Forall₂ (ItemStored srv m.store.db d) items (idList.zip rows) ∧
    ∀ row ∈ rows, row ∈ (step srv limit m ⟨.register, tempID, .dict kvs⟩).store.db.committedRows
      .RegisterList

/-- The selections for the items of a registration tell what is registered. One selection may
come before them: that for the device, if it is not cached. -/
def TellsRegistered (srv : Server) (s : Store) (tempID : String) (kvs : List (String × Value)) :
    Prop :=
  ∀ d items, deviceOf tempID (field kvs "relay") = .ok (.str d) →
    (field kvs "registerList").iter = .ok items →
    SelectionsTell srv s.db (s.db.executed + if s.deviceID_cache.has d then 0 else 1) items

/-- The selections of an item that avoids no collisions, and those behind it. -/
theorem selectionsTell_own {db : Database} {n : Nat} {raw : Value} {item : Item} {flag : Nat}
    {index hash_val : String} {items : List Value} (hreads : Reads raw item flag hash_val index)
    (havoid : item.collisionAvoid.truthy = false) :
    SelectionsTell srv db n (raw :: items) ↔ SelectionsTell srv db n items := by
  refine ⟨?_, .own hreads havoid⟩
  intro h
  cases h with
  | own _ _ hrest => exact hrest
  | avoided hreads' havoid' _ _ =>
    obtain ⟨rfl, _⟩ := hreads.unique hreads'
    rw [havoid] at havoid'
    exact absurd havoid' (by simp)

/-- The selections of an item that avoids collisions, and those behind them. -/
theorem selectionsTell_avoided {db : Database} {n : Nat} {raw : Value} {item : Item} {flag : Nat}
    {index hash_val : String} {items : List Value} (hreads : Reads raw item flag hash_val index)
    (havoid : item.collisionAvoid.truthy = true) :
    SelectionsTell srv db n (raw :: items) ↔
      ∃ k, TellsUpTo srv db n hash_val flag k ∧ SelectionsTell srv db (n + k + 1) items := by
  refine ⟨?_, fun ⟨k, htells, hrest⟩ => .avoided hreads havoid htells hrest⟩
  intro h
  cases h with
  | own hreads' havoid' _ =>
    obtain ⟨rfl, _⟩ := hreads.unique hreads'
    rw [havoid] at havoid'
    exact absurd havoid' (by simp)
  | avoided hreads' _ htells hrest =>
    obtain ⟨rfl, rfl, rfl, rfl⟩ := hreads.unique hreads'
    exact ⟨_, htells, hrest⟩

/-- An item that was stored as it should be was issued its identifier. -/
theorem ItemStored.issued {db : Database} {d : String} {raw : Value} {item : Item} {flag : Nat}
    {index hash_val id : String} {row : Tuple} (hreads : Reads raw item flag hash_val index)
    (h : ItemStored srv db d raw ((entryOf d item index id).1, row)) :
    Issued newID (providingStored srv db) ⟨flag, hash_val, item.collisionAvoid.truthy⟩ id := by
  cases h with
  | item hread _ hhash hid _ =>
    obtain rfl := Except.ok.inj (hreads.read.symm.trans hread)
    obtain rfl := Value.str.inj (hreads.hash.symm.trans hhash)
    obtain ⟨f, hf, hissued⟩ := hid
    obtain rfl := Except.ok.inj (hreads.flag.symm.trans hf)
    exact hissued

/-- An entry with the identifier to issue is stored as it should be. -/
theorem itemStored_of_issued {db : Database} {d : String} {raw : Value} {item : Item} {flag : Nat}
    {index hash_val id : String} {row : Tuple} (hreads : Reads raw item flag hash_val index)
    (hrow : GivenRow srv .RegisterList (entryOf d item index id).2 row)
    (h : Issued newID (providingStored srv db) ⟨flag, hash_val, item.collisionAvoid.truthy⟩ id) :
    ItemStored srv db d raw ((entryOf d item index id).1, row) := by
  obtain ⟨cells, db', hcells, rfl⟩ := hrow
  exact .item hreads.read hreads.index hreads.hash ⟨flag, hreads.flag, h⟩
    (itemCells hreads.hash hcells)

/-- The identifier of an item that avoids no collisions is always the one to issue. -/
theorem issued_own {registered : String → Bool} {flag : Nat} {hash_val : String} {item : Item}
    (havoid : item.collisionAvoid.truthy = false) :
    Issued newID registered ⟨flag, hash_val, item.collisionAvoid.truthy⟩
      (candidate hash_val flag 0) := Or.inl ⟨havoid, rfl⟩

/-- The identifier that was picked is the one to issue exactly if the selections told what is
registered. -/
theorem issued_picked_iff {db : Database} {n : Nat} {hash_val : String} {flag k : Nat} {item : Item}
    (havoid : item.collisionAvoid.truthy = true) (h : Picks srv limit db n hash_val flag k) :
    Issued newID (providingStored srv db) ⟨flag, hash_val, item.collisionAvoid.truthy⟩
      (candidate hash_val flag k) ↔ TellsUpTo srv db n hash_val flag k := by
  refine ⟨?_, ?_⟩
  · intro hissued
    rcases hissued with ⟨hno, _⟩ | ⟨_, k', hleast, heq⟩
    · rw [show item.collisionAvoid.truthy = false from hno] at havoid
      exact absurd havoid (by simp)
    · obtain rfl := candidate_injective hash_val flag heq
      exact h.tells hleast
  · exact fun htells => Or.inr ⟨havoid, k, htells.least, rfl⟩

/-- **Where every item is stored as it should be**, the selections told what is registered; by
induction on the rounds. -/
theorem Rounds.tells {db : Database} {d : String} {n n' : Nat} {items : List Value}
    {entries : List (Value × Fields)} (h : Rounds srv limit db d n items entries n')
    {rows : List Tuple} (hlen : (entries.map Prod.fst).length = rows.length)
    (hstored : List.Forall₂ (ItemStored srv db d) items ((entries.map Prod.fst).zip rows)) :
    SelectionsTell srv db n items := by
  induction h generalizing rows with
  | nil n => exact .nil n
  | cons hround _ ih =>
    cases rows with
    | nil => exact absurd hlen (by simp)
    | cons row rows =>
      rw [List.map_cons, List.zip_cons_cons] at hstored
      obtain ⟨hitem, hrest⟩ := List.forall₂_cons.mp hstored
      have htells := ih (Nat.succ.inj hlen) hrest
      cases hround with
      | own hreads havoid => exact .own hreads havoid htells
      | avoided hreads havoid hpicks =>
        have hissued := hitem.issued hreads
        exact .avoided hreads havoid ((issued_picked_iff havoid hpicks).mp hissued) htells

/-- **Where the selections tell what is registered**, every item is stored as it should be; by
induction on the rounds. -/
theorem Rounds.stored {db : Database} {d : String} {n n' : Nat} {items : List Value}
    {entries : List (Value × Fields)} (h : Rounds srv limit db d n items entries n')
    {rows : List Tuple}
    (hrows : List.Forall₂ (GivenRow srv .RegisterList) (entries.map Prod.snd) rows)
    (htells : SelectionsTell srv db n items) :
    List.Forall₂ (ItemStored srv db d) items ((entries.map Prod.fst).zip rows) := by
  induction h generalizing rows with
  | nil n =>
    cases hrows
    exact .nil
  | cons hround _ ih =>
    cases hrows with
    | cons hrow hrows =>
      rw [List.map_cons, List.zip_cons_cons]
      cases hround with
      | own hreads havoid =>
        have hrest := (selectionsTell_own hreads havoid).mp htells
        exact .cons (itemStored_of_issued hreads hrow (issued_own havoid)) (ih hrows hrest)
      | avoided hreads havoid hpicks =>
        obtain ⟨k, hk, hrest⟩ := (selectionsTell_avoided hreads havoid).mp htells
        obtain rfl := hpicks.eq_of_tells hk
        have hissued := (issued_picked_iff havoid hpicks).mpr hk
        exact .cons (itemStored_of_issued hreads hrow hissued) (ih hrows hrest)

/-- **A registration that is acknowledged**: how its loop went, and the rows it stored. -/
theorem registerAcked_rounds {m : Manager} {tempID : String} {kvs : List (String × Value)}
    {ack : Message} (h : RegisterAcked srv limit m ⟨.register, tempID, .dict kvs⟩ ack) :
    ∃ d items entries rows n, deviceOf tempID (field kvs "relay") = .ok (.str d) ∧
      (field kvs "registerList").iter = .ok items ∧
      Rounds srv limit m.store.db d
        (m.store.db.executed + if m.store.deviceID_cache.has d then 0 else 1) items entries n ∧
      ack.payload.get "idList" = .ok (.list (entries.map Prod.fst)) ∧
      List.Forall₂ (GivenRow srv .RegisterList) (entries.map Prod.snd) rows ∧
      ∀ row ∈ rows, row ∈ (step srv limit m ⟨.register, tempID, .dict kvs⟩).store.db.committedRows
        .RegisterList := by
  obtain ⟨entries, s1, db1, hentries, hins, hidList, hstep⟩ := registerAcked_run h
  obtain ⟨d, s0, items, n, hspk, hiter, hrounds, rfl⟩ := registerEntries_iff.mp hentries
  obtain ⟨rows, hgiven, happ⟩ := insertRows_given hins
  rw [speaker_executed hspk] at hrounds
  refine ⟨d, items, entries, rows, n, (speaker_ok hspk).1, hiter, hrounds, hidList, hgiven, ?_⟩
  -- the commit takes in the rows that were appended
  intro row hrow
  rw [hstep, Database.committedRows, mem_rowsOf, Database.commit_log]
  have hmem : row ∈ db1.rows .RegisterList := happ.mem_rows.mpr (Or.inr ⟨rfl, hrow⟩)
  rw [Database.rows, mem_rowsOf] at hmem
  simpa using hmem

/-- **When a registration acknowledges exactly what it stores**: exactly if the selections for
its items tell what is registered. -/
theorem register_stores_iff {m : Manager} {tempID : String} {kvs : List (String × Value)}
    {ack : Message} (h : RegisterAcked srv limit m ⟨.register, tempID, .dict kvs⟩ ack) :
    AcksStored srv limit m tempID kvs ack ↔ TellsRegistered srv m.store tempID kvs := by
  obtain ⟨d, items, entries, rows, n, hdev, hiter, hrounds, hidList, hgiven, hcommitted⟩ :=
    registerAcked_rounds h
  refine ⟨?_, ?_⟩
  · intro hacks d' items' hdev' hiter'
    obtain rfl := Value.str.inj (Except.ok.inj (hdev.symm.trans hdev'))
    obtain rfl := Except.ok.inj (hiter.symm.trans hiter')
    obtain ⟨d', items', idList, rows', hdev', hiter', hidList', hlen, hitems, _⟩ := hacks
    obtain rfl := Value.str.inj (Except.ok.inj (hdev.symm.trans hdev'))
    obtain rfl := Except.ok.inj (hiter.symm.trans hiter')
    obtain rfl := Value.list.inj (Except.ok.inj (hidList.symm.trans hidList'))
    exact hrounds.tells hlen hitems
  · intro htells
    refine ⟨d, items, _, rows, hdev, hiter, hidList, ?_,
      hrounds.stored hgiven (htells d items hdev hiter), hcommitted⟩
    rw [← hgiven.length_eq, List.length_map, List.length_map]

/-- A registration of two items by the device `0t`: the first avoids collisions, the second
has an attribute. -/
def twoItems : List (String × Value) :=
  [("relay", .list [.str "0t"]), ("registerList", .list
    [.dict [("index", .str "1"), ("hash", .str "h"), ("collisionAvoid", .bool true),
        ("attributes", .list [])],
      .dict [("index", .str "2"), ("hash", .str "g"), ("cache", .bool true),
        ("attributes", .list [.str "a"])]])]

/-- A process on a database with the device `0t` and something registered under `0h`. -/
def registeredOnce : Manager :=
  start [(.Device, [("deviceId", "0t")]),
    (.RegisterList, [("providingId", "0h"), ("deviceId", "0t")])] 0

/-- The globals of a process that knows the device `0t`, on a database without rows. -/
def knowsDevice : Store := ⟨[("0t", .bool true)], ⟨⟨[], []⟩, 0⟩⟩

/-- Both are acknowledged and stored, the first under the next flag. -/
theorem register_stores_two :
    AcksStored Server.exact 2 registeredOnce "t" twoItems
      ⟨"/configuration/register_ack/t", .dict [("error:", .int 0), ("registerID", .none),
        ("idList", .list [.dict [("1", .str "4h")], .dict [("2", .str "128g")]]),
        ("relay", .list [.str "0t"])]⟩ := by
  have hacked : RegisterAcked Server.exact 2 registeredOnce ⟨.register, "t", .dict twoItems⟩
      ⟨"/configuration/register_ack/t", .dict [("error:", .int 0), ("registerID", .none),
        ("idList", .list [.dict [("1", .str "4h")], .dict [("2", .str "128g")]]),
        ("relay", .list [.str "0t"])]⟩ := ⟨rfl, List.mem_singleton.mpr rfl, rfl⟩
  refine (register_stores_iff hacked).mpr fun d items hdev hiter => ?_
  obtain rfl := Except.ok.inj hiter
  obtain rfl := Value.str.inj (Except.ok.inj hdev)
  refine .avoided ⟨rfl, rfl, rfl, rfl⟩ rfl (k := 1) ⟨⟨?_, fun i hi => ?_⟩, ?_⟩
    (.own ⟨rfl, rfl, rfl, rfl⟩ rfl (.nil _))
  · exact (by decide : providingStored Server.exact registeredOnce.store.db "4h" = false)
  · rcases i with _ | i
    · exact absurd hi (by decide)
    · omega
  · decide

/-- The fields of a registration of one item by a device, with a hash. -/
def registersHash (d hash_val : String) (avoid : Bool) : List (String × Value) :=
  [("relay", .list [.str d]), ("registerList", .list
    [.dict [("index", .str "1"), ("hash", .str hash_val), ("collisionAvoid", .bool avoid),
      ("attributes", .list [])]])]

/-- Two devices joined, and the first of them registered the hash `a\\b`, of which the server
reads the text `a\b`. -/
def backslashed : Manager :=
  run Server.exact 3 (start [] 0) [⟨.join, "t", .dict oneInterface⟩,
    ⟨.join, "u", .dict oneInterface⟩, ⟨.register, "t", .dict (registersHash "0t" "a\\\\b" false)⟩]

/-- **A selection that reads another text misses a registered identifier**: the second device is
acknowledged the identifier of the first. -/
theorem not_acksStored :
    RegisterAcked Server.exact 3 backslashed
        ⟨.register, "u", .dict (registersHash "0u" "a\\b" true)⟩
        ⟨"/configuration/register_ack/u", .dict [("error:", .int 0), ("registerID", .none),
          ("idList", .list [.dict [("1", .str "0a\\b")]]), ("relay", .list [.str "0u"])]⟩ ∧
      ¬ AcksStored Server.exact 3 backslashed "u" (registersHash "0u" "a\\b" true)
        ⟨"/configuration/register_ack/u", .dict [("error:", .int 0), ("registerID", .none),
          ("idList", .list [.dict [("1", .str "0a\\b")]]), ("relay", .list [.str "0u"])]⟩ := by
  refine ⟨⟨rfl, List.mem_singleton.mpr rfl, rfl⟩, ?_⟩
  intro hacks
  obtain ⟨d, items, idList, rows, _, hiter, hidList, hlen, hstored, _⟩ := hacks
  obtain rfl := Except.ok.inj hiter
  obtain rfl := Value.list.inj (Except.ok.inj hidList)
  cases rows with
  | nil => exact absurd hlen (by simp)
  | cons row rows =>
    obtain ⟨hitem, _⟩ := List.forall₂_cons.mp hstored
    have hissued := hitem.issued (⟨rfl, rfl, rfl, rfl⟩ : Reads _
      ⟨.str "1", .none, .none, .none, .none, .bool true, [], .str "a\\b"⟩ 0 "a\\b" "1")
    rcases hissued with ⟨hno, _⟩ | ⟨_, k, hleast, heq⟩
    · exact absurd hno (by decide)
    · obtain rfl : 0 = k := candidate_injective "a\\b" 0 heq
      exact absurd hleast.1 (by decide)

end Versatile.FlexIDMngerDb
