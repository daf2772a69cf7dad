import Versatile.Issued
import Versatile.FlexIDMnger.SameOutcome

/-!
# The entries `register` of `flexIDMnger.py` builds

The loop over `registerList` is described round by round (`Builds`), against a database that
answers selections by what it contains. The list of attributes is made once, before the loop:
a round appends the attributes of its item, and takes as many from the front.
-/

namespace Versatile.FlexIDMnger

open Py

variable {ω : Type} {env : Env ω} {providing : ω → String → Bool} {limit : Nat}

/-- The part of `register` before its insertion: its head, and the loop over `registerList`. -/
def registerEntries (limit : Nat) (tempID : String) (payload relay : Value) :
    Handler (List (Value × Fields)) := do
  let deviceID ← speaker tempID relay
  let registerList ← payload.get "registerList"
  let registerList ← registerList.iter
  registerItems limit deviceID [] registerList

/-- The `try` block of `register` inserts the rows of its entries. -/
theorem registerBody_eq (limit : Nat) (tempID : String) (payload relay registerID : Value) :
    registerBody limit tempID payload relay registerID = (do
      let entries ← registerEntries limit tempID payload relay
      askError (.onTable .RegisterList (entries.map Prod.snd)) .insert "Register DB error"
      return ⟨"/configuration/register_ack/" ++ tempID,
        .dict [("error:", .int 0), ("registerID", registerID),
          ("idList", .list (entries.map Prod.fst)), ("relay", relay)]⟩) := by
  simp only [registerBody, registerEntries, Prog.bind_assoc]

/-! ## One round -/

/-- What one round of the loop builds from an item, with the attributes read before it. -/
inductive Builds (registered : String → Bool) (d : String) (attrList : List Value) :
    Value → Value × Fields × List Value → Prop where
  | item {raw : Value} {item : Item} {index hash_val id : String} {f : Nat} :
      readItem raw = .ok item → item.index = .str index → item.hash = .str hash_val →
      gen_flag item.cache item.segment 0 = .ok f →
      Issued newID registered ⟨f, hash_val, item.collisionAvoid.truthy⟩ id →
      Builds registered d attrList raw
        (.dict [(index, .str id)], registerFields d id item
          ((attrList ++ item.attributes).take item.attributes.length), attrList ++ item.attributes)

/-- What the loop builds. -/
inductive BuildsAll (registered : String → Bool) (d : String) :
    List Value → List Value → List (Value × Fields) → Prop where
  | nil {attrList : List Value} : BuildsAll registered d attrList [] []
  | cons {attrList attrList' items : List Value} {raw idEntry : Value} {row : Fields}
      {entries : List (Value × Fields)} :
      Builds registered d attrList raw (idEntry, row, attrList') →
      BuildsAll registered d attrList' items entries →
      BuildsAll registered d attrList (raw :: items) ((idEntry, row) :: entries)

theorem register_genID_selects (hash_val : String) :
    ∀ limit flag : Nat, Prog.Only Act.Selects (register_genID limit hash_val flag)
  | 0, _ => breakOff_only trivial
  | limit + 1, flag => by
      refine Prog.only_bind (askData_selects _) fun exist => ?_
      split
      · trivial
      · exact register_genID_selects hash_val limit _

theorem speaker_selects (tempID : String) (relay : Value) :
    Prog.Only Act.Selects (speaker tempID relay) := by
  refine Prog.only_lift_bind fun v _ => Prog.only_lift_bind fun d _ =>
    Prog.only_bind (Prog.only_bind ?_ fun cached => ?_) fun _ => trivial
  · exact Prog.only_lift_bind fun k _ => Prog.only_bind (Prog.only_perform trivial) fun _ => trivial
  · split
    · trivial
    · refine Prog.only_bind (Prog.only_perform rfl) fun id => Prog.only_bind (dbReply_selects id)
        fun payload => Prog.only_lift_bind fun exist _ =>
          Prog.only_bind (dbDrop_selects id) fun _ => ?_
      split
      · trivial
      · exact Prog.only_lift_bind fun k _ => Prog.only_perform trivial

/-- **What `register_genID` returns**: the identifier of the first flag that is not
registered. -/
theorem register_genID_ok (htruth : Truthful env providingByID providing) {hash_val id : String}
    {flag : Nat} {s s' : State ω}
    (h : runs env (register_genID limit hash_val flag) s = some (.ok id, s')) :
    ∃ k, IsLeast {k | providing s.world (newID (flag + collision_inc * k) hash_val) = false} k ∧
      id = newID (flag + collision_inc * k) hash_val := by
  obtain ⟨o, hrun, hret⟩ := register_genID_search htruth h
  have hsettled := hrun.settled (by simp [Search.probes])
  cases o with
  | failed k =>
    obtain ⟨e, he⟩ := hret
    exact absurd he (by simp)
  | found k =>
    refine ⟨k, ⟨hsettled.2.1.2, fun m hm => ?_⟩, Except.ok.inj hret⟩
    exact hsettled.found_le ⟨rfl, hm⟩

/-- **One round of the loop.** -/
theorem registerItem_ok (htruth : Truthful env providingByID providing) {d : String}
    {attrList : List Value} {raw : Value} {e : Value × Fields × List Value} {s s' : State ω}
    (h : runs env (registerItem limit d attrList raw) s = some (.ok e, s')) :
    Builds (providing s.world) d attrList raw e ∧ providing s'.world = providing s.world := by
  obtain ⟨item, s1, h1, h⟩ := Prog.exec_bind_eq_ok.mp h
  obtain ⟨hread, rfl⟩ : readItem raw = .ok item ∧ s = s1 := by simpa using h1
  obtain ⟨flag, s2, h2, h⟩ := Prog.exec_bind_eq_ok.mp h
  obtain ⟨hflag, rfl⟩ : gen_flag item.cache item.segment 0 = .ok flag ∧ s = s2 := by simpa using h2
  obtain ⟨hash_val, s3, h3, h⟩ := Prog.exec_bind_eq_ok.mp h
  obtain ⟨hhash, rfl⟩ : item.hash.asStr = .ok hash_val ∧ s = s3 := by simpa using h3
  obtain ⟨id, s4, h4, h⟩ := Prog.exec_bind_eq_ok.mp h
  obtain ⟨index, s5, h5, h⟩ := Prog.exec_bind_eq_ok.mp h
  obtain ⟨hindex, rfl⟩ : item.index.asStr = .ok index ∧ s4 = s5 := by simpa using h5
  obtain ⟨hentry, rfl⟩ := Prod.mk.inj (Option.some.inj h)
  obtain rfl := Except.ok.inj hentry
  have hid : Issued newID (providing s.world) ⟨flag, hash_val, item.collisionAvoid.truthy⟩ id ∧
      providing s4.world = providing s.world := by
    unfold itemID at h4
    cases hc : item.collisionAvoid.truthy with
    | true =>
      rw [hc, if_pos rfl] at h4
      exact ⟨Or.inr ⟨rfl, register_genID_ok htruth h4⟩,
        selects_keep htruth.keeps (register_genID_selects _ _ _) h4⟩
    | false =>
      rw [hc] at h4
      obtain ⟨hid, rfl⟩ := Prod.mk.inj (Option.some.inj h4)
      exact ⟨Or.inl ⟨rfl, (Except.ok.inj hid).symm⟩, rfl⟩
  exact ⟨.item hread (Value.asStr_eq_ok.mp hindex) (Value.asStr_eq_ok.mp hhash) hflag hid.1, hid.2⟩

/-- **The whole loop**, by induction on the items. -/
theorem registerItems_ok (htruth : Truthful env providingByID providing) {d : String}
    {attrList items : List Value} {entries : List (Value × Fields)} {s s' : State ω}
    (h : runs env (registerItems limit d attrList items) s = some (.ok entries, s')) :
    BuildsAll (providing s.world) d attrList items entries := by
  induction items generalizing attrList s entries with
  | nil =>
    obtain ⟨hnil, _⟩ := Prod.mk.inj (Option.some.inj h)
    obtain rfl := Except.ok.inj hnil
    exact .nil
  | cons item items ih =>
    obtain ⟨⟨idEntry, row, attrList'⟩, s1, h1, h⟩ := Prog.exec_bind_eq_ok.mp h
    obtain ⟨rest, s2, h2, h⟩ := Prog.exec_bind_eq_ok.mp h
    obtain ⟨hcons, rfl⟩ := Prod.mk.inj (Option.some.inj h)
    obtain rfl := Except.ok.inj hcons
    obtain ⟨hbuilds, hkeep⟩ := registerItem_ok htruth h1
    have hrest := ih h2
    rw [hkeep] at hrest
    exact .cons hbuilds hrest

end Versatile.FlexIDMnger
