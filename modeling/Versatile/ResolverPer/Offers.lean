import Versatile.Diversity.Granted
import Versatile.ResolverPer.Splitting

/-!
# The services of an update

The loop of `Update` is the same in both resolvers of 2016 but for the types it knows: for each
service a number is taken, the columns it needs beyond those counted before the loop are added,
and its row is inserted. On a database that fails nothing the loop goes through if one service at
most needs such columns and no text breaks its literal (`offerAll_ok`), and on one that refuses
every broken literal only then (`offerAll_of_ok`): a second service that needs such columns asks for
one the first has added.
-/

namespace Versatile.ResolverPer

open Py Diversity

/-- A service an update lists. -/
structure Offer where
  serviceType : String
  attributes : List String

/-- The value lists the service. -/
def IsOffer (v : Value) (o : Offer) : Prop :=
  v.get "serviceType" = .ok (.str o.serviceType) ∧
    ∃ a, v.get "attributes" = .ok a ∧ a.items = .ok o.attributes

/-- The ID of a service with a number: of the digits of its type, or `1` where it has none. -/
def serviceIDBy (digits : Option (String × String)) (manageNum : Nat) : String :=
  match digits with
  | some (cache, segment) => cache ++ manageStr manageNum ++ segment
  | none => "1"

/-- The texts of the service are read as they are. -/
structure Offer.ReadAsIs (o : Offer) : Prop where
  serviceType : readText o.serviceType = some o.serviceType
  attributes : ∀ text ∈ o.attributes, readText text = some text

instance (o : Offer) : Decidable o.ReadAsIs :=
  decidable_of_iff (readText o.serviceType = some o.serviceType ∧
    ∀ text ∈ o.attributes, readText text = some text) ⟨fun h => ⟨h.1, h.2⟩, fun h => ⟨h.1, h.2⟩⟩

/-- The service needs columns beyond those that were counted. -/
def Offer.Wide (attrCount : Nat) (o : Offer) : Prop := attrCount < o.attributes.length

instance (attrCount : Nat) : DecidablePred (Offer.Wide attrCount) := fun o =>
  inferInstanceAs (Decidable (attrCount < o.attributes.length))

/-- The columns there are when each service has those it needs. -/
def longest (attrs : Nat) (os : List Offer) : Nat :=
  os.foldl (fun n o => max n o.attributes.length) attrs

theorem longest_cons (attrs : Nat) (o : Offer) (os : List Offer) :
    longest attrs (o :: os) = longest (max attrs o.attributes.length) os := rfl

theorem le_longest (attrs : Nat) (os : List Offer) : attrs ≤ longest attrs os := by
  induction os generalizing attrs with
  | nil => exact Nat.le_refl _
  | cons o os ih => exact Nat.le_trans (Nat.le_max_left _ _) (ih _)

section Loop

variable (digitsOf : String → Option (String × String)) (deviceID : String) (attrCount : Nat)

/-- The row of a service with a number. -/
def offerRow (manageNum : Nat) (o : Offer) : Row :=
  serviceRow (serviceIDBy (digitsOf o.serviceType) manageNum) deviceID o.serviceType o.attributes

/-- The rows of some services, numbered on from `manageNum`. -/
def offerRows : Nat → List Offer → List Row
  | _, [] => []
  | manageNum, o :: os =>
      offerRow digitsOf deviceID (manageNum + 1) o :: offerRows (manageNum + 1) os

/-- One round of the loop. -/
def offer (o : Offer) : Handler Unit := do
  let manageNum ← nextManageNum
  addColumns (attrCount + 1) (o.attributes.length - attrCount)
  execute (.insert .Service (offerRow digitsOf deviceID manageNum o))

/-- The loop. -/
def offerAll : List Offer → Handler Unit
  | [] => pure ()
  | o :: os => do
      offer digitsOf deviceID attrCount o
      offerAll os

end Loop

/-! ## What one round does -/

variable {srv : Server} {digitsOf : String → Option (String × String)} {deviceID : String}
  {attrCount : Nat}

/-- Rows were added to what the connection sees, columns were added and numbers taken, and
nothing was answered. -/
structure Stores (srv : Server) (rows : List Row) (columns numbers : Nat) (s s' : State) :
    Prop where
  view : s'.view srv = s.view srv ++ rows.map fun r => (Table.Service, r)
  attrs : s'.world.attrs = s.world.attrs + columns
  manageNum : s'.world.manageNum = s.world.manageNum + numbers
  acks : ∀ m, acks m s'.log = acks m s.log

theorem Stores.refl (srv : Server) (s : State) : Stores srv [] 0 0 s s :=
  ⟨by simp, rfl, rfl, fun _ => rfl⟩

theorem Stores.trans {rows rows' : List Row} {columns columns' numbers numbers' : Nat}
    {s s' s'' : State} (h : Stores srv rows columns numbers s s')
    (h' : Stores srv rows' columns' numbers' s' s'') :
    Stores srv (rows ++ rows') (columns + columns') (numbers + numbers') s s'' where
  view := by rw [h'.view, h.view, List.map_append, List.append_assoc]
  attrs := by rw [h'.attrs, h.attrs, Nat.add_assoc]
  manageNum := by rw [h'.manageNum, h.manageNum, Nat.add_assoc]
  acks := fun m => (h'.acks m).trans (h.acks m)

/-- The commit before `ALTER TABLE` is not seen by its own connection. -/
theorem stores_commitOpen (srv : Server) (s : State) : Stores srv [] 0 0 s (s.commitOpen srv) := by
  rw [State.commitOpen]
  split
  · exact Stores.refl srv s
  · exact ⟨by simp [State.view, State.commit, applyAll], rfl, rfl, fun m => by
      simp [State.commit]⟩

/-- The next column is added. -/
theorem alter_next (srv : Server) {n : Nat} {s : State} (hn : n = s.world.attrs + 1) :
    ∃ s', perform srv .never (execute (.alter n)) s = (.ok (), s') ∧ Stores srv [] 1 0 s s' := by
  have hcommit := stores_commitOpen srv s.tick
  have hnext : n = (s.tick.commitOpen srv).world.attrs + 1 := by
    rw [hcommit.attrs, hn]
    rfl
  refine ⟨(s.tick.commitOpen srv).addAttr, ?_, ?_⟩
  · rw [execute_never]
    simp only [Statement.eval, if_pos hnext]
    rfl
  · exact ⟨hcommit.view, congrArg (· + 1) hcommit.attrs, hcommit.manageNum, hcommit.acks⟩

/-- Any other column is not. -/
theorem alter_other (srv : Server) {n : Nat} {s : State} (hn : n ≠ s.world.attrs + 1) :
    (perform srv .never (execute (.alter n)) s).1 ≠ .ok () := by
  have hother : n ≠ (s.tick.commitOpen srv).world.attrs + 1 := by
    rw [(stores_commitOpen srv s.tick).attrs]
    exact hn
  rw [execute_never]
  simp only [Statement.eval, if_neg hother]
  simp [answered, Except.mapError]

/-- **Columns are added** from the next one on. -/
theorem addColumns_never (srv : Server) (count : Nat) {n : Nat} {s : State}
    (hn : n = s.world.attrs + 1) :
    ∃ s', perform srv .never (addColumns n count) s = (.ok (), s') ∧
      Stores srv [] count 0 s s' ∧
      tried srv .never (addColumns n count) s = List.range' n count := by
  induction count generalizing n s with
  | zero => exact ⟨s, rfl, Stores.refl srv s, rfl⟩
  | succ count ih =>
    obtain ⟨s1, halter, hstores⟩ := alter_next srv hn
    obtain ⟨s2, hrest, hstores', htried⟩ := ih (n := n + 1) (s := s1) (by
      rw [hstores.attrs, hn])
    refine ⟨s2, ?_, ?_, ?_⟩
    · rw [addColumns, perform_bind_ok halter, hrest]
    · have := hstores.trans hstores'
      rwa [Nat.add_comm 1 count] at this
    · rw [addColumns, tried_bind_ok halter, htried, tried_execute]
      rfl

/-- The rows are what these texts are read as. -/
abbrev ReadRows : List Row → List Row → Prop := List.Forall₂ fun row r => readTexts row = some r

/-- A row that fits is inserted, as what its texts are read as. -/
theorem insert_offer (srv : Server) {manageNum : Nat} {o : Offer} {r : Row} {s : State}
    (hread : readTexts (offerRow digitsOf deviceID manageNum o) = some r)
    (hfits : o.attributes.length ≤ s.world.attrs) :
    ∃ s', perform srv .never
        (execute (.insert .Service (offerRow digitsOf deviceID manageNum o))) s = (.ok (), s') ∧
      Stores srv [r] 0 0 s s' := by
  have hcolumns : s.tick.world.hasColumns .Service (offerRow digitsOf deviceID manageNum o) =
    true := hasColumns_serviceRow hfits
  refine ⟨s.tick.push [.insert .Service r], ?_, ?_⟩
  · rw [execute_never, eval_insert hread hcolumns]
    rfl
  · refine ⟨?_, rfl, rfl, fun _ => rfl⟩
    simp [State.view, State.push, State.tick, applyAll, Change.apply]

/-- **One round up to its insertion**, for a service that needs no further columns, or where none
were added yet. -/
theorem offer_insert (srv : Server) (digitsOf : String → Option (String × String))
    (deviceID : String) {o : Offer} {s : State} (hcount : attrCount ≤ s.world.attrs)
    (h : o.Wide attrCount → s.world.attrs = attrCount) :
    ∃ s1, perform srv .never (offer digitsOf deviceID attrCount o) s = perform srv .never
        (execute (.insert .Service (offerRow digitsOf deviceID (s.world.manageNum + 1) o))) s1 ∧
      Stores srv [] (max s.world.attrs o.attributes.length - s.world.attrs) 1 s s1 ∧
      o.attributes.length ≤ s1.world.attrs ∧
      tried srv .never (offer digitsOf deviceID attrCount o) s = List.range' (s.world.attrs + 1)
        (max s.world.attrs o.attributes.length - s.world.attrs) := by
  have hmanage : Stores srv [] 0 1 s s.manage := ⟨by simp [State.view, State.manage], rfl, rfl,
    fun _ => rfl⟩
  -- the columns counted from the number read before the loop are those that are missing
  have hcolumns : ∃ s1, perform srv .never
        (addColumns (attrCount + 1) (o.attributes.length - attrCount)) s.manage = (.ok (), s1) ∧
      Stores srv [] (max s.world.attrs o.attributes.length - s.world.attrs) 0 s.manage s1 ∧
      tried srv .never (addColumns (attrCount + 1) (o.attributes.length - attrCount)) s.manage =
        List.range' (s.world.attrs + 1)
          (max s.world.attrs o.attributes.length - s.world.attrs) := by
    by_cases hwide : o.Wide attrCount
    · have heq := h hwide
      have hlt : attrCount < o.attributes.length := hwide
      have hmax : max s.world.attrs o.attributes.length = o.attributes.length := by omega
      rw [hmax, heq]
      exact addColumns_never srv _ (congrArg (· + 1) heq.symm)
    · have hle : o.attributes.length ≤ attrCount := Nat.not_lt.mp hwide
      have hnone : o.attributes.length - attrCount = 0 := by omega
      have hmax : max s.world.attrs o.attributes.length - s.world.attrs = 0 := by omega
      rw [hnone, hmax]
      exact ⟨s.manage, rfl, Stores.refl srv _, rfl⟩
  obtain ⟨s1, hadd, hstores, htried⟩ := hcolumns
  have hnum : perform srv .never nextManageNum s = (.ok (s.world.manageNum + 1), s.manage) :=
    perform_nextManageNum s
  refine ⟨s1, ?_, ?_, ?_, ?_⟩
  · rw [offer, perform_bind_ok hnum, perform_bind_ok hadd]
  · have hall := hmanage.trans hstores
    simpa only [List.nil_append, Nat.zero_add, Nat.add_zero] using hall
  · rw [hstores.attrs]
    have hattrs : s.manage.world.attrs = s.world.attrs := rfl
    omega
  · rw [offer, tried_bind_ok hnum, tried_bind_ok hadd, htried, tried_execute]
    exact List.append_nil _

/-- **One round goes through**, if no text breaks its literal. -/
theorem offer_ok (srv : Server) {o : Offer} {r : Row} {s : State}
    (hread : readTexts (offerRow digitsOf deviceID (s.world.manageNum + 1) o) = some r)
    (hcount : attrCount ≤ s.world.attrs) (h : o.Wide attrCount → s.world.attrs = attrCount) :
    ∃ s', perform srv .never (offer digitsOf deviceID attrCount o) s = (.ok (), s') ∧
      Stores srv [r] (max s.world.attrs o.attributes.length - s.world.attrs) 1 s s' ∧
      tried srv .never (offer digitsOf deviceID attrCount o) s = List.range' (s.world.attrs + 1)
        (max s.world.attrs o.attributes.length - s.world.attrs) := by
  obtain ⟨s1, hinsert, hstores, hfits, htried⟩ :=
    offer_insert srv digitsOf deviceID hcount h
  obtain ⟨s2, hdone, hrow⟩ := insert_offer srv hread hfits
  refine ⟨s2, hinsert.trans hdone, ?_, htried⟩
  simpa only [List.nil_append, Nat.add_zero] using hstores.trans hrow

/-- **A second service that needs columns stops the loop**: the first of them is there. -/
theorem offer_not_ok (srv : Server) (digitsOf : String → Option (String × String))
    (deviceID : String) {o : Offer} {s : State} (hwide : o.Wide attrCount)
    (hadded : attrCount < s.world.attrs) :
    (perform srv .never (offer digitsOf deviceID attrCount o) s).1 ≠ .ok () := by
  intro hok
  obtain ⟨count, hcount⟩ : ∃ count, o.attributes.length - attrCount = count + 1 := by
    have hlt : attrCount < o.attributes.length := hwide
    exact ⟨o.attributes.length - attrCount - 1, by omega⟩
  rcases hrun : perform srv .never (offer digitsOf deviceID attrCount o) s with ⟨r, s'⟩
  obtain rfl : r = .ok () := by rw [← hok, hrun]
  rw [offer, hcount, addColumns] at hrun
  obtain ⟨_, s1, hnum, hrun⟩ := perform_bind_eq_ok.mp hrun
  obtain ⟨_, s2, hcolumns, _⟩ := perform_bind_eq_ok.mp hrun
  obtain ⟨_, s3, halter, _⟩ := perform_bind_eq_ok.mp hcolumns
  have hattrs : s1.world.attrs = s.world.attrs := by
    obtain ⟨_, rfl⟩ := Prod.mk.inj hnum
    rfl
  exact alter_other srv (by omega : attrCount + 1 ≠ s1.world.attrs + 1) (congrArg Prod.fst halter)

/-! ## What the loop does -/

/-- What the loop needs: one service at most needs further columns, and none once some were
added. -/
def OneWide (attrCount attrs : Nat) (os : List Offer) : Prop :=
  os.countP (Offer.Wide attrCount) + (if attrCount < attrs then 1 else 0) ≤ 1

/-- Seen from its first service, which leaves the columns it needs. -/
theorem oneWide_cons {attrs : Nat} (hcount : attrCount ≤ attrs) (o : Offer) (os : List Offer) :
    OneWide attrCount attrs (o :: os) ↔ (o.Wide attrCount → attrs = attrCount) ∧
      OneWide attrCount (max attrs o.attributes.length) os := by
  rw [OneWide, OneWide, List.countP_cons]
  by_cases hwide : o.Wide attrCount
  · have hlt : attrCount < o.attributes.length := hwide
    have hmore : attrCount < max attrs o.attributes.length := by omega
    rw [if_pos (decide_eq_true hwide), if_pos hmore]
    by_cases hsame : attrs = attrCount
    · rw [if_neg (by omega)]
      simp only [hsame, implies_true, true_and]
    · rw [if_pos (by omega)]
      exact iff_of_false (by omega) fun h => hsame (h.1 hwide)
  · have hle : o.attributes.length ≤ attrCount := Nat.not_lt.mp hwide
    have hsame : max attrs o.attributes.length = attrs := by omega
    simp [hwide, hsame]

/-- **The loop goes through**, each column being asked for once, in order. -/
theorem offerAll_ok (srv : Server) {os : List Offer} {read : List Row} {s : State}
    (hread : ReadRows (offerRows digitsOf deviceID s.world.manageNum os) read)
    (hcount : attrCount ≤ s.world.attrs) (h : OneWide attrCount s.world.attrs os) :
    ∃ s', perform srv .never (offerAll digitsOf deviceID attrCount os) s = (.ok (), s') ∧
      Stores srv read (longest s.world.attrs os - s.world.attrs) os.length s s' ∧
      tried srv .never (offerAll digitsOf deviceID attrCount os) s =
        List.range' (s.world.attrs + 1) (longest s.world.attrs os - s.world.attrs) := by
  induction os generalizing s read with
  | nil =>
    have hnone : longest s.world.attrs [] - s.world.attrs = 0 := Nat.sub_self _
    obtain rfl := List.forall₂_nil_left_iff.mp hread
    rw [hnone]
    exact ⟨s, rfl, Stores.refl srv s, rfl⟩
  | cons o os ih =>
    obtain ⟨hfirst, hrest⟩ := (oneWide_cons hcount o os).mp h
    obtain ⟨r, read', hreadFirst, hreadRest, rfl⟩ := List.forall₂_cons_left_iff.mp hread
    obtain ⟨s1, hoffer, hstores, htried⟩ := offer_ok srv hreadFirst hcount hfirst
    have hattrs : s1.world.attrs = max s.world.attrs o.attributes.length := by
      rw [hstores.attrs]
      omega
    rw [← hattrs] at hrest
    rw [← hstores.manageNum] at hreadRest
    obtain ⟨s2, hloop, hstores', htried'⟩ := ih hreadRest (by omega) hrest
    have hlongest : longest s1.world.attrs os = longest s.world.attrs (o :: os) := by
      rw [hattrs, longest_cons]
    have hle := le_longest s1.world.attrs os
    refine ⟨s2, ?_, ?_, ?_⟩
    · rw [offerAll, perform_bind_ok hoffer, hloop]
    · have hall := hstores.trans hstores'
      rw [hlongest, Nat.add_comm 1 os.length] at hall
      have hcolumns : max s.world.attrs o.attributes.length - s.world.attrs +
          (longest s.world.attrs (o :: os) - s1.world.attrs) =
            longest s.world.attrs (o :: os) - s.world.attrs := by omega
      rw [hcolumns] at hall
      exact hall
    · rw [offerAll, tried_bind_ok hoffer, htried, htried', hlongest, hattrs]
      have hstart : max s.world.attrs o.attributes.length + 1 = s.world.attrs + 1 +
        1 * (max s.world.attrs o.attributes.length - s.world.attrs) := by omega
      rw [hstart, List.range'_append]
      congr 1
      omega

/-- **A loop that went through** on a server that refuses broken literals had one service at most
that needs further columns, and no text that breaks its literal. -/
theorem offerAll_of_ok {os : List Offer} {s s' : State} (hexact : ∀ row, srv.Exact .Service row)
    (hcount : attrCount ≤ s.world.attrs)
    (h : perform srv .never (offerAll digitsOf deviceID attrCount os) s = (.ok (), s')) :
    OneWide attrCount s.world.attrs os ∧
      ∃ read, ReadRows (offerRows digitsOf deviceID s.world.manageNum os) read := by
  induction os generalizing s with
  | nil =>
    refine ⟨?_, [], .nil⟩
    rw [OneWide, List.countP_nil]
    split <;> omega
  | cons o os ih =>
    obtain ⟨_, s1, hoffer, hloop⟩ := perform_bind_eq_ok.mp h
    have hfirst : o.Wide attrCount → s.world.attrs = attrCount := by
      intro hwide
      by_contra hne
      exact offer_not_ok srv digitsOf deviceID hwide (by omega : attrCount < s.world.attrs)
        (congrArg Prod.fst hoffer)
    obtain ⟨s0, hinsert, _⟩ := offer_insert srv digitsOf deviceID hcount hfirst
    obtain ⟨r, hread⟩ :
        ∃ r, readTexts (offerRow digitsOf deviceID (s.world.manageNum + 1) o) = some r := by
      have heval := execute_ok (hinsert.symm.trans hoffer)
      rcases eval_insert_cases srv .Service
        (offerRow digitsOf deviceID (s.world.manageNum + 1) o) s0.tick with ⟨code, hcase⟩ |
        ⟨new, hreads, _⟩
      · exact absurd (heval.symm.trans hcase) (by simp)
      · obtain ⟨r, hread, _⟩ := hexact _ _ _ hreads
        exact ⟨r, hread⟩
    obtain ⟨s1', hoffer', hstores, _⟩ := offer_ok srv hread hcount hfirst
    obtain rfl : s1' = s1 := (Prod.mk.inj (hoffer'.symm.trans hoffer)).2
    have hattrs : s1'.world.attrs = max s.world.attrs o.attributes.length := by
      rw [hstores.attrs]
      omega
    obtain ⟨hrest, read, hreadRest⟩ := ih (by rw [hattrs]; omega) hloop
    rw [hattrs] at hrest
    rw [hstores.manageNum] at hreadRest
    exact ⟨(oneWide_cons hcount o os).mpr ⟨hfirst, hrest⟩, r :: read, .cons hread hreadRest⟩

/-! ## The rows -/

/-- The row is that of a service of a device: it has the attributes in `attr1`, `attr2` and so
on, and no other attribute column. -/
structure IsRowOf (deviceID : String) (o : Offer) (row : Row) : Prop where
  deviceID : Row.cell row "deviceID" = some deviceID
  serviceType : Row.cell row "serviceType" = some o.serviceType
  attributes : ∀ n, Row.cell row (attrName (n + 1)) = o.attributes[n]?

theorem attrName_injective : Function.Injective attrName := fun _ _ h =>
  Decimal.toString_nat_injective ((String.append_right_inj "attr").mp h)

/-- An attribute column is none of the others. -/
theorem attrName_ne {col : String} (h : col.toList.head? ≠ some 'a') (n : Nat) :
    attrName n ≠ col := by
  intro heq
  obtain rfl := heq
  exact h (by rw [attrName, String.toList_append]; rfl)

theorem attributes_get (texts : List String) (k n : Nat) :
    Dict.get (texts.mapIdx fun i text => (attrName (k + i), text)) (attrName (k + n)) =
      texts[n]? := by
  induction texts generalizing k n with
  | nil => rfl
  | cons text texts ih =>
    rw [List.mapIdx_cons, Dict.get_cons]
    cases n with
    | zero => simp
    | succ n =>
      have hne : attrName (k + (n + 1)) ≠ attrName (k + 0) := fun h => by
        have := attrName_injective h
        omega
      rw [if_neg hne, List.getElem?_cons_succ]
      have hshift := ih (k + 1) n
      simpa only [Nat.add_assoc, Nat.add_comm 1] using hshift

theorem offerRow_isRowOf (manageNum : Nat) (o : Offer) :
    IsRowOf deviceID o (offerRow digitsOf deviceID manageNum o) := by
  refine ⟨rfl, rfl, fun n => ?_⟩
  have hget := attributes_get o.attributes 1 n
  rw [Nat.add_comm 1 n] at hget
  simp only [offerRow, serviceRow, Row.cell, List.cons_append, List.nil_append, Dict.get_cons,
    if_neg (attrName_ne (by decide : "serviceID".toList.head? ≠ _) _),
    if_neg (attrName_ne (by decide : "deviceID".toList.head? ≠ _) _),
    if_neg (attrName_ne (by decide : "serviceType".toList.head? ≠ _) _)]
  simpa only [Nat.add_comm 1] using hget

/-- **What is read is the row of its service** exactly if its texts are read as they are. -/
theorem read_isRowOf_iff {manageNum : Nat} {o : Offer} {r : Row} (hid : Plain deviceID)
    (hread : readTexts (offerRow digitsOf deviceID manageNum o) = some r) :
    IsRowOf deviceID o r ↔ o.ReadAsIs := by
  have hcell : ∀ column, Row.cell r column =
      (Row.cell (offerRow digitsOf deviceID manageNum o) column).bind readText :=
    readTexts_get hread
  have hrow : IsRowOf deviceID o (offerRow digitsOf deviceID manageNum o) :=
    offerRow_isRowOf manageNum o
  refine ⟨fun h => ⟨?_, fun text htext => ?_⟩, fun h => ⟨?_, ?_, fun n => ?_⟩⟩
  · have htype := h.serviceType
    rwa [hcell, hrow.serviceType] at htype
  · obtain ⟨n, hn⟩ := List.getElem?_of_mem htext
    have hattr := h.attributes n
    rwa [hcell, hrow.attributes, hn] at hattr
  · rw [hcell, hrow.deviceID]
    exact readText_plain hid
  · rw [hcell, hrow.serviceType]
    exact h.serviceType
  · rw [hcell, hrow.attributes]
    cases hn : o.attributes[n]? with
    | none => rfl
    | some text => exact h.attributes text (List.mem_of_getElem? hn)

/-- Texts that are read as they are make a row that is. -/
theorem readTexts_offerRow {manageNum : Nat} {o : Offer} (hid : Plain deviceID)
    (hserviceID : Plain (serviceIDBy (digitsOf o.serviceType) manageNum)) (h : o.ReadAsIs) :
    readTexts (offerRow digitsOf deviceID manageNum o) =
      some (offerRow digitsOf deviceID manageNum o) := by
  refine readTexts_self_iff.mpr fun c hc => ?_
  rcases List.mem_append.mp hc with hc | hc
  · simp only [List.mem_cons, List.not_mem_nil, or_false] at hc
    rcases hc with rfl | rfl | rfl
    · exact readText_plain hserviceID
    · exact readText_plain hid
    · exact h.serviceType
  · obtain ⟨i, hi, rfl⟩ := List.mem_mapIdx.mp hc
    exact h.attributes _ (List.getElem_mem hi)

/-- The rows that are read belong to their services, exactly if the texts are read as they are. -/
theorem reads_isRowOf_iff (hid : Plain deviceID) {manageNum : Nat} {os : List Offer}
    {read : List Row} (hread : ReadRows (offerRows digitsOf deviceID manageNum os) read) :
    List.Forall₂ (IsRowOf deviceID) os read ↔ ∀ o ∈ os, o.ReadAsIs := by
  induction os generalizing manageNum read with
  | nil =>
    obtain rfl := List.forall₂_nil_left_iff.mp hread
    exact iff_of_true .nil (by simp)
  | cons o os ih =>
    obtain ⟨r, read', hfirst, hrest, rfl⟩ := List.forall₂_cons_left_iff.mp hread
    rw [List.forall₂_cons, List.forall_mem_cons, read_isRowOf_iff hid hfirst, ih hrest]

/-- Services whose texts are read as they are have rows that are. -/
theorem readRows_offerRows (hid : Plain deviceID)
    (hserviceID : ∀ t n, Plain (serviceIDBy (digitsOf t) n)) {os : List Offer}
    (h : ∀ o ∈ os, o.ReadAsIs) (manageNum : Nat) :
    ReadRows (offerRows digitsOf deviceID manageNum os)
      (offerRows digitsOf deviceID manageNum os) := by
  induction os generalizing manageNum with
  | nil => exact .nil
  | cons o os ih =>
    obtain ⟨hfirst, hrest⟩ := List.forall_mem_cons.mp h
    exact .cons (readTexts_offerRow hid (hserviceID _ _) hfirst) (ih hrest _)

end Versatile.ResolverPer
