import Versatile.Py.Dumps

/-!
# The round trip of `json.dumps` and `json.loads`

A value is `Readable` by a decoder with room for so many levels if its floats are read back and
no name is a member twice. `json.loads` returns such values only (`loads_readable`), and reads
each of them from what `json.dumps` writes of it (`loads_dumps`).
-/

namespace Py.Json

/-! ## Values -/

/-- A value that a decoder with room for `n` levels can come by: its floats are read back, and no
name is a member twice. -/
inductive Readable (float : String → String × Option Int) : Nat → Value → Prop where
  | none (n : Nat) : Readable float n .none
  | bool (n : Nat) (b : Bool) : Readable float n (.bool b)
  | int (n : Nat) (i : Int) : Readable float n (.int i)
  | float (n : Nat) {r : String} {int? : Option Int} :
      ReadsFloat float r int? → Readable float n (.float r int?)
  | str (n : Nat) (s : String) : Readable float n (.str s)
  | list {n : Nat} {xs : List Value} :
      (∀ x ∈ xs, Readable float n x) → Readable float (n + 1) (.list xs)
  | dict {n : Nat} {kvs : List (String × Value)} :
      (Dict.keys kvs).Nodup → (∀ e ∈ kvs, Readable float n e.2) →
      Readable float (n + 1) (.dict kvs)

variable {float : String → String × Option Int}

/-- More room does no harm. -/
theorem Readable.mono {n m : Nat} {v : Value} (h : Readable float n v) (hle : n ≤ m) :
    Readable float m v := by
  induction h generalizing m with
  | none n => exact .none m
  | bool n b => exact .bool m b
  | int n i => exact .int m i
  | float n hr => exact .float m hr
  | str n s => exact .str m s
  | list _ ih =>
    obtain ⟨m, rfl⟩ := Nat.exists_eq_add_of_lt (show 0 < m by omega)
    exact Nat.zero_add m ▸ .list fun x hx => ih x hx (by omega)
  | dict hkeys _ ih =>
    obtain ⟨m, rfl⟩ := Nat.exists_eq_add_of_lt (show 0 < m by omega)
    exact Nat.zero_add m ▸ .dict hkeys fun e he => ih e he (by omega)

theorem skip_cons {c : Char} (h : isWhitespace c = false) (cs : List Char) :
    skip (c :: cs) = c :: cs := by
  rw [skip, List.dropWhile_cons, h]
  rfl

theorem skip_space (cs : List Char) : skip (' ' :: cs) = skip cs := rfl

/-- A text that begins with something of a value that is no bracket. -/
def LeafText (cs : List Char) : Prop :=
  ∃ c rest, cs = c :: rest ∧ isWhitespace c = false ∧ c ≠ ']' ∧ c ≠ '[' ∧ c ≠ '\x7b'

theorem leafText_numeral {sign ds cs : List Char} (hsign : SignText sign) (hds : IntText ds) :
    LeafText (sign ++ ds ++ cs) := by
  obtain ⟨d, ds', rfl⟩ := List.exists_cons_of_ne_nil hds.nonempty
  have hd := hds.digits d List.mem_cons_self
  have hne : ∀ c : Char, c.isDigit = false → d ≠ c := by
    intro c hc heq
    rw [heq, hc] at hd
    exact absurd hd (by simp)
  rcases hsign with rfl | rfl
  · refine ⟨d, ds' ++ cs, rfl, ?_, hne ']' rfl, hne '[' rfl, hne '\x7b' rfl⟩
    simp [isWhitespace, hne ' ' rfl, hne '\t' rfl, hne '\n' rfl, hne '\r' rfl]
  · exact ⟨'-', d :: ds' ++ cs, rfl, rfl, by decide, by decide, by decide⟩

theorem leafText_int (n : Int) : LeafText (toString n).toList := by
  obtain ⟨sign, ds, htext, hsign, hds⟩ := int_text n
  rw [htext, ← List.append_nil (sign ++ ds)]
  exact leafText_numeral hsign hds

theorem leafText_float {r : String} {int? : Option Int} (h : ReadsFloat float r int?) :
    LeafText (encodeFloat r) := by
  rcases h with ⟨hspecial, _⟩ | ⟨sign, ds, frac, exp, htext, hsign, hds, _⟩
  · rcases hspecial with rfl | rfl | rfl <;>
      exact ⟨_, _, rfl, rfl, by decide, by decide, by decide⟩
  · have hsplit : r.toList = sign ++ ds ++ (frac ++ exp) := by rw [htext, List.append_assoc]
    rw [encodeFloat_numeral hsplit hsign hds, hsplit]
    exact leafText_numeral hsign hds

/-- The text of a value begins with a character that is neither space nor the end of an array. -/
theorem encode_head {n : Nat} {v : Value} (h : Readable float n v) :
    ∃ c rest, encode v = c :: rest ∧ isWhitespace c = false ∧ c ≠ ']' := by
  have hleaf : ∀ {cs}, LeafText cs → ∃ c rest, cs = c :: rest ∧ isWhitespace c = false ∧ c ≠ ']' :=
    fun ⟨c, rest, heq, hspace, hend, _⟩ => ⟨c, rest, heq, hspace, hend⟩
  cases h with
  | none n => exact ⟨_, _, rfl, rfl, by decide⟩
  | bool n b => cases b <;> exact ⟨_, _, rfl, rfl, by decide⟩
  | int n i => exact hleaf (leafText_int i)
  | float n hr => exact hleaf (leafText_float hr)
  | str n s => exact ⟨_, _, rfl, rfl, by decide⟩
  | list _ => exact ⟨_, _, rfl, rfl, by decide⟩
  | dict _ _ => exact ⟨_, _, rfl, rfl, by decide⟩

/-- A leaf is scanned as one, whatever room there is. -/
theorem scan_once_leaf (n : Nat) {cs : List Char} (h : LeafText cs) (rest : List Char) :
    scan_once float n (cs ++ rest) = scanLeaf float (cs ++ rest) := by
  obtain ⟨c, cs', rfl, _, _, harray, hobject⟩ := h
  cases n with
  | zero =>
    rw [scan_once]
    · intro tail _ heq
      exact harray (List.cons.inj heq).1
    · intro tail _ heq
      exact hobject (List.cons.inj heq).1
    · intro limit tail hlimit
      exact absurd hlimit (by simp)
    · intro limit tail hlimit
      exact absurd hlimit (by simp)
  | succ n =>
    rw [scan_once]
    · intro tail hzero
      exact absurd hzero (by simp)
    · intro tail hzero
      exact absurd hzero (by simp)
    · intro limit tail _ heq
      exact harray (List.cons.inj heq).1
    · intro limit tail _ heq
      exact hobject (List.cons.inj heq).1

/-- A reader reads back the text of a value. -/
def Reads (scan : Scanner Value) (v : Value) : Prop :=
  ∀ cs, Delimited cs → scan (encode v ++ cs) = .ok (v, cs)

/-- **The loop over the items of an array** reads them back, one round for each. -/
theorem arrayItems_encode {scan : Scanner Value} {n : Nat} {xs : List Value} :
    ∀ {x : Value} {rounds : Nat} {text : List Char} (cs : List Char),
      (∀ y ∈ x :: xs, Reads scan y ∧ Readable float n y) → xs.length < rounds →
      skip text = encode x ++ (encodeMoreItems xs ++ ']' :: cs) →
      arrayItems scan rounds text = .ok (x :: xs, cs) := by
  induction xs with
  | nil =>
    intro x rounds text cs hscan hrounds htext
    obtain ⟨rounds, rfl⟩ : ∃ k, rounds = k + 1 := ⟨rounds - 1, by simp at hrounds; omega⟩
    have hread := (hscan x List.mem_cons_self).1 (']' :: cs) (delimited_cons (by simp))
    rw [arrayItems, htext]
    show (scan (encode x ++ (']' :: cs)) >>= _) = _
    rw [hread]
    rfl
  | cons y ys ih =>
    intro x rounds text cs hscan hrounds htext
    obtain ⟨rounds, rfl⟩ : ∃ k, rounds = k + 1 := ⟨rounds - 1, by simp at hrounds; omega⟩
    have hread := (hscan x List.mem_cons_self).1
      (',' :: ' ' :: (encode y ++ encodeMoreItems ys) ++ ']' :: cs) (delimited_cons (by simp))
    have hnext : skip (' ' :: (encode y ++ encodeMoreItems ys) ++ ']' :: cs) =
        encode y ++ (encodeMoreItems ys ++ ']' :: cs) := by
      obtain ⟨c, rest, hhead, hspace, _⟩ := encode_head (hscan y (by simp)).2
      rw [List.cons_append, skip_space, List.append_assoc, hhead]
      exact skip_cons hspace _
    have hrest := ih cs (fun z hz => hscan z (List.mem_cons_of_mem _ hz))
      (show ys.length < rounds by simp at hrounds; omega) hnext
    rw [arrayItems, htext]
    show (scan (encode x ++ _) >>= _) = _
    rw [encodeMoreItems, hread]
    show (arrayItems scan rounds (' ' :: (encode y ++ encodeMoreItems ys) ++ ']' :: cs) >>= _) = _
    rw [hrest]
    rfl

/-- Every item takes room in the text. -/
theorem length_encodeMoreItems (xs : List Value) : xs.length ≤ (encodeMoreItems xs).length := by
  induction xs with
  | nil => exact Nat.le_refl 0
  | cons x xs ih =>
    rw [encodeMoreItems, List.length_cons, List.length_cons, List.length_cons,
      List.length_append]
    omega

/-- An array that is not empty. -/
theorem array_items {scan : Scanner Value} {c : Char} {text : List Char}
    (hspace : isWhitespace c = false) (hend : c ≠ ']') :
    array scan (c :: text) = (do
      let (vs, cs) ← arrayItems scan ((c :: text).length + 1) (c :: text)
      return (.list vs, cs)) := by
  rw [array, skip_cons hspace]
  split
  · rename_i heq
    exact absurd (List.cons.inj heq).1 hend
  · rfl

/-- The text of a member behind the quote that opens its name. -/
def memberText (k : String) (v : Value) (cs : List Char) : List Char :=
  k.toList.flatMap jsonChar ++ '"' :: ':' :: ' ' :: (encode v ++ cs)

/-- One round of the loop over the members of an object. -/
theorem members_member {scan : Scanner Value} {n rounds : Nat} {d : Dict String Value}
    {k : String} {v : Value} {text cs : List Char} (hread : Reads scan v)
    (hv : Readable float n v) (hcs : Delimited cs) (htext : skip text = '"' :: memberText k v cs) :
    members scan (rounds + 1) d text =
      match skip cs with
      | '\x7d' :: cs => .ok (d.set k v, cs)
      | ',' :: cs => members scan rounds (d.set k v) cs
      | _ => .error (.raised "Expecting , delimiter") := by
  have hvalue : skip (' ' :: (encode v ++ cs)) = encode v ++ cs := by
    obtain ⟨c, rest, hhead, hspace, _⟩ := encode_head hv
    rw [skip_space, hhead]
    exact skip_cons hspace _
  have hcolon : ∀ t, skip (':' :: t) = ':' :: t := skip_cons rfl
  rw [members, htext]
  simp only [memberText, scanstring_encode, bind, Except.bind, hcolon, hvalue, hread cs hcs]
  rfl

theorem encodeString_append (k : String) (v : Value) (cs : List Char) :
    encodeString k ++ ':' :: ' ' :: (encode v ++ cs) = '"' :: memberText k v cs := by
  simp [encodeString, memberText]

theorem moreMembers_append (k : String) (v : Value) (kvs : List (String × Value))
    (cs : List Char) : encodeMoreMembers ((k, v) :: kvs) ++ cs =
      ',' :: ' ' :: '"' :: memberText k v (encodeMoreMembers kvs ++ cs) := by
  rw [← encodeString_append]
  simp [encodeMoreMembers]

/-- A name that comes once is none of those before it. -/
theorem name_new {d kvs : List (String × Value)} {k : String} {v : Value}
    (h : (Dict.keys (d ++ (k, v) :: kvs)).Nodup) : k ∉ Dict.keys d := by
  intro hmem
  have hsplit : Dict.keys (d ++ (k, v) :: kvs) = Dict.keys d ++ k :: Dict.keys kvs := by
    simp [Dict.keys]
  rw [hsplit] at h
  exact (List.nodup_append.mp h).2.2 k hmem k List.mem_cons_self rfl

/-- Every member takes room in the text. -/
theorem length_encodeMoreMembers (kvs : List (String × Value)) :
    kvs.length ≤ (encodeMoreMembers kvs).length := by
  induction kvs with
  | nil => exact Nat.le_refl 0
  | cons e kvs ih =>
    obtain ⟨k, v⟩ := e
    have htext := moreMembers_append k v kvs []
    rw [List.append_nil] at htext
    rw [htext, List.length_cons, List.length_cons, List.length_cons, memberText]
    simp only [List.length_append, List.length_cons]
    omega

/-- An object that is not empty. -/
theorem object_members {scan : Scanner Value} (text : List Char) :
    object scan ('"' :: text) = (do
      let (d, cs) ← members scan (('"' :: text).length + 1) [] ('"' :: text)
      return (.dict d, cs)) := rfl

/-- **The loop over the members of an object** writes them into the dictionary, one by one. -/
theorem members_encode {scan : Scanner Value} {n : Nat} {kvs : List (String × Value)} :
    ∀ {k : String} {v : Value} {rounds : Nat} {d : Dict String Value} {text : List Char}
      (cs : List Char), (∀ e ∈ (k, v) :: kvs, Reads scan e.2 ∧ Readable float n e.2) →
      (Dict.keys (d ++ (k, v) :: kvs)).Nodup → kvs.length < rounds →
      skip text = '"' :: memberText k v (encodeMoreMembers kvs ++ '\x7d' :: cs) →
      members scan rounds d text = .ok (d ++ (k, v) :: kvs, cs) := by
  induction kvs with
  | nil =>
    intro k v rounds d text cs hscan hkeys hrounds htext
    obtain ⟨rounds, rfl⟩ : ∃ k, rounds = k + 1 := ⟨rounds - 1, by simp at hrounds; omega⟩
    obtain ⟨hread, hv⟩ := hscan (k, v) List.mem_cons_self
    have hnew := name_new hkeys
    rw [members_member hread hv (delimited_cons (by simp)) htext]
    show Except.ok (Dict.set d k v, cs) = _
    rw [Dict.set_new hnew]
  | cons e kvs ih =>
    intro k v rounds d text cs hscan hkeys hrounds htext
    obtain ⟨k', v'⟩ := e
    obtain ⟨rounds, rfl⟩ : ∃ k, rounds = k + 1 := ⟨rounds - 1, by simp at hrounds; omega⟩
    obtain ⟨hread, hv⟩ := hscan (k, v) List.mem_cons_self
    have hnew := name_new hkeys
    have hassoc : d ++ [(k, v)] ++ (k', v') :: kvs = d ++ (k, v) :: (k', v') :: kvs := by simp
    have hnext : skip (' ' :: '"' :: memberText k' v' (encodeMoreMembers kvs ++ '\x7d' :: cs)) =
        '"' :: memberText k' v' (encodeMoreMembers kvs ++ '\x7d' :: cs) := rfl
    have hrest := ih cs (fun z hz => hscan z (List.mem_cons_of_mem _ hz)) (hassoc ▸ hkeys)
      (show kvs.length < rounds by simp at hrounds; omega) hnext
    rw [moreMembers_append] at htext
    rw [members_member hread hv (delimited_cons (by simp)) htext]
    show members scan rounds (Dict.set d k v) _ = _
    rw [Dict.set_new hnew, hrest, hassoc]

/-- **An array is read back**, if its items are. -/
theorem array_encode {scan : Scanner Value} {n : Nat} {xs : List Value} (cs : List Char)
    (hscan : ∀ y ∈ xs, Reads scan y ∧ Readable float n y) :
    array scan (encodeItems xs ++ [']'] ++ cs) = .ok (.list xs, cs) := by
  cases xs with
  | nil => rfl
  | cons x xs =>
    have htext : encodeItems (x :: xs) ++ [']'] ++ cs =
        encode x ++ (encodeMoreItems xs ++ ']' :: cs) := by simp [encodeItems]
    obtain ⟨c, rest, hhead, hspace, hend⟩ := encode_head (hscan x List.mem_cons_self).2
    have hlen := length_encodeMoreItems xs
    have hitems : arrayItems scan ((encode x ++ (encodeMoreItems xs ++ ']' :: cs)).length + 1)
        (encode x ++ (encodeMoreItems xs ++ ']' :: cs)) = .ok (x :: xs, cs) := by
      refine arrayItems_encode cs hscan ?_ ?_
      · rw [List.length_append, List.length_append]
        omega
      · rw [hhead]
        exact skip_cons hspace _
    rw [htext]
    rw [hhead, List.cons_append] at hitems ⊢
    rw [array_items hspace hend, hitems]
    rfl

/-- **An object is read back**, if its values are and no name stands there twice. -/
theorem object_encode {scan : Scanner Value} {n : Nat} {kvs : List (String × Value)}
    (cs : List Char) (hscan : ∀ e ∈ kvs, Reads scan e.2 ∧ Readable float n e.2)
    (hkeys : (Dict.keys kvs).Nodup) :
    object scan (encodeMembers kvs ++ ['\x7d'] ++ cs) = .ok (.dict kvs, cs) := by
  cases kvs with
  | nil => rfl
  | cons e kvs =>
    obtain ⟨k, v⟩ := e
    have htext : encodeMembers ((k, v) :: kvs) ++ ['\x7d'] ++ cs =
        '"' :: memberText k v (encodeMoreMembers kvs ++ '\x7d' :: cs) := by
      rw [← encodeString_append]
      simp [encodeMembers]
    have hlen := length_encodeMoreMembers kvs
    have hmembers : members scan
        (('"' :: memberText k v (encodeMoreMembers kvs ++ '\x7d' :: cs)).length + 1) []
        ('"' :: memberText k v (encodeMoreMembers kvs ++ '\x7d' :: cs)) =
          .ok ((k, v) :: kvs, cs) := by
      refine members_encode cs hscan hkeys ?_ rfl
      rw [List.length_cons, memberText]
      simp only [List.length_append, List.length_cons]
      omega
    rw [htext, object_members, hmembers]
    rfl

/-- **A value is read back**, up to what stands behind it. -/
theorem scan_once_encode {n : Nat} {v : Value} (h : Readable float n v) :
    Reads (scan_once float n) v := by
  induction h with
  | none n =>
    intro cs _
    have hleaf : LeafText (encode .none) := ⟨_, _, rfl, rfl, by decide, by decide, by decide⟩
    exact scan_once_leaf n hleaf cs
  | bool n b =>
    intro cs _
    cases b with
    | true =>
      have hleaf : LeafText (encode (.bool true)) :=
        ⟨_, _, rfl, rfl, by decide, by decide, by decide⟩
      exact scan_once_leaf n hleaf cs
    | false =>
      have hleaf : LeafText (encode (.bool false)) :=
        ⟨_, _, rfl, rfl, by decide, by decide, by decide⟩
      exact scan_once_leaf n hleaf cs
  | int n i =>
    intro cs hcs
    exact (scan_once_leaf n (leafText_int i) cs).trans (scanLeaf_int float i hcs)
  | float n hr =>
    intro cs hcs
    exact (scan_once_leaf n (leafText_float hr) cs).trans (scanLeaf_float hr hcs)
  | str n s =>
    intro cs _
    have hleaf : LeafText (encode (.str s)) := ⟨'"', _, rfl, rfl, by decide, by decide, by decide⟩
    rw [scan_once_leaf n hleaf cs]
    show scanLeaf float ('"' :: (s.toList.flatMap jsonChar ++ ['"'] ++ cs)) = _
    rw [List.append_assoc, scanLeaf]
    show (scanstring (s.toList.flatMap jsonChar ++ '"' :: cs) >>= _) = _
    rw [scanstring_encode]
    rfl
  | @list n xs hxs ih =>
    intro cs _
    exact array_encode cs fun y hy => ⟨ih y hy, hxs y hy⟩
  | @dict n kvs hkeys hkvs ih =>
    intro cs _
    exact object_encode cs (fun e he => ⟨ih e he, hkvs e he⟩) hkeys

/-- **The round trip**: what `json.dumps` writes of a readable value, `json.loads` reads as that
value. -/
theorem loads_dumps {n : Nat} {v : Value} (h : Readable float n v) :
    loads float n (dumps v) = .ok v := by
  obtain ⟨c, rest, hhead, hspace, _⟩ := encode_head h
  have hskip : skip (dumps v).toList = encode v ++ [] := by
    rw [dumps, String.toList_ofList, List.append_nil, hhead]
    exact skip_cons hspace rest
  have hnone : Delimited [] := fun c rest heq => absurd heq (by simp)
  rw [loads, hskip, scan_once_encode h [] hnone]
  rfl

/-! ## What the decoder returns -/

/-- `repr` shows a float so that `float` reads it as the same. -/
def ReprReads (float : String → String × Option Int) : Prop :=
  ∀ text, ReadsFloat float (float text).1 (float text).2

/-- Whatever a reader returns can be read. -/
def Returns (float : String → String × Option Int) (n : Nat) (scan : Scanner Value) : Prop :=
  ∀ cs v rest, scan cs = .ok (v, rest) → Readable float n v

theorem number_readable (hfloat : ReprReads float) (n : Nat) (sign : List Char) :
    Returns float n (number float sign) := by
  intro cs v rest h
  unfold number at h
  split at h
  · exact absurd h (by simp)
  · simp only at h
    split at h
    · obtain ⟨rfl, _⟩ := Prod.mk.inj (Except.ok.inj h)
      exact .int n _
    · obtain ⟨rfl, _⟩ := Prod.mk.inj (Except.ok.inj h)
      exact .float n (hfloat _)

theorem scanLeaf_readable (hfloat : ReprReads float) (n : Nat) :
    Returns float n (scanLeaf float) := by
  intro cs v rest h
  unfold scanLeaf at h
  split at h
  · obtain ⟨⟨s, rest'⟩, _, h⟩ := Except.bind_eq_ok.mp h
    obtain ⟨rfl, _⟩ := Prod.mk.inj (Except.pure_eq_ok.mp h)
    exact .str n s
  · obtain ⟨rfl, _⟩ := Prod.mk.inj (Except.ok.inj h)
    exact .none n
  · obtain ⟨rfl, _⟩ := Prod.mk.inj (Except.ok.inj h)
    exact .bool n true
  · obtain ⟨rfl, _⟩ := Prod.mk.inj (Except.ok.inj h)
    exact .bool n false
  · obtain ⟨rfl, _⟩ := Prod.mk.inj (Except.ok.inj h)
    exact .float n (Or.inl ⟨Or.inl rfl, rfl⟩)
  · obtain ⟨rfl, _⟩ := Prod.mk.inj (Except.ok.inj h)
    exact .float n (Or.inl ⟨Or.inr (Or.inl rfl), rfl⟩)
  · obtain ⟨rfl, _⟩ := Prod.mk.inj (Except.ok.inj h)
    exact .float n (Or.inl ⟨Or.inr (Or.inr rfl), rfl⟩)
  · exact number_readable hfloat n _ _ _ _ h
  · exact number_readable hfloat n _ _ _ _ h

theorem arrayItems_readable {scan : Scanner Value} {n : Nat} (hscan : Returns float n scan) :
    ∀ {rounds : Nat} {cs rest : List Char} {vs : List Value},
      arrayItems scan rounds cs = .ok (vs, rest) → ∀ v ∈ vs, Readable float n v := by
  intro rounds
  induction rounds with
  | zero => exact fun h => absurd h (by simp [arrayItems])
  | succ rounds ih =>
    intro cs rest vs h
    rw [arrayItems] at h
    obtain ⟨⟨w, cs1⟩, hw, h⟩ := Except.bind_eq_ok.mp h
    simp only at h
    split at h
    · obtain ⟨rfl, _⟩ := Prod.mk.inj (Except.pure_eq_ok.mp h)
      intro v hv
      obtain rfl := List.mem_singleton.mp hv
      exact hscan _ _ _ hw
    · obtain ⟨⟨ws, cs2⟩, hws, h⟩ := Except.bind_eq_ok.mp h
      obtain ⟨rfl, _⟩ := Prod.mk.inj (Except.pure_eq_ok.mp h)
      intro v hv
      rcases List.mem_cons.mp hv with rfl | hv
      · exact hscan _ _ _ hw
      · exact ih hws v hv
    · exact absurd h (by simp [throw, throwThe, MonadExceptOf.throw])

/-- The members read so far: no name twice, and each can be read back. -/
def ReadableMembers (float : String → String × Option Int) (n : Nat)
    (d : Dict String Value) : Prop :=
  (Dict.keys d).Nodup ∧ ∀ e ∈ d, Readable float n e.2

/-- Another member takes the place of one of its name. -/
theorem ReadableMembers.set {n : Nat} {d : Dict String Value} (h : ReadableMembers float n d)
    (k : String) {v : Value} (hv : Readable float n v) :
    ReadableMembers float n (Dict.set d k v) := by
  refine ⟨Dict.nodup_set h.1 k v, ?_⟩
  have hall := h.2
  clear h
  induction d with
  | nil =>
    intro e he
    obtain rfl := List.mem_singleton.mp he
    exact hv
  | cons e' d ih =>
    intro e he
    rw [Dict.set] at he
    by_cases hk : e'.1 = k
    · rw [if_pos hk] at he
      rcases List.mem_cons.mp he with rfl | he
      · exact hv
      · exact hall e (List.mem_cons_of_mem _ he)
    · rw [if_neg hk] at he
      rcases List.mem_cons.mp he with rfl | he
      · exact hall e List.mem_cons_self
      · exact ih (fun e he => hall e (List.mem_cons_of_mem _ he)) e he

theorem ReadableMembers.nil (n : Nat) : ReadableMembers float n [] := ⟨by simp [Dict.keys], by simp⟩

/-- One more member in front. -/
theorem ReadableMembers.cons {n : Nat} {k : String} {v : Value} {d : Dict String Value}
    (hk : k ∉ Dict.keys d) (hv : Readable float n v) (hd : ReadableMembers float n d) :
    ReadableMembers float n ((k, v) :: d) := by
  refine ⟨List.nodup_cons.mpr ⟨hk, hd.1⟩, ?_⟩
  intro e he
  rcases List.mem_cons.mp he with rfl | he
  · exact hv
  · exact hd.2 e he

theorem ReadableMembers.dict {n : Nat} {d : Dict String Value} (h : ReadableMembers float n d) :
    Readable float (n + 1) (.dict d) := .dict h.1 h.2

theorem members_readable {scan : Scanner Value} {n : Nat} (hscan : Returns float n scan) :
    ∀ {rounds : Nat} {d d' : Dict String Value} {cs rest : List Char},
      members scan rounds d cs = .ok (d', rest) → ReadableMembers float n d →
      ReadableMembers float n d' := by
  intro rounds
  induction rounds with
  | zero => exact fun h => absurd h (by simp [members])
  | succ rounds ih =>
    intro d d' cs rest h hd
    rw [members] at h
    split at h
    · obtain ⟨⟨k, cs1⟩, _, h⟩ := Except.bind_eq_ok.mp h
      simp only at h
      split at h
      · obtain ⟨⟨v, cs2⟩, hv, h⟩ := Except.bind_eq_ok.mp h
        have hset := hd.set k (hscan _ _ _ hv)
        simp only at h
        split at h
        · obtain ⟨rfl, _⟩ := Prod.mk.inj (Except.pure_eq_ok.mp h)
          exact hset
        · exact ih h hset
        · exact absurd h (by simp [throw, throwThe, MonadExceptOf.throw])
      · exact absurd h (by simp [throw, throwThe, MonadExceptOf.throw])
    · exact absurd h (by simp)

theorem array_readable {scan : Scanner Value} {n : Nat} (hscan : Returns float n scan) :
    Returns float (n + 1) (array scan) := by
  intro cs v rest h
  unfold array at h
  split at h
  · obtain ⟨rfl, _⟩ := Prod.mk.inj (Except.ok.inj h)
    exact .list (by simp)
  · obtain ⟨⟨vs, cs1⟩, hvs, h⟩ := Except.bind_eq_ok.mp h
    obtain ⟨rfl, _⟩ := Prod.mk.inj (Except.pure_eq_ok.mp h)
    exact .list (arrayItems_readable hscan hvs)

theorem object_readable {scan : Scanner Value} {n : Nat} (hscan : Returns float n scan) :
    Returns float (n + 1) (object scan) := by
  intro cs v rest h
  unfold object at h
  split at h
  · obtain ⟨rfl, _⟩ := Prod.mk.inj (Except.ok.inj h)
    exact (ReadableMembers.nil n).dict
  · obtain ⟨⟨d, cs1⟩, hd, h⟩ := Except.bind_eq_ok.mp h
    obtain ⟨rfl, _⟩ := Prod.mk.inj (Except.pure_eq_ok.mp h)
    exact (members_readable hscan hd (.nil n)).dict

theorem scan_once_readable (hfloat : ReprReads float) :
    ∀ n : Nat, Returns float n (scan_once float n) := by
  intro n
  induction n with
  | zero =>
    intro cs v rest h
    unfold scan_once at h
    split at h
    case h_1 => exact absurd h (by simp)
    case h_2 => exact absurd h (by simp)
    case h_3 heq => exact absurd heq (by simp)
    case h_4 heq => exact absurd heq (by simp)
    case h_5 => exact scanLeaf_readable hfloat 0 _ _ _ h
  | succ n ih =>
    intro cs v rest h
    unfold scan_once at h
    split at h
    case h_1 => exact absurd h (by simp)
    case h_2 => exact absurd h (by simp)
    case h_3 heq =>
      obtain rfl := Nat.succ.inj heq
      exact array_readable ih _ _ _ h
    case h_4 heq =>
      obtain rfl := Nat.succ.inj heq
      exact object_readable ih _ _ _ h
    case h_5 => exact scanLeaf_readable hfloat (n + 1) _ _ _ h

/-- **What `json.loads` returns can be read back.** -/
theorem loads_readable (hfloat : ReprReads float) {n : Nat} {s : String} {v : Value}
    (h : loads float n s = .ok v) : Readable float n v := by
  obtain ⟨⟨w, cs⟩, hw, h⟩ := Except.bind_eq_ok.mp h
  simp only at h
  split at h
  · obtain rfl := Except.pure_eq_ok.mp h
    exact scan_once_readable hfloat n _ _ _ hw
  · exact absurd h (by simp [throw, throwThe, MonadExceptOf.throw])

/-! ## Values taken apart -/

/-- What `v.get(k)` gives. -/
theorem Readable.get {n : Nat} {v w : Value} {k : String} (h : Readable float n v)
    (hget : v.get k = .ok w) : Readable float (n - 1) w := by
  cases h with
  | @dict n kvs _ hall =>
    obtain rfl := Except.ok.inj hget
    cases hk : Dict.get kvs k with
    | none => exact .none n
    | some w => exact hall (k, w) (Dict.mem_of_get hk)
  | _ => exact absurd hget (by simp [Value.get])

/-- What `for x in v` runs over. -/
theorem Readable.iter {n : Nat} {v : Value} {ws : List Value} (h : Readable float n v)
    (hiter : v.iter = .ok ws) : ∀ w ∈ ws, Readable float (n - 1) w := by
  intro w hw
  cases h with
  | list hall =>
    obtain rfl := Except.ok.inj hiter
    exact hall w hw
  | str n s =>
    obtain rfl := Except.ok.inj hiter
    obtain ⟨c, _, rfl⟩ := List.mem_map.mp hw
    exact .str _ _
  | dict _ _ =>
    obtain rfl := Except.ok.inj hiter
    obtain ⟨e, _, rfl⟩ := List.mem_map.mp hw
    exact .str _ _
  | _ => exact absurd hiter (by simp [Value.iter])

/-- What `v[-1]` gives. -/
theorem Readable.last {n : Nat} {v w : Value} (h : Readable float n v) (hlast : v.last = .ok w) :
    Readable float (n - 1) w := by
  cases h with
  | @list n xs hall =>
    rw [Value.last] at hlast
    cases hx : xs.getLast? with
    | none => rw [hx] at hlast; exact absurd hlast (by simp)
    | some x =>
      rw [hx] at hlast
      obtain rfl := Except.ok.inj hlast
      exact hall x (List.mem_of_getLast? hx)
  | str n s =>
    rw [Value.last] at hlast
    cases hc : s.toList.getLast? with
    | none => rw [hc] at hlast; exact absurd hlast (by simp)
    | some c =>
      rw [hc] at hlast
      obtain rfl := Except.ok.inj hlast
      exact .str _ _
  | _ => exact absurd hlast (by simp [Value.last])

/-- What is read from a value takes no more room than the value. -/
theorem readable_get {n : Nat} {v w : Value} {k : String} (h : Readable float n v)
    (hget : v.get k = .ok w) : Readable float n w := (h.get hget).mono (Nat.sub_le n 1)

theorem readable_iter {n : Nat} {v : Value} {ws : List Value} (h : Readable float n v)
    (hiter : v.iter = .ok ws) : ∀ w ∈ ws, Readable float n w :=
  fun w hw => (h.iter hiter w hw).mono (Nat.sub_le n 1)

/-! ## Bytes -/

/-- The bytes of a surrogate that was encoded by itself: Python 2 decodes them. -/
def hasSurrogate : List UInt8 → Bool
  | a :: b :: bytes => (a = 0xED ∧ 0xA0 ≤ b) || hasSurrogate (b :: bytes)
  | _ => false

/-- `bytes.decode('utf-8')`. -/
def decodeUtf8 (bytes : List UInt8) : Except Exc String :=
  match String.fromUTF8? ⟨bytes.toArray⟩ with
  | some s => .ok s
  | none => .error (if hasSurrogate bytes then .loneSurrogate else .raised "invalid utf-8")

/-- `s.encode('utf-8')`. -/
def encodeUtf8 (s : String) : List UInt8 := s.toUTF8.data.toList

theorem decode_encodeUtf8 (s : String) : decodeUtf8 (encodeUtf8 s) = .ok s := by
  have hbytes : (⟨(encodeUtf8 s).toArray⟩ : ByteArray) = s.toByteArray := rfl
  rw [decodeUtf8, hbytes, String.fromUTF8?, dif_pos s.isValidUTF8]
  rfl

/-- `json.loads(bytes.decode('utf-8'))`, with room for so many levels. -/
def receive (float : String → String × Option Int) (n : Nat) (bytes : List UInt8) :
    Except Exc Value := do
  loads float n (← decodeUtf8 bytes)

/-- `json.dumps(v)`, as the client encodes it. -/
def send (v : Value) : List UInt8 := encodeUtf8 (dumps v)

/-- **What was sent is received**, where there is room for it. -/
theorem receive_send {n room : Nat} {v : Value} (h : Readable float n v) (hroom : n ≤ room) :
    receive float room (send v) = .ok v := by
  rw [receive, send, decode_encodeUtf8]
  exact loads_dumps (h.mono hroom)

theorem receive_readable (hfloat : ReprReads float) {n : Nat} {bytes : List UInt8} {v : Value}
    (h : receive float n bytes = .ok v) : Readable float n v := by
  obtain ⟨text, _, htext⟩ := Except.bind_eq_ok.mp h
  exact loads_readable hfloat htext

end Py.Json
