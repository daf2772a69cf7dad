import Mathlib.Data.List.Basic
import Mathlib.Data.List.Induction

/-!
# Quoted literals

A text between two quotes, where a backslash escapes the character behind it and a doubled
quote stands for one. `Body t w` says that `t`, between two quotes, stands for `w`;
`readLiteral` finds the closing quote, and `readPairs` reads a list of assignments
`name = 'literal'`.

A writer pastes its texts between quotes. What a reader makes of that is decided literal by
literal (`readPairs_iff`): however a broken literal runs on into the ones behind it, it does
not come out as the text it was meant for. The equality signs show that: no escape hides one
or makes one, and every literal but the first has one in front of it.
-/

namespace Quoted

/-- The mark that opens and closes a literal. -/
def quote : Char := Char.ofNat 39

/-- The escapes that stand for another character than the one they name. -/
def escapes : List (Char × Char) :=
  [('0', Char.ofNat 0), ('b', Char.ofNat 8), ('t', '\t'), ('n', '\n'), ('r', '\r'),
    ('Z', Char.ofNat 26)]

/-- The wildcards of patterns, which keep their backslash. -/
def isWildcard (c : Char) : Bool := c = '%' || c = '_'

/-- What a backslash and the character behind it stand for. -/
def escaped (c : Char) : List Char :=
  if isWildcard c then ['\\', c] else [(escapes.lookup c).getD c]

/-- Between two quotes, `t` stands for `w`. -/
inductive Body : List Char → List Char → Prop where
  | nil : Body [] []
  | plain {c : Char} {t w : List Char} : c ≠ quote → c ≠ '\\' → Body t w → Body (c :: t) (c :: w)
  | doubled {t w : List Char} : Body t w → Body (quote :: quote :: t) (quote :: w)
  | escape {c : Char} {t w : List Char} : Body t w → Body ('\\' :: c :: t) (escaped c ++ w)

/-- Read a literal behind its opening quote: the text it stands for, and what follows its
closing quote. -/
def readLiteral : List Char → Option (List Char × List Char)
  | [] => none
  | [c] => if c = quote then some ([], []) else none
  | c :: d :: s =>
    if c = quote then
      if d = quote then (readLiteral s).map fun r => (quote :: r.1, r.2)
      else some ([], d :: s)
    else if c = '\\' then (readLiteral s).map fun r => (escaped d ++ r.1, r.2)
    else (readLiteral (d :: s)).map fun r => (c :: r.1, r.2)

/-! ## Escapes -/

theorem escaped_wildcard {c : Char} (h : isWildcard c = true) : escaped c = ['\\', c] := by
  rw [escaped, if_pos h]

/-- A character that no escape names or makes. -/
def Inert (x : Char) : Prop := x ≠ '\\' ∧ ∀ e ∈ escapes, x ≠ e.1 ∧ x ≠ e.2

/-- An escape hides no inert character, and makes none. -/
theorem count_escaped {x : Char} (hx : Inert x) (c : Char) :
    (escaped c).count x = [c].count x := by
  unfold escaped
  split
  · rw [List.count_cons_of_ne hx.1.symm]
  · cases hl : escapes.lookup c with
    | none => rfl
    | some d =>
      have hmem : (c, d) ∈ escapes := by
        obtain ⟨l₁, l₂, h, _⟩ := List.lookup_eq_some_iff.mp hl
        rw [h]; simp
      obtain ⟨hc, hd⟩ := hx.2 (c, d) hmem
      rw [Option.getD_some, List.count_cons_of_ne hd.symm, List.count_cons_of_ne hc.symm]

theorem inert_equals : Inert '=' := by
  unfold Inert
  decide

theorem inert_quote : Inert quote := by
  unfold Inert
  decide

/-- The characters of an escape, each quote counted twice. -/
theorem escaped_weight (c : Char) : (escaped c).length + (escaped c).count quote =
    if c = quote ∨ isWildcard c = true then 2 else 1 := by
  rw [count_escaped inert_quote]
  by_cases hw : isWildcard c = true
  · have hq : c ≠ quote := by rintro rfl; exact absurd hw (by decide)
    rw [if_pos (Or.inr hw), escaped_wildcard hw, List.count_cons_of_ne hq]
    rfl
  · rw [escaped, if_neg hw]
    by_cases hq : c = quote
    · rw [if_pos (Or.inl hq), hq, List.count_cons_self]
      rfl
    · rw [if_neg (by simp [hq, hw]), List.count_cons_of_ne hq]
      rfl

theorem escaped_weight_le (c : Char) : (escaped c).length + (escaped c).count quote ≤ 2 := by
  rw [escaped_weight]
  split <;> omega

theorem escaped_weight_eq_two {c : Char}
    (h : 2 ≤ (escaped c).length + (escaped c).count quote) :
    c = quote ∨ isWildcard c = true := by
  rw [escaped_weight] at h
  split at h
  · assumption
  · omega

/-! ## Bodies -/

namespace Body

variable {t w : List Char}

/-- A body is longer than what it stands for, by one character for each quote at least. -/
theorem length_le (h : Body t w) : w.length + w.count quote ≤ t.length := by
  induction h with
  | nil => exact Nat.le_refl _
  | plain hq _ _ ih =>
    rw [List.count_cons_of_ne hq, List.length_cons, List.length_cons]
    omega
  | doubled _ ih =>
    rw [List.count_cons_self, List.length_cons, List.length_cons, List.length_cons]
    omega
  | @escape c t w _ ih =>
    have := escaped_weight_le c
    rw [List.count_append, List.length_append, List.length_cons, List.length_cons]
    omega

/-- **In a body that is no longer**, every backslash escapes a quote or a wildcard. -/
theorem behind_backslash (h : Body t w) (hlen : t.length ≤ w.length + w.count quote) :
    ∀ u s, t = u ++ '\\' :: s → ∃ c s', s = c :: s' ∧ (c = quote ∨ isWildcard c = true) := by
  induction h with
  | nil => intro u s hs; exact absurd hs (by simp)
  | @plain c t w hq hb _ ih =>
    rw [List.count_cons_of_ne hq, List.length_cons, List.length_cons] at hlen
    intro u s hs
    cases u with
    | nil => exact absurd (List.cons.inj hs).1 hb
    | cons x u => exact ih (by omega) u s (List.cons.inj hs).2
  | @doubled t w _ ih =>
    rw [List.count_cons_self, List.length_cons, List.length_cons, List.length_cons] at hlen
    intro u s hs
    rcases u with _ | ⟨x, _ | ⟨y, u⟩⟩
    · exact absurd (List.cons.inj hs).1 (by decide)
    · exact absurd (List.cons.inj (List.cons.inj hs).2).1 (by decide)
    · exact ih (by omega) u s (List.cons.inj (List.cons.inj hs).2).2
  | @escape c t w hbody ih =>
    have hle := hbody.length_le
    have hweight := escaped_weight_le c
    rw [List.count_append, List.length_append, List.length_cons, List.length_cons] at hlen
    have hc : c = quote ∨ isWildcard c = true := escaped_weight_eq_two (by omega)
    intro u s hs
    rcases u with _ | ⟨x, _ | ⟨y, u⟩⟩
    · exact ⟨c, t, (List.cons.inj hs).2.symm, hc⟩
    · -- a backslash is neither a quote nor a wildcard
      rw [(List.cons.inj (List.cons.inj hs).2).1] at hc
      exact absurd hc (by decide)
    · exact ih (by omega) u s (List.cons.inj (List.cons.inj hs).2).2

/-- **Equality signs are never hidden.** -/
theorem count_equals (h : Body t w) : w.count '=' = t.count '=' := by
  induction h with
  | nil => rfl
  | @plain c t w _ _ _ ih => rw [List.count_cons, List.count_cons, ih]
  | @doubled t w _ ih =>
    have hne : quote ≠ '=' := by decide
    rw [List.count_cons_of_ne hne, List.count_cons_of_ne hne, List.count_cons_of_ne hne, ih]
  | @escape c t w _ ih =>
    have hne : '\\' ≠ '=' := by decide
    rw [List.count_append, count_escaped inert_equals, ih, List.count_cons_of_ne hne,
      ← List.count_append, List.singleton_append]

/-- Two bodies make one. -/
theorem append {t' w' : List Char} (h : Body t w) (h' : Body t' w') : Body (t ++ t') (w ++ w') := by
  induction h with
  | nil => exact h'
  | plain hq hb _ ih => exact .plain hq hb ih
  | doubled _ ih => exact .doubled ih
  | @escape c t w _ ih =>
    have := Body.escape (c := c) ih
    rwa [← List.append_assoc] at this

/-- A body stands for one text only. -/
theorem readLiteral (h : Body t w) {r : List Char} (hr : r.head? ≠ some quote) :
    Quoted.readLiteral (t ++ quote :: r) = some (w, r) := by
  induction h with
  | nil =>
    cases r with
    | nil => rfl
    | cons d r =>
      have hd : ¬ d = quote := fun h => hr (by rw [h]; rfl)
      rw [List.nil_append, Quoted.readLiteral, if_pos rfl, if_neg hd]
  | @plain c t w hq hb _ ih =>
    obtain ⟨d, s, hs⟩ : ∃ d s, t ++ quote :: r = d :: s := by
      cases t with
      | nil => exact ⟨quote, r, rfl⟩
      | cons d t => exact ⟨d, t ++ quote :: r, rfl⟩
    rw [List.cons_append, hs, Quoted.readLiteral, if_neg hq, if_neg hb, ← hs, ih]
    rfl
  | @doubled t w _ ih =>
    rw [List.cons_append, List.cons_append, Quoted.readLiteral, if_pos rfl, if_pos rfl, ih]
    rfl
  | @escape c t w _ ih =>
    have hne : ¬ ('\\' : Char) = quote := by decide
    rw [List.cons_append, List.cons_append, Quoted.readLiteral, if_neg hne, if_pos rfl, ih]
    rfl

end Body

/-- **The reader takes a literal apart** as its body, its closing quote and the rest. -/
theorem readLiteral_eq_some {s w r : List Char} :
    readLiteral s = some (w, r) ↔
      ∃ t, s = t ++ quote :: r ∧ Body t w ∧ r.head? ≠ some quote := by
  refine ⟨?_, ?_⟩
  · intro h
    fun_induction readLiteral s generalizing w r with
    | case1 => exact absurd h (by simp)
    | case2 =>
      obtain ⟨rfl, rfl⟩ : [] = w ∧ [] = r := by simpa using h
      exact ⟨[], rfl, .nil, by simp⟩
    | case3 c hc => exact absurd h (by simp)
    | case4 s ih =>
      obtain ⟨⟨w', r'⟩, hr', heq⟩ := Option.map_eq_some_iff.mp h
      obtain ⟨rfl, rfl⟩ := Prod.mk.inj heq
      obtain ⟨t, hs, hbody, hhead⟩ := ih hr'
      exact ⟨quote :: quote :: t, by rw [hs]; rfl, .doubled hbody, hhead⟩
    | case5 d s hd =>
      obtain ⟨rfl, rfl⟩ : [] = w ∧ d :: s = r := by simpa using h
      exact ⟨[], rfl, .nil, by simpa using hd⟩
    | case6 d s hc ih =>
      obtain ⟨⟨w', r'⟩, hr', heq⟩ := Option.map_eq_some_iff.mp h
      obtain ⟨rfl, rfl⟩ := Prod.mk.inj heq
      obtain ⟨t, hs, hbody, hhead⟩ := ih hr'
      exact ⟨'\\' :: d :: t, by rw [hs]; rfl, .escape hbody, hhead⟩
    | case7 c d s hc hb ih =>
      obtain ⟨⟨w', r'⟩, hr', heq⟩ := Option.map_eq_some_iff.mp h
      obtain ⟨rfl, rfl⟩ := Prod.mk.inj heq
      obtain ⟨t, hs, hbody, hhead⟩ := ih hr'
      exact ⟨c :: t, by rw [hs]; rfl, .plain hc hb hbody, hhead⟩
  · intro h
    obtain ⟨t, rfl, hbody, hhead⟩ := h
    exact hbody.readLiteral hhead

/-! ## Texts between quotes -/

/-- Every backslash stands before a wildcard. -/
def OnlyWildcards (v : List Char) : Prop :=
  ∀ u s, v = u ++ '\\' :: s → ∃ c s', s = c :: s' ∧ isWildcard c = true

/-- `s.replace("'", "\\'")`. -/
def escapeQuotes (v : List Char) : List Char :=
  v.flatMap fun c => if c = quote then ['\\', c] else [c]

theorem onlyWildcards_cons {c : Char} {v : List Char} (h : OnlyWildcards (c :: v)) :
    OnlyWildcards v := by
  intro u s hs
  exact h (c :: u) s (by rw [hs]; rfl)

/-- **A text that stands for itself**: no quote, and no backslash but before a wildcard. -/
theorem body_self_iff {v : List Char} : Body v v ↔ quote ∉ v ∧ OnlyWildcards v := by
  refine ⟨?_, ?_⟩
  · intro h
    have hno : quote ∉ v := by
      have := h.length_le
      rw [← List.count_eq_zero]
      omega
    refine ⟨hno, fun u s hs => ?_⟩
    obtain ⟨c, s', rfl, hc⟩ := h.behind_backslash (by omega) u s hs
    rcases hc with rfl | hc
    · exact absurd (by rw [hs]; simp) hno
    · exact ⟨c, s', rfl, hc⟩
  · -- unit by unit: an escape is a backslash and a wildcard
    intro h
    obtain ⟨hno, hwild⟩ := h
    induction v using List.twoStepInduction with
    | nil => exact .nil
    | singleton c =>
      have hb : c ≠ '\\' := by
        intro heq
        obtain rfl := heq
        obtain ⟨c, s, hs, _⟩ := hwild [] [] rfl
        exact absurd hs (by simp)
      exact .plain (fun h => hno (by rw [h]; simp)) hb .nil
    | cons_cons c d v ih1 ih2 =>
      have hq : c ≠ quote := fun h => hno (by rw [h]; simp)
      by_cases hb : c = '\\'
      · subst hb
        obtain ⟨d', s', hs, hd⟩ := hwild [] (d :: v) rfl
        obtain ⟨rfl, rfl⟩ := List.cons.inj hs
        have hrest := Body.escape (c := d)
          (ih1 (fun h => hno (by simp [h])) (onlyWildcards_cons (onlyWildcards_cons hwild)))
        rwa [escaped_wildcard hd] at hrest
      · exact .plain hq hb (ih2 d (fun h => hno (by simp [List.mem_cons.mp h]))
          (onlyWildcards_cons hwild))

theorem escapeQuotes_cons_of_ne {c : Char} (h : c ≠ quote) (v : List Char) :
    escapeQuotes (c :: v) = c :: escapeQuotes v := by
  rw [escapeQuotes, List.flatMap_cons, if_neg h]
  rfl

theorem escapeQuotes_cons_quote (v : List Char) :
    escapeQuotes (quote :: v) = '\\' :: quote :: escapeQuotes v := rfl

theorem escapeQuotes_append (u v : List Char) :
    escapeQuotes (u ++ v) = escapeQuotes u ++ escapeQuotes v := List.flatMap_append

theorem count_escapeQuotes {x : Char} (hx : x ≠ '\\') (v : List Char) :
    (escapeQuotes v).count x = v.count x := by
  induction v with
  | nil => rfl
  | cons c v ih =>
    by_cases hc : c = quote
    · rw [hc, escapeQuotes_cons_quote, List.count_cons_of_ne hx.symm, List.count_cons,
        List.count_cons, ih]
    · rw [escapeQuotes_cons_of_ne hc, List.count_cons, List.count_cons, ih]

theorem length_escapeQuotes (v : List Char) :
    (escapeQuotes v).length = v.length + v.count quote := by
  induction v with
  | nil => rfl
  | cons c v ih =>
    by_cases hc : c = quote
    · rw [hc, escapeQuotes_cons_quote, List.count_cons_self, List.length_cons, List.length_cons,
        List.length_cons, ih]
      omega
    · rw [escapeQuotes_cons_of_ne hc, List.count_cons_of_ne hc, List.length_cons,
        List.length_cons, ih]
      omega

/-- **A text whose quotes were escaped stands for itself**: no backslash but before a
wildcard. -/
theorem body_escapeQuotes_iff {v : List Char} : Body (escapeQuotes v) v ↔ OnlyWildcards v := by
  refine ⟨?_, ?_⟩
  · intro h u s hs
    have hE : escapeQuotes v = escapeQuotes u ++ '\\' :: escapeQuotes s := by
      rw [hs, escapeQuotes_append, escapeQuotes_cons_of_ne (by decide)]
    obtain ⟨c, s', hs', hc⟩ := h.behind_backslash (Nat.le_of_eq (length_escapeQuotes v)) _ _ hE
    -- what follows a backslash of `v` is no quote any more
    cases s with
    | nil => exact absurd hs' (by simp [escapeQuotes])
    | cons d s =>
      by_cases hd : d = quote
      · rw [hd, escapeQuotes_cons_quote] at hs'
        rw [← (List.cons.inj hs').1] at hc
        exact absurd hc (by decide)
      · rw [escapeQuotes_cons_of_ne hd] at hs'
        obtain rfl := (List.cons.inj hs').1
        exact ⟨d, s, rfl, hc.resolve_left hd⟩
  · intro hwild
    induction v using List.twoStepInduction with
    | nil => exact .nil
    | singleton c =>
      by_cases hc : c = quote
      · rw [hc]
        exact .escape (c := quote) .nil
      · have hb : c ≠ '\\' := by
          intro heq
          obtain rfl := heq
          obtain ⟨c, s, hs, _⟩ := hwild [] [] rfl
          exact absurd hs (by simp)
        rw [escapeQuotes_cons_of_ne hc]
        exact .plain hc hb .nil
    | cons_cons c d v ih1 ih2 =>
      have hrest := ih2 d (onlyWildcards_cons hwild)
      by_cases hq : c = quote
      · rw [hq]
        exact .escape (c := quote) hrest
      · rw [escapeQuotes_cons_of_ne hq]
        by_cases hb : c = '\\'
        · subst hb
          obtain ⟨d', s', hs, hd⟩ := hwild [] (d :: v) rfl
          obtain ⟨rfl, rfl⟩ := List.cons.inj hs
          have hdq : d ≠ quote := by rintro rfl; exact absurd hd (by decide)
          have hv := Body.escape (c := d)
            (ih1 (onlyWildcards_cons (onlyWildcards_cons hwild)))
          rwa [escaped_wildcard hd, List.cons_append, List.cons_append, List.nil_append,
            ← escapeQuotes_cons_of_ne hdq] at hv
        · exact .plain hq hb hrest

/-! ## Texts that can be read -/

/-- A text without quotes and backslashes stands for itself. -/
theorem body_self {v : List Char} (hq : quote ∉ v) (hb : '\\' ∉ v) : Body v v :=
  body_self_iff.mpr ⟨hq, fun u s h => absurd (by rw [h]; simp) hb⟩

/-- With its quotes escaped, a text can be read, as whatever it stands for. -/
def Closes (v : List Char) : Prop := ∃ w, Body (escapeQuotes v) w

theorem closes_nil : Closes [] := ⟨[], .nil⟩

theorem Closes.append {u v : List Char} (hu : Closes u) (hv : Closes v) : Closes (u ++ v) := by
  obtain ⟨w, hw⟩ := hu
  obtain ⟨w', hw'⟩ := hv
  exact ⟨w ++ w', by rw [escapeQuotes_append]; exact hw.append hw'⟩

/-- A character other than the backslash. -/
theorem closes_char {c : Char} (h : c ≠ '\\') : Closes [c] := by
  by_cases hq : c = quote
  · rw [hq]
    exact ⟨_, .escape .nil⟩
  · rw [Closes, escapeQuotes_cons_of_ne hq]
    exact ⟨_, .plain hq h .nil⟩

/-- A backslash and a character behind it that is no quote. -/
theorem closes_escape {c : Char} (h : c ≠ quote) : Closes ['\\', c] := by
  rw [Closes, escapeQuotes_cons_of_ne (by decide), escapeQuotes_cons_of_ne h]
  exact ⟨_, .escape .nil⟩

/-- A text without backslashes. -/
theorem closes_of_not_mem {v : List Char} (h : '\\' ∉ v) : Closes v := by
  induction v with
  | nil => exact closes_nil
  | cons c v ih =>
    rw [List.mem_cons, not_or] at h
    exact (closes_char (Ne.symm h.1)).append (ih h.2)

theorem closes_flatMap {f : Char → List Char} {v : List Char} (h : ∀ c ∈ v, Closes (f c)) :
    Closes (v.flatMap f) := by
  induction v with
  | nil => exact closes_nil
  | cons c v ih =>
    rw [List.flatMap_cons]
    exact (h c List.mem_cons_self).append (ih fun c' hc' => h c' (List.mem_cons_of_mem _ hc'))

theorem closes_intercalate {sep : List Char} (hsep : Closes sep) {ls : List (List Char)}
    (h : ∀ l ∈ ls, Closes l) : Closes (sep.intercalate ls) := by
  induction ls with
  | nil => exact closes_nil
  | cons l ls ih =>
    have hl := h l List.mem_cons_self
    cases ls with
    | nil => simpa using hl
    | cons l' ls =>
      rw [List.intercalate_cons_cons, List.append_assoc]
      exact hl.append (hsep.append (ih fun l' hl' => h l' (List.mem_cons_of_mem _ hl')))

/-! ## Assignments -/

/-- An assignment as a writer builds it: a name, the literal it pastes, and the text it means. -/
structure Assignment where
  name : List Char
  literal : List Char
  value : List Char

namespace Assignment

/-- `name = 'literal'`. -/
def text (a : Assignment) : List Char := a.name ++ [' ', '=', ' ', quote] ++ a.literal ++ [quote]

/-- A literal made of the text it is meant for, with or without its quotes escaped: it hides no
equality sign, and is longer by no more than its quotes. -/
structure Written (a : Assignment) : Prop where
  equals : a.literal.count '=' = a.value.count '='
  short : a.literal.length ≤ a.value.length + a.value.count quote

end Assignment

/-- The characters of a name that needs no quotes of its own. -/
def isName (c : Char) : Bool :=
  c.isAlphanum || c = '_' || c = '$' || (128 ≤ c.toNat && c.toNat < 65536)

/-- Read assignments with a text between each two, up to the end of the text. -/
def readPairs (sep : List Char) : Nat → List Char → Option (List (List Char × List Char))
  | 0, _ => none
  | fuel + 1, s => do
      let s₁ ← [' ', '=', ' ', quote].isPrefixOf? (s.dropWhile isName)
      let r ← readLiteral s₁
      if r.2 = [] then return [(s.takeWhile isName, r.1)]
      else
        let s₂ ← sep.isPrefixOf? r.2
        let rest ← readPairs sep fuel s₂
        return (s.takeWhile isName, r.1) :: rest

/-- Read a whole text of assignments: no more of them than it has characters. -/
def readAll (sep s : List Char) : Option (List (List Char × List Char)) :=
  readPairs sep s.length s

section Reading

variable {sep : List Char}

/-- What may follow an assignment: nothing, or an equality sign before the next quote. -/
def Follows (rest : List Char) : Prop :=
  rest = [] ∨ ∃ gap more, rest = gap ++ quote :: more ∧ gap ≠ [] ∧ quote ∉ gap ∧ '=' ∈ gap

theorem Follows.head {rest : List Char} (h : Follows rest) : rest.head? ≠ some quote := by
  rcases h with rfl | ⟨gap, more, rfl, hne, hno, _⟩
  · simp
  · obtain ⟨c, gap, rfl⟩ := List.exists_cons_of_ne_nil hne
    intro hc
    exact hno (by rw [← Option.some.inj hc]; simp)

/-- **A literal that reads as it was meant ends where it was meant to.** -/
theorem reads_value {a : Assignment} (ha : a.Written) {rest r : List Char} (hrest : Follows rest)
    (h : readLiteral (a.literal ++ quote :: rest) = some (a.value, r)) :
    Body a.literal a.value ∧ r = rest := by
  obtain ⟨t, hsplit, hbody, _⟩ := readLiteral_eq_some.mp h
  rcases List.append_eq_append_iff.mp hsplit with ⟨x, rfl, hx⟩ | ⟨x, hlit, hx⟩
  · cases x with
    | nil =>
      rw [List.append_nil] at hbody
      exact ⟨hbody, (List.cons.inj hx).2.symm⟩
    | cons c x =>
      -- the literal would run on behind an equality sign
      exfalso
      obtain ⟨rfl, hrun⟩ := List.cons.inj hx
      have hmem : '=' ∈ x := by
        rcases hrest with hnil | ⟨gap, more, hgap, _, hno, heq⟩
        · rw [hnil] at hrun
          exact absurd hrun (by simp)
        · rw [hgap] at hrun
          rcases List.append_eq_append_iff.mp hrun with ⟨y, rfl, _⟩ | ⟨y, rfl, hy⟩
          · exact List.mem_append_left y heq
          · cases y with
            | nil => simpa using heq
            | cons d y =>
              obtain ⟨rfl, _⟩ := List.cons.inj hy
              exact absurd (by simp) hno
      have hcount := hbody.count_equals
      have hpos : 0 < x.count '=' := List.count_pos_iff.mpr hmem
      rw [List.count_append, List.count_cons_of_ne (by decide), ha.equals] at hcount
      omega
  · cases x with
    | nil =>
      rw [List.append_nil] at hlit
      rw [hlit]
      exact ⟨hbody, (List.cons.inj hx).2⟩
    | cons c x =>
      -- it would end before its last characters
      exfalso
      have hlen := hbody.length_le
      have hshort := ha.short
      rw [hlit, List.length_append, List.length_cons] at hshort
      omega

/-- Reading goes on behind the name and the opening quote of the first assignment. -/
theorem readPairs_text {a : Assignment} (hname : ∀ c ∈ a.name, isName c = true)
    (rest : List Char) (fuel : Nat) :
    readPairs sep (fuel + 1) (a.text ++ rest) = (do
      let r ← readLiteral (a.literal ++ quote :: rest)
      if r.2 = [] then return [(a.name, r.1)]
      else
        let s₂ ← sep.isPrefixOf? r.2
        let rest ← readPairs sep fuel s₂
        return (a.name, r.1) :: rest) := by
  have htext : a.text ++ rest =
      a.name ++ ([' ', '=', ' ', quote] ++ (a.literal ++ quote :: rest)) := by
    simp [Assignment.text]
  have hstop : isName ' ' = false := by decide
  have hopen : [' ', '=', ' ', quote].isPrefixOf?
      (' ' :: '=' :: ' ' :: quote :: ([] ++ (a.literal ++ quote :: rest))) =
        some (a.literal ++ quote :: rest) := List.isPrefixOf?_eq_some_iff_append_eq.mpr rfl
  rw [htext, readPairs, List.takeWhile_append_of_pos hname, List.dropWhile_append_of_pos hname]
  simp only [List.cons_append, List.takeWhile_cons, hstop, Bool.false_eq_true, if_false,
    List.append_nil, List.dropWhile_cons]
  rw [hopen]
  rfl

/-- **A first assignment that reads as it was meant** has a literal that stands for its text,
and the rest is read behind a separator. -/
theorem readPairs_first {a : Assignment} (hname : ∀ c ∈ a.name, isName c = true)
    (ha : a.Written) {rest : List Char} (hrest : Follows rest) {fuel : Nat}
    {out : List (List Char × List Char)}
    (h : readPairs sep (fuel + 1) (a.text ++ rest) = some ((a.name, a.value) :: out)) :
    Body a.literal a.value ∧ ((rest = [] ∧ out = []) ∨
      (rest ≠ [] ∧ ∃ s₂, sep ++ s₂ = rest ∧ readPairs sep fuel s₂ = some out)) := by
  rw [readPairs_text hname] at h
  obtain ⟨⟨v, r⟩, hread, h⟩ := Option.bind_eq_some_iff.mp h
  by_cases hr : r = []
  · rw [if_pos hr] at h
    obtain ⟨hv, rfl⟩ := List.cons.inj (Option.some.inj h)
    obtain rfl : v = a.value := (Prod.mk.inj hv).2
    obtain ⟨hbody, rfl⟩ := reads_value ha hrest hread
    exact ⟨hbody, Or.inl ⟨hr, rfl⟩⟩
  · rw [if_neg hr] at h
    obtain ⟨s₂, hs, h⟩ := Option.bind_eq_some_iff.mp h
    obtain ⟨more, hmore, h⟩ := Option.bind_eq_some_iff.mp h
    obtain ⟨hv, rfl⟩ := List.cons.inj (Option.some.inj h)
    obtain rfl : v = a.value := (Prod.mk.inj hv).2
    obtain ⟨hbody, rfl⟩ := reads_value ha hrest hread
    exact ⟨hbody, Or.inr ⟨hr, s₂, List.isPrefixOf?_eq_some_iff_append_eq.mp hs, hmore⟩⟩

/-- The text of some assignments. -/
def renderAll (sep : List Char) (as : List Assignment) : List Char :=
  sep.intercalate (as.map Assignment.text)

theorem renderAll_cons (a b : Assignment) (as : List Assignment) :
    renderAll sep (a :: b :: as) = a.text ++ (sep ++ renderAll sep (b :: as)) := by
  simp [renderAll]

/-- A text has more characters than assignments. -/
theorem length_le_renderAll (as : List Assignment) : as.length ≤ (renderAll sep as).length := by
  induction as with
  | nil => exact Nat.zero_le _
  | cons a as ih =>
    have hpos : 1 ≤ a.text.length := by
      simp only [Assignment.text, List.length_append, List.length_cons]
      omega
    cases as with
    | nil => simpa [renderAll] using hpos
    | cons b as =>
      rw [renderAll_cons, List.length_append, List.length_append]
      simp only [List.length_cons] at ih ⊢
      omega

/-- Behind a separator, an equality sign stands before the next quote. -/
theorem follows_renderAll (hsep : sep ≠ []) (hquote : quote ∉ sep) (b : Assignment)
    (as : List Assignment) (hname : ∀ c ∈ b.name, isName c = true) :
    Follows (sep ++ renderAll sep (b :: as)) := by
  have hno : quote ∉ b.name := fun h => absurd (hname quote h) (by decide)
  have htext : ∃ more, renderAll sep (b :: as) = b.name ++ [' ', '=', ' '] ++ quote :: more := by
    cases as with
    | nil => exact ⟨b.literal ++ [quote], by simp [renderAll, Assignment.text]⟩
    | cons c as =>
      rw [renderAll_cons]
      exact ⟨b.literal ++ [quote] ++ (sep ++ renderAll sep (c :: as)), by simp [Assignment.text]⟩
  obtain ⟨more, hmore⟩ := htext
  refine Or.inr ⟨sep ++ (b.name ++ [' ', '=', ' ']), more, ?_, ?_, ?_, ?_⟩
  · rw [hmore]; simp only [List.append_assoc]
  · exact fun h => hsep (List.append_eq_nil_iff.mp h).1
  · have : quote ∉ [' ', '=', ' '] := by decide
    simp only [List.mem_append, not_or]
    exact ⟨hquote, hno, this⟩
  · simp

/-- **Assignments whose literals stand for their texts are read back.** -/
theorem readPairs_of_bodies {as : List Assignment} (hne : as ≠ []) (hsep : sep ≠ [])
    (hquote : quote ∉ sep) (hnames : ∀ a ∈ as, ∀ c ∈ a.name, isName c = true)
    (hbodies : ∀ a ∈ as, Body a.literal a.value) {fuel : Nat} (hfuel : as.length ≤ fuel) :
    readPairs sep fuel (renderAll sep as) = some (as.map fun a => (a.name, a.value)) := by
  induction as generalizing fuel with
  | nil => exact absurd rfl hne
  | cons a as ih =>
    obtain ⟨fuel, rfl⟩ := Nat.exists_eq_succ_of_ne_zero (n := fuel)
      (by simp only [List.length_cons] at hfuel; omega)
    have hname := hnames a List.mem_cons_self
    have hbody := hbodies a List.mem_cons_self
    cases as with
    | nil =>
      have htext : renderAll sep [a] = a.text ++ [] := by simp [renderAll]
      rw [htext, readPairs_text hname, hbody.readLiteral (by simp)]
      rfl
    | cons b as =>
      have hrest := ih (by simp) (fun a' h => hnames a' (List.mem_cons_of_mem _ h))
        (fun a' h => hbodies a' (List.mem_cons_of_mem _ h))
        (show (b :: as).length ≤ fuel by simpa using hfuel)
      have hfollows := follows_renderAll hsep hquote b as (hnames b (by simp))
      have hcons : sep ++ renderAll sep (b :: as) ≠ [] := fun hnil =>
        hsep (List.append_eq_nil_iff.mp hnil).1
      rw [renderAll_cons, readPairs_text hname, hbody.readLiteral hfollows.head,
        Option.bind_eq_bind, Option.bind_some, if_neg hcons,
        List.isPrefixOf?_eq_some_iff_append_eq.mpr rfl, Option.bind_eq_bind, Option.bind_some,
        hrest]
      rfl

/-- **What a reader makes of some assignments**: what they mean, exactly if each literal
stands for its own text. -/
theorem readPairs_iff {as : List Assignment} (hne : as ≠ []) (hsep : sep ≠ [])
    (hquote : quote ∉ sep) (hnames : ∀ a ∈ as, ∀ c ∈ a.name, isName c = true)
    (hwritten : ∀ a ∈ as, a.Written) {fuel : Nat} (hfuel : as.length ≤ fuel) :
    readPairs sep fuel (renderAll sep as) = some (as.map fun a => (a.name, a.value)) ↔
      ∀ a ∈ as, Body a.literal a.value := by
  refine ⟨fun h => ?_, fun h => readPairs_of_bodies hne hsep hquote hnames h hfuel⟩
  induction as generalizing fuel with
  | nil => exact absurd rfl hne
  | cons a as ih =>
    obtain ⟨fuel, rfl⟩ := Nat.exists_eq_succ_of_ne_zero (n := fuel)
      (by simp only [List.length_cons] at hfuel; omega)
    have hname := hnames a List.mem_cons_self
    have ha := hwritten a List.mem_cons_self
    cases as with
    | nil =>
      have htext : renderAll sep [a] = a.text ++ [] := by simp [renderAll]
      rw [htext, List.map_cons] at h
      exact List.forall_mem_singleton.mpr (readPairs_first hname ha (Or.inl rfl) h).1
    | cons b as =>
      have hfollows := follows_renderAll hsep hquote b as (hnames b (by simp))
      rw [renderAll_cons, List.map_cons] at h
      obtain ⟨hbody, ⟨hnil, _⟩ | ⟨_, s₂, hs, hout⟩⟩ := readPairs_first hname ha hfollows h
      · exact absurd (List.append_eq_nil_iff.mp hnil).1 hsep
      · rw [List.append_cancel_left hs] at hout
        have hrest := ih (by simp) (fun a' h => hnames a' (List.mem_cons_of_mem _ h))
          (fun a' h => hwritten a' (List.mem_cons_of_mem _ h))
          (show (b :: as).length ≤ fuel by simpa using hfuel) hout
        exact List.forall_mem_cons.mpr ⟨hbody, hrest⟩

/-- The same for the reader of a whole text. -/
theorem readAll_iff {as : List Assignment} (hne : as ≠ []) (hsep : sep ≠ [])
    (hquote : quote ∉ sep) (hnames : ∀ a ∈ as, ∀ c ∈ a.name, isName c = true)
    (hwritten : ∀ a ∈ as, a.Written) :
    readAll sep (renderAll sep as) = some (as.map fun a => (a.name, a.value)) ↔
      ∀ a ∈ as, Body a.literal a.value :=
  readPairs_iff hne hsep hquote hnames hwritten (length_le_renderAll as)

theorem readAll_of_bodies {as : List Assignment} (hne : as ≠ []) (hsep : sep ≠ [])
    (hquote : quote ∉ sep) (hnames : ∀ a ∈ as, ∀ c ∈ a.name, isName c = true)
    (hbodies : ∀ a ∈ as, Body a.literal a.value) :
    readAll sep (renderAll sep as) = some (as.map fun a => (a.name, a.value)) :=
  readPairs_of_bodies hne hsep hquote hnames hbodies (length_le_renderAll as)

end Reading

end Quoted
