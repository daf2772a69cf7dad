import Versatile.FlexIDMngerDb.GenID
import Versatile.FlexIDMngerDb.Rendering

/-!
# Statements that can be read

A server that refuses no statement it can read takes those built from clean texts: strings
without quotes and backslashes, and lists of them. A list need not come out as it was meant: its
strings are escaped, and the backslashes of the escapes are read once more.
-/

namespace Py

open Quoted

/-- A string without quotes and backslashes. -/
def Quoteless (s : String) : Prop := apostrophe ∉ s.toList ∧ '"' ∉ s.toList ∧ '\\' ∉ s.toList

/-- The characters of a number in hexadecimal. -/
theorem mem_toDigits {n : Nat} {c : Char} (h : c ∈ Nat.toDigits 16 n) :
    ∃ k, k < 16 ∧ c = Nat.digitChar k := by
  induction n using Nat.strongRecOn with
  | ind n ih =>
    rw [Nat.toDigits_eq_if (by decide)] at h
    split at h
    · rename_i hlt
      exact ⟨n, hlt, List.mem_singleton.mp h⟩
    · rcases List.mem_append.mp h with h | h
      · exact ih (n / 16) (by omega) h
      · exact ⟨n % 16, Nat.mod_lt _ (by decide), List.mem_singleton.mp h⟩

theorem digitChar_ne {k : Nat} (h : k < 16) :
    Nat.digitChar k ≠ apostrophe ∧ Nat.digitChar k ≠ '\\' := by
  revert h
  revert k
  decide

theorem not_mem_hex {c : Char} (hc : c = apostrophe ∨ c = '\\') (width n : Nat) :
    c ∉ hex width n := by
  intro h
  rcases List.mem_append.mp h with h | h
  · obtain rfl := (List.mem_replicate.mp h).2
    revert hc
    decide
  · obtain ⟨k, hk, rfl⟩ := mem_toDigits h
    rcases hc with hc | hc
    · exact (digitChar_ne hk).1 hc
    · exact (digitChar_ne hk).2 hc

/-- `unicode_escape` makes no apostrophes. -/
theorem apostrophe_mem_escapeChar {c : Char} (h : apostrophe ∈ escapeChar c) : c = apostrophe := by
  have hhex := not_mem_hex (Or.inl rfl : apostrophe = apostrophe ∨ apostrophe = '\\')
  unfold escapeChar at h
  split_ifs at h with hb ht hn hr hp hx hu
  · exact absurd h (by decide)
  · exact absurd h (by decide)
  · exact absurd h (by decide)
  · exact absurd h (by decide)
  · exact (List.mem_singleton.mp h).symm
  all_goals
    rcases List.mem_cons.mp h with h | h
    · exact absurd h (by decide)
    · rcases List.mem_cons.mp h with h | h
      · exact absurd h (by decide)
      · exact absurd h (hhex _ _)

/-- What `repr` writes for a character other than its quote can be read. -/
theorem closes_reprChar {q c : Char} (h : c ≠ q) : Closes (reprChar q c) := by
  unfold reprChar
  split_ifs with hb ht hn hr hx
  · rcases hb with rfl | rfl
    · exact closes_escape (by decide)
    · exact absurd rfl h
  · exact closes_escape (by decide)
  · exact closes_escape (by decide)
  · exact closes_escape (by decide)
  · exact (closes_escape (c := 'x') (by decide)).append
      (closes_of_not_mem (not_mem_hex (Or.inr rfl) _ _))
  · exact closes_char fun hc => hb (Or.inl hc)

/-- What `repr` writes for a text without apostrophes can be read. -/
theorem closes_reprStr {s : String} (h : apostrophe ∉ s.toList) : Closes (reprStr s).toList := by
  have hq : reprQuote s = apostrophe := by rw [reprQuote, if_neg fun hboth => h hboth.1]
  have hquote : Closes [apostrophe] := closes_char (by decide)
  rw [reprStr_toList, hq, ← List.singleton_append]
  refine hquote.append ((closes_flatMap fun c hc => closes_reprChar ?_).append hquote)
  intro heq
  obtain rfl := heq
  exact h hc

end Py

namespace Versatile.FlexIDMngerDb

open Py Quoted

/-- A server that refuses no statement it can read. -/
def TakesReadable (srv : Server) : Prop :=
  ∀ n (verb : Verb) text, (readStatement verb.head verb.clause verb.sep text).isSome →
    srv.refuses n text = none

/-- A clean string, or a list of clean strings. -/
def Datum.Quoteless : Datum → Prop
  | text s => Py.Quoteless s
  | texts ss => ∀ s ∈ ss, Py.Quoteless s

/-- The text of a list of clean strings can be read, once its quotes are escaped. -/
theorem closes_escapedTexts {ss : List String} (h : ∀ s ∈ ss, Py.Quoteless s) :
    Closes (Datum.escapedTexts ss).toList := by
  rw [escapedTexts_toList]
  have hmid : Closes ([',', ' '].intercalate
      (ss.map fun s => 'b' :: (Py.reprStr (unicodeEscape s)).toList)) := by
    refine closes_intercalate (closes_of_not_mem (by decide)) fun l hl => ?_
    obtain ⟨s, hs, rfl⟩ := List.mem_map.mp hl
    refine Closes.append (closes_char (by decide) : Closes ['b']) (closes_reprStr ?_)
    rw [unicodeEscape, String.toList_ofList]
    intro hmem
    obtain ⟨c, hc, hin⟩ := List.mem_flatMap.mp hmem
    obtain rfl := apostrophe_mem_escapeChar hin
    exact (h s hs).1 hc
  exact (Closes.append (closes_char (by decide) : Closes ['[']) hmid).append
    (closes_char (by decide))

/-- The literal pasted for a clean value in an `INSERT` can be read. -/
theorem body_insert {d : Datum} (h : d.Quoteless) : ∃ w, Body (d.literal .insert).toList w := by
  cases d with
  | text s => exact ⟨_, body_self h.1 h.2.2⟩
  | texts ss =>
    obtain ⟨w, hw⟩ := closes_escapedTexts h
    have hlit : (Datum.literal .insert (.texts ss)).toList =
        Quoted.escapeQuotes (Datum.escapedTexts ss).toList := String.toList_ofList
    exact ⟨w, by rw [hlit]; exact hw⟩

/-- The assignment of one column, with the text its literal stands for. -/
def readAssignment (verb : Verb) (c : Column × Datum) : Assignment :=
  ⟨c.1.name.toList, (c.2.literal verb).toList,
    ((Quoted.readLiteral ((c.2.literal verb).toList ++ [quote])).getD ([], [])).1⟩

/-- **A statement whose literals can be read** can be read as a whole. -/
theorem readStatement_isSome (verb : Verb) (t : Table) {row : Row} (hne : row ≠ [])
    (h : ∀ c ∈ row, ∃ w, Body (c.2.literal verb).toList w) :
    (readStatement verb.head verb.clause verb.sep (verb.statement t (row.map fun c =>
      ⟨c.1.name, c.2.literal verb⟩)).text).isSome := by
  have htext : renderAll verb.sep.toList (row.map (assignment verb)) =
      renderAll verb.sep.toList (row.map (readAssignment verb)) := by
    rw [renderAll, renderAll, List.map_map, List.map_map]
    rfl
  have hread := @readAll_of_bodies verb.sep.toList (row.map (readAssignment verb))
    (by simpa using hne)
    (by cases verb <;> decide) (by cases verb <;> decide)
    (by
      intro a ha
      obtain ⟨c, _, rfl⟩ := List.mem_map.mp ha
      exact c.1.chars)
    (by
      intro a ha
      obtain ⟨c, hc, rfl⟩ := List.mem_map.mp ha
      obtain ⟨w, hw⟩ := h c hc
      have hlit : Quoted.readLiteral ((c.2.literal verb).toList ++ [quote]) = some (w, []) :=
        hw.readLiteral (by simp)
      simp only [readAssignment, hlit, Option.getD_some]
      exact hw)
  rw [readStatement_text, htext, hread]
  rfl

variable {srv : Server}

/-- **An insertion of clean values is not refused.** -/
theorem insert_taken (htakes : TakesReadable srv) (n : Nat) (t : Table) {row : Row} (hne : row ≠ [])
    (h : ∀ c ∈ row, c.2.Quoteless) {cells : List Cell}
    (hcells : row.fields.mapM insertCell = .ok cells) :
    srv.refuses n (Statement.insert t cells).text = none := by
  obtain rfl := Except.ok.inj ((cells_fields .insert row).symm.trans hcells)
  exact htakes n .insert _
    (readStatement_isSome .insert t hne fun c hc => body_insert (h c hc))

/-- **A selection for a clean identifier is not refused.** -/
theorem deviceProbe_taken (htakes : TakesReadable srv) (n : Nat) {id : String}
    (h : Py.Quoteless id) : srv.refuses n (deviceProbe id) = none := by
  refine htakes n .select _ (@readStatement_isSome .select .Device [(deviceIdColumn, .text id)]
    (by simp) fun c hc => ?_)
  obtain rfl := List.mem_singleton.mp hc
  exact ⟨_, body_self h.1 h.2.2⟩

/-- The candidates of a clean text are clean. -/
theorem clean_newID {base : String} (h : Py.Quoteless base) (flag : Nat) :
    Py.Quoteless (newID flag base) := by
  have hdigits : ∀ c, c.isDigit = false → c ∉ (toString flag).toList := by
    intro c hc hmem
    rw [Nat.toString_eq_ofList_toDigits, String.toList_ofList] at hmem
    have := Nat.isDigit_of_mem_toDigits (by decide) (by decide) hmem
    rw [hc] at this
    exact absurd this (by simp)
  unfold newID Py.Quoteless
  simp only [String.toList_append, List.mem_append, not_or]
  exact ⟨⟨hdigits _ (by decide), h.1⟩, ⟨hdigits _ (by decide), h.2.1⟩,
    ⟨hdigits _ (by decide), h.2.2⟩⟩

end Versatile.FlexIDMngerDb
