import Mathlib.Algebra.Group.Int.Defs
import Mathlib.Algebra.Group.Nat.Defs
import Mathlib.Data.List.Induction

/-!
# Decimal texts in front of other texts

A decimal text has no fixed width, so one can begin another. It does exactly when its number
is what is left of the other number without its last digits, and is not zero
(`toDigits_append`): a text that begins with a number tells the number only up to that.

A whole text tells its number: `readInt` reads back what `toString` writes.
-/

namespace Decimal

/-- Different numbers have different texts. -/
theorem toDigits_injective : Function.Injective (Nat.toDigits 10) := by
  intro n m h
  calc n = Nat.ofDigitChars 10 (Nat.toDigits 10 n) 0 := Nat.ofDigitChars_ten_toDigits.symm
    _ = Nat.ofDigitChars 10 (Nat.toDigits 10 m) 0 := by rw [h]
    _ = m := Nat.ofDigitChars_ten_toDigits

/-- The text of a number of more than one digit: the digits before the last, and the last. -/
theorem toDigits_div {n : Nat} (h : 0 < n / 10) :
    Nat.toDigits 10 n = Nat.toDigits 10 (n / 10) ++ [Nat.digitChar (n % 10)] :=
  Nat.toDigits_of_base_le (by decide) (by omega)

/-- The last digit splits off. -/
theorem toDigits_snoc {n : Nat} {cs : List Char} {c : Char} (hne : cs ≠ [])
    (h : Nat.toDigits 10 n = cs ++ [c]) :
    0 < n / 10 ∧ cs = Nat.toDigits 10 (n / 10) ∧ c = Nat.digitChar (n % 10) := by
  have hlen := congrArg List.length h
  rw [List.length_append, List.length_singleton] at hlen
  have hcs : 0 < cs.length := List.length_pos_iff.mpr hne
  by_cases hlt : n < 10
  · have hone : (Nat.toDigits 10 n).length = 1 := by rw [Nat.toDigits_of_lt_base hlt]; rfl
    omega
  · have hpos : 0 < n / 10 := by omega
    rw [toDigits_div hpos] at h
    obtain ⟨hfront, hlast⟩ := List.append_inj' h rfl
    exact ⟨hpos, hfront.symm, (List.singleton_inj.mp hlast).symm⟩

/-- **One decimal text begins another**: its number is the other without some last digits,
and not zero unless the texts are the same. -/
theorem toDigits_append {n m : Nat} {cs : List Char}
    (h : Nat.toDigits 10 n = Nat.toDigits 10 m ++ cs) :
    m = n / 10 ^ cs.length ∧ (cs ≠ [] → 0 < m) := by
  -- by induction on what follows, from its end
  induction cs using List.reverseRecOn generalizing n with
  | nil =>
    rw [List.append_nil] at h
    have heq := toDigits_injective h
    exact ⟨by rw [List.length_nil, Nat.pow_zero, Nat.div_one, heq], fun hne => absurd rfl hne⟩
  | append_singleton cs c ih =>
    rw [← List.append_assoc] at h
    obtain ⟨hpos, hfront, _⟩ := toDigits_snoc (by simp [Nat.toDigits_ne_nil]) h
    obtain ⟨hm, hm0⟩ := ih hfront.symm
    have hdiv : n / 10 / 10 ^ cs.length = n / 10 ^ (cs ++ [c]).length := by
      rw [List.length_append, List.length_singleton, Nat.div_div_eq_div_mul, ← Nat.pow_succ']
    refine ⟨hm.trans hdiv, fun _ => ?_⟩
    by_cases hnil : cs = []
    · subst hnil
      rw [List.length_nil, Nat.pow_zero, Nat.div_one] at hm
      omega
    · exact hm0 hnil

/-! ## Reading a number -/

/-- The number of a text of digits. -/
def readNat (cs : List Char) : Option Nat :=
  if cs ≠ [] ∧ cs.all Char.isDigit = true then some (Nat.ofDigitChars 10 cs 0) else none

/-- The number of a text of digits behind at most one sign. -/
def readInt : List Char → Option Int
  | '-' :: cs => (readNat cs).map fun n => -(n : Int)
  | '+' :: cs => (readNat cs).map Int.ofNat
  | cs => (readNat cs).map Int.ofNat

theorem readNat_toDigits (n : Nat) : readNat (Nat.toDigits 10 n) = some n := by
  have hdigit : (Nat.toDigits 10 n).all Char.isDigit = true :=
    List.all_eq_true.mpr fun c hc => Nat.isDigit_of_mem_toDigits (by decide) (by decide) hc
  rw [readNat, if_pos ⟨Nat.toDigits_ne_nil, hdigit⟩, Nat.ofDigitChars_ten_toDigits]

/-- Zeros in front do not change the number. -/
theorem readNat_replicate_zero (k n : Nat) :
    readNat (List.replicate k '0' ++ Nat.toDigits 10 n) = some n := by
  have hdigit : (List.replicate k '0' ++ Nat.toDigits 10 n).all Char.isDigit = true := by
    refine List.all_eq_true.mpr fun c hc => ?_
    rcases List.mem_append.mp hc with hc | hc
    · rw [List.eq_of_mem_replicate hc]
      rfl
    · exact Nat.isDigit_of_mem_toDigits (by decide) (by decide) hc
  rw [readNat, if_pos ⟨by simp [Nat.toDigits_ne_nil], hdigit⟩, Nat.ofDigitChars_append,
    Nat.ofDigitChars_replicate_zero, Nat.mul_zero, Nat.ofDigitChars_ten_toDigits]

/-- A text of digits has no sign in front. -/
theorem readInt_toDigits (n : Nat) : readInt (Nat.toDigits 10 n) = some (n : Int) := by
  have hread := readNat_toDigits n
  have hdigit : ∀ c ∈ Nat.toDigits 10 n, c.isDigit = true := fun c hc =>
    Nat.isDigit_of_mem_toDigits (by decide) (by decide) hc
  generalize Nat.toDigits 10 n = cs at hread hdigit
  rw [readInt, hread]
  · rfl
  · intro cs' heq
    obtain rfl := heq
    exact absurd (hdigit '-' (by simp)) (by decide)
  · intro cs' heq
    obtain rfl := heq
    exact absurd (hdigit '+' (by simp)) (by decide)

/-- **What `toString` writes of a number is read as that number.** -/
theorem readInt_toString (n : Int) : readInt (toString n).toList = some n := by
  cases n with
  | ofNat m =>
    have htext : (toString (Int.ofNat m)).toList = Nat.toDigits 10 m := by
      have hnat : toString (Int.ofNat m) = toString m := rfl
      rw [hnat, Nat.toString_eq_ofList_toDigits, String.toList_ofList]
    rw [htext]
    exact readInt_toDigits m
  | negSucc m =>
    have htext : (toString (Int.negSucc m)).toList = '-' :: Nat.toDigits 10 (m + 1) := by
      have hneg : toString (Int.negSucc m) = "-" ++ toString (m + 1) := rfl
      rw [hneg, String.toList_append, Nat.toString_eq_ofList_toDigits, String.toList_ofList,
        String.toList_ofList]
      rfl
    rw [htext, readInt, readNat_toDigits]
    rfl

/-- Different numbers have different texts. -/
theorem toString_nat_injective : Function.Injective (toString : Nat → String) := by
  intro n m h
  have hchars := congrArg String.toList h
  rw [Nat.toString_eq_ofList_toDigits, Nat.toString_eq_ofList_toDigits, String.toList_ofList,
    String.toList_ofList] at hchars
  exact toDigits_injective hchars

theorem toString_int_injective : Function.Injective (toString : Int → String) := by
  intro n m h
  have hread : some n = some m := by rw [← readInt_toString n, h, readInt_toString]
  exact Option.some.inj hread

end Decimal
