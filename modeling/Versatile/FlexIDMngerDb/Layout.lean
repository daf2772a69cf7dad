import Mathlib.Data.Bool.Basic
import Versatile.Lib.Decimal
import Versatile.FlexIDMngerDb.GenID

/-!
# Does an identifier determine its parts?

An identifier is the decimal text of its flag in front of a base, with nothing between them.
A flag is a multiple of `collision_inc` below 256, so its text may be the text of another flag
and one digit more; then a base that begins with that digit makes the two identifiers one.
There is no other way: the flags and the bases can be read back unless that digit moves from
one part to the other.
-/

namespace Versatile.FlexIDMngerDb

open Py

/-! ## The flag alone -/

theorem gen_flag_le {c s : Value} {m f : Nat} (h : gen_flag c s m = .ok f) : m ≤ 15 := by
  by_contra hgt
  rw [gen_flag_of_gt (by omega)] at h
  exact absurd h (by simp)

/-- A flag is a multiple of four below 256. -/
theorem gen_flag_range {c s : Value} {m f : Nat} (h : gen_flag c s m = .ok f) :
    f % 4 = 0 ∧ f < 256 := by
  have hm := gen_flag_le h
  rw [gen_flag_of_le hm] at h
  obtain rfl := Except.ok.inj h
  unfold baseFlag collision_inc
  split <;> split <;> omega

/-- The two bits, as numbers. -/
theorem baseFlag_eq (c s : Value) :
    baseFlag c s = 128 * c.truthy.toNat + 64 * s.truthy.toNat := by
  unfold baseFlag
  cases c.truthy <;> cases s.truthy <;> rfl

/-- **The bits and the collision number can be read back from the flag.** -/
theorem gen_flag_fields {c s c' s' : Value} {m m' f : Nat} (h : gen_flag c s m = .ok f)
    (h' : gen_flag c' s' m' = .ok f) :
    c.truthy = c'.truthy ∧ s.truthy = s'.truthy ∧ m = m' := by
  have hm := gen_flag_le h
  have hm' := gen_flag_le h'
  rw [gen_flag_of_le hm, baseFlag_eq] at h
  rw [gen_flag_of_le hm', baseFlag_eq] at h'
  have heq := Except.ok.inj (h.trans h'.symm)
  unfold collision_inc at heq
  -- the collision number stays below the two bits, and the lower bit below the upper
  have hs := Bool.toNat_le s.truthy
  have hs' := Bool.toNat_le s'.truthy
  have hcache : c.truthy.toNat = c'.truthy.toNat := by omega
  have hsegment : s.truthy.toNat = s'.truthy.toNat := by omega
  have hinj : Function.Injective Bool.toNat := Function.LeftInverse.injective Bool.ofNat_toNat
  exact ⟨hinj hcache, hinj hsegment, by omega⟩

/-! ## The flag in front of a base -/

/-- The text of `g` is the text of `f` and one digit more, and that digit is where the base
behind `f` begins. -/
structure Leads (f : Nat) (a : String) (g : Nat) (b : String) : Prop where
  pos : 0 < f
  front : f = g / 10
  digit : a = String.singleton (Nat.digitChar (g % 10)) ++ b

/-- The characters of an identifier. -/
theorem newID_toList (f : Nat) (a : String) :
    (newID f a).toList = Nat.toDigits 10 f ++ a.toList := by
  rw [newID, String.toList_append, Nat.toString_eq_ofList_toDigits, String.toList_ofList]

/-- A digit that moves from the base to the flag leaves the identifier as it is. -/
theorem Leads.newID_eq {f g : Nat} {a b : String} (h : Leads f a g b) :
    newID f a = newID g b := by
  have hg : Nat.toDigits 10 g = Nat.toDigits 10 f ++ [Nat.digitChar (g % 10)] := by
    have hpos := h.pos
    rw [h.front] at hpos ⊢
    exact Decimal.toDigits_div hpos
  rw [← String.toList_inj, newID_toList, newID_toList, hg, h.digit, String.toList_append,
    String.toList_singleton, List.append_assoc]

theorem Leads.ne {f g : Nat} {a b : String} (h : Leads f a g b) : f ≠ g := by
  have hpos := h.pos
  have hfront := h.front
  omega

/-- When the text of one flag begins the text of the other, at most one digit is left over. -/
theorem leads_of_toDigits {f g : Nat} (hf : f % 4 = 0) (hg : g < 256) {cs : List Char}
    {a b : String} (hfront : Nat.toDigits 10 g = Nat.toDigits 10 f ++ cs)
    (hbase : a.toList = cs ++ b.toList) : (f = g ∧ a = b) ∨ Leads f a g b := by
  obtain ⟨hdiv, hpos⟩ := Decimal.toDigits_append hfront
  match cs, hfront, hbase, hdiv, hpos with
  | [], _, hbase, hdiv, _ =>
    rw [List.length_nil, Nat.pow_zero, Nat.div_one] at hdiv
    exact Or.inl ⟨hdiv, String.toList_inj.mp hbase⟩
  | [c], hfront, hbase, hdiv, hpos =>
    obtain ⟨_, _, rfl⟩ := Decimal.toDigits_snoc Nat.toDigits_ne_nil hfront
    refine Or.inr ⟨hpos (by simp), hdiv, ?_⟩
    rw [← String.toList_inj, hbase, String.toList_append, String.toList_singleton]
  | c :: c' :: cs, _, _, hdiv, hpos =>
    -- without two digits the other flag is at most 2, and no multiple of four but zero
    exfalso
    have hpow : 100 ≤ 10 ^ (c :: c' :: cs).length := by
      calc 100 = 10 ^ 2 := by decide
        _ ≤ 10 ^ (c :: c' :: cs).length := Nat.pow_le_pow_right (by decide) (by simp)
    have hle : g / 10 ^ (c :: c' :: cs).length ≤ g / 100 := Nat.div_le_div_left hpow (by decide)
    have hf0 := hpos (by simp)
    omega

/-- **Two identifiers are one** only when their parts are the same, or a digit moved. -/
theorem newID_eq_cases {f g : Nat} {a b : String} (hf : f % 4 = 0 ∧ f < 256)
    (hg : g % 4 = 0 ∧ g < 256) (h : newID f a = newID g b) :
    (f = g ∧ a = b) ∨ Leads f a g b ∨ Leads g b f a := by
  have hchars := congrArg String.toList h
  rw [newID_toList, newID_toList] at hchars
  rcases List.append_eq_append_iff.mp hchars with ⟨cs, hfront, hbase⟩ | ⟨cs, hfront, hbase⟩
  · exact (leads_of_toDigits hf.1 hg.2 hfront hbase).imp_right Or.inl
  · rcases leads_of_toDigits hg.1 hf.2 hfront hbase with ⟨hfg, hab⟩ | hleads
    · exact Or.inl ⟨hfg.symm, hab.symm⟩
    · exact Or.inr (Or.inr hleads)

/-! ## What an identifier tells -/

/-- The identifier of a flag and a base tells both from those of another, and the bits and the
collision number behind the flags. -/
def Determines (c s : Value) (m : Nat) (a : String) (c' s' : Value) (m' : Nat) (b : String)
    (f g : Nat) : Prop :=
  newID f a = newID g b →
    f = g ∧ a = b ∧ c.truthy = c'.truthy ∧ s.truthy = s'.truthy ∧ m = m'

/--
**When an identifier determines its parts.**

For all flags `gen_flag` makes and all bases: exactly unless the text of one flag is the text
of the other and one digit more, with which the base of the other begins.
-/
theorem determines_iff {c s c' s' : Value} {m m' f g : Nat} (a b : String)
    (hf : gen_flag c s m = .ok f) (hg : gen_flag c' s' m' = .ok g) :
    Determines c s m a c' s' m' b f g ↔ ¬ Leads f a g b ∧ ¬ Leads g b f a := by
  refine ⟨?_, ?_⟩
  · intro h
    refine ⟨?_, ?_⟩
    · intro hleads
      exact hleads.ne (h hleads.newID_eq).1
    · intro hleads
      exact hleads.ne (h hleads.newID_eq.symm).1.symm
  · intro hno heq
    rcases newID_eq_cases (gen_flag_range hf) (gen_flag_range hg) heq with
      ⟨rfl, rfl⟩ | hleads | hleads
    · exact ⟨rfl, rfl, gen_flag_fields hf hg⟩
    · exact absurd hleads hno.1
    · exact absurd hleads hno.2

/-- Of one collision and of ten, for the bases of two devices. -/
theorem determines_four_forty :
    Determines .none .none 1 "t" .none .none 10 "u" 4 40 ↔
      ¬ Leads 4 "t" 40 "u" ∧ ¬ Leads 40 "u" 4 "t" :=
  determines_iff "t" "u" rfl rfl

/-- **Two devices with one identifier**: `4` in front of `0t`, and `40` in front of `t`. -/
theorem not_determines :
    ¬ ∀ (c s : Value) (m : Nat) (a : String) (c' s' : Value) (m' : Nat) (b : String) (f g : Nat),
      gen_flag c s m = .ok f → gen_flag c' s' m' = .ok g →
        Determines c s m a c' s' m' b f g := by
  intro h
  have hsame := h .none .none 1 "0t" .none .none 10 "t" 4 40 rfl rfl (by decide)
  exact absurd hsame.1 (by decide)

end Versatile.FlexIDMngerDb
