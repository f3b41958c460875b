/-
# Numbers in digits

A text is the decimal of a number if it is made of digits and stands for the number
(`Decimal`). A text behind another adds its number, and moves the other one up by its
places (`Decimal.append`), so zeros before the digits change nothing, and the first of
the digits stand for the number without its last places (`Decimal.take`). The numbers
with two places, the numbers filled up with zeros and the first digits of a fraction are
written in this way (`decimal_twoPlaces`, `decimal_padded`, `decimal_fractionDigits`).

Key definition: `Decimal`.
Key theorems: `Decimal.append`, `Decimal.take`, `decimal_twoPlaces`, `decimal_padded`,
`decimal_fractionDigits`.
-/
import Mathlib
import TimePhrase.Format.Item
import TimePhrase.Format.Reference

namespace TimePhrase

variable {text others : Text} {m n : Nat}

/-- A text of decimal digits that stands for a number. -/
structure Decimal (text : Text) (n : Nat) : Prop where
  isDigit : ∀ c ∈ text, c.isDigit = true
  value : Reader.valueOf text = n

theorem valueOf_append (text others : Text) :
    Reader.valueOf (text ++ others) =
      Reader.valueOf text * 10 ^ others.length + Reader.valueOf others := by
  have h : Reader.valueOf (text ++ others) =
      Nat.ofDigitChars 10 others (Reader.valueOf text) := Nat.ofDigitChars_append 0
  rw [h, Nat.ofDigitChars_eq_ofDigitChars_zero, Nat.mul_comm]
  rfl

namespace Decimal

theorem toDigits (n : Nat) : Decimal (Nat.toDigits 10 n) n where
  isDigit _ := Nat.isDigit_of_mem_toDigits (by decide) (by decide)
  value := Nat.ofDigitChars_ten_toDigits

theorem digitChar (h : n < 10) : Decimal [Nat.digitChar n] n := by
  rw [← Nat.toDigits_of_lt_base h]
  exact toDigits n

theorem zeros (places : Nat) : Decimal (List.replicate places '0') 0 where
  isDigit c hc := by
    rw [List.eq_of_mem_replicate hc]
    decide
  value := Nat.ofDigitChars_replicate_zero

/-- A text behind another adds its number and moves the other one up. -/
theorem append (h : Decimal text m) (h' : Decimal others n) :
    Decimal (text ++ others) (m * 10 ^ others.length + n) where
  isDigit c hc := (List.mem_append.mp hc).elim (h.isDigit c) (h'.isDigit c)
  value := by rw [valueOf_append, h.value, h'.value]

/-- Zeros before a number change nothing. -/
theorem zeros_append (h : Decimal text n) (places : Nat) :
    Decimal (List.replicate places '0' ++ text) n := by
  have happend := (zeros places).append h
  rwa [Nat.zero_mul, Nat.zero_add] at happend

/-- Zeros behind a number move it up. -/
theorem append_zeros (h : Decimal text n) (places : Nat) :
    Decimal (text ++ List.replicate places '0') (n * 10 ^ places) := by
  have happend := h.append (zeros places)
  rwa [List.length_replicate] at happend

/-- A number is less than one with another place. -/
theorem lt (h : Decimal text n) : n < 10 ^ text.length := by
  -- the first digit counts at most nine times what the others have room for
  induction text generalizing n with
  | nil =>
    rw [← h.value]
    decide
  | cons c text ih =>
    obtain ⟨hc, htext⟩ := List.forall_mem_cons.mp h.isDigit
    have hdigit : c.toNat - '0'.toNat ≤ 9 :=
      Nat.sub_le_sub_right (Char.isDigit_iff_toNat.mp hc).2 _
    have hfirst : Reader.valueOf [c] = c.toNat - '0'.toNat := Nat.zero_add _
    have hrest := ih ⟨htext, rfl⟩
    have hmul := Nat.mul_le_mul_right (10 ^ text.length) hdigit
    rw [← h.value, ← List.singleton_append, valueOf_append, hfirst, List.length_append,
      List.length_singleton, Nat.pow_add]
    omega

/-- The first digits of a number stand for it without its last places. -/
theorem take (h : Decimal text n) (places : Nat) :
    Decimal (text.take places) (n / 10 ^ (text.length - places)) where
  isDigit c hc := h.isDigit c (List.mem_of_mem_take hc)
  value := by
    have hlast : Decimal (text.drop places) (Reader.valueOf (text.drop places)) :=
      ⟨fun c hc => h.isDigit c (List.mem_of_mem_drop hc), rfl⟩
    have hsplit := valueOf_append (text.take places) (text.drop places)
    rw [List.take_append_drop, h.value] at hsplit
    rw [hsplit, ← List.length_drop, Nat.mul_comm, Nat.mul_add_div (Nat.pow_pos (by decide)),
      Nat.div_eq_of_lt hlast.lt, Nat.add_zero]

end Decimal

/-! ### Numbers with places -/

theorem ofNat_eq_digitChar : ∀ {n : Nat}, n < 10 → Char.ofNat ('0'.toNat + n) = Nat.digitChar n := by
  decide

/-- A number below 100 has two places. -/
theorem decimal_twoPlaces (h : n < 100) :
    Decimal (twoPlaces n .zero) n ∧ (twoPlaces n .zero).length = 2 := by
  have htens : n / 10 < 10 := by omega
  have hones : n % 10 < 10 := by omega
  have hplaces : twoPlaces n .zero = [Nat.digitChar (n / 10)] ++ [Nat.digitChar (n % 10)] := by
    rw [twoPlaces, if_neg nofun, if_neg nofun, ofNat_eq_digitChar htens, ofNat_eq_digitChar hones]
    rfl
  have hdecimal := (Decimal.digitChar htens).append (Decimal.digitChar hones)
  rw [List.length_singleton, Nat.pow_one, Nat.div_add_mod'] at hdecimal
  rw [hplaces]
  exact ⟨hdecimal, rfl⟩

/-- Without a sign a number is its digits, with zeros before them. -/
theorem padded_natCast (width n : Nat) :
    padded width n .zero false =
      List.replicate (width - (Nat.toDigits 10 n).length) '0' ++ Nat.toDigits 10 n := by
  rw [padded, if_neg (Int.not_lt.mpr (Int.natCast_nonneg n)), if_neg Bool.false_ne_true]
  rfl

/-- The sign of a number takes one of its places. -/
theorem padded_signed (width n : Nat) :
    padded (width + 1) n .zero true = '+' :: padded width n .zero false ∧
      (0 < n → padded (width + 1) (-n) .zero true = '-' :: padded width n .zero false) := by
  rw [padded_natCast]
  constructor
  · rw [padded, if_neg (Int.not_lt.mpr (Int.natCast_nonneg n)), if_pos rfl]
    rfl
  · intro hpos
    rw [padded, if_pos (by omega), Int.natAbs_neg]
    rfl

/-- A number filled up with zeros has one digit at least, and the places asked for if it
needs no more. -/
theorem decimal_padded (width n : Nat) :
    Decimal (padded width n .zero false) n ∧ padded width n .zero false ≠ [] ∧
      (0 < width → n < 10 ^ width → (padded width n .zero false).length = width) := by
  rw [padded_natCast]
  refine ⟨(Decimal.toDigits n).zeros_append _,
    List.append_ne_nil_of_right_ne_nil _ Nat.toDigits_ne_nil, fun hwidth hn => ?_⟩
  have hlength := (Nat.length_toDigits_le_iff (by decide) hwidth).mpr hn
  rw [List.length_append, List.length_replicate, Nat.sub_add_cancel hlength]

/-- The first digits of a fraction of a second. -/
theorem decimal_fractionDigits {digits nano : Nat} (hdigits : digits ≤ 9)
    (hnano : nano < 1000000000) :
    Decimal (fractionDigits digits nano) (nano / 10 ^ (9 - digits)) ∧
      (fractionDigits digits nano).length = digits := by
  obtain ⟨hdecimal, -, hlength⟩ := decimal_padded 9 nano
  have hnine := hlength (by decide) hnano
  have htake := hdecimal.take digits
  rw [hnine] at htake
  exact ⟨htake, by rw [fractionDigits, List.length_take, hnine, Nat.min_eq_left hdigits]⟩

end TimePhrase
