/-
# Reading what was written

A reference is read piece by piece, each reader taking its piece from the front of the
text and leaving the rest (`Reader.bind_eq`). The readers give back what was written:
two places are a number (`Reader.number_twoPlaces`), a year with four digits or a sign
is the year, and stops at the hyphen behind it (`Reader.year_paddedYear`), and the
digits of a fraction are the nanoseconds up to the last place shown
(`Reader.fraction_fractionDigits`).

So the written fields of a date-time (`DateTime.written`) are read as the fields of one
that differs in the fraction at most (`Reader.dateTime_written`). A separator that is
not the one written stops the reading.

Key definitions: `TimeOfDay.written`, `DateTime.written`, `Reader.clock`.
Key theorems: `Reader.digits_append`, `Reader.number_twoPlaces`,
`Reader.year_paddedYear`, `Reader.fraction_fractionDigits`, `Reader.dateTime_written`,
`Reader.clock_written`.
-/
import TimePhrase.Proofs.Calendar.Containment
import TimePhrase.Proofs.Calendar.LeapSecond
import TimePhrase.Proofs.Format.Digits

namespace TimePhrase

namespace Reader

variable {α β : Type} {reader : Reader α} {next : α → Reader β} {text rest : Text} {n : Nat}

/-! ### Pieces -/

/-- What one reader leaves the next one reads. -/
theorem bind_eq {a : α} (h : reader text = some (a, rest)) :
    (reader >>= next) text = next a rest := by
  simp [bind, StateT.bind, h]

theorem bind_eq_none (h : reader text = none) : (reader >>= next) text = none := by
  simp [bind, StateT.bind, h]

theorem lift_eq {result : Option α} {a : α} (h : result = some a) (text : Text) :
    (liftM result : Reader α) text = some (a, text) := by
  rw [h]
  rfl

theorem get_eq (text : Text) : (get : Reader Text) text = some (text, text) :=
  rfl

theorem set_eq (text rest : Text) : (set rest : Reader PUnit) text = some (⟨⟩, rest) :=
  rfl

theorem char_cons (c : Char) (rest : Text) : char c (c :: rest) = some ((), rest) :=
  if_pos rfl

/-- A digit is not blank. -/
theorem isBlank_eq_false_of_isDigit {c : Char} (h : c.isDigit = true) : isBlank c = false := by
  have hzero : 48 ≤ c.toNat := (Char.isDigit_iff_toNat.mp h).1
  have hnine : c.toNat ≤ 57 := (Char.isDigit_iff_toNat.mp h).2
  simp only [isBlank, Bool.or_eq_false_iff, Bool.and_eq_false_iff, decide_eq_false_iff_not,
    beq_eq_false_iff_ne]
  omega

theorem blanks_cons {c : Char} (h : isBlank c = false) (rest : Text) :
    blanks (c :: rest) = some ((), c :: rest) := by
  rw [blanks, trimStart, List.dropWhile_cons_of_neg (by simp [h])]

/-- Before digits there are no blanks. -/
theorem blanks_append (h : Decimal text n) (hne : text ≠ []) (rest : Text) :
    blanks (text ++ rest) = some ((), text ++ rest) := by
  obtain ⟨c, others, rfl⟩ := List.exists_cons_of_ne_nil hne
  exact blanks_cons (isBlank_eq_false_of_isDigit (h.isDigit c List.mem_cons_self)) (others ++ rest)

/-- Digits are read up to the limit, or to a character that is no digit. -/
theorem digits_append {limit : Nat} (h : Decimal text n) (hne : text ≠ [])
    (hlimit : text.length ≤ limit)
    (hrest : ∀ c ∈ (rest.take (limit - text.length)).head?, c.isDigit = false) :
    digits limit (text ++ rest) = some (text, rest) := by
  have hfound : ((text ++ rest).take limit).takeWhile Char.isDigit = text := by
    rw [List.take_append, List.take_of_length_le hlimit, List.takeWhile_append_of_pos h.isDigit]
    cases hleft : rest.take (limit - text.length) with
    | nil => rw [List.takeWhile_nil, List.append_nil]
    | cons c left =>
      have hc := hrest c (by rw [hleft]; rfl)
      rw [List.takeWhile_cons_of_neg (by simp [hc]), List.append_nil]
  have hsome : text.isEmpty = false := List.isEmpty_eq_false_iff.mpr hne
  simp [digits, hfound, hsome]

/-- As many digits as are read at most are read, whatever follows. -/
theorem digits_full (h : Decimal text n) (hne : text ≠ []) (rest : Text) :
    digits text.length (text ++ rest) = some (text, rest) := by
  refine digits_append h hne (Nat.le_refl _) ?_
  rw [Nat.sub_self, List.take_zero]
  rintro _ ⟨⟩

/-- Digits are read up to a character that is no digit. -/
theorem allDigits_append (h : Decimal text n) (hne : text ≠ []) (rest : Text)
    (hrest : ∀ c ∈ rest.head?, c.isDigit = false) :
    allDigits (text ++ rest) = some (text, rest) := by
  refine digits_append h hne (by simp) fun c hc => hrest c ?_
  rwa [List.take_of_length_le (by simp)] at hc

/-! ### Numbers -/

/-- A number below 100 is read from its two places, whatever follows. -/
theorem number_twoPlaces (h : n < 100) (rest : Text) :
    number (twoPlaces n .zero ++ rest) = some (n, rest) := by
  obtain ⟨hdecimal, hlength⟩ := decimal_twoPlaces h
  have hne : twoPlaces n .zero ≠ [] := List.ne_nil_of_length_eq_add_one hlength
  have hdigits := digits_full hdecimal hne rest
  rw [hlength] at hdigits
  refine (bind_eq (blanks_append hdecimal hne rest)).trans ((bind_eq hdigits).trans ?_)
  rw [hdecimal.value]
  rfl

/-! ### Years -/

/-- A year with a sign takes all digits behind it. -/
theorem year_signed (h : Decimal text n) (hne : text ≠ []) (rest : Text) :
    year ('-' :: (text ++ '-' :: rest)) = some (-(n : Int), '-' :: rest) ∧
      year ('+' :: (text ++ '-' :: rest)) = some ((n : Int), '-' :: rest) := by
  have hdigits := allDigits_append h hne ('-' :: rest) (by simp)
  constructor
  · refine (bind_eq (blanks_cons (by decide) _)).trans ((bind_eq (get_eq _)).trans ?_)
    refine (bind_eq (set_eq _ _)).trans ((bind_eq hdigits).trans ?_)
    rw [h.value]
    rfl
  · refine (bind_eq (blanks_cons (by decide) _)).trans ((bind_eq (get_eq _)).trans ?_)
    refine (bind_eq (set_eq _ _)).trans ((bind_eq hdigits).trans ?_)
    rw [h.value]
    rfl

/-- A year without a sign takes four digits. -/
theorem year_digits (h : Decimal text n) (hlength : text.length = 4) (rest : Text) :
    year (text ++ rest) = some ((n : Int), rest) := by
  have hne : text ≠ [] := List.ne_nil_of_length_eq_add_one hlength
  have hdigits := digits_full h hne rest
  rw [hlength] at hdigits
  have hsign : ∀ c ∈ (text ++ rest).head?, c.isDigit = true := by
    obtain ⟨c, others, rfl⟩ := List.exists_cons_of_ne_nil hne
    rintro _ ⟨⟩
    exact h.isDigit c List.mem_cons_self
  refine (bind_eq (blanks_append h hne rest)).trans ((bind_eq (get_eq _)).trans ?_)
  -- the first character is a digit, so it is no sign
  generalize text ++ rest = whole at hdigits hsign ⊢
  split
  · exact absurd (hsign _ rfl) (by decide)
  · exact absurd (hsign _ rfl) (by decide)
  · refine (bind_eq hdigits).trans ?_
    rw [h.value]
    rfl

/-- A year that is written before a hyphen is read. -/
theorem year_paddedYear (y : Int) (rest : Text) :
    year (paddedYear y .zero ++ '-' :: rest) = some (y, '-' :: rest) := by
  by_cases hneg : y < 0
  · obtain ⟨n, rfl⟩ : ∃ n : Nat, y = -(n : Int) := ⟨y.natAbs, by omega⟩
    obtain ⟨hdecimal, hne, -⟩ := decimal_padded 4 n
    rw [paddedYear, if_neg (by omega), (padded_signed 4 n).2 (by omega)]
    exact (year_signed hdecimal hne rest).1
  obtain ⟨n, rfl⟩ : ∃ n : Nat, y = n := ⟨y.natAbs, by omega⟩
  obtain ⟨hdecimal, hne, hlength⟩ := decimal_padded 4 n
  by_cases hplain : n < 10000
  · rw [paddedYear, if_pos (by omega)]
    exact year_digits hdecimal (hlength (by decide) hplain) ('-' :: rest)
  · rw [paddedYear, if_neg (by omega), (padded_signed 4 n).1]
    exact (year_signed hdecimal hne rest).2

/-! ### Fractions -/

/-- Of a fraction the digits that are shown are read. -/
theorem fraction_fractionDigits {places nano : Nat} (hplaces : 0 < places ∧ places ≤ 9)
    (hnano : nano < 1000000000) :
    fraction ('.' :: fractionDigits places nano) =
      some (nano / 10 ^ (9 - places) * 10 ^ (9 - places), []) := by
  obtain ⟨hdecimal, hlength⟩ := decimal_fractionDigits hplaces.2 hnano
  have hne : fractionDigits places nano ≠ [] :=
    List.ne_nil_of_length_pos (Nat.lt_of_lt_of_eq hplaces.1 hlength.symm)
  have hdigits : allDigits (fractionDigits places nano) =
      some (fractionDigits places nano, []) := by
    have h := allDigits_append hdecimal hne [] (by simp)
    rwa [List.append_nil] at h
  have htake : (fractionDigits places nano).take 9 = fractionDigits places nano :=
    List.take_of_length_le (Nat.le_trans (Nat.le_of_eq hlength) hplaces.2)
  refine (bind_eq (get_eq _)).trans ((bind_eq (set_eq _ _)).trans ((bind_eq hdigits).trans ?_))
  rw [htake, hlength, (hdecimal.append_zeros (9 - places)).value]
  rfl

/-- The shortest fraction is read as the nanoseconds it is written for. -/
theorem fraction_shortestFraction {nano : Nat} (hnano : nano < 1000000000) :
    fraction (shortestFraction nano) = some (nano, []) := by
  have hshown {places : Nat} (hplaces : 0 < places ∧ places ≤ 9)
      (hdvd : 10 ^ (9 - places) ∣ nano) :
      fraction ('.' :: fractionDigits places nano) = some (nano, []) := by
    rw [fraction_fractionDigits hplaces hnano, Nat.div_mul_cancel hdvd]
  rw [shortestFraction]
  split
  case isTrue hzero =>
    rw [hzero]
    rfl
  split
  case isTrue hmilli => exact hshown (by decide) (Nat.dvd_of_mod_eq_zero hmilli)
  split
  case isTrue hmicro => exact hshown (by decide) (Nat.dvd_of_mod_eq_zero hmicro)
  exact hshown (by decide) (Nat.one_dvd nano)

end Reader

/-! ### Date-times -/

/-- The fields of a time of day as they are written, before a fraction. -/
def TimeOfDay.written (t : TimeOfDay) (fraction : Text) : Text :=
  twoPlaces t.hour .zero ++ ':' :: (twoPlaces t.minute .zero ++ ':' ::
    (twoPlaces (t.second + t.nano / 1000000000) .zero ++ fraction))

/-- The fields of a date-time as they are written, with a separator and a fraction. -/
def DateTime.written (dt : DateTime) (separator : Char) (fraction : Text) : Text :=
  paddedYear dt.date.year .zero ++ '-' :: (twoPlaces dt.date.month .zero ++ '-' ::
    (twoPlaces dt.date.day .zero ++ separator :: dt.time.written fraction))

namespace Reader

/-- What is read behind the separator, the date being known. -/
def clock (year : Int) (month day : Nat) : Reader DateTime := do
  let hour ← number
  char ':'
  let minute ← number
  char ':'
  let second ← number
  let nano ← fraction
  if second = 60 then
    DateTime.ofFields? year month day hour minute 59 (nano + 1000000000)
  else
    DateTime.ofFields? year month day hour minute second nano

variable {dt kept : DateTime}

/-- A written date is read up to its separator, whatever separator is to be read. -/
theorem dateTime_written (dt : DateTime) (separator : Reader Unit) (c : Char) (fraction : Text) :
    dateTime separator (dt.written c fraction) =
      (separator >>= fun _ => clock dt.date.year dt.date.month dt.date.day)
        (c :: dt.time.written fraction) := by
  have hmonth : dt.date.month < 100 := Nat.lt_of_le_of_lt dt.date.month_bounds.2 (by decide)
  have hday : dt.date.day < 100 :=
    Nat.lt_of_le_of_lt (Nat.le_trans dt.date.day_le (monthLength_le _ _)) (by decide)
  refine (bind_eq (year_paddedYear _ _)).trans ((bind_eq (char_cons '-' _)).trans ?_)
  refine (bind_eq (number_twoPlaces hmonth _)).trans ((bind_eq (char_cons '-' _)).trans ?_)
  exact bind_eq (number_twoPlaces hday _)

theorem ofFields?_self (dt : DateTime) :
    DateTime.ofFields? dt.date.year dt.date.month dt.date.day dt.time.hour dt.time.minute
      dt.time.second dt.time.nano = some dt := by
  have htime : TimeOfDay.ofFields? dt.time.hour dt.time.minute dt.time.second dt.time.nano =
      some dt.time :=
    dif_pos ⟨dt.time.hour_lt, dt.time.minute_lt, dt.time.second_lt, dt.time.nano_lt⟩
  rw [DateTime.ofFields?, Date.ofFields?_self, htime]
  exact dif_pos dt.supported

/-- A clock is read as that of the date-time with the fraction that is written. Second 60
is the leap second. -/
theorem clock_written (hlegal : dt.time.Legal) (hsecond : SameUnit .second dt kept)
    (hleap : kept.time.nano / 1000000000 = dt.time.nano / 1000000000) {text : Text}
    (hfraction : fraction text = some (kept.subsecond, [])) :
    clock dt.date.year dt.date.month dt.date.day (dt.time.written text) = some (kept, []) := by
  obtain ⟨hdate, hhour, hminute, hsecond⟩ := hsecond
  have hshown : dt.time.second + dt.time.nano / 1000000000 < 100 := by
    have hnano := dt.time.nano_lt
    have hsecond := dt.time.second_lt
    omega
  refine (bind_eq (number_twoPlaces (Nat.lt_trans dt.time.hour_lt (by decide)) _)).trans ?_
  refine (bind_eq (char_cons ':' _)).trans ?_
  refine (bind_eq (number_twoPlaces (Nat.lt_trans dt.time.minute_lt (by decide)) _)).trans ?_
  refine (bind_eq (char_cons ':' _)).trans ((bind_eq (number_twoPlaces hshown _)).trans ?_)
  refine (bind_eq hfraction).trans ?_
  -- all fields are read; what is left is to tell second 60 from the others
  have hself := ofFields?_self kept
  rw [← hdate, ← hhour, ← hminute, ← hsecond] at hself
  have hbound := dt.time.nano_lt
  by_cases h : 1000000000 ≤ dt.time.nano
  · have hlast : dt.time.second = 59 := hlegal h
    have hnano : kept.subsecond + 1000000000 = kept.time.nano := by
      rw [DateTime.subsecond]
      omega
    rw [hlast, ← hnano] at hself
    rw [if_pos (by omega)]
    exact lift_eq hself []
  · have hshort := dt.time.second_lt
    have hnano : kept.subsecond = kept.time.nano := by
      rw [DateTime.subsecond]
      omega
    have hplain : dt.time.second + dt.time.nano / 1000000000 = dt.time.second := by omega
    rw [← hnano] at hself
    rw [hplain, if_neg (Nat.ne_of_lt hshort)]
    exact lift_eq hself []

end Reader

end TimePhrase
