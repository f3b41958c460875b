/-
# Reading a date-time back

There are two formats for references, which differ in the separator. A date-time that
clocks show, in a leap second only if its second is 59, is read back from either of them
as it is, in every supported year: before 0 and after 9999 too, with any number of places
in the fraction (`readReference?_render_eq`). A text with a blank is not misread by the
reader that wants a `T`, as it stops at the blank (`readReference?_written_blank`).

The usual format of the output shows three places of the fraction. What it shows is read
as the date-time to the millisecond, and a leap second stays one
(`DateTime.toMilliseconds`). So what the command prints can be given to it again as the
reference.

Key definitions: `referenceFormats`, `DateTime.toMilliseconds`.
Key theorems: `DateTime.render?_eq_written`, `readReference?_written_T`,
`readReference?_written_blank`, `readReference?_render_eq`.
-/
import TimePhrase.Proofs.Command.Run
import TimePhrase.Proofs.Format.Reading

namespace TimePhrase

/-- The formats in which references are written. -/
def referenceFormats : List Text :=
  ["%Y-%m-%dT%H:%M:%S%.f".toList, "%Y-%m-%d %H:%M:%S%.f".toList]

/-- The date-time without the part of a millisecond that has begun. -/
def DateTime.toMilliseconds (dt : DateTime) : DateTime where
  date := dt.date
  time := { dt.time with
    nano := dt.time.nano / 1000000 * 1000000
    nano_lt := Nat.lt_of_le_of_lt (Nat.div_mul_le_self _ _) dt.time.nano_lt }
  supported := dt.supported

variable {dt kept : DateTime} {format fraction : Text} {c : Char}

namespace DateTime

theorem subsecond_lt (dt : DateTime) : dt.subsecond < 1000000000 :=
  Nat.mod_lt _ (by decide)

theorem subsecond_toMilliseconds (dt : DateTime) :
    dt.toMilliseconds.subsecond = dt.subsecond / 1000000 * 1000000 := by
  simp only [subsecond, toMilliseconds]
  omega

/-- A leap second stays one. -/
theorem leap_toMilliseconds (dt : DateTime) :
    dt.toMilliseconds.time.nano / 1000000000 = dt.time.nano / 1000000000 := by
  simp only [toMilliseconds]
  omega

theorem isLeap_toMilliseconds (dt : DateTime) :
    dt.toMilliseconds.time.isLeap = dt.time.isLeap := by
  have hleap := dt.leap_toMilliseconds
  rw [Bool.eq_iff_iff, TimeOfDay.isLeap_iff, TimeOfDay.isLeap_iff]
  omega

end DateTime

/-! ### What is written -/

/-- A date, a separator and a time of day are written field by field. -/
theorem DateTime.render?_eq_written (dt : DateTime) {last : List Item}
    (hformat : formatItems? format = some (hyphenedDate ++ .literal [c] :: fullTime ++ last))
    (hlast : (last.mapM (Item.render? dt)).map List.flatten = some fraction) :
    dt.render? format = some (dt.written c fraction) := by
  obtain ⟨texts, htexts, rfl⟩ := Option.map_eq_some_iff.mp hlast
  obtain ⟨fields, hfields, hwritten⟩ : ∃ fields,
      (hyphenedDate ++ .literal [c] :: fullTime).mapM (Item.render? dt) = some fields ∧
        fields.flatten ++ texts.flatten = dt.written c texts.flatten := by
    refine ⟨[paddedYear dt.date.year .zero, ['-'], twoPlaces dt.date.month .zero, ['-'],
      twoPlaces dt.date.day .zero, [c], twoPlaces dt.time.hour .zero, [':'],
      twoPlaces dt.time.minute .zero, [':'],
      twoPlaces (dt.time.second + dt.time.nano / 1000000000) .zero], rfl, ?_⟩
    simp [written, TimeOfDay.written]
  have hall : (hyphenedDate ++ .literal [c] :: fullTime ++ last).mapM (Item.render? dt) =
      some (fields ++ texts) := by
    rw [List.mapM_append, hfields, htexts]
    rfl
  rw [render?, hformat, Option.bind_eq_bind, Option.bind_some, hall, ← hwritten,
    ← List.flatten_append]
  rfl

/-! ### What is read -/

theorem Reader.whole?_eq {α : Type} {reader : Reader α} {text : Text} {value : α}
    (h : reader text = some (value, [])) : reader.whole? text = some value := by
  rw [whole?, h]

section

variable (hlegal : dt.time.Legal) (hsecond : SameUnit .second dt kept)
  (hleap : kept.time.nano / 1000000000 = dt.time.nano / 1000000000)
  (hfraction : Reader.fraction fraction = some (kept.subsecond, []))

include hlegal hsecond hleap hfraction

theorem readReference?_written_T : readReference? (dt.written 'T' fraction) = some kept := by
  have hread : Reader.dateTime (Reader.char 'T') (dt.written 'T' fraction) = some (kept, []) := by
    rw [Reader.dateTime_written, Reader.bind_eq (Reader.char_cons 'T' _)]
    exact Reader.clock_written hlegal hsecond hleap hfraction
  rw [readReference?, Reader.whole?_eq hread]
  rfl

/-- The reader that wants a `T` stops at the blank, and the other one passes it. -/
theorem readReference?_written_blank : readReference? (dt.written ' ' fraction) = some kept := by
  have hmissing : Reader.dateTime (Reader.char 'T') (dt.written ' ' fraction) = none := by
    rw [Reader.dateTime_written]
    exact Reader.bind_eq_none rfl
  have hblanks : Reader.blanks (' ' :: dt.time.written fraction) =
      some ((), dt.time.written fraction) := by
    have hhour := dt.time.hour_lt
    obtain ⟨hdecimal, hlength⟩ := decimal_twoPlaces (show dt.time.hour < 100 by omega)
    exact Reader.blanks_append hdecimal (List.ne_nil_of_length_eq_add_one hlength) _
  have hread : Reader.dateTime Reader.blanks (dt.written ' ' fraction) = some (kept, []) := by
    rw [Reader.dateTime_written, Reader.bind_eq hblanks]
    exact Reader.clock_written hlegal hsecond hleap hfraction
  rw [readReference?, Reader.whole?_eq hread, Reader.whole?, hmissing]
  rfl

end

/-! ### The way back -/

/-- The option for the reference takes what follows the equals sign. -/
theorem Scanner.takeLong_reference {text : Text} (h : readReference? text = some dt) :
    Scanner.takeLong {} ("reference".toList ++ '=' :: text) =
      .ok { request := { reference := some dt } } := by
  have hletters : ∀ c ∈ "reference".toList, decide (c ≠ '=') = true := by simp
  have hname : ("reference".toList ++ '=' :: text).takeWhile (· ≠ '=') = "reference".toList := by
    rw [List.takeWhile_append_of_pos hletters, List.takeWhile_cons_of_neg (by decide),
      List.append_nil]
  have hoption : CommandOption.ofName? "reference".toList = some (.value .reference) := by decide
  have hassign : Scanner.assign {} .reference text =
      .ok { request := { reference := some dt } } := by
    simp [Scanner.assign, h]
  simp only [Scanner.takeLong, hname, hoption, List.drop_left]
  exact hassign

/-- A reference can be given behind the equals sign, also if its year has a sign. -/
theorem readArguments_reference {text : Text} (h : readReference? text = some dt) :
    readArguments ["--reference=" ++ String.ofList text] = .ok { reference := some dt } := by
  have hlist : ("--reference=" ++ String.ofList text).toList =
      '-' :: '-' :: ("reference".toList ++ '=' :: text) := by
    simp only [String.toList_append, String.toList_ofList]
    rfl
  have hdashes : "--reference=" ++ String.ofList text ≠ "--" := by
    intro heq
    rw [heq] at hlist
    cases hlist
  have hstep : Scanner.step {} ("--reference=" ++ String.ofList text) =
      .ok { request := { reference := some dt } } := by
    rw [Scanner.step, hlist]
    exact Scanner.takeLong_reference h
  rw [readArguments, Scanner.takeAll, if_neg hdashes, hstep]
  rfl

/-- A date-time is read back from the formats of references as it is. -/
theorem readReference?_referenceFormats (hlegal : dt.time.Legal) :
    ∀ format ∈ referenceFormats,
      ∃ text, dt.render? format = some text ∧ readReference? text = some dt := by
  have hfraction := Reader.fraction_shortestFraction dt.subsecond_lt
  have hlast : ([Item.shortFraction].mapM (Item.render? dt)).map List.flatten =
      some (shortestFraction dt.subsecond) := by
    simp [Item.render?]
  intro format hformat
  rcases List.mem_pair.mp hformat with rfl | rfl
  · have hitems : formatItems? "%Y-%m-%dT%H:%M:%S%.f".toList =
        some (hyphenedDate ++ .literal ['T'] :: fullTime ++ [.shortFraction]) := by cbv
    exact ⟨_, dt.render?_eq_written hitems hlast,
      readReference?_written_T hlegal (.refl _ dt) rfl hfraction⟩
  · have hitems : formatItems? "%Y-%m-%d %H:%M:%S%.f".toList =
        some (hyphenedDate ++ .literal [' '] :: fullTime ++ [.shortFraction]) := by cbv
    exact ⟨_, dt.render?_eq_written hitems hlast,
      readReference?_written_blank hlegal (.refl _ dt) rfl hfraction⟩

/-- A date-time is read back from the usual output to the millisecond. -/
theorem readReference?_usualFormat (hlegal : dt.time.Legal) :
    ∃ text, dt.render? usualFormat = some text ∧ readReference? text = some dt.toMilliseconds := by
  have hitems : formatItems? usualFormat =
      some (hyphenedDate ++ .literal [' '] :: fullTime ++ [.literal ['.'], .fraction 3]) := by cbv
  have hlast : ([Item.literal ['.'], .fraction 3].mapM (Item.render? dt)).map List.flatten =
      some ('.' :: fractionDigits 3 dt.subsecond) := by
    simp [Item.render?]
  have hfraction : Reader.fraction ('.' :: fractionDigits 3 dt.subsecond) =
      some (dt.toMilliseconds.subsecond, []) := by
    rw [Reader.fraction_fractionDigits ⟨by decide, by decide⟩ dt.subsecond_lt,
      dt.subsecond_toMilliseconds]
    rfl
  have hsecond : SameUnit .second dt dt.toMilliseconds := ⟨rfl, rfl, rfl, rfl⟩
  exact ⟨_, dt.render?_eq_written hitems hlast,
    readReference?_written_blank hlegal hsecond dt.leap_toMilliseconds hfraction⟩

/-- **What is written of a date-time is read back.** A date-time that clocks show is read
from the formats of references as it is, and from the usual output to the millisecond, in
a leap second if it was in one. So what the command prints without further options can be
its next reference. -/
theorem readReference?_render_eq (dt : DateTime) (hlegal : dt.time.Legal) :
    (∀ format ∈ referenceFormats,
      ∃ text, dt.render? format = some text ∧ readReference? text = some dt) ∧
    (∃ text, dt.render? usualFormat = some text ∧ readReference? text = some dt.toMilliseconds) ∧
    dt.toMilliseconds.time.isLeap = dt.time.isLeap ∧
    ∀ arguments request, readArguments arguments = .ok request → request.format = none →
      request.isVerbose = false → ∀ around : Surroundings, request.result around = .ok dt →
        ∃ text, execute arguments around = ⟨0, String.ofList text ++ "\n", ""⟩ ∧
          readArguments ["--reference=" ++ String.ofList text] =
            .ok { reference := some dt.toMilliseconds } := by
  refine ⟨readReference?_referenceFormats hlegal, readReference?_usualFormat hlegal,
    dt.isLeap_toMilliseconds, ?_⟩
  intro arguments request h hformat hverbose around hresult
  have husual : request.outputFormat = usualFormat := by
    rw [Request.outputFormat, hformat, Option.getD_none]
  obtain ⟨text, htext, hexecute⟩ := Request.execute_ok h hresult hverbose
  obtain ⟨shown, hshown, hread⟩ := readReference?_usualFormat hlegal
  rw [husual, hshown, Option.some.injEq] at htext
  exact ⟨text, hexecute, readArguments_reference (htext ▸ hread)⟩

/-- The end of a leap second in a year before 0. -/
def DateTime.endOfOldLeapSecond : DateTime :=
  (DateTime.ofFields? (-44) 6 30 23 59 59 1999999999).get (by decide)

/-- Its text with a blank is read back, and what the command prints for it is its next
reference. -/
theorem readReference?_render_eq_endOfOldLeapSecond :
    (∃ text, DateTime.endOfOldLeapSecond.render? "%Y-%m-%d %H:%M:%S%.f".toList = some text ∧
      readReference? text = some .endOfOldLeapSecond) ∧
    ∃ text, execute ["--reference=-0044-06-30T23:59:60.999999999", "now"] .epoch =
        ⟨0, String.ofList text ++ "\n", ""⟩ ∧
      readArguments ["--reference=" ++ String.ofList text] =
        .ok { reference := some DateTime.endOfOldLeapSecond.toMilliseconds } := by
  obtain ⟨hformats, -, -, hcommand⟩ :=
    readReference?_render_eq .endOfOldLeapSecond (by decide)
  have hread : readArguments ["--reference=-0044-06-30T23:59:60.999999999", "now"] =
      .ok { reference := some .endOfOldLeapSecond, words := ["now"] } := by cbv
  have hresult : resolve "now" .endOfOldLeapSecond = .ok .endOfOldLeapSecond := by cbv
  exact ⟨hformats _ (List.mem_pair.mpr (.inr rfl)), hcommand _ _ hread rfl rfl .epoch hresult⟩

end TimePhrase
