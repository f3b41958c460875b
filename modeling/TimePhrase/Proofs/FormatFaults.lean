/-
# Where a format is at fault

A format is read from the front. A character is an item of its own, and a percent sign
takes the directive behind it with it (`Reads`). The reading may come to a percent sign
that no directive follows; then the format is malformed (`Malformed`). Or it may pass a
directive that asks for a zone (`NeedsZone`). These are the faults of a format, wherever
they stand in it: no directive is the start of another one, so that there is one way to
read on from each place (`Reads.formatItems?_eq`), and a reading that meets no fault
comes to the end (`formatItems?_eq_some_iff`).

A format is accepted if it has no fault, though it is tried on the start of 1970 alone,
and then it shows every date-time. So once its arguments are read the command has a text
for the value it prints, and the report one for the two date-times in it
(`checkFormat_faults`).

Key definitions: `Reads`, `Malformed`, `NeedsZone`.
Key theorems: `find?_directives_eq_some_iff`, `Reads.formatItems?_eq`,
`formatItems?_eq_none_iff`, `formatItems?_eq_some_iff`, `showable_iff`,
`checkFormat_faults`.
-/
import TimePhrase.Proofs.Calendar.Instant
import TimePhrase.Proofs.Command.Run

namespace TimePhrase

variable {format letters rest : Text} {items found : List Item}

/-! ### Readings -/

/-- The items that the front of a format asks for, and what is left of the format. -/
inductive Reads : Text → List Item → Text → Prop
  | start (format : Text) : Reads format [] format
  | literal {c : Char} {format rest : Text} {items : List Item} (hc : c ≠ '%')
      (h : Reads format items rest) : Reads (c :: format) (.literal [c] :: items) rest
  | directive {letters format rest : Text} {found items : List Item}
      (hmem : (letters, found) ∈ directives) (h : Reads format items rest) :
      Reads ('%' :: (letters ++ format)) (found ++ items) rest

/-- The reading of a format comes to a percent sign that no directive follows. -/
def Malformed (format : Text) : Prop :=
  ∃ items rest, Reads format items ('%' :: rest) ∧ ∀ d ∈ directives, ¬ d.1 <+: rest

/-- The reading of a format passes an item that asks for a zone. -/
def NeedsZone (format : Text) : Prop :=
  ∃ items rest, Reads format items rest ∧ .zone ∈ items

/-! ### The items of a format -/

/-- Two directives that a text may start with are the same. -/
theorem directive_unique {d e : Text × List Item} (hd : d ∈ directives)
    (he : e ∈ directives) (hdrest : d.1 <+: rest) (herest : e.1 <+: rest) : d = e := by
  by_contra hne
  have : Std.Symm fun a b : Text × List Item =>
      (a.1.isPrefixOf b.1 || b.1.isPrefixOf a.1) = false :=
    ⟨fun a b h => by rwa [Bool.or_comm]⟩
  have hapart := directives_pairwise.forall hd he hne
  rw [Bool.or_eq_false_iff] at hapart
  rcases List.prefix_or_prefix_of_prefix hdrest herest with h | h
  · exact Bool.false_ne_true (hapart.1.symm.trans (List.isPrefixOf_iff_prefix.mpr h))
  · exact Bool.false_ne_true (hapart.2.symm.trans (List.isPrefixOf_iff_prefix.mpr h))

/-- A directive is found where it stands, as no other one starts like it. -/
theorem find?_directives_eq_some_iff {d : Text × List Item} :
    directives.find? (·.1.isPrefixOf rest) = some d ↔ d ∈ directives ∧ d.1 <+: rest := by
  have hfound {e : Text × List Item} (h : directives.find? (·.1.isPrefixOf rest) = some e) :
      e ∈ directives ∧ e.1 <+: rest :=
    ⟨List.mem_of_find?_eq_some h, List.isPrefixOf_iff_prefix.mp (by simpa using List.find?_some h)⟩
  refine ⟨hfound, fun ⟨hmem, hprefix⟩ => ?_⟩
  cases hfind : directives.find? (·.1.isPrefixOf rest) with
  | some e =>
    obtain ⟨hmem', hprefix'⟩ := hfound hfind
    rw [directive_unique hmem' hmem hprefix' hprefix]
  | none =>
    have hnone := List.find?_eq_none.mp hfind d hmem
    exact absurd (List.isPrefixOf_iff_prefix.mpr hprefix) hnone

theorem formatItems?_literal {c : Char} (hc : c ≠ '%') :
    formatItems? (c :: rest) = (formatItems? rest).map (.literal [c] :: ·) := by
  rw [formatItems?]
  exact fun h => hc h

theorem formatItems?_directive (hmem : (letters, found) ∈ directives) :
    formatItems? ('%' :: (letters ++ rest)) = (formatItems? rest).map (found ++ ·) := by
  have hfind := find?_directives_eq_some_iff.mpr ⟨hmem, List.prefix_append letters rest⟩
  rw [formatItems?, hfind]
  simp only [List.drop_left]

theorem find?_directives_eq_none_iff :
    directives.find? (·.1.isPrefixOf rest) = none ↔ ∀ d ∈ directives, ¬ d.1 <+: rest := by
  simp only [List.find?_eq_none, List.isPrefixOf_iff_prefix]

theorem formatItems?_unknown (h : ∀ d ∈ directives, ¬ d.1 <+: rest) :
    formatItems? ('%' :: rest) = none := by
  rw [formatItems?, find?_directives_eq_none_iff.mpr h]

/-- The items of a format are those that were read and those of the rest. -/
theorem Reads.formatItems?_eq (h : Reads format items rest) :
    formatItems? format = (formatItems? rest).map (items ++ ·) := by
  induction h with
  | start format => simp
  | literal hc _ ih =>
    rw [formatItems?_literal hc, ih, Option.map_map]
    rfl
  | directive hmem _ ih =>
    rw [formatItems?_directive hmem, ih, Option.map_map]
    simp [Function.comp_def]

/-- A reading goes on to the end, or to a percent sign that no directive follows. -/
theorem exists_reads (format : Text) : (∃ items, Reads format items []) ∨ Malformed format := by
  induction format using formatItems?.induct with
  | case1 => exact .inl ⟨[], .start []⟩
  | case2 rest hfind =>
    exact .inr ⟨[], rest, .start _, find?_directives_eq_none_iff.mp hfind⟩
  | case3 rest letters found hfind ih =>
    obtain ⟨hmem, left, rfl⟩ := find?_directives_eq_some_iff.mp hfind
    rw [List.drop_left] at ih
    rcases ih with ⟨items, h⟩ | ⟨items, rest, h, hunknown⟩
    · exact .inl ⟨found ++ items, h.directive hmem⟩
    · exact .inr ⟨found ++ items, rest, h.directive hmem, hunknown⟩
  | case4 c rest hc ih =>
    rcases ih with ⟨items, h⟩ | ⟨items, rest, h, hunknown⟩
    · exact .inl ⟨.literal [c] :: items, h.literal hc⟩
    · exact .inr ⟨.literal [c] :: items, rest, h.literal hc, hunknown⟩

/-- A format without items is malformed. -/
theorem formatItems?_eq_none_iff : formatItems? format = none ↔ Malformed format := by
  constructor
  · intro hnone
    refine (exists_reads format).resolve_left ?_
    rintro ⟨items, h⟩
    rw [h.formatItems?_eq, formatItems?] at hnone
    cases hnone
  · rintro ⟨items, rest, h, hunknown⟩
    rw [h.formatItems?_eq, formatItems?_unknown hunknown, Option.map_none]

/-- The items of a format are those that its reading passes on the way to the end. -/
theorem formatItems?_eq_some_iff : formatItems? format = some items ↔ Reads format items [] := by
  have heq {items : List Item} (h : Reads format items []) : formatItems? format = some items := by
    rw [h.formatItems?_eq, formatItems?, Option.map_some, List.append_nil]
  refine ⟨fun hsome => ?_, heq⟩
  rcases exists_reads format with ⟨found, h⟩ | hmalformed
  · rwa [← Option.some.inj ((heq h).symm.trans hsome)]
  · rw [formatItems?_eq_none_iff.mpr hmalformed] at hsome
    cases hsome

/-! ### The faults of a format -/

/-- A format shows date-times if it has no fault. -/
theorem showable_iff : Showable format ↔ ¬ Malformed format ∧ ¬ NeedsZone format := by
  constructor
  · rintro ⟨items, hitems, hzone⟩
    refine ⟨fun hmalformed => ?_, fun ⟨found, rest, h, hmem⟩ => ?_⟩
    · rw [formatItems?_eq_none_iff.mpr hmalformed] at hitems
      cases hitems
    · -- what is passed on the way to some place is passed on the way to the end
      rw [h.formatItems?_eq] at hitems
      obtain ⟨others, -, rfl⟩ := Option.map_eq_some_iff.mp hitems
      exact hzone (List.mem_append_left others hmem)
  · rintro ⟨hmalformed, hzone⟩
    obtain ⟨items, h⟩ := (exists_reads format).resolve_right hmalformed
    exact ⟨items, formatItems?_eq_some_iff.mpr h, fun hmem => hzone ⟨items, [], h, hmem⟩⟩

theorem checkFormat_eq_malformed_iff :
    checkFormat format = .error .malformed ↔ Malformed format := by
  rw [← formatItems?_eq_none_iff, ← Option.isNone_iff_eq_none, checkFormat]
  split_ifs with hitems hshown <;> simp [hitems]

/-- Of a format with both faults only the first is told. -/
theorem checkFormat_eq_needsZone_iff :
    checkFormat format = .error .needsZone ↔ ¬ Malformed format ∧ NeedsZone format := by
  cases hcheck : checkFormat format with
  | ok accepted =>
    have hshow := showable_iff.mp (checkFormat_eq_ok_iff.mp hcheck).2
    exact iff_of_false nofun fun h => hshow.2 h.2
  | error e =>
    have hhidden : ¬ Showable format := fun hshow =>
      nomatch hcheck.symm.trans (checkFormat_eq_ok_iff.mpr ⟨rfl, hshow⟩)
    rw [showable_iff, not_and, not_not] at hhidden
    cases e with
    | malformed =>
      exact iff_of_false nofun fun h => h.1 (checkFormat_eq_malformed_iff.mp hcheck)
    | needsZone =>
      have hwell : ¬ Malformed format := fun h =>
        nomatch hcheck.symm.trans (checkFormat_eq_malformed_iff.mpr h)
      exact iff_of_true rfl ⟨hwell, hhidden hwell⟩

/-! ### The command -/

theorem toList_append_getElem? {s : String} {place : Nat} {c : Char}
    (h : s.toList[place]? = some c) (t : String) : (s ++ t).toList[place]? = some c := by
  obtain ⟨hplace, -⟩ := List.getElem?_eq_some_iff.mp h
  rw [String.toList_append, List.getElem?_append_left hplace, h]

/-- The complaint of a format goes on with a letter of its own after `error: `. -/
theorem unshownLine_getElem? (value : DateTime) (format : Text) :
    (unshownLine value format).toList[7]? = some 'c' := by
  have hstart : "error: cannot render ".toList[7]? = some 'c' := by decide
  exact toList_append_getElem? (toList_append_getElem? (toList_append_getElem?
    (toList_append_getElem? hstart _) _) _) _

theorem notRecognized_line_getElem? (phrase : Text) :
    (ResolveError.notRecognized.line phrase).toList[7]? = some 'i' := by
  have hline : ResolveError.notRecognized.line phrase =
      "error: " ++ ResolveError.notRecognized.message ++ ": " ++
        String.ofList (quoted (trim phrase)) ++ "\n" := rfl
  have hstart : ("error: " ++ ResolveError.notRecognized.message).toList[7]? = some 'i' := by decide
  rw [hline]
  exact toList_append_getElem? (toList_append_getElem? (toList_append_getElem? hstart _) _) _

theorem outOfRange_line_getElem? (phrase : Text) :
    (ResolveError.outOfRange.line phrase).toList[7]? = some 'f' := by
  have hline : ResolveError.outOfRange.line phrase =
      "error: failed to resolve " ++ String.ofList (quoted (trim phrase)) ++ ": " ++
        ResolveError.outOfRange.message ++ "\n" := rfl
  have hstart : "error: failed to resolve ".toList[7]? = some 'f' := by decide
  rw [hline]
  exact toList_append_getElem? (toList_append_getElem? (toList_append_getElem?
    (toList_append_getElem? hstart _) _) _) _

/-- The command never complains of a format. -/
theorem Request.complaint_ne_unshownLine (request : Request) (around : Surroundings)
    (value : DateTime) (format : Text) : request.complaint around ≠ unshownLine value format := by
  intro h
  have hplace : (request.complaint around).toList[7]? = some 'c' := by
    rw [h]
    exact unshownLine_getElem? value format
  rcases resolve_trichotomy (request.phrase around.input) (request.reference.getD around.now) with
    ⟨found, hresult⟩ | hresult | hresult
  · have hcomplaint : request.complaint around = "" := by rw [complaint, result, hresult]
    rw [hcomplaint] at hplace
    exact absurd hplace (by decide)
  · have hcomplaint : request.complaint around =
        ResolveError.outOfRange.line (request.phrase around.input).toList := by
      rw [complaint, result, hresult]
    rw [hcomplaint, outOfRange_line_getElem?] at hplace
    exact absurd hplace (by decide)
  · have hcomplaint : request.complaint around =
        ResolveError.notRecognized.line (request.phrase around.input).toList := by
      rw [complaint, result, hresult]
    rw [hcomplaint, notRecognized_line_getElem?] at hplace
    exact absurd hplace (by decide)

/-- **A format that is accepted once shows every date-time.** It is accepted if it shows
all date-times, and refused for every fault, wherever it stands. So after its arguments
are read the command has a text for each date-time that it prints or reports, and never
complains of the format. -/
theorem accepted_format_shows :
    (∀ format accepted : Text, checkFormat format = .ok accepted ↔
      accepted = format ∧ ∀ dt : DateTime, ∃ text, dt.render? format = some text) ∧
    (∀ format : Text,
      (checkFormat format = .error .malformed ↔ Malformed format) ∧
      (checkFormat format = .error .needsZone ↔ ¬ Malformed format ∧ NeedsZone format) ∧
      (Malformed format ∨ NeedsZone format → ∃ e, checkFormat format = .error e)) ∧
    ∀ arguments request, readArguments arguments = .ok request → ∀ around : Surroundings,
      (∀ dt : DateTime, ∃ text, dt.render? request.outputFormat = some text ∧
        dt.shown request.outputFormat = String.ofList text) ∧
      (∀ value, request.result around = .ok value → request.isVerbose = false →
        ∃ text, value.render? request.outputFormat = some text ∧
          execute arguments around = ⟨0, String.ofList text ++ "\n", ""⟩) ∧
      ∀ value format, (execute arguments around).stderr ≠ unshownLine value format := by
  refine ⟨fun format accepted => ?_, fun format => ⟨checkFormat_eq_malformed_iff,
    checkFormat_eq_needsZone_iff, fun hfault => ?_⟩, fun arguments request h around =>
      ⟨fun dt => ?_, fun value => Request.execute_ok h, fun value format => ?_⟩⟩
  · rw [checkFormat_eq_ok_iff]
    refine and_congr_right fun _ => ⟨Showable.exists_render, fun hshown => ?_⟩
    exact (DateTime.epoch.isSome_render?_iff format).mp (Option.isSome_iff_exists.mpr (hshown .epoch))
  · cases hcheck : checkFormat format with
    | error e => exact ⟨e, rfl⟩
    | ok accepted =>
      have hshow := showable_iff.mp (checkFormat_eq_ok_iff.mp hcheck).2
      exact absurd hfault (not_or.mpr hshow)
  · obtain ⟨text, htext⟩ := Request.exists_render h dt
    exact ⟨text, htext, by rw [DateTime.shown, htext, Option.getD_some]⟩
  · rw [Request.execute_eq h]
    dsimp only
    exact request.complaint_ne_unshownLine around value format

/-- Faults behind a weekday are found, and a weekday is shown on the first of all days. -/
theorem accepted_format_shows_weekday :
    checkFormat "%A %".toList = .error .malformed ∧
      (∃ e, checkFormat "%A %:z".toList = .error e) ∧
      (∃ text, DateTime.earliest.render? "%A".toList = some text) ∧
      ∀ value format,
        (execute ["--format=%A", "tomorrow"] .epoch).stderr ≠ unshownLine value format := by
  obtain ⟨-, hfaults, hcommand⟩ := accepted_format_shows
  have hweekday : ("A".toList, [.name .weekday]) ∈ directives := by decide
  have hzone : (":z".toList, [.zone]) ∈ directives := by decide
  have hunknown : ∀ d ∈ directives, ¬ d.1 <+: ([] : Text) := by decide +kernel
  have hmalformed : Malformed "%A %".toList :=
    ⟨_, _, ((Reads.start _).literal (c := ' ') (by decide)).directive hweekday, hunknown⟩
  have hneeds : NeedsZone "%A %:z".toList :=
    ⟨_, _, (((Reads.start []).directive hzone).literal (c := ' ') (by decide)).directive hweekday,
      by decide⟩
  have hread : readArguments ["--format=%A", "tomorrow"] =
      .ok { words := ["tomorrow"], format := some "%A".toList } := by cbv
  obtain ⟨hshown, -, hstderr⟩ := hcommand _ _ hread .epoch
  obtain ⟨text, htext, -⟩ := hshown .earliest
  exact ⟨(hfaults _).1.mpr hmalformed, (hfaults _).2.2 (.inr hneeds), ⟨text, htext⟩, hstderr⟩

end TimePhrase
