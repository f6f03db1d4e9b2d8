import TaskAutomation.Proofs.Json.NumberText
import TaskAutomation.Proofs.Text.Pieces
import TaskAutomation.Proofs.Time.Calendar
import TaskAutomation.Proofs.Time.Millis
import TaskAutomation.Time.Codec
import Mathlib.Tactic.SplitIfs

/-!
This file proves that points of time survive being written. Each part of a text is read up to the
mark behind it and no further, because it has as many digits as its width allows or the mark is no
digit, so the text is read as the date and the time of day it was written from. What comes back is
the point of time, from the earliest to the latest one, leap seconds at the end of a minute among
them.
-/

namespace TaskAutomation

/-- What the text of a point of time stands for. The nanoseconds of a leap second belong to the last
second of a minute; behind any other second they run on into the next one. -/
def Instant.settled (instant : Instant) : Instant :=
  if instant.isLeap ∧ instant.seconds % 60 ≠ 59 then
    ⟨instant.seconds + 1, instant.nanos - nanosPerSecond⟩
  else instant

/-- The last second of all ends a minute, so nothing runs on behind it. -/
theorem Instant.inRange_settled {instant : Instant} (representable : instant.Representable) :
    inRange instant.settled.seconds = true := by
  obtain ⟨early, late⟩ := representable.seconds_bounds
  simp only [inRange, Bool.and_eq_true, decide_eq_true_eq]
  unfold settled
  split
  · next runsOn =>
    have earlier : instant.seconds ≠ maxSeconds := fun last => runsOn.2 (by rw [last]; rfl)
    exact ⟨by dsimp only; omega, by dsimp only; omega⟩
  · exact ⟨early, late⟩

namespace Rfc3339

open Json (AllDigits allDigits_append allDigits_toDigits startsWithDigit le_ofDigitChars)
open Text

/-! ### Digits -/

/-- What follows the digits of a number is no digit, or the number has as many digits as it may. -/
def Closes (digits : List Char) (width : Nat) (rest : List Char) : Prop :=
  digits.length ≤ width ∧ (digits.length = width ∨ startsWithDigit rest = false)

theorem moreDigits_append {digits rest : List Char} (all : AllDigits digits) {width value : Nat}
    (closes : Closes digits width rest) (small : Nat.ofDigitChars 10 digits value ≤ maxNumber) :
    moreDigits width value (digits ++ rest) = .ok (Nat.ofDigitChars 10 digits value, rest) := by
  induction digits generalizing width value with
  | nil =>
    obtain ⟨-, full | ends⟩ := closes
    · obtain rfl : width = 0 := full.symm
      rfl
    · cases width with
      | zero => rfl
      | succ width =>
        cases rest with
        | nil => rfl
        | cons c rest => exact if_neg (Bool.eq_false_iff.mp ends)
  | cons c digits inductionHypothesis =>
    obtain ⟨short, ends⟩ := closes
    cases width with
    | zero => cases short
    | succ width =>
      have digit : c.isDigit = true := all c List.mem_cons_self
      rw [Nat.ofDigitChars_cons] at small ⊢
      have bounded : ¬ maxNumber < 10 * value + (c.toNat - '0'.toNat) :=
        Nat.not_lt.mpr ((le_ofDigitChars digits _).trans small)
      rw [List.cons_append, moreDigits, if_pos digit, if_neg bounded]
      exact inductionHypothesis (fun d member => all d (List.mem_cons_of_mem c member))
        ⟨Nat.le_of_succ_le_succ short, ends.imp_left Nat.succ.inj⟩ small

theorem number_append {digits rest : List Char} (all : AllDigits digits) (present : digits ≠ [])
    {width : Nat} (closes : Closes digits width rest)
    (small : Nat.ofDigitChars 10 digits 0 ≤ maxNumber) :
    number width (digits ++ rest) = .ok (Nat.ofDigitChars 10 digits 0, rest) := by
  have read := moreDigits_append all closes small
  obtain ⟨c, digits, rfl⟩ := List.exists_cons_of_ne_nil present
  rw [List.cons_append, number, if_pos (all c List.mem_cons_self), ← List.cons_append, read]

/-- White space is skipped in front of a number only. -/
theorem trimStart_append_digits {digits rest : List Char} (all : AllDigits digits)
    (present : digits ≠ []) : trimStart (digits ++ rest) = digits ++ rest := by
  obtain ⟨c, digits, rfl⟩ := List.exists_cons_of_ne_nil present
  exact trimStart_cons (isBlank_eq_false_of_isDigit (all c List.mem_cons_self)) _

/-! ### Numbers with leading zeros -/

/-- The digits of a number with leading zeros. -/
theorem toList_padded (width n : Nat) : (padded width n).toList =
    List.replicate (width - (Nat.toDigits 10 n).length) '0' ++ Nat.toDigits 10 n :=
  String.toList_ofList

theorem allDigits_padded (width n : Nat) : AllDigits (padded width n).toList := by
  rw [toList_padded]
  refine allDigits_append (fun c member => ?_) (allDigits_toDigits n)
  rw [List.eq_of_mem_replicate member]
  rfl

theorem padded_ne_nil (width n : Nat) : (padded width n).toList ≠ [] := by
  rw [toList_padded]
  exact List.append_ne_nil_of_right_ne_nil _ Nat.toDigits_ne_nil

theorem ofDigitChars_padded (width n : Nat) :
    Nat.ofDigitChars 10 (padded width n).toList 0 = n := by
  rw [toList_padded, Nat.ofDigitChars_append, Nat.ofDigitChars_replicate_zero, Nat.mul_zero,
    Nat.ofDigitChars_ten_toDigits]

theorem length_padded {width n : Nat} (positive : 0 < width) (fits : n < 10 ^ width) :
    (padded width n).toList.length = width := by
  have short := (Nat.length_toDigits_le_iff (by decide) positive).mpr fits
  rw [toList_padded, List.length_append, List.length_replicate, Nat.sub_add_cancel short]

theorem toList_twoDigits {n : Nat} (fits : n < 100) :
    (twoDigits n).toList = (padded 2 n).toList := by
  rw [toList_padded, twoDigits]
  split
  · next single =>
    have short := (Nat.length_toDigits_le_iff (b := 10) (by decide) Nat.one_pos).mpr single
    have positive := Nat.length_toDigits_pos (b := 10) (n := n)
    have one : (Nat.toDigits 10 n).length = 1 := by omega
    simp only [String.toList_append, Nat.toString_eq_ofList_toDigits, String.toList_ofList, one]
    rfl
  · next several =>
    have long := (Nat.length_toDigits_le_iff (b := 10) (k := 1) (by decide) Nat.one_pos).not.mpr
      several
    have short := (Nat.length_toDigits_le_iff (b := 10) (k := 2) (by decide) (by decide)).mpr fits
    have two : (Nat.toDigits 10 n).length = 2 := by omega
    rw [Nat.toString_eq_ofList_toDigits, String.toList_ofList, two]
    rfl

/-- A number of two digits is read in whatever stands behind it. -/
theorem field_twoDigits {least most n : Nat} (bounds : least ≤ n ∧ n ≤ most) (fits : n < 100)
    (rest : List Char) : field 2 least most ((twoDigits n).toList ++ rest) = .ok (n, rest) := by
  have all := allDigits_padded 2 n
  have present := padded_ne_nil 2 n
  have read : number 2 ((padded 2 n).toList ++ rest) = .ok (n, rest) := by
    have length : (padded 2 n).toList.length = 2 := length_padded (by decide) fits
    have value := ofDigitChars_padded 2 n
    refine (number_append all present ⟨length.le, Or.inl length⟩ ?_).trans (by rw [value])
    rw [value]
    exact fits.le.trans (by decide)
  rw [field, toList_twoDigits fits, trimStart_append_digits all present, read]
  exact if_pos bounds

theorem separator_cons {c : Char} (ink : isBlank c = false) (rest : List Char) :
    separator c (c :: rest) = .ok rest := by
  rw [separator, trimStart_cons ink]
  exact if_pos rfl

/-! ### Years and fractions -/

/-- A year without a sign has four digits at most. -/
theorem year_of_digits {digits rest : List Char} (all : AllDigits digits) (present : digits ≠ []) :
    year (digits ++ rest) = (number 4 (digits ++ rest)).bind fun read =>
      if Word.holds32 read.1 then .ok ((read.1 : Int), read.2) else .error .outOfRange := by
  have start : trimStart (digits ++ rest) = digits ++ rest := trimStart_append_digits all present
  obtain ⟨c, digits, rfl⟩ := List.exists_cons_of_ne_nil present
  have digit := all c List.mem_cons_self
  unfold year
  rw [start]
  split
  · next same =>
    rw [(List.cons.inj same).1] at digit
    cases digit
  · next same =>
    rw [(List.cons.inj same).1] at digit
    cases digit
  · cases number 4 (c :: digits ++ rest) <;> rfl

/-- The year is read up to the hyphen behind it. -/
theorem year_yearText {written : Int} (bounds : -999999 ≤ written ∧ written ≤ 999999)
    (rest : List Char) :
    year ((yearText written).toList ++ '-' :: rest) = .ok (written, '-' :: rest) := by
  have fits : Word.holds32 written = true := by
    simp only [Word.holds32, Bool.and_eq_true, decide_eq_true_eq]
    unfold Word.least32 Word.most32
    omega
  have all := allDigits_padded 4 written.natAbs
  have present := padded_ne_nil 4 written.natAbs
  have value := ofDigitChars_padded 4 written.natAbs
  have small : Nat.ofDigitChars 10 (padded 4 written.natAbs).toList 0 ≤ maxNumber := by
    rw [value, maxNumber]
    omega
  -- Behind a sign there may be any number of digits.
  have signed : number (((padded 4 written.natAbs).toList ++ '-' :: rest).length + 1)
      ((padded 4 written.natAbs).toList ++ '-' :: rest) = .ok (written.natAbs, '-' :: rest) := by
    refine (number_append all present ⟨?_, Or.inr rfl⟩ small).trans (by rw [value])
    rw [List.length_append]
    omega
  unfold yearText
  split
  · next common =>
    have same : written.toNat = written.natAbs := by omega
    have length : (padded 4 written.natAbs).toList.length = 4 :=
      length_padded (by decide) (by omega)
    have back : ((written.natAbs : Nat) : Int) = written := by omega
    rw [same, year_of_digits all present,
      number_append all present ⟨length.le, Or.inl length⟩ small, value]
    simp only [Except.bind, back, fits, if_true]
  · next uncommon =>
    rw [String.toList_append]
    split
    · next past =>
      have back : -((written.natAbs : Nat) : Int) = written := by omega
      show year ('-' :: ((padded 4 written.natAbs).toList ++ '-' :: rest)) = _
      have start := trimStart_cons (show isBlank '-' = false from rfl)
      simp only [year, start, signed, bind, Except.bind, back, fits, if_true]
    · next future =>
      have back : ((written.natAbs : Nat) : Int) = written := by omega
      show year ('+' :: ((padded 4 written.natAbs).toList ++ '-' :: rest)) = _
      have start := trimStart_cons (show isBlank '+' = false from rfl)
      simp only [year, start, signed, bind, Except.bind, back, fits, if_true]

/-- Some of the nine digits of a fraction are read, and the others count as zeros. -/
theorem fraction_padded (places : Nat) {n : Nat} (positive : 0 < places) (within : places ≤ 9)
    (fits : n < 10 ^ places) :
    fraction ('.' :: ((padded places n).toList ++ ['Z'])) = .ok (n * 10 ^ (9 - places), ['Z']) := by
  have value := ofDigitChars_padded places n
  have length := length_padded positive fits
  have small : Nat.ofDigitChars 10 (padded places n).toList 0 ≤ maxNumber := by
    rw [value]
    exact (fits.le.trans (Nat.pow_le_pow_right (by decide) within)).trans (by decide)
  have closes : Closes (padded places n).toList 9 ['Z'] := ⟨length.trans_le within, Or.inr rfl⟩
  have read := number_append (allDigits_padded places n) (padded_ne_nil places n) closes small
  rw [fraction]
  show (number 9 _).bind _ = _
  rw [read, value]
  simp only [Except.bind, List.length_append, length, List.length_singleton, Nat.add_sub_cancel]
  rfl

/-- Fractions are written without the zeros that say nothing. -/
theorem fraction_fractionText {nanos : Nat} (fits : nanos < nanosPerSecond) :
    fraction ((fractionText nanos).toList ++ ['Z']) = .ok (nanos, ['Z']) := by
  unfold nanosPerSecond at fits
  unfold fractionText
  split
  · next none =>
    rw [none]
    rfl
  · split
    · next millis =>
      have read := fraction_padded 3 (n := nanos / 1000000) (by decide) (by decide) (by omega)
      rw [String.toList_append]
      refine read.trans (congrArg (fun n => Except.ok (n, ['Z'])) ?_)
      omega
    · split
      · next micros =>
        have read := fraction_padded 6 (n := nanos / 1000) (by decide) (by decide) (by omega)
        rw [String.toList_append]
        refine read.trans (congrArg (fun n => Except.ok (n, ['Z'])) ?_)
        omega
      · have read := fraction_padded 9 (n := nanos) (by decide) (by decide) (by omega)
        rw [String.toList_append]
        refine read.trans (congrArg (fun n => Except.ok (n, ['Z'])) ?_)
        omega

/-! ### Whole texts -/

/-- The text of a time of day on a date. -/
def dateTimeText (date : Date) (hour minute second nanos : Nat) : String :=
  yearText date.year ++ "-" ++ twoDigits date.month ++ "-" ++ twoDigits date.day ++ "T" ++
    twoDigits hour ++ ":" ++ twoDigits minute ++ ":" ++ twoDigits second ++ fractionText nanos ++
    "Z"

theorem toList_dateTimeText (date : Date) (hour minute second nanos : Nat) :
    (dateTimeText date hour minute second nanos).toList =
      (yearText date.year).toList ++ '-' :: ((twoDigits date.month).toList ++
        '-' :: ((twoDigits date.day).toList ++ 'T' :: ((twoDigits hour).toList ++
          ':' :: ((twoDigits minute).toList ++ ':' :: ((twoDigits second).toList ++
            ((fractionText nanos).toList ++ ['Z'])))))) := by
  simp only [dateTimeText, String.toList_append, List.append_assoc]
  rfl

/-- A time of day on a date is read as the seconds since 1970. Second 60 is the leap second behind
second 59. -/
theorem read_dateTimeText {date : Date} (valid : date.isValid = true)
    (years : -262143 ≤ date.year ∧ date.year ≤ 262142) {hour minute second nanos : Nat}
    (hours : hour ≤ 23) (minutes : minute ≤ 59) (seconds : second ≤ 60)
    (fits : nanos < nanosPerSecond)
    (range : Instant.inRange (date.toDays * Instant.secondsPerDay +
      (hour * 3600 + minute * 60 + min second 59 : Nat)) = true) :
    read (dateTimeText date hour minute second nanos) =
      .ok ⟨date.toDays * Instant.secondsPerDay +
          (hour * 3600 + minute * 60 + min second 59 : Nat),
        nanos + if second = 60 then nanosPerSecond else 0⟩ := by
  obtain ⟨month, day⟩ : (1 ≤ date.month ∧ date.month ≤ 12) ∧ 1 ≤ date.day ∧ date.day ≤ 31 := by
    obtain ⟨month, first, last⟩ := Date.isValid_iff.mp valid
    unfold Date.daysInMonth at last
    refine ⟨month, first, last.trans ?_⟩
    split_ifs <;> decide
  have yearRead := year_yearText (show -999999 ≤ date.year ∧ date.year ≤ 999999 by omega)
  have monthRead := field_twoDigits month (by omega)
  have dayRead := field_twoDigits day (by omega)
  have hourRead := field_twoDigits ⟨Nat.zero_le hour, hours⟩ (by omega)
  have minuteRead := field_twoDigits ⟨Nat.zero_le minute, minutes⟩ (by omega)
  have secondRead := field_twoDigits ⟨Nat.zero_le second, seconds⟩ (by omega)
  have hyphen := separator_cons (c := '-') rfl
  have colon := separator_cons (c := ':') rfl
  have zone : offset ['Z'] = .ok (0, []) := rfl
  have letter : trimStart ['Z'] = ['Z'] := rfl
  have nothing : (trimStart []).isEmpty = true := rfl
  simp only [read, toList_dateTimeText, yearRead, monthRead, dayRead, hourRead, minuteRead,
    secondRead, hyphen, colon, fraction_fractionText fits, letter, zone, nothing, bind, Except.bind]
  have dated : ¬ (¬ date.isValid = true ∨ date.year < -262143 ∨ 262142 < date.year ∨
      86400 ≤ Int.natAbs 0) := by
    rintro (invalid | early | late | far)
    · exact invalid valid
    · exact absurd years.1 (not_le.mpr early)
    · exact absurd years.2 (not_le.mpr late)
    · exact absurd far (by decide)
  have split : (if second = 60 then (59, nanosPerSecond) else (second, 0)) =
      (min second 59, if second = 60 then nanosPerSecond else 0) := by
    split_ifs with leap
    · rw [leap]
      rfl
    · rw [min_eq_left (by omega)]
  rw [if_pos (Or.inl trivial), if_neg (not_not_intro trivial), if_neg dated, split, Int.sub_zero,
    if_pos range]

/-- The time of day of the second, and the seconds and nanoseconds it stands for. -/
theorem settled_eq {instant : Instant} (nanos : instant.nanos < 2 * nanosPerSecond) {day : Int}
    {second : Nat} (split : instant.seconds = day * Instant.secondsPerDay + second) :
    (⟨day * Instant.secondsPerDay + (second / 3600 * 3600 + second / 60 % 60 * 60 +
        min (second % 60 + if instant.isLeap then 1 else 0) 59 : Nat),
      instant.nanos % nanosPerSecond +
        if second % 60 + (if instant.isLeap then 1 else 0) = 60 then nanosPerSecond else 0⟩ :
      Instant) = instant.settled := by
  unfold Instant.settled Instant.isLeap
  obtain ⟨seconds, fraction⟩ := instant
  unfold Instant.secondsPerDay nanosPerSecond at *
  dsimp only at *
  simp only [decide_eq_true_eq]
  split_ifs <;> simp only [Instant.mk.injEq] <;> omega

/-- The text of every point of time is read as the point of time it stands for. -/
theorem read_write {instant : Instant} (representable : instant.Representable) :
    read (write instant) = .ok instant.settled := by
  obtain ⟨early, late⟩ := representable.seconds_bounds
  have nanos := representable.nanos_lt
  have years : -262143 ≤ (Date.ofDays (instant.seconds / Instant.secondsPerDay)).year ∧
      (Date.ofDays (instant.seconds / Instant.secondsPerDay)).year ≤ 262142 :=
    Date.year_ofDays_within
      (by unfold Date.firstDay Instant.secondsPerDay Instant.minSeconds at *; omega)
      (by unfold Date.firstDay Instant.secondsPerDay Instant.maxSeconds at *; omega)
  obtain ⟨second, clock⟩ : ∃ second : Nat, instant.seconds % Instant.secondsPerDay = second :=
    Int.eq_ofNat_of_zero_le (Int.emod_nonneg _ (by decide))
  have within : second < 86400 := by
    have most := Int.emod_lt_of_pos instant.seconds (show 0 < Instant.secondsPerDay by decide)
    rw [clock] at most
    exact Int.ofNat_lt.mp most
  have split : instant.seconds =
      instant.seconds / Instant.secondsPerDay * Instant.secondsPerDay + second := by
    rw [← clock, Int.ediv_mul_add_emod]
  have settled := settled_eq nanos split
  have range := Instant.inRange_settled representable
  have text : write instant = dateTimeText (Date.ofDays (instant.seconds / Instant.secondsPerDay))
      (second / 3600) (second / 60 % 60) (second % 60 + if instant.isLeap then 1 else 0)
      (instant.nanos % nanosPerSecond) := by
    have same : (instant.seconds % Instant.secondsPerDay).toNat = second := by
      rw [clock, Int.toNat_natCast]
    rw [← same]
    rfl
  have last : second % 60 + (if instant.isLeap then 1 else 0) ≤ 60 := by split_ifs <;> omega
  rw [← settled, ← Date.toDays_ofDays (instant.seconds / Instant.secondsPerDay)] at range
  rw [text, read_dateTimeText (Date.isValid_ofDays _) years (by omega) (by omega) last
    (Nat.mod_lt _ (by decide)) range, Date.toDays_ofDays, settled]

end Rfc3339

/-! ### Points of time in records -/

namespace Instant

variable {instant : Instant}

/-- The text of the point of time is read as the point of time. -/
def ReadsBack (instant : Instant) : Prop := Rfc3339.read (Rfc3339.write instant) = .ok instant

/-- All points of time do so, unless nanoseconds of a leap second stand behind a second that is not
the last one of a minute. -/
theorem readsBack_iff (representable : instant.Representable) :
    instant.ReadsBack ↔ (instant.isLeap = true → instant.seconds % 60 = 59) := by
  rw [ReadsBack, Rfc3339.read_write representable, Except.ok.injEq, settled]
  split
  · next both =>
    refine ⟨fun same => ?_, fun last => absurd (last both.1) both.2⟩
    have later : instant.seconds + 1 = instant.seconds := congrArg Instant.seconds same
    omega
  · next either => exact ⟨fun _ leap => of_not_not fun other => either ⟨leap, other⟩, fun _ => rfl⟩

/-- What records hold of a point of time reads back if its text does. -/
theorem decode_encode (back : instant.ReadsBack) : decode instant.encode = .ok instant := by
  rw [encode, decode, back]
  rfl

end Instant

end TaskAutomation
