import EduAi.Payments.ReceiptMatching

set_option autoImplicit false

namespace EduAi.Payments.Receipts

open EduAi.Store

structure Digits (n : Nat) (s : Units) : Prop where
  length : s.length = n
  digits : s.all Store.isDigit = true

theorem takeDigits_read (n : Nat) (s d rest : Units) (taken : takeDigits n s = some (d, rest)) : Digits n d := by
  rw [takeDigits] at taken
  split at taken
  next shape =>
    obtain ⟨rfl, rfl⟩ := Prod.mk.inj (Option.some.inj taken)
    exact ⟨shape.1, shape.2⟩
  next => cases taken

theorem takeDigits_text (n : Nat) (d rest : Units) (shape : Digits n d) : takeDigits n (d ++ rest) = some (d, rest) := by
  have parts : (d ++ rest).take n = d ∧ (d ++ rest).drop n = rest :=
    ⟨List.take_left' shape.length, List.drop_left' shape.length⟩
  rw [takeDigits, parts.1, parts.2, if_pos ⟨shape.length, shape.digits⟩]

theorem takeMark_text (mark : UInt16) (rest : Units) : takeMark mark (mark :: rest) = some rest :=
  if_pos rfl

theorem takeClock_read (s rest hour minute second : Units) (taken : takeClock s = some ((hour, minute, second), rest)) :
    Digits 2 hour ∧ Digits 2 minute ∧ Digits 2 second := by
  obtain ⟨⟨h, s₁⟩, readH, taken⟩ := Option.bind_eq_some_iff.mp taken
  obtain ⟨s₂, _, taken⟩ := Option.bind_eq_some_iff.mp taken
  obtain ⟨⟨m, s₃⟩, readM, taken⟩ := Option.bind_eq_some_iff.mp taken
  obtain ⟨s₄, _, taken⟩ := Option.bind_eq_some_iff.mp taken
  obtain ⟨⟨x, s₅⟩, readS, taken⟩ := Option.bind_eq_some_iff.mp taken
  obtain ⟨⟨⟩, rfl⟩ := Prod.mk.inj (Option.some.inj taken)
  exact ⟨takeDigits_read 2 _ _ _ readH, takeDigits_read 2 _ _ _ readM, takeDigits_read 2 _ _ _ readS⟩

theorem takeDate_read (s rest year month day : Units) (taken : takeDate s = some ((year, month, day), rest)) :
    Digits 4 year ∧ Digits 2 month ∧ Digits 2 day := by
  obtain ⟨⟨y, s₁⟩, readY, taken⟩ := Option.bind_eq_some_iff.mp taken
  obtain ⟨s₂, _, taken⟩ := Option.bind_eq_some_iff.mp taken
  obtain ⟨⟨m, s₃⟩, readM, taken⟩ := Option.bind_eq_some_iff.mp taken
  obtain ⟨s₄, _, taken⟩ := Option.bind_eq_some_iff.mp taken
  obtain ⟨⟨d, s₅⟩, readD, taken⟩ := Option.bind_eq_some_iff.mp taken
  obtain ⟨⟨⟩, rfl⟩ := Prod.mk.inj (Option.some.inj taken)
  exact ⟨takeDigits_read 4 _ _ _ readY, takeDigits_read 2 _ _ _ readM, takeDigits_read 2 _ _ _ readD⟩

structure PartDigits (parts : TimeParts) : Prop where
  year : Digits 4 parts.year
  month : Digits 2 parts.month
  day : Digits 2 parts.day
  hour : Digits 2 parts.hour
  minute : Digits 2 parts.minute
  second : Digits 2 parts.second

theorem takeLocal_read (value : Units) (parts : TimeParts) (taken : takeLocal value = some parts) : PartDigits parts := by
  obtain ⟨⟨day, s₁⟩, readD, taken⟩ := Option.bind_eq_some_iff.mp taken
  obtain ⟨s₂, _, taken⟩ := Option.bind_eq_some_iff.mp taken
  obtain ⟨⟨month, s₃⟩, readM, taken⟩ := Option.bind_eq_some_iff.mp taken
  obtain ⟨s₄, _, taken⟩ := Option.bind_eq_some_iff.mp taken
  obtain ⟨⟨year, s₅⟩, readY, taken⟩ := Option.bind_eq_some_iff.mp taken
  obtain ⟨s₆, _, taken⟩ := Option.bind_eq_some_iff.mp taken
  obtain ⟨⟨⟨hour, minute, second⟩, s₇⟩, clock, taken⟩ := Option.bind_eq_some_iff.mp taken
  obtain ⟨_, _, taken⟩ := Option.bind_eq_some_iff.mp taken
  obtain rfl := Option.some.inj taken
  obtain ⟨hours, minutes, seconds⟩ := takeClock_read _ _ _ _ _ clock
  exact ⟨takeDigits_read 4 _ _ _ readY, takeDigits_read 2 _ _ _ readM, takeDigits_read 2 _ _ _ readD, hours, minutes, seconds⟩

theorem takeIso_read (value : Units) (parts : TimeParts) (taken : takeIso value = some parts) : PartDigits parts := by
  obtain ⟨⟨⟨year, month, day⟩, s₁⟩, date, taken⟩ := Option.bind_eq_some_iff.mp taken
  obtain ⟨s₂, _, taken⟩ := Option.bind_eq_some_iff.mp taken
  obtain ⟨⟨⟨hour, minute, second⟩, s₃⟩, clock, taken⟩ := Option.bind_eq_some_iff.mp taken
  dsimp only at taken
  split at taken
  next =>
    obtain rfl := Option.some.inj taken
    obtain ⟨years, months, days⟩ := takeDate_read _ _ _ _ _ date
    obtain ⟨hours, minutes, seconds⟩ := takeClock_read _ _ _ _ _ clock
    exact ⟨years, months, days, hours, minutes, seconds⟩
  next => cases taken

theorem timeParts_digits (value : Units) (parts : TimeParts) (taken : timeParts value = some parts) : PartDigits parts := by
  rcases Option.or_eq_some_iff.mp taken with first | ⟨_, second⟩
  · exact takeLocal_read value parts first
  · exact takeIso_read value parts second

section Written

variable (parts : TimeParts) (digits : PartDigits parts)

include digits

theorem takeDate_text (rest : Units) : takeDate (parts.year ++ 45 :: (parts.month ++ 45 :: (parts.day ++ rest))) =
    some ((parts.year, parts.month, parts.day), rest) := by
  rw [takeDate, takeDigits_text 4 _ _ digits.year]
  simp only [Option.bind_eq_bind]
  rw [Option.bind_some]
  dsimp only
  rw [takeMark_text, Option.bind_some, takeDigits_text 2 _ _ digits.month, Option.bind_some]
  dsimp only
  rw [takeMark_text, Option.bind_some, takeDigits_text 2 _ _ digits.day, Option.bind_some]
  rfl

theorem takeClock_text (rest : Units) : takeClock (parts.hour ++ 58 :: (parts.minute ++ 58 :: (parts.second ++ rest))) =
    some ((parts.hour, parts.minute, parts.second), rest) := by
  rw [takeClock, takeDigits_text 2 _ _ digits.hour]
  simp only [Option.bind_eq_bind]
  rw [Option.bind_some]
  dsimp only
  rw [takeMark_text, Option.bind_some, takeDigits_text 2 _ _ digits.minute, Option.bind_some]
  dsimp only
  rw [takeMark_text, Option.bind_some, takeDigits_text 2 _ _ digits.second, Option.bind_some]
  rfl

theorem timestampParts_text : timestampParts (timeText parts) = some (parts, [], .zone true (ascii "07") (ascii "00")) := by
  have shape : timeText parts = parts.year ++ 45 :: (parts.month ++ 45 :: (parts.day ++ 84 ::
      (parts.hour ++ 58 :: (parts.minute ++ 58 :: (parts.second ++ ascii "+07:00"))))) := by
    simp [timeText]
  have fraction : takeFraction (ascii "+07:00") = some ([], ascii "+07:00") := rfl
  have offset : takeOffset (ascii "+07:00") = some (.zone true (ascii "07") (ascii "00")) := rfl
  rw [shape, timestampParts, takeDate_text parts digits]
  simp only [Option.bind_eq_bind]
  rw [Option.bind_some]
  dsimp only
  rw [takeMark_text, Option.bind_some, takeClock_text parts digits, Option.bind_some]
  dsimp only
  rw [fraction, Option.bind_some]
  dsimp only
  rw [offset]
  rfl

theorem clockTime_range (inRange : outOfRange parts = false) :
    0 ≤ clockTime parts ∧ clockTime parts ≤ 300000000000000 := by
  have limits := of_decide_eq_false inRange
  push Not at limits
  obtain ⟨year, monthLeast, monthMost, dayLeast, _, hour, minute, second⟩ := limits
  have yearMost : number parts.year < 10000 := by
    have bound := digitsValue_lt _ (List.all_eq_true.mp digits.year.digits)
    rw [digits.year.length] at bound
    unfold number
    omega
  have dayMost : number parts.day < 100 := by
    have bound := digitsValue_lt _ (List.all_eq_true.mp digits.day.digits)
    rw [digits.day.length] at bound
    unfold number
    omega
  have least : (0 : Int) ≤ number parts.hour ∧ (0 : Int) ≤ number parts.minute ∧ (0 : Int) ≤ number parts.second := by
    unfold number
    omega
  have first : monthStart (12 * 2000) ≤ monthStart (12 * number parts.year + (number parts.month - 1)) := monthStart_le (by omega)
  have last : monthStart (12 * number parts.year + (number parts.month - 1)) ≤ monthStart (12 * 10000) := monthStart_le (by omega)
  have ends : (0 : Int) ≤ monthStart (12 * 2000) ∧ monthStart (12 * 10000) ≤ 3000000 := by
    decide
  unfold clockTime makeDate makeDay makeTime msPerDay
  omega

end Written

def receiptInstant (parts : TimeParts) : Int :=
  clockTime parts - 7 * 3600000

theorem parseTime_instant (value text : Units) (parsed : parseTime value = some text) :
    ∃ parts, timeParts value = some parts ∧ parseReceiptTimestamp (some text) = some (receiptInstant parts) := by
  obtain ⟨parts, taken, written⟩ := Option.bind_eq_some_iff.mp parsed
  refine ⟨parts, taken, ?_⟩
  cases range : outOfRange parts with
  | true =>
      rw [range] at written
      cases written
  | false =>
      rw [range] at written
      obtain rfl := Option.some.inj written
      have digits := timeParts_digits value parts taken
      obtain ⟨least, most⟩ := clockTime_range parts digits range
      have beyond : beyondFourteen (.zone true (ascii "07") (ascii "00")) = false := by decide
      have whole : milliseconds [] = 0 := by decide
      have ahead : offsetMs (.zone true (ascii "07") (ascii "00")) = 7 * 3600000 := by decide
      have representable : Representable (receiptInstant parts) := by
        unfold Representable maxTime receiptInstant
        omega
      rw [parseReceiptTimestamp]
      simp only [Option.bind_eq_bind]
      rw [Option.bind_some, timestampParts_text parts digits, Option.bind_some]
      dsimp only
      rw [range, beyond, whole, ahead, Bool.false_or, if_neg (by decide), Int.add_zero]
      exact (timeClip_some _ _).mpr ⟨representable, rfl⟩

end EduAi.Payments.Receipts
