import EduAi.Store.Checks
import EduAi.Store.Decimal
import EduAi.Store.UtcTime

set_option autoImplicit false

namespace EduAi.Payments.VnPay

open EduAi.Store

inductive VnPayError where
  | invalidRequest
  | malformedResponse
deriving DecidableEq

def vnpayAmountMax : Int :=
  999999999999

def vnTimezoneOffsetMs : Int :=
  7 * 60 * 60 * 1000

def amountMinorToVnPay (amountMinor : Int) : Except VnPayError Units :=
  if amountMinor ≤ 0 then .error .invalidRequest
  else if vnpayAmountMax < amountMinor * 100 then .error .invalidRequest
  else .ok (decimal (amountMinor * 100).toNat)

def isDigits (value : Units) : Bool :=
  value.all Store.isDigit

def parseQueryDrAmount (value : Units) : Except VnPayError Int :=
  if ¬ (1 ≤ value.length ∧ value.length ≤ 12 ∧ isDigits value = true) then .error .malformedResponse
  else
    let amount : Int := Store.digitsValue value
    if amount ≤ 0 ∨ vnpayAmountMax < amount ∨ amount % 100 ≠ 0 then .error .malformedResponse else .ok (amount / 100)

def numberText : Option Int → Units
  | none => ascii "NaN"
  | some n => if n < 0 then 45 :: decimal (-n).toNat else decimal n.toNat

def localFields (t : Option Int) : List (Nat × Option Int) :=
  [(4, t.map getUTCFullYear), (2, t.map (fun t => getUTCMonth t + 1)), (2, t.map getUTCDate), (2, t.map getUTCHours),
    (2, t.map getUTCMinutes), (2, t.map getUTCSeconds)]

def fieldText (field : Nat × Option Int) : Units :=
  padStart field.1 (numberText field.2)

def formatVnPayDate (value : Option Int) : Except VnPayError Units :=
  match value with
  | none => .error .invalidRequest
  | some t =>
      .ok ((localFields (timeClip (t + vnTimezoneOffsetMs))).flatMap fieldText)

def slice (value : Units) (start stop : Nat) : Int :=
  Store.digitsValue ((value.take stop).drop start)

def parseVnPayQueryDrDate (value : Units) : Except VnPayError Int :=
  if ¬ (value.length = 14 ∧ isDigits value = true) then .error .malformedResponse
  else
    let year := slice value 0 4
    let month := slice value 4 6
    let day := slice value 6 8
    let hour := slice value 8 10
    let minute := slice value 10 12
    let second := slice value 12 14
    if year < 1970 ∨ month < 1 ∨ 12 < month ∨ day < 1 ∨ 31 < day ∨ 23 < hour ∨ 59 < minute ∨ 59 < second then
      .error .malformedResponse
    else
      let result := (dateTimeUTC year (month - 1) day hour minute second).bind (fun utc => timeClip (utc - vnTimezoneOffsetMs))
      let roundTrip := result.bind (fun t => timeClip (t + vnTimezoneOffsetMs))
      match result, roundTrip with
      | some t, some back =>
          if getUTCFullYear back ≠ year ∨ getUTCMonth back ≠ month - 1 ∨ getUTCDate back ≠ day ∨ getUTCHours back ≠ hour ∨
              getUTCMinutes back ≠ minute ∨ getUTCSeconds back ≠ second then .error .malformedResponse
          else .ok t
      | _, _ => .error .malformedResponse

theorem amount_roundtrip (amountMinor : Int) (positive : 0 < amountMinor) (inRange : amountMinor * 100 ≤ vnpayAmountMax) :
    ∃ text, amountMinorToVnPay amountMinor = .ok text ∧ parseQueryDrAmount text = .ok amountMinor := by
  have value : (Store.digitsValue (decimal (amountMinor * 100).toNat) : Int) = amountMinor * 100 := by
    rw [digitsValue_decimal]
    omega
  have digits : isDigits (decimal (amountMinor * 100).toNat) = true := List.all_eq_true.mpr (decimal_digits _)
  unfold vnpayAmountMax at inRange
  have short := decimal_length_le (amountMinor * 100).toNat 12 (by omega) (by omega)
  have long := decimal_length_pos (amountMinor * 100).toNat
  refine ⟨decimal (amountMinor * 100).toNat, ?_, ?_⟩
  · unfold amountMinorToVnPay vnpayAmountMax
    rw [if_neg (by omega), if_neg (by omega)]
  · unfold parseQueryDrAmount
    have shape : ¬ ¬ (1 ≤ (decimal (amountMinor * 100).toNat).length ∧ (decimal (amountMinor * 100).toNat).length ≤ 12 ∧
        isDigits (decimal (amountMinor * 100).toNat) = true) := not_not.mpr ⟨long, short, digits⟩
    rw [if_neg shape, value]
    have whole : ¬ (amountMinor * 100 ≤ 0 ∨ vnpayAmountMax < amountMinor * 100 ∨ amountMinor * 100 % 100 ≠ 0) := by
      unfold vnpayAmountMax
      omega
    dsimp only
    rw [if_neg whole, Int.mul_ediv_cancel _ (by omega)]

theorem fieldText_read (width : Nat) (n : Int) (least : 0 ≤ n) (some' : 0 < width) (most : n < 10 ^ width) :
    (fieldText (width, some n)).length = width ∧ isDigits (fieldText (width, some n)) = true ∧
      (Store.digitsValue (fieldText (width, some n)) : Int) = n := by
  have text : numberText (some n) = decimal n.toNat := by
    rw [numberText, if_neg (by omega)]
  have small : n.toNat < 10 ^ width := by
    have bound : (n.toNat : Int) < (10 : Int) ^ width := by rw [Int.toNat_of_nonneg least]; exact most
    exact_mod_cast bound
  rw [fieldText, text]
  refine ⟨padStart_length width _ (decimal_length_le _ _ small some'), ?_, ?_⟩
  · exact List.all_eq_true.mpr (padStart_digits width _ (decimal_digits _))
  · rw [digitsValue_padStart, digitsValue_decimal, Int.toNat_of_nonneg least]

theorem fieldText_long (width : Nat) (field : Option Int) : width ≤ (fieldText (width, field)).length := by
  rw [fieldText, padStart, List.length_append, List.length_replicate]
  omega

theorem slice_first (x y : Units) (k : Nat) (length : x.length = k) : slice (x ++ y) 0 k = Store.digitsValue x := by
  rw [slice, List.drop_zero, List.take_left' length]

theorem slice_later (x y : Units) (k a b : Nat) (length : x.length = k) : slice (x ++ y) (k + a) (k + b) = slice y a b := by
  rw [slice, slice, ← length, List.take_length_add_append, List.drop_length_add_append]

theorem slices (a b c d e f : Units) (lengthA : a.length = 4) (lengthB : b.length = 2) (lengthC : c.length = 2)
    (lengthD : d.length = 2) (lengthE : e.length = 2) (lengthF : f.length = 2) :
    let text := a ++ (b ++ (c ++ (d ++ (e ++ (f ++ [])))))
    slice text 0 4 = Store.digitsValue a ∧ slice text 4 6 = Store.digitsValue b ∧ slice text 6 8 = Store.digitsValue c ∧
      slice text 8 10 = Store.digitsValue d ∧ slice text 10 12 = Store.digitsValue e ∧ slice text 12 14 = Store.digitsValue f := by
  intro text
  have afterA (x y : Nat) : slice text (4 + x) (4 + y) = slice (b ++ (c ++ (d ++ (e ++ (f ++ []))))) x y :=
    slice_later a _ 4 x y lengthA
  have afterB (x y : Nat) : slice text (4 + (2 + x)) (4 + (2 + y)) = slice (c ++ (d ++ (e ++ (f ++ [])))) x y := by
    rw [afterA, slice_later b _ 2 x y lengthB]
  have afterC (x y : Nat) : slice text (4 + (2 + (2 + x))) (4 + (2 + (2 + y))) = slice (d ++ (e ++ (f ++ []))) x y := by
    rw [afterB, slice_later c _ 2 x y lengthC]
  have afterD (x y : Nat) : slice text (4 + (2 + (2 + (2 + x)))) (4 + (2 + (2 + (2 + y)))) = slice (e ++ (f ++ [])) x y := by
    rw [afterC, slice_later d _ 2 x y lengthD]
  refine ⟨slice_first a _ 4 lengthA, ?_, ?_, ?_, ?_, ?_⟩
  · rw [← slice_first b (c ++ (d ++ (e ++ (f ++ [])))) 2 lengthB]
    exact afterA 0 2
  · rw [← slice_first c (d ++ (e ++ (f ++ []))) 2 lengthC]
    exact afterB 0 2
  · rw [← slice_first d (e ++ (f ++ [])) 2 lengthD]
    exact afterC 0 2
  · rw [← slice_first e (f ++ []) 2 lengthE]
    exact afterD 0 2
  · have afterE : slice text 12 14 = slice (f ++ []) 0 2 := by
      rw [← slice_later e (f ++ []) 2 0 2 lengthE]
      exact afterD 2 4
    rw [afterE, slice_first f [] 2 lengthF]

def dateText (t : Option Int) : Units :=
  (localFields t).flatMap fieldText

theorem formatVnPayDate_text (t : Int) : formatVnPayDate (some t) = .ok (dateText (timeClip (t + vnTimezoneOffsetMs))) :=
  rfl

theorem dateText_fields (t : Option Int) : dateText t =
    fieldText (4, t.map getUTCFullYear) ++ (fieldText (2, t.map (fun t => getUTCMonth t + 1)) ++ (fieldText (2, t.map getUTCDate) ++
      (fieldText (2, t.map getUTCHours) ++ (fieldText (2, t.map getUTCMinutes) ++ (fieldText (2, t.map getUTCSeconds) ++ []))))) :=
  rfl

theorem isDigits_append (x y : Units) : isDigits (x ++ y) = true ↔ isDigits x = true ∧ isDigits y = true := by
  rw [isDigits, List.all_append, Bool.and_eq_true]
  rfl

theorem isDigits_fields (t : Option Int) : isDigits (dateText t) = true ↔
    ∀ field ∈ localFields t, isDigits (fieldText field) = true := by
  rw [dateText, isDigits, List.all_flatMap, List.all_eq_true]
  rfl

theorem dateText_read (t : Int) (least : 0 ≤ getUTCFullYear t) (most : getUTCFullYear t ≤ 9999) :
    (dateText (some t)).length = 14 ∧ isDigits (dateText (some t)) = true ∧
      slice (dateText (some t)) 0 4 = getUTCFullYear t ∧ slice (dateText (some t)) 4 6 = getUTCMonth t + 1 ∧
      slice (dateText (some t)) 6 8 = getUTCDate t ∧ slice (dateText (some t)) 8 10 = getUTCHours t ∧
      slice (dateText (some t)) 10 12 = getUTCMinutes t ∧ slice (dateText (some t)) 12 14 = getUTCSeconds t := by
  have month := getUTCMonth_bounds t
  have date := getUTCDate_range t
  have hours := getUTCHours_bounds t
  have minutes := getUTCMinutes_bounds t
  have seconds := getUTCSeconds_bounds t
  obtain ⟨lengthY, digitsY, valueY⟩ := fieldText_read 4 (getUTCFullYear t) least (by omega) (by omega)
  obtain ⟨lengthO, digitsO, valueO⟩ := fieldText_read 2 (getUTCMonth t + 1) (by omega) (by omega) (by omega)
  obtain ⟨lengthD, digitsD, valueD⟩ := fieldText_read 2 (getUTCDate t) (by omega) (by omega) (by omega)
  obtain ⟨lengthH, digitsH, valueH⟩ := fieldText_read 2 (getUTCHours t) (by omega) (by omega) (by omega)
  obtain ⟨lengthI, digitsI, valueI⟩ := fieldText_read 2 (getUTCMinutes t) (by omega) (by omega) (by omega)
  obtain ⟨lengthS, digitsS, valueS⟩ := fieldText_read 2 (getUTCSeconds t) (by omega) (by omega) (by omega)
  obtain ⟨sliceY, sliceO, sliceD, sliceH, sliceI, sliceS⟩ := slices _ _ _ _ _ _ lengthY lengthO lengthD lengthH lengthI lengthS
  rw [isDigits_fields, dateText_fields]
  refine ⟨?_, ?_, sliceY.trans valueY, sliceO.trans valueO, sliceD.trans valueD, sliceH.trans valueH, sliceI.trans valueI,
    sliceS.trans valueS⟩
  · simp only [Option.map_some, List.length_append, List.length_nil, lengthY, lengthO, lengthD, lengthH, lengthI, lengthS]
  · simp only [localFields, Option.map_some, List.forall_mem_cons, List.not_mem_nil, false_implies, implies_true, and_true]
    exact ⟨digitsY, digitsO, digitsD, digitsH, digitsI, digitsS⟩

theorem wholeSeconds_representable (t : Int) (representable : Representable t) : Representable (wholeSeconds t) := by
  unfold Representable maxTime wholeSeconds at *
  omega

theorem dateTimeUTC_fields (t : Int) (representable : Representable t) (least : 1970 ≤ getUTCFullYear t) :
    dateTimeUTC (getUTCFullYear t) (getUTCMonth t) (getUTCDate t) (getUTCHours t) (getUTCMinutes t) (getUTCSeconds t) =
      some (wholeSeconds t) := by
  have year : makeFullYear (getUTCFullYear t) = getUTCFullYear t := by
    unfold makeFullYear
    rw [if_neg (by omega)]
  rw [dateTimeUTC, year, makeDate_fields, timeClip_some]
  exact ⟨wholeSeconds_representable t representable, rfl⟩

theorem parse_dateText (t : Int) (representable : Representable t) (shifted : Representable (wholeSeconds t - vnTimezoneOffsetMs))
    (least : 1970 ≤ getUTCFullYear t) (most : getUTCFullYear t ≤ 9999) :
    parseVnPayQueryDrDate (dateText (some t)) = .ok (wholeSeconds t - vnTimezoneOffsetMs) := by
  obtain ⟨length, digits, year, month, date, hours, minutes, seconds⟩ := dateText_read t (by omega) most
  have monthBounds := getUTCMonth_bounds t
  have dateBounds := getUTCDate_range t
  have hourBounds := getUTCHours_bounds t
  have minuteBounds := getUTCMinutes_bounds t
  have secondBounds := getUTCSeconds_bounds t
  have inRange : ¬ (getUTCFullYear t < 1970 ∨ getUTCMonth t + 1 < 1 ∨ 12 < getUTCMonth t + 1 ∨ getUTCDate t < 1 ∨
      31 < getUTCDate t ∨ 23 < getUTCHours t ∨ 59 < getUTCMinutes t ∨ 59 < getUTCSeconds t) := by
    omega
  have made := dateTimeUTC_fields t representable least
  have back : wholeSeconds t - vnTimezoneOffsetMs + vnTimezoneOffsetMs = wholeSeconds t := by omega
  have clipped : timeClip (wholeSeconds t - vnTimezoneOffsetMs) = some (wholeSeconds t - vnTimezoneOffsetMs) :=
    (timeClip_some _ _).mpr ⟨shifted, rfl⟩
  have clippedBack : timeClip (wholeSeconds t) = some (wholeSeconds t) :=
    (timeClip_some _ _).mpr ⟨wholeSeconds_representable t representable, rfl⟩
  obtain ⟨yearBack, monthBack, dateBack⟩ := date_seconds t
  obtain ⟨hoursBack, minutesBack, secondsBack⟩ := time_seconds t
  unfold parseVnPayQueryDrDate
  rw [if_neg (not_not.mpr ⟨length, digits⟩)]
  dsimp only
  rw [year, month, date, hours, minutes, seconds, if_neg inRange, Int.add_sub_cancel, made, Option.bind_some, clipped,
    Option.bind_some, back, clippedBack]
  dsimp only
  rw [yearBack, monthBack, dateBack, hoursBack, minutesBack, secondsBack, if_neg (by simp)]

theorem parse_formatted (t : Int) (representable : Representable t) (localTime : Representable (t + vnTimezoneOffsetMs))
    (least : 1970 ≤ getUTCFullYear (t + vnTimezoneOffsetMs)) (most : getUTCFullYear (t + vnTimezoneOffsetMs) ≤ 9999) :
    parseVnPayQueryDrDate (dateText (timeClip (t + vnTimezoneOffsetMs))) = .ok (wholeSeconds t) := by
  have same : wholeSeconds (t + vnTimezoneOffsetMs) - vnTimezoneOffsetMs = wholeSeconds t := by
    unfold wholeSeconds vnTimezoneOffsetMs
    omega
  have shifted := wholeSeconds_representable t representable
  rw [← same] at shifted
  rw [(timeClip_some _ _).mpr ⟨localTime, rfl⟩, parse_dateText _ localTime shifted least most, same]

theorem fieldText_digits (width : Nat) (field : Option Int) (digits : isDigits (fieldText (width, field)) = true) :
    ∃ n : Int, field = some n ∧ 0 ≤ n ∧ (Store.digitsValue (fieldText (width, field)) : Int) = n := by
  rw [fieldText, padStart, isDigits_append] at digits
  cases field with
  | none => exact absurd digits.2 (by decide : ¬ isDigits (numberText none) = true)
  | some n =>
      by_cases negative : n < 0
      · rw [numberText, if_pos negative] at digits
        exact absurd (List.all_eq_true.mp digits.2 45 List.mem_cons_self) (by decide)
      · refine ⟨n, rfl, by omega, ?_⟩
        rw [fieldText, digitsValue_padStart, numberText, if_neg negative, digitsValue_decimal]
        omega

theorem dateText_long (t : Option Int) : (fieldText (4, t.map getUTCFullYear)).length + 10 ≤ (dateText t).length := by
  have month := fieldText_long 2 (t.map (fun t => getUTCMonth t + 1))
  have date := fieldText_long 2 (t.map getUTCDate)
  have hours := fieldText_long 2 (t.map getUTCHours)
  have minutes := fieldText_long 2 (t.map getUTCMinutes)
  have seconds := fieldText_long 2 (t.map getUTCSeconds)
  rw [dateText_fields]
  simp only [List.length_append, List.length_nil]
  omega

theorem dateText_shape (t : Option Int) (length : (dateText t).length = 14) (digits : isDigits (dateText t) = true) :
    ∃ l, t = some l ∧ 0 ≤ getUTCFullYear l ∧ getUTCFullYear l ≤ 9999 := by
  have long := dateText_long t
  have yearDigits := (isDigits_fields t).mp digits (4, t.map getUTCFullYear) List.mem_cons_self
  obtain ⟨year, isYear, least, value⟩ := fieldText_digits 4 _ yearDigits
  obtain ⟨l, rfl, rfl⟩ := Option.map_eq_some_iff.mp isYear
  have small := digitsValue_lt _ (List.all_eq_true.mp yearDigits)
  have bound : 10 ^ (fieldText (4, (some l).map getUTCFullYear)).length ≤ 10 ^ 4 := Nat.pow_le_pow_right (by omega) (by omega)
  refine ⟨l, rfl, least, ?_⟩
  omega

theorem parse_refused (t : Option Int) (outside : ∀ l, t = some l → getUTCFullYear l < 1970 ∨ 9999 < getUTCFullYear l) :
    parseVnPayQueryDrDate (dateText t) = .error .malformedResponse := by
  unfold parseVnPayQueryDrDate
  by_cases shape : (dateText t).length = 14 ∧ isDigits (dateText t) = true
  · obtain ⟨l, rfl, least, most⟩ := dateText_shape t shape.1 shape.2
    have early : getUTCFullYear l < 1970 := (outside l rfl).resolve_right (by omega)
    obtain ⟨_, _, year, _⟩ := dateText_read l least most
    rw [if_neg (not_not.mpr shape)]
    dsimp only
    rw [year, if_pos (.inl early)]
  · rw [if_pos shape]

end EduAi.Payments.VnPay
