import SqlInterval.Operator.Apply
import SqlInterval.Proofs.Calendar.Order
import SqlInterval.Proofs.Word.Difference
import SqlInterval.Proofs.Word.Shift

/-!
# Operators in words

With valid operands no step of an operation leaves its word, and words thus give the value or the error that exact
numbers give. There is one exception: of the least number that a word has with a sign, it has none with the other.
-/

namespace SqlInterval

/-- A valid interval, or a date or time in a zone that can be. -/
def Value.IsOperand (v : Value) : Prop := (v.kind.isInterval ∨ v.kind.isDatetime) ∧ v.Valid

namespace InWords

/-! ## The steps -/

/-- The quotient of two decimals. Their scales are words. -/
def divide (a b : Decimal) (scale : Int) : Except WordFault Decimal :=
  if b.isZero then fail (.divisionByZero a.text)
  else do
    let missing ← Word.i64.step (scale - a.scale)
    let shift ← Word.i64.step (missing + b.scale)
    let _digits ← Word.u64.step shift.natAbs
    liftM (a.div b scale)

def divideIntervals (l r : Value) : Except WordFault Value := do
  let a ← l.toInterval
  let b ← r.toInterval
  let type :=
    if a.qualifier.isYearMonth || b.qualifier.isYearMonth then SqlType.yearMonthRatio
    else SqlType.dayTimeRatio
  return .decimal (← divide (.ofInt a.absolute) (.ofInt b.absolute) type.scale)

/-- Sums are those of exact numbers, and so is what an interval and a number give. -/
def apply (o : Operator) (session : ZoneOffset) (forced : Option SqlType) (l r : Value) :
    Except WordFault Value :=
  match o with
  | .intervalPlusInterval | .intervalMinusInterval => liftM (addIntervals o.isPlus l r)
  | .intervalDivideInterval => divideIntervals l r
  | .datetimePlusInterval | .datetimeMinusInterval => shiftDatetime o.isPlus l r
  | .intervalMultiplyNumeric | .intervalDivideNumeric =>
    liftM (scaleInterval (o = .intervalMultiplyNumeric) l r)
  | .datetimeMinusDatetime => subtractDatetimes session forced l r

variable {session : ZoneOffset} {l r : Value}

/-! ## Ratios -/

theorem divide_ofInt (a b : Int) {scale : Int} (h : scale.natAbs < 9223372036854775808) :
    divide (.ofInt a) (.ofInt b) scale = liftM ((Decimal.ofInt a).div (.ofInt b) scale) := by
  have hmissing : scale - (Decimal.ofInt a).scale = scale := Int.sub_zero scale
  have hshift : scale + (Decimal.ofInt b).scale = scale := Int.add_zero scale
  rw [divide, hmissing, Word.step_i64 h, ok_bind, hshift, Word.step_i64 h, ok_bind,
    Word.step_u64 (by omega), ok_bind]
  split
  · rename_i hzero
    rw [Decimal.div, if_pos hzero]
    rfl
  · rfl

theorem divideIntervals_eq (l r : Value) :
    divideIntervals l r = liftM (SqlInterval.divideIntervals l r) := by
  unfold divideIntervals SqlInterval.divideIntervals
  cases l.toInterval with
  | error e => rfl
  | ok a =>
      cases r.toInterval with
      | error e => rfl
      | ok b =>
          rw [liftM_ok, ok_bind, ok_bind, liftM_ok, ok_bind, ok_bind]
          dsimp only
          rw [divide_ofInt _ _ (by split <;> decide), liftM_bind, liftM_liftM]
          rfl

theorem apply_eq {o : Operator} (hs : session.Valid) (forced : Option SqlType) (hl : l.Valid)
    (hr : r.Valid) (h : ¬ (o = .datetimeMinusInterval ∧ LeastMonths l r)) :
    apply o session forced l r = liftM (o.apply session forced l r) := by
  cases o with
  | intervalPlusInterval | intervalMinusInterval => rfl
  | intervalMultiplyNumeric | intervalDivideNumeric => rfl
  | intervalDivideInterval => exact divideIntervals_eq l r
  | datetimePlusInterval => exact shiftDatetime_eq hl hr (.inl rfl)
  | datetimeMinusInterval => exact shiftDatetime_eq hl hr (.inr fun hmonths => h ⟨rfl, hmonths⟩)
  | datetimeMinusDatetime => exact subtractDatetimes_eq hs forced l r

end InWords

/-- No step of an operation on intervals, dates and times leaves its word, and so the value or the error is that of
exact numbers, unless a date or timestamp is reduced by as many months as the least number of a word: this number
with the other sign is where the word ends. Words also round the seconds of an interval and read them for its
literal as exact numbers do, and they hold every day to which an interval leads. -/
theorem operations_stay_in_words {session : ZoneOffset} (hs : session.Valid) :
    (∀ (o : Operator) (forced : Option SqlType) (l r : Value), l.IsOperand → r.IsOperand →
      (¬ (o = .datetimeMinusInterval ∧ InWords.LeastMonths l r) →
        InWords.apply o session forced l r = liftM (o.apply session forced l r)) ∧
      (o = .datetimeMinusInterval ∧ InWords.LeastMonths l r →
        InWords.apply o session forced l r = .error (.overflow .i64 9223372036854775808))) ∧
    (∀ i : Interval, i.Valid →
      (∀ scale, InWords.roundSeconds i scale = liftM (i.roundSeconds scale)) ∧
      Word.i64.step i.remaining.toNat = .ok i.nanos) ∧
    ∀ (plus : Bool) (d : Date) (i : Interval), i.Valid →
      Word.i64.Holds (i.absolute.tdiv nanosPerDay) ∧
      Word.i64.Holds (d.dayNumber + signed plus (i.absolute.tdiv nanosPerDay)) := by
  refine ⟨fun o forced l r hl hr => ⟨InWords.apply_eq hs forced hl.2 hr.2, ?_⟩, fun i hi => ?_,
    fun plus d i hi => ?_⟩
  · rintro ⟨rfl, hmonths⟩
    exact InWords.shiftDatetime_least hmonths
  · exact ⟨InWords.roundSeconds_eq hi, InWords.step_remaining hi⟩
  · have hdays := hi.days_bounds
    have hday := InWords.shifted_day_bounds plus d hdays
    simp only [Interval.maxLeading] at hdays
    exact ⟨Word.holds_i64.mpr (by omega), Word.holds_i64.mpr (by omega)⟩

/-- As many months as the least number of a word cannot be taken from a timestamp in words. But zones to both sides of
Greenwich are put into a difference, a second is carried into the longest leading field, and as many days as a field
can hold lead from the last date to a day of the word. -/
theorem operations_stay_in_words_up_to_least :
    let ages : Interval := ⟨.yearToMonth, true, 768614336404564650, 8⟩
    let long : Interval := ⟨.second, false, 999999999999999998, 999999999⟩
    let days : Interval := ⟨.day, true, 999999999999999999, 0⟩
    let l : Value := .timestampTz ⟨⟨.epoch, .midnight⟩, -64800⟩
    let a : Value := .time ⟨1, 0, by decide, by decide⟩
    let b : Value := .timeTz ⟨.midnight, -3600⟩
    ((3600 : ZoneOffset).Valid ∧ l.IsOperand ∧ (Value.interval ages).IsOperand ∧
      InWords.LeastMonths l (.interval ages)) ∧
    InWords.apply .datetimeMinusInterval 3600 none l (.interval ages) =
      .error (.overflow .i64 9223372036854775808) ∧
    InWords.apply .datetimeMinusDatetime 3600 none a b =
      .ok (.interval ⟨.hourToSecond, true, 1, 3599000000000⟩) ∧
    InWords.roundSeconds long 0 = .ok ⟨.second, false, 999999999999999999, 0⟩ ∧
    Word.i64.step 999999999 = .ok long.nanos ∧
    Word.i64.Holds (Date.last.dayNumber + signed false (days.absolute.tdiv nanosPerDay)) := by
  intro ages long days l a b
  have hs : (3600 : ZoneOffset).Valid := by decide
  have hwest : (-64800 : ZoneOffset).Valid := by decide
  have hl : l.IsOperand := ⟨.inr rfl, hwest⟩
  have hages : (Value.interval ages).IsOperand := ⟨.inl rfl, show ages.Valid by decide⟩
  have hmonths : InWords.LeastMonths l (.interval ages) := ⟨rfl, rfl, ages, rfl, rfl, by decide⟩
  have ha : a.IsOperand := ⟨.inr rfl, trivial⟩
  have hb : b.IsOperand := ⟨.inr rfl, show (-3600 : ZoneOffset).Valid by decide⟩
  have hlong : long.Valid := by decide
  obtain ⟨hoperations, hintervals, hshifts⟩ := operations_stay_in_words hs
  have hsubtracted := (hoperations .datetimeMinusDatetime none a b ha hb).1 fun h => nomatch h.1
  have hdifference : Operator.apply .datetimeMinusDatetime 3600 none a b =
      .ok (.interval ⟨.hourToSecond, true, 1, 3599000000000⟩) := eq_ok_of_toOption (by decide)
  have hrounded : long.roundSeconds 0 = .ok ⟨.second, false, 999999999999999999, 0⟩ :=
    eq_ok_of_toOption (by decide)
  refine ⟨⟨hs, hl, hages, hmonths⟩,
    (hoperations .datetimeMinusInterval none l (.interval ages) hl hages).2 ⟨rfl, hmonths⟩,
    hsubtracted.trans (hdifference ▸ rfl),
    ((hintervals long hlong).1 0).trans (hrounded ▸ rfl), (hintervals long hlong).2,
    (hshifts false .last days (by decide)).2⟩

end SqlInterval
