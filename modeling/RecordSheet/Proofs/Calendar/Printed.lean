import Mathlib.Algebra.Group.Nat.Defs
import Mathlib.Data.List.TakeWhile
import RecordSheet.Calendar.Printer
import RecordSheet.Calendar.Reader
import RecordSheet.Proofs.Number.Numeral
import RecordSheet.Proofs.Outcome

/-!
# Proofs/Calendar/Printed — printed days and times are read back

The ordinary patterns write each number in as many digits as the reader takes for it, and a year of
more digits with a sign, behind which the reader takes all there are.  So the day of a printed date
is the day that is read (`Date.read_print`), and of a time all is read that a clock shows: its
fraction of a second is gone, the leap second of a minute is still one, and a time that is late past
another second is in the next one (`Time.read_print`, `DateTime.read_print`).
-/

namespace RecordSheet

open Outcome

/-! ## Digits -/

namespace Number

variable {width n : Nat}

theorem isDigit_of_mem_padded {c : Char} (h : c ∈ padded width n) : c.isDigit = true := by
  rcases List.mem_append.1 h with h | h
  · rw [List.eq_of_mem_replicate h]
    rfl
  · exact isDigit_of_mem_numeral h

theorem padded_ne_nil (width n : Nat) : padded width n ≠ [] :=
  List.append_ne_nil_of_right_ne_nil _ (numeral_ne_nil n)

/-- **Zeros in front** do not change the number. -/
theorem valueFrom_padded (width n : Nat) : valueFrom 0 (padded width n) = n := by
  have hzeros : ∀ k, valueFrom 0 (List.replicate k '0') = 0 := by
    intro k
    induction k with
    | zero => rfl
    | succ k ih => exact ih
  have hvalue : valueFrom 0 (numeral n) = n := Nat.ofDigitChars_ten_toDigits
  rw [padded, valueFrom, List.foldl_append]
  exact (congrArg (valueFrom · (numeral n)) (hzeros _)).trans hvalue

theorem length_padded (hwidth : 0 < width) (h : n < 10 ^ width) :
    (padded width n).length = width := by
  have hle : (numeral n).length ≤ width := (Nat.length_toDigits_le_iff (by decide) hwidth).2 h
  rw [padded, List.length_append, List.length_replicate, Nat.sub_add_cancel hle]

end Number

namespace Calendar

/-! ## The ordinary forms -/

/-- The items of a day. -/
def dayItems : Pattern :=
  [Pattern.zeros .year, .literal ['-'], Pattern.zeros .month, .literal ['-'], Pattern.zeros .day]

/-- A day as it is printed. -/
def dayChars (d : Date) : List Char :=
  Moment.yearPlaces d.year .zero ++
    (['-'] ++ (Number.padded 2 d.month ++ (['-'] ++ Number.padded 2 d.day)))

/-- A time of day as a clock shows it. -/
def clockChars (t : Time) : List Char :=
  Number.padded 2 t.hour ++
    ([':'] ++ (Number.padded 2 t.minute ++ ([':'] ++ Number.padded 2 t.shownSecond)))

theorem Date.bounds (d : Date) :
    (-262143 ≤ d.year ∧ d.year ≤ 262142) ∧ (1 ≤ d.month ∧ d.month ≤ 12) ∧ 1 ≤ d.day ∧
      d.day ≤ 31 := by
  have hvalid := d.valid
  simp only [isDay, Bool.and_eq_true, decide_eq_true_eq] at hvalid
  obtain ⟨⟨⟨⟨⟨hlow, hhigh⟩, hm⟩, hm'⟩, hd⟩, hd'⟩ := hvalid
  refine ⟨⟨hlow, hhigh⟩, ⟨hm, hm'⟩, hd, hd'.trans ?_⟩
  rw [daysInMonth]
  split_ifs <;> decide

theorem isTime_eq_true_iff {hour minute second nano : Nat} :
    isTime hour minute second nano = true ↔
      hour < 24 ∧ minute < 60 ∧ second < 60 ∧ nano < 2 * nanosPerSecond := by
  simp only [isTime, Bool.and_eq_true, decide_eq_true_eq, and_assoc]

theorem Time.bounds (t : Time) :
    t.hour < 24 ∧ t.minute < 60 ∧ t.second < 60 ∧ t.nano < 2 * nanosPerSecond :=
  isTime_eq_true_iff.1 t.valid

theorem Time.shownSecond_le (t : Time) : t.shownSecond ≤ 60 := by
  obtain ⟨-, -, hsecond, hnano⟩ := t.bounds
  rw [shownSecond]
  simp only [nanosPerSecond] at hnano ⊢
  omega

/-- The whole second that a late time is in: the next one. -/
def Time.next (t : Time) (h : t.IsLate) : Time where
  hour := t.hour
  minute := t.minute
  second := t.second + 1
  nano := 0
  valid := by
    obtain ⟨hhour, hminute, hsecond, -⟩ := t.bounds
    have hne := h.2
    exact isTime_eq_true_iff.2 ⟨hhour, hminute, by omega, Nat.succ_pos _⟩

/-- The second with nothing past it, or the leap second behind it. -/
def Time.whole (t : Time) : Time where
  hour := t.hour
  minute := t.minute
  second := t.second
  nano := t.nano / nanosPerSecond * nanosPerSecond
  valid := by
    obtain ⟨hhour, hminute, hsecond, hnano⟩ := t.bounds
    have hle := Nat.div_mul_le_self t.nano nanosPerSecond
    exact isTime_eq_true_iff.2 ⟨hhour, hminute, hsecond, hle.trans_lt hnano⟩

/-- **The time without its fraction of a second.**  The leap second of a minute stays one; a time
that is late past another second is in the next one. -/
def Time.clipped (t : Time) : Time :=
  if h : t.IsLate then t.next h else t.whole

/-- Whether the time is a whole second, which may be the leap second of a minute. -/
def Time.IsWhole (t : Time) : Prop :=
  t.fraction = 0 ∧ ¬ t.IsLate

theorem Time.clipped_of_isLate {t : Time} (h : t.IsLate) : t.clipped = t.next h :=
  dif_pos h

theorem Time.clipped_of_not_isLate {t : Time} (h : ¬ t.IsLate) : t.clipped = t.whole :=
  dif_neg h

/-- Nothing is clipped off a whole second. -/
theorem Time.clipped_eq_iff (t : Time) : t.clipped = t ↔ t.IsWhole := by
  by_cases h : t.IsLate
  · rw [clipped_of_isLate h]
    have hsecond : (t.next h).second = t.second + 1 := rfl
    exact ⟨fun heq => absurd (heq ▸ hsecond) (Nat.ne_of_lt (Nat.lt_succ_self _)),
      fun hwhole => absurd h hwhole.2⟩
  · rw [clipped_of_not_isLate h, IsWhole, and_iff_left h]
    have hsplit : t.nano / nanosPerSecond * nanosPerSecond + t.fraction = t.nano := by
      rw [Nat.mul_comm, fraction]
      exact Nat.div_add_mod _ _
    constructor
    · intro heq
      have hnano : t.nano / nanosPerSecond * nanosPerSecond = t.nano := congrArg Time.nano heq
      omega
    · intro hfraction
      obtain ⟨hour, minute, second, nano, valid⟩ := t
      simp only [whole, Time.mk.injEq, true_and]
      dsimp only at hsplit
      omega

/-- **A clock shows** the clipped time: second 60 is the leap second. -/
theorem Time.shown_clipped (t : Time) :
    (t.clipped.hour = t.hour ∧ t.clipped.minute = t.minute) ∧
      ((t.shownSecond = 60 ∧ t.clipped.second = 59 ∧ t.clipped.nano = nanosPerSecond) ∨
        t.shownSecond < 60 ∧ t.clipped.second = t.shownSecond ∧ t.clipped.nano = 0) := by
  obtain ⟨-, -, hsecond, hnano⟩ := t.bounds
  by_cases h : t.IsLate
  · rw [clipped_of_isLate h]
    obtain ⟨hle, hne⟩ := id h
    have hone : t.nano / nanosPerSecond = 1 :=
      Nat.div_eq_of_lt_le (by rwa [Nat.one_mul]) hnano
    have hshown : t.shownSecond = t.second + 1 := congrArg (t.second + ·) hone
    exact ⟨⟨rfl, rfl⟩, .inr ⟨by omega, hshown.symm, rfl⟩⟩
  · rw [clipped_of_not_isLate h]
    refine ⟨⟨rfl, rfl⟩, ?_⟩
    simp only [whole, shownSecond]
    simp only [IsLate, nanosPerSecond] at hnano h ⊢
    omega

/-- A clipped time is one that is made of numbers. -/
theorem Time.make?_clipped (t : Time) :
    make? t.hour t.minute t.clipped.second t.clipped.nano = some t.clipped := by
  obtain ⟨⟨hhour, hminute⟩, hshown⟩ := t.shown_clipped
  have hmade : t.clipped.nano < nanosPerSecond ∨ t.clipped.second = 59 := by
    obtain ⟨-, hsecond, -⟩ | ⟨-, -, hnano⟩ := hshown
    · exact .inr hsecond
    · exact .inl (hnano ▸ Nat.succ_pos _)
  rw [← hhour, ← hminute]
  exact (dif_pos t.clipped.valid).trans (if_pos hmade)

/-! ## Printing -/

theorem twoPlaces_eq_padded : ∀ n < 100, Moment.twoPlaces (n : Nat) .zero = Number.padded 2 n := by
  decide +kernel

variable {d : Date} {t : Time}

theorem itemChars_day (m : Moment) (hm : m.date = some d) :
    dayItems.mapM m.itemChars =
      some [Moment.yearPlaces d.year .zero, ['-'], Number.padded 2 d.month, ['-'],
        Number.padded 2 d.day] := by
  obtain ⟨-, ⟨-, hmonth⟩, -, hday⟩ := d.bounds
  simp only [dayItems, Pattern.zeros, List.mapM_cons, List.mapM_nil, Moment.itemChars,
    Moment.numberChars, hm, Option.map_some, twoPlaces_eq_padded d.month (by omega),
    twoPlaces_eq_padded d.day (by omega)]
  rfl

theorem itemChars_clock (m : Moment) (hm : m.time = some t) :
    Pattern.clock.mapM m.itemChars =
      some [Number.padded 2 t.hour, [':'], Number.padded 2 t.minute, [':'],
        Number.padded 2 t.shownSecond] := by
  obtain ⟨hhour, hminute, -⟩ := t.bounds
  have hshown := t.shownSecond_le
  simp only [Pattern.clock, Pattern.zeros, List.mapM_cons, List.mapM_nil, Moment.itemChars,
    Moment.numberChars, hm, Option.map_some, twoPlaces_eq_padded t.hour (by omega),
    twoPlaces_eq_padded t.minute (by omega), twoPlaces_eq_padded t.shownSecond (by omega)]
  rfl

theorem print_day (d : Date) :
    ({ date := some d } : Moment).print? dayItems = some (String.ofList (dayChars d)) := by
  rw [Moment.print?, itemChars_day _ rfl]
  simp only [Option.map_some, List.flatten_cons, List.flatten_nil, List.append_nil, dayChars]

theorem print_clock (t : Time) :
    ({ time := some t } : Moment).print? .clock = some (String.ofList (clockChars t)) := by
  rw [Moment.print?, itemChars_clock _ rfl]
  simp only [Option.map_some, List.flatten_cons, List.flatten_nil, List.append_nil, clockChars]

theorem print_dayTime (d : Date) (t : Time) :
    ({ date := some d, time := some t } : Moment).print?
      (dayItems ++ .space [' '] :: Pattern.clock) =
      some (String.ofList (dayChars d ++ ' ' :: clockChars t)) := by
  rw [Moment.print?, List.mapM_append, List.mapM_cons, itemChars_day _ rfl, itemChars_clock _ rfl]
  simp only [Moment.itemChars, Option.pure_def, Option.bind_eq_bind, Option.bind_some,
    Option.map_some, List.cons_append, List.nil_append, List.flatten_cons, List.flatten_nil,
    List.append_nil, dayChars,
    clockChars, List.append_assoc]

/-! ## No white space around it -/

theorem isSpace_of_mem_padded {width n : Nat} {c : Char} (h : c ∈ Number.padded width n) :
    Text.isSpace c = false :=
  Text.isSpace_of_isDigit (Number.isDigit_of_mem_padded h)

theorem isSpace_of_mem_yearPlaces {y : Int} {c : Char} (h : c ∈ Moment.yearPlaces y .zero) :
    Text.isSpace c = false := by
  rw [Moment.yearPlaces] at h
  split_ifs at h
  · exact isSpace_of_mem_padded h
  · obtain rfl | h := List.mem_cons.1 h
    · decide
    · exact isSpace_of_mem_padded h
  · obtain rfl | h := List.mem_cons.1 h
    · decide
    · exact isSpace_of_mem_padded h

theorem isSpace_of_mem_dayChars {c : Char} (h : c ∈ dayChars d) : Text.isSpace c = false := by
  simp only [dayChars, List.mem_append, List.mem_singleton] at h
  obtain h | rfl | h | rfl | h := h
  · exact isSpace_of_mem_yearPlaces h
  · decide
  · exact isSpace_of_mem_padded h
  · decide
  · exact isSpace_of_mem_padded h

theorem isSpace_of_mem_clockChars {c : Char} (h : c ∈ clockChars t) : Text.isSpace c = false := by
  simp only [clockChars, List.mem_append, List.mem_singleton] at h
  obtain h | rfl | h | rfl | h := h
  · exact isSpace_of_mem_padded h
  · decide
  · exact isSpace_of_mem_padded h
  · decide
  · exact isSpace_of_mem_padded h

theorem trim_day (d : Date) :
    Text.trim (String.ofList (dayChars d)) = String.ofList (dayChars d) :=
  Text.trim_of_forall fun _ hc => isSpace_of_mem_dayChars (String.toList_ofList ▸ hc)

theorem trim_clock (t : Time) :
    Text.trim (String.ofList (clockChars t)) = String.ofList (clockChars t) :=
  Text.trim_of_forall fun _ hc => isSpace_of_mem_clockChars (String.toList_ofList ▸ hc)

/-- The one space stands between day and time. -/
theorem trim_dayTime (d : Date) (t : Time) :
    Text.trim (String.ofList (dayChars d ++ ' ' :: clockChars t)) =
      String.ofList (dayChars d ++ ' ' :: clockChars t) := by
  have hday : dayChars d ≠ [] :=
    List.append_ne_nil_of_right_ne_nil _
      (List.append_ne_nil_of_left_ne_nil (List.cons_ne_nil _ _) _)
  have hclock : clockChars t ≠ [] :=
    List.append_ne_nil_of_right_ne_nil _
      (List.append_ne_nil_of_left_ne_nil (List.cons_ne_nil _ _) _)
  rw [Text.trim, String.toList_ofList, Text.stripChars_eq_self]
  · intro c hc
    rw [List.head?_append_of_ne_nil _ hday] at hc
    exact isSpace_of_mem_dayChars (List.mem_of_mem_head? hc)
  · intro c hc
    rw [← List.singleton_append,
      List.getLast?_append_of_ne_nil _ (List.append_ne_nil_of_right_ne_nil _ hclock),
      List.getLast?_append_of_ne_nil _ hclock] at hc
    exact isSpace_of_mem_clockChars (List.mem_of_getLast? hc)

/-! ## Reading -/

namespace Reader

variable {f : NumberField} {s : Fields} {ds rest : List Char}

/-- White space in front of a text is dropped, and there is none in front of a digit. -/
theorem dropWhile_of_isDigit {c : Char} {cs : List Char} (h : c.isDigit = true) :
    (c :: cs).dropWhile Text.isSpace = c :: cs :=
  List.dropWhile_cons_of_neg (by rw [Text.isSpace_of_isDigit h]; exact Bool.false_ne_true)

/-- **A number is taken whole** when its digits are those that the reader looks at. -/
theorem number_eq {max : Option Nat} (hne : ds ≠ []) (hlarge : Number.valueFrom 0 ds ≤ largest)
    (h : (max.elim (ds ++ rest) (ds ++ rest).take).takeWhile Char.isDigit = ds) :
    number max (ds ++ rest) = .ok (Number.valueFrom 0 ds, rest) := by
  have hempty : ¬ (ds ++ rest).isEmpty = true := by
    rw [List.isEmpty_iff]
    exact List.append_ne_nil_of_left_ne_nil hne _
  unfold number
  cases max
  all_goals
    dsimp only [Option.elim] at h ⊢
    rw [h, if_neg hempty, if_neg (mt List.isEmpty_iff.1 hne), if_neg (Nat.not_lt.2 hlarge),
      List.drop_left]

theorem takeWhile_digits (hds : ∀ c ∈ ds, c.isDigit = true)
    (hrest : ∀ c, rest.head? = some c → c.isDigit = false) :
    (ds ++ rest).takeWhile Char.isDigit = ds := by
  have hnil : rest.takeWhile Char.isDigit = [] := by
    cases rest with
    | nil => rfl
    | cons c rest =>
      exact List.takeWhile_cons_of_neg (by rw [hrest c rfl]; exact Bool.false_ne_true)
  rw [List.takeWhile_append_of_pos hds, hnil, List.append_nil]

/-- A field without a sign takes the digits of its width. -/
theorem fieldNumber_padded {width n : Nat} (hwidth : Reader.width f = some width) (hpos : 0 < width)
    (hle : width ≤ 18) (hn : n < 10 ^ width) (rest : List Char) :
    fieldNumber f (Number.padded width n ++ rest) = .ok ((n : Int), rest) := by
  have hvalue := Number.valueFrom_padded width n
  have hdigits : ∀ c ∈ Number.padded width n, c.isDigit = true := fun c =>
    Number.isDigit_of_mem_padded
  have hlarge : Number.valueFrom 0 (Number.padded width n) ≤ largest := by
    have hpow : 10 ^ width ≤ 10 ^ 18 := Nat.pow_le_pow_right (by decide) hle
    have hlargest : 10 ^ 18 ≤ largest := by decide
    omega
  have hnumber : number (Reader.width f) (Number.padded width n ++ rest) = .ok (n, rest) := by
    rw [hwidth, number_eq (Number.padded_ne_nil _ _) hlarge, hvalue]
    rw [Option.elim_some, List.take_append_of_le_length (Number.length_padded hpos hn).ge,
      List.take_of_length_le (Number.length_padded hpos hn).le]
    exact List.takeWhile_eq_self_iff.2 hdigits
  obtain ⟨c, cs, hcs⟩ := List.exists_cons_of_ne_nil (Number.padded_ne_nil width n)
  have hc : c.isDigit = true := hdigits c (hcs ▸ List.mem_cons_self)
  rw [hcs, List.cons_append] at hnumber ⊢
  rw [fieldNumber, dropWhile_of_isDigit hc]
  dsimp only
  split
  · next h =>
    cases h
    cases hc
  · next h =>
    cases h
    cases hc
  · rw [hnumber]
    rfl

theorem fieldNumber_minus (cs : List Char) :
    fieldNumber .year ('-' :: cs) =
      number none cs >>= fun r => .ok (-(r.1 : Int), r.2) := rfl

theorem fieldNumber_plus (cs : List Char) :
    fieldNumber .year ('+' :: cs) = number none cs >>= fun r => .ok ((r.1 : Int), r.2) := rfl

/-- **A year** is read from its four digits, or from all digits behind its sign. -/
theorem fieldNumber_yearPlaces {y : Int} (hy : y.natAbs ≤ largest)
    (hrest : ∀ c, rest.head? = some c → c.isDigit = false) :
    fieldNumber .year (Moment.yearPlaces y .zero ++ rest) = .ok (y, rest) := by
  have hvalue := Number.valueFrom_padded 4 y.natAbs
  have hnumber : number none (Number.padded 4 y.natAbs ++ rest) = .ok (y.natAbs, rest) := by
    rw [number_eq (Number.padded_ne_nil _ _) (hvalue.symm ▸ hy), hvalue]
    exact takeWhile_digits (fun c => Number.isDigit_of_mem_padded) hrest
  rw [Moment.yearPlaces]
  split_ifs with hfour hneg
  · have h := fieldNumber_padded (f := .year) (n := y.natAbs) rfl (by decide) (by decide)
      (show y.natAbs < 10 ^ 4 by omega) rest
    rwa [Int.natAbs_of_nonneg hfour.1] at h
  · have hy : -(y.natAbs : Int) = y := by omega
    refine (fieldNumber_minus _).trans (bind_eq_ok_iff.2 ⟨_, hnumber, ?_⟩)
    rw [hy]
  · have hy : (y.natAbs : Int) = y := by omega
    refine (fieldNumber_plus _).trans (bind_eq_ok_iff.2 ⟨_, hnumber, ?_⟩)
    rw [hy]

/-! ## Items -/

variable {s' : Fields} {cs : List Char} {i : Item} {p q : Pattern}

theorem item_zeros {n : Int} (hread : fieldNumber f cs = .ok (n, rest))
    (hset : s.set f n = .ok s') : item s cs (Pattern.zeros f) = .ok (s', rest) :=
  bind_eq_ok_iff.2 ⟨(n, rest), hread, bind_eq_ok_iff.2 ⟨s', hset, rfl⟩⟩

theorem item_literal (s : Fields) (text rest : List Char) :
    item s (text ++ rest) (.literal text) = .ok (s, rest) := by
  have hlength : ¬ Text.byteLength (text ++ rest) < Text.byteLength text := by
    rw [Text.byteLength_append]
    omega
  rw [item, if_neg hlength, if_pos (List.isPrefixOf_iff_prefix.2 (List.prefix_append _ _)),
    List.drop_left]

theorem items_cons (h : item s cs i = .ok (s', rest)) : items s cs (i :: p) = items s' rest p := by
  rw [items, h]
  rfl

theorem items_append (s : Fields) (cs : List Char) (p q : Pattern) :
    items s cs (p ++ q) = (items s cs p) >>= fun r => items r.1 r.2 q := by
  induction p generalizing s cs with
  | nil => rfl
  | cons i p ih =>
    rw [List.cons_append, items, items]
    cases item s cs i with
    | error e => rfl
    | ok r => exact ih r.1 r.2

theorem agree_none {α : Type} [DecidableEq α] (n : α) : Fields.agree none n = .ok (some n) :=
  if_pos (.inl rfl)

theorem bounded_natCast {low high : Int} {n : Nat} (h : low ≤ n ∧ n ≤ high) :
    Fields.bounded low high n = .ok n :=
  if_pos h

/-- The fields with those of a day. -/
def withDay (s : Fields) (d : Date) : Fields :=
  { s with year := some d.year, month := some d.month, day := some d.day }

/-- The fields with those that a clock shows. -/
def withClock (s : Fields) (t : Time) : Fields :=
  { s with
    afternoon := some (decide (12 ≤ t.hour)), hourOfHalf := some (t.hour % 12),
    minute := some t.minute, second := some t.shownSecond }

/-- **A printed day** is taken from the front of a text. -/
theorem items_day (d : Date) (rest : List Char) :
    items {} (dayChars d ++ rest) dayItems = .ok (withDay {} d, rest) := by
  obtain ⟨hyear, hmonth, hday⟩ := d.bounds
  have hlargest : 262143 ≤ largest := by decide
  have hyearSet : Fields.set {} .year d.year = .ok { year := some d.year } := by
    have hnumber : Fields.yearNumber (-Int.pow 2 31) d.year = .ok d.year :=
      if_pos ⟨by change (-2147483648 : Int) ≤ _; omega, by change _ < (2147483648 : Int); omega⟩
    rw [Fields.set, hnumber]
    rfl
  have hmonthSet : Fields.set { year := some d.year } .month d.month =
      .ok { year := some d.year, month := some d.month } := by
    rw [Fields.set, bounded_natCast (by omega)]
    rfl
  have hdaySet : Fields.set { year := some d.year, month := some d.month } .day d.day =
      .ok (withDay {} d) := by
    rw [Fields.set, bounded_natCast (by omega)]
    rfl
  rw [dayItems, dayChars]
  simp only [List.append_assoc]
  rw [items_cons (item_zeros (fieldNumber_yearPlaces (by omega) (by rintro c ⟨⟩; rfl)) hyearSet),
    items_cons (item_literal _ _ _),
    items_cons (item_zeros (fieldNumber_padded rfl (by decide) (by decide) (by omega) _) hmonthSet),
    items_cons (item_literal _ _ _),
    items_cons (item_zeros (fieldNumber_padded rfl (by decide) (by decide) (by omega) _) hdaySet)]
  rfl

/-- **A shown time** is taken from the front of a text. -/
theorem items_clock (hhalf : s.afternoon = none) (hhour : s.hourOfHalf = none)
    (hminute : s.minute = none) (hsecond : s.second = none) (t : Time) (rest : List Char) :
    items s (clockChars t ++ rest) .clock = .ok (withClock s t, rest) := by
  obtain ⟨hhours, hminutes, -⟩ := t.bounds
  have hshown := t.shownSecond_le
  have hhour' : s.set .hour t.hour = .ok { s with
      afternoon := some (decide (12 ≤ t.hour)), hourOfHalf := some (t.hour % 12) } := by
    rw [Fields.set, bounded_natCast (by omega)]
    change s.setHour t.hour = _
    rw [Fields.setHour, hhalf, hhour, agree_none, agree_none]
    rfl
  have hminute' : Fields.set { s with
      afternoon := some (decide (12 ≤ t.hour)), hourOfHalf := some (t.hour % 12) }
        .minute t.minute =
      .ok { s with
        afternoon := some (decide (12 ≤ t.hour)), hourOfHalf := some (t.hour % 12),
        minute := some t.minute } := by
    rw [Fields.set, bounded_natCast (by omega), hminute]
    rfl
  have hsecond' : Fields.set { s with
      afternoon := some (decide (12 ≤ t.hour)), hourOfHalf := some (t.hour % 12),
      minute := some t.minute } .second t.shownSecond = .ok (withClock s t) := by
    rw [Fields.set, bounded_natCast (by omega), hsecond]
    rfl
  rw [Pattern.clock, clockChars]
  simp only [List.append_assoc]
  rw [
    items_cons (item_zeros (fieldNumber_padded rfl (by decide) (by decide) (by omega) _) hhour'),
    items_cons (item_literal _ _ _),
    items_cons (item_zeros (fieldNumber_padded rfl (by decide) (by decide) (by omega) _) hminute'),
    items_cons (item_literal _ _ _),
    items_cons (item_zeros (fieldNumber_padded rfl (by decide) (by decide) (by omega) _) hsecond')]
  rfl

theorem fields_of_items (h : items {} cs p = .ok (s, [])) :
    fields p (String.ofList cs) = .ok s := by
  rw [← String.toList_ofList (l := cs)] at h
  exact bind_eq_ok_iff.2 ⟨_, h, rfl⟩

/-! ## What the numbers determine -/

theorem date_withDay (d : Date) : (withDay {} d).date = .ok d := by
  have hmake : Date.make? d.year d.month d.day = some d := dif_pos d.valid
  refine bind_eq_ok_iff.2 ⟨some d.year, rfl, ?_⟩
  change (Fields.orOutOfRange (Date.make? d.year d.month d.day) >>= _) = _
  rw [hmake]
  rfl

theorem date_withClock (s : Fields) (t : Time) : (withClock s t).date = s.date := rfl

/-- **The time of the numbers on a clock** has no fraction; second 60 is the leap second. -/
theorem time_withClock (hnano : s.nano = none) (t : Time) :
    (withClock s t).time = .ok t.clipped := by
  have hhour : (if decide (12 ≤ t.hour) = true then 12 else 0) + t.hour % 12 = t.hour := by
    obtain ⟨hhour, -⟩ := t.bounds
    split_ifs with h <;> simp only [decide_eq_true_eq] at h <;> omega
  have hsecond :
      (if some t.shownSecond = some 60 then (59, nanosPerSecond) else (t.shownSecond, 0)) =
      (t.clipped.second, t.clipped.nano) := by
    obtain ⟨hshown, hsecond, hnano⟩ | ⟨hshown, hsecond, hnano⟩ := t.shown_clipped.2
    · rw [if_pos (congrArg some hshown), hsecond, hnano]
    · rw [if_neg fun h => hshown.ne (Option.some.inj h), hsecond, hnano]
  simp only [Fields.time, withClock, hnano, Option.isSome_none, Bool.false_and, Bool.false_eq_true,
    if_false, Option.getD_none, Option.getD_some, Nat.add_zero, hhour, hsecond, t.make?_clipped]

end Reader

/-- **A printed date** is read as itself. -/
theorem Date.read_print (d : Date) : Date.read dayItems (String.ofList (dayChars d)) = .ok d := by
  have hitems := Reader.items_day d []
  rw [List.append_nil] at hitems
  exact bind_eq_ok_iff.2 ⟨_, Reader.fields_of_items hitems, Reader.date_withDay d⟩

/-- **A printed time** is read without its fraction of a second. -/
theorem Time.read_print (t : Time) :
    Time.read Pattern.clock (String.ofList (clockChars t)) = .ok t.clipped := by
  have hitems := Reader.items_clock (s := {}) rfl rfl rfl rfl t []
  rw [List.append_nil] at hitems
  exact bind_eq_ok_iff.2 ⟨_, Reader.fields_of_items hitems, Reader.time_withClock rfl t⟩

/-- **A printed day and time** are read without the fraction of a second. -/
theorem DateTime.read_print (t : DateTime) :
    DateTime.read (dayItems ++ .space [' '] :: Pattern.clock)
      (String.ofList (dayChars t.date ++ ' ' :: clockChars t.time)) =
      .ok ⟨t.date, t.time.clipped⟩ := by
  have hspace : Reader.item (Reader.withDay {} t.date) (' ' :: clockChars t.time) (.space [' ']) =
      .ok (Reader.withDay {} t.date, clockChars t.time) := by
    obtain ⟨c, cs, hcs⟩ := List.exists_cons_of_ne_nil (Number.padded_ne_nil 2 t.time.hour)
    have hc : c.isDigit = true := Number.isDigit_of_mem_padded (hcs ▸ List.mem_cons_self)
    rw [Reader.item, clockChars, hcs, List.dropWhile_cons_of_pos (by decide), List.cons_append,
      Reader.dropWhile_of_isDigit hc]
  have hclock := Reader.items_clock (s := Reader.withDay {} t.date) rfl rfl rfl rfl t.time []
  rw [List.append_nil] at hclock
  have hitems : Reader.items {} (dayChars t.date ++ ' ' :: clockChars t.time)
      (dayItems ++ .space [' '] :: Pattern.clock) =
      .ok (Reader.withClock (Reader.withDay {} t.date) t.time, []) := by
    rw [Reader.items_append, Reader.items_day]
    exact (Reader.items_cons hspace).trans hclock
  refine bind_eq_ok_iff.2 ⟨_, Reader.fields_of_items hitems, ?_⟩
  rw [Fields.dateTime, Reader.date_withClock, Reader.date_withDay, Reader.time_withClock rfl]
  rfl

end Calendar

end RecordSheet
