import Mathlib.Algebra.Ring.Int.Defs
import Mathlib.Algebra.Ring.Nat
import Mathlib.Data.List.Basic

/-!
# Times in RFC 3339

Times as Go's `time` package reads and prints them in the layout `RFC3339`. It reads more than it
prints: a fraction of the second, which is then lost, and an hour of one digit.
-/

namespace RFC3339

def isLeap (year : ℕ) : Bool := year % 4 = 0 ∧ (year % 100 ≠ 0 ∨ year % 400 = 0)

def daysIn (month year : ℕ) : ℕ :=
  if month = 2 then if isLeap year then 29 else 28
  else if month = 4 ∨ month = 6 ∨ month = 9 ∨ month = 11 then 30
  else 31

/-- A time as it stands on the calendar and the clock of a zone. -/
structure Time where
  year : ℕ
  month : ℕ
  day : ℕ
  hour : ℕ
  minute : ℕ
  second : ℕ
  nanosecond : ℕ
  /-- Minutes east of Greenwich. -/
  zone : ℤ
  year_lt : year < 10000
  month_range : 1 ≤ month ∧ month ≤ 12
  day_range : 1 ≤ day ∧ day ≤ daysIn month year
  hour_lt : hour < 24
  minute_lt : minute < 60
  second_lt : second < 60
  nanosecond_lt : nanosecond < 10 ^ 9
  zone_le : zone.natAbs ≤ 25 * 60
  deriving DecidableEq

theorem whole_lt : 0 < 10 ^ 9 := by decide

theorem utc_le : (0 : ℤ).natAbs ≤ 25 * 60 := by decide

/-! ## Reading -/

def expect (c : Char) : List Char → Option (List Char)
  | [] => none
  | d :: cs => if d = c then some cs else none

def digit (c : Char) : ℕ := c.toNat - '0'.toNat

/-- A year has four digits. -/
def longYear : List Char → Option (ℕ × List Char)
  | a :: b :: c :: d :: cs =>
    if a.isDigit ∧ b.isDigit ∧ c.isDigit ∧ d.isDigit then
      some (1000 * digit a + 100 * digit b + 10 * digit c + digit d, cs)
    else none
  | _ => none

/-- Two digits, or one where the number is not `fixed`. -/
def getnum (fixed : Bool) : List Char → Option (ℕ × List Char)
  | [] => none
  | a :: cs =>
    if a.isDigit then
      match cs with
      | b :: rest =>
        if b.isDigit then some (10 * digit a + digit b, rest)
        else if fixed then none else some (digit a, cs)
      | [] => if fixed then none else some (digit a, [])
    else none

/-- A fraction behind the seconds, of which nine digits count. -/
def fraction : List Char → ℕ × List Char
  | point :: cs =>
    let digits := cs.takeWhile Char.isDigit
    if (point = '.' ∨ point = ',') ∧ digits ≠ [] then
      let kept := digits.take 9
      (Nat.ofDigitChars 10 kept 0 * 10 ^ (9 - kept.length), cs.dropWhile Char.isDigit)
    else (0, point :: cs)
  | [] => (0, [])

def colonZone : List Char → Option (ℤ × List Char)
  | 'Z' :: cs => some (0, cs)
  | sign :: cs => do
    let (hours, cs) ← getnum true cs
    let cs ← expect ':' cs
    let (minutes, cs) ← getnum true cs
    if 24 < hours ∨ 60 < minutes then none
    else if sign = '+' then some ((hours * 60 + minutes : ℕ), cs)
    else if sign = '-' then some (-(hours * 60 + minutes : ℕ), cs)
    else none
  | [] => none

def parse (s : String) : Option Time := do
  let (year, cs) ← longYear s.toList
  let (month, cs) ← getnum true (← expect '-' cs)
  let (day, cs) ← getnum true (← expect '-' cs)
  let (hour, cs) ← getnum false (← expect 'T' cs)
  let (minute, cs) ← getnum true (← expect ':' cs)
  let (second, cs) ← getnum true (← expect ':' cs)
  let (nanosecond, cs) := fraction cs
  let (zone, cs) ← colonZone cs
  if h : cs = [] ∧ year < 10000 ∧ (1 ≤ month ∧ month ≤ 12) ∧ (1 ≤ day ∧ day ≤ daysIn month year) ∧
      hour < 24 ∧ minute < 60 ∧ second < 60 ∧ nanosecond < 10 ^ 9 ∧ zone.natAbs ≤ 25 * 60 then
    have ⟨_, year_lt, month_range, day_range, hour_lt, minute_lt, second_lt, nanosecond_lt, zone_le⟩ := h
    some { year, month, day, hour, minute, second, nanosecond, zone, year_lt, month_range, day_range,
           hour_lt, minute_lt, second_lt, nanosecond_lt, zone_le }
  else none

/-! ## Printing -/

/-- The lowest `width` decimal digits. -/
def pad : ℕ → ℕ → List Char
  | 0, _ => []
  | width + 1, n => pad width (n / 10) ++ [Nat.digitChar (n % 10)]

def formatZone (zone : ℤ) : List Char :=
  if zone = 0 then ['Z']
  else (if zone < 0 then '-' else '+') :: (pad 2 (zone.natAbs / 60) ++ ':' :: pad 2 (zone.natAbs % 60))

def Time.chars (t : Time) : List Char :=
  pad 4 t.year ++ '-' :: (pad 2 t.month ++ '-' :: (pad 2 t.day ++ 'T' :: (pad 2 t.hour ++
    ':' :: (pad 2 t.minute ++ ':' :: (pad 2 t.second ++ formatZone t.zone)))))

def Time.format (t : Time) : String := String.ofList t.chars

example : (parse "2024-02-29T7:08:09,25+05:30").map Time.format = some "2024-02-29T07:08:09+05:30" := by
  decide

/-! ## What the text determines -/

@[simp] theorem length_pad (width n : ℕ) : (pad width n).length = width := by
  induction width generalizing n with
  | zero => rfl
  | succ width ih => rw [pad, List.length_append, ih, List.length_singleton]

theorem digitChar_inj : ∀ a < 10, ∀ b < 10, Nat.digitChar a = Nat.digitChar b → a = b := by decide

theorem pad_inj {width a b : ℕ} (ha : a < 10 ^ width) (hb : b < 10 ^ width)
    (h : pad width a = pad width b) : a = b := by
  induction width generalizing a b with
  | zero => omega
  | succ width ih =>
    obtain ⟨high, low⟩ := List.append_inj' h rfl
    have high := ih (by omega) (by omega) high
    have low := digitChar_inj (a % 10) (by omega) (b % 10) (by omega) (List.singleton_inj.mp low)
    omega

theorem not_mem_pad {c : Char} (h : ∀ a < 10, Nat.digitChar a ≠ c) (width n : ℕ) : c ∉ pad width n := by
  induction width generalizing n with
  | zero => exact List.not_mem_nil
  | succ width ih =>
    rw [pad, List.mem_append, List.mem_singleton]
    rintro (high | low)
    · exact ih _ high
    · exact h _ (Nat.mod_lt _ (by decide)) low.symm

/-- Two numbers of one width before one character. -/
theorem pad_cons_inj {width a b : ℕ} {c : Char} {x y : List Char} (ha : a < 10 ^ width)
    (hb : b < 10 ^ width) (h : pad width a ++ c :: x = pad width b ++ c :: y) : a = b ∧ x = y := by
  obtain ⟨front, back⟩ := List.append_inj h (by rw [length_pad, length_pad])
  exact ⟨pad_inj ha hb front, (List.cons.inj back).2⟩

theorem formatZone_inj {a b : ℤ} (ha : a.natAbs ≤ 25 * 60) (hb : b.natAbs ≤ 25 * 60)
    (h : formatZone a = formatZone b) : a = b := by
  by_cases za : a = 0 <;> by_cases zb : b = 0 <;> simp only [formatZone, za, zb, ↓reduceIte] at h
  · rw [za, zb]
  · have first := (List.cons.inj h).1
    split at first <;> cases first
  · have first := (List.cons.inj h).1
    split at first <;> cases first
  · obtain ⟨sign, rest⟩ := List.cons.inj h
    obtain ⟨hours, minutes⟩ := pad_cons_inj (by omega) (by omega) rest
    have minutes := pad_inj (by omega) (by omega) minutes
    split at sign <;> split at sign <;> first | omega | cases sign

/-- The time without its fraction of a second. -/
def Time.truncate (t : Time) : Time := { t with nanosecond := 0, nanosecond_lt := whole_lt }

/-- The text is that of the time up to the second. -/
theorem format_inj {t u : Time} : t.format = u.format ↔ t.truncate = u.truncate := by
  constructor
  · intro h
    have h := String.ofList_injective h
    have month (t : Time) : t.month < 10 ^ 2 := by have := t.month_range; omega
    have day (t : Time) : t.day < 10 ^ 2 := by
      have := t.day_range
      have : daysIn t.month t.year ≤ 31 := by unfold daysIn; split_ifs <;> omega
      omega
    have hour (t : Time) : t.hour < 10 ^ 2 := by have := t.hour_lt; omega
    have minute (t : Time) : t.minute < 10 ^ 2 := by have := t.minute_lt; omega
    have second (t : Time) : t.second < 10 ^ 2 := by have := t.second_lt; omega
    obtain ⟨years, h⟩ := pad_cons_inj t.year_lt u.year_lt h
    obtain ⟨months, h⟩ := pad_cons_inj (month t) (month u) h
    obtain ⟨days, h⟩ := pad_cons_inj (day t) (day u) h
    obtain ⟨hours, h⟩ := pad_cons_inj (hour t) (hour u) h
    obtain ⟨minutes, h⟩ := pad_cons_inj (minute t) (minute u) h
    obtain ⟨front, back⟩ := List.append_inj h (by rw [length_pad, length_pad])
    have seconds := pad_inj (second t) (second u) front
    have zones := formatZone_inj t.zone_le u.zone_le back
    cases t
    cases u
    simp only [Time.truncate, Time.mk.injEq]
    exact ⟨years, months, days, hours, minutes, seconds, trivial, zones⟩
  · intro h
    have same (t : Time) : t.format = t.truncate.format := rfl
    rw [same t, same u, h]

/-- The text holds digits and these marks. -/
theorem not_mem_format {c : Char} (digits : ∀ a < 10, Nat.digitChar a ≠ c)
    (marks : c ∉ ['-', '+', ':', 'T', 'Z']) (t : Time) : c ∉ t.format.toList := by
  have pad (width n : ℕ) := not_mem_pad digits width n
  simp only [List.mem_cons, List.not_mem_nil, or_false, not_or] at marks
  obtain ⟨minus, plus, colon, middle, utc⟩ := marks
  have zone : c ∉ formatZone t.zone := by
    unfold formatZone
    split
    · simpa using utc
    · simp only [List.mem_cons, List.mem_append, not_or]
      exact ⟨by split <;> assumption, pad _ _, colon, pad _ _⟩
  rw [Time.format, String.toList_ofList, Time.chars]
  simp only [List.mem_append, List.mem_cons, not_or]
  exact ⟨pad _ _, minus, pad _ _, minus, pad _ _, middle, pad _ _, colon, pad _ _, colon, pad _ _, zone⟩

/-! ## Instants -/

/-- Days from the first day of the year 0. -/
def Time.days (t : Time) : ℕ :=
  365 * t.year + (t.year + 3) / 4 - (t.year + 99) / 100 + (t.year + 399) / 400 +
    ((List.range' 1 (t.month - 1)).map fun month => daysIn month t.year).sum + (t.day - 1)

def Time.seconds (t : Time) : ℤ :=
  ((t.days : ℤ) - 719528) * 86400 + t.hour * 3600 + t.minute * 60 + t.second - t.zone * 60

/-- Nanoseconds since 1970. -/
def Time.unixNano (t : Time) : ℤ := t.seconds * 10 ^ 9 + t.nanosecond

/-- The fraction of a second is what two times of one text may differ in. -/
theorem unixNano_eq (t : Time) : t.unixNano = t.truncate.unixNano + t.nanosecond := by
  simp only [Time.unixNano, Time.truncate, Time.seconds, Time.days]
  omega

example : (parse "2024-02-29T07:08:09.25+05:30").map Time.unixNano = some 1709170689250000000 := by
  decide

end RFC3339
