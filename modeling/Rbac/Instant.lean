import Rbac.Text.Digits

namespace Rbac

namespace Calendar

def isLeap (year : Nat) : Bool :=
  year % 4 == 0 && (year % 100 != 0 || year % 400 == 0)

def daysIn (year month : Nat) : Nat :=
  match month with
  | 2 => if isLeap year then 29 else 28
  | 4 | 6 | 9 | 11 => 30
  | _ => 31

def daysBeforeYear (year : Nat) : Nat :=
  let past := year - 1
  365 * past + past / 4 - past / 100 + past / 400

def daysBeforeMonth (year month : Nat) : Nat :=
  (List.range (month - 1)).foldl (fun days m => days + daysIn year (m + 1)) 0

theorem daysIn_pos (year month : Nat) : 1 ≤ daysIn year month := by
  unfold daysIn
  split <;> (try split) <;> omega

end Calendar

/-- The bounds that the parts of an instant keep; the offset is in minutes. -/
def Instant.Valid (year month day hour minute second micro : Nat) (offset : Int) : Prop :=
  (1 ≤ year ∧ year ≤ 9999) ∧ (1 ≤ month ∧ month ≤ 12) ∧
  (1 ≤ day ∧ day ≤ Calendar.daysIn year month) ∧
  hour ≤ 23 ∧ minute ≤ 59 ∧ second ≤ 59 ∧ micro ≤ 999999 ∧ (-1440 < offset ∧ offset < 1440)

instance (year month day hour minute second micro : Nat) (offset : Int) :
    Decidable (Instant.Valid year month day hour minute second micro offset) := by
  unfold Instant.Valid; infer_instance

structure Instant where
  year : Nat
  month : Nat
  day : Nat
  hour : Nat
  minute : Nat
  second : Nat
  micro : Nat
  offset : Int
  valid : Instant.Valid year month day hour minute second micro offset
deriving DecidableEq

namespace Instant

def ofParts? (year month day hour minute second micro : Nat) (offset : Int) : Option Instant :=
  if h : Valid year month day hour minute second micro offset then
    some ⟨year, month, day, hour, minute, second, micro, offset, h⟩
  else none

def epoch : Instant := ⟨2024, 1, 1, 0, 0, 0, 0, 0, by decide⟩

instance : Inhabited Instant := ⟨epoch⟩

/-- Microseconds from the start of year 1, universal time, to the instant. -/
def micros (t : Instant) : Int :=
  let days := Calendar.daysBeforeYear t.year + Calendar.daysBeforeMonth t.year t.month + (t.day - 1)
  let seconds : Int := ((days * 24 + t.hour) * 60 + t.minute : Nat) * 60 - t.offset * 60 + t.second
  seconds * 1000000 + t.micro

/-- Instants are ordered by the moment, not by what the clocks show. -/
def le (a b : Instant) : Bool :=
  a.micros ≤ b.micros

theorem le_iff {a b : Instant} : a.le b = true ↔ a.micros ≤ b.micros :=
  decide_eq_true_iff

theorem le_trans {a b c : Instant} (hab : a.le b = true) (hbc : b.le c = true) :
    a.le c = true :=
  le_iff.mpr (Int.le_trans (le_iff.mp hab) (le_iff.mp hbc))

theorem le_total (a b : Instant) : (a.le b || b.le a) = true := by
  rw [Bool.or_eq_true, le_iff, le_iff]
  exact Int.le_total _ _

/-- The instant one second later; the last second there is stays. -/
def nextSecond (t : Instant) : Instant :=
  if hs : t.second < 59 then
    { t with second := t.second + 1, valid := by have := t.valid; unfold Valid at *; omega }
  else if hm : t.minute < 59 then
    { t with second := 0, minute := t.minute + 1,
             valid := by have := t.valid; unfold Valid at *; omega }
  else if hh : t.hour < 23 then
    { t with second := 0, minute := 0, hour := t.hour + 1,
             valid := by have := t.valid; unfold Valid at *; omega }
  else if hd : t.day < Calendar.daysIn t.year t.month then
    { t with second := 0, minute := 0, hour := 0, day := t.day + 1,
             valid := by have := t.valid; unfold Valid at *; omega }
  else if hn : t.month < 12 then
    { t with second := 0, minute := 0, hour := 0, day := 1, month := t.month + 1,
             valid := by
               have := t.valid
               have := Calendar.daysIn_pos t.year (t.month + 1)
               unfold Valid at *; omega }
  else if hy : t.year < 9999 then
    { t with second := 0, minute := 0, hour := 0, day := 1, month := 1, year := t.year + 1,
             valid := by
               have := t.valid
               have := Calendar.daysIn_pos (t.year + 1) 1
               unfold Valid at *; omega }
  else t

def later (t : Instant) : Nat → Instant
  | 0 => t
  | n + 1 => (t.later n).nextSecond

def wallClock (separator : Char) (t : Instant) : List Char :=
  let date := Text.padded 4 t.year ++ '-' :: Text.padded 2 t.month ++ '-' :: Text.padded 2 t.day
  let time := Text.padded 2 t.hour ++ ':' :: Text.padded 2 t.minute ++ ':' :: Text.padded 2 t.second
  let fraction := if t.micro = 0 then [] else '.' :: Text.padded 6 t.micro
  date ++ separator :: time ++ fraction

def offsetChars (t : Instant) : List Char :=
  let sign := if t.offset < 0 then '-' else '+'
  sign :: Text.padded 2 (t.offset.natAbs / 60) ++ ':' :: Text.padded 2 (t.offset.natAbs % 60)

/-- The text of an instant in records: `2024-01-01T00:00:00+00:00`. -/
def text (t : Instant) : String :=
  String.ofList (t.wallClock 'T' ++ t.offsetChars)

/-- The text of an instant in audit details: a space stands between date and time. -/
def spacedText (t : Instant) : String :=
  String.ofList (t.wallClock ' ' ++ t.offsetChars)

/-- The text of an instant in responses: universal time is marked `Z`. -/
def responseText (t : Instant) : String :=
  String.ofList (t.wallClock 'T' ++ if t.offset = 0 then ['Z'] else t.offsetChars)

/-- How an offset reads inside the text of a value: one behind universal time counts from the day
before. -/
def shownZone (t : Instant) : String :=
  if t.offset = 0 then "datetime.timezone.utc"
  else
    let days := if t.offset < 0 then "days=-1, " else ""
    let seconds := t.offset % 1440 * 60
    s!"datetime.timezone(datetime.timedelta({days}seconds={seconds}))"

/-- How an instant reads inside the text of a value. Seconds and their fraction are left out where
they are zero. -/
def shown (t : Instant) : String :=
  let seconds :=
    if t.micro ≠ 0 then [t.second, t.micro] else if t.second ≠ 0 then [t.second] else []
  let numbers := ([t.year, t.month, t.day, t.hour, t.minute] ++ seconds).map toString
  let listed := ", ".intercalate numbers
  s!"datetime.datetime({listed}, tzinfo={t.shownZone})"

def takeNumber? (width : Nat) (text : List Char) : Option (Nat × List Char) := do
  let digits := text.take width
  if digits.length == width && digits.all Char.isDigit then
    return (digits.foldl (fun n c => n * 10 + (c.toNat - 48)) 0, text.drop width)
  else none

def takeMark? (mark : Char) : List Char → Option (List Char)
  | c :: rest => if c == mark then some rest else none
  | [] => none

/-- The fraction in microseconds: at most six digits, padded with zeros. -/
def takeFraction (text : List Char) : Option (Nat × List Char) :=
  match text with
  | '.' :: rest =>
    let digits := rest.takeWhile Char.isDigit
    if 1 ≤ digits.length && digits.length ≤ 6 then
      (takeNumber? 6 (digits ++ List.replicate (6 - digits.length) '0')).map
        fun (micro, _) => (micro, rest.dropWhile Char.isDigit)
    else none
  | _ => some (0, text)

def readOffset? (text : List Char) : Option Int := do
  match text with
  | ['Z'] => return 0
  | sign :: rest =>
    let (hours, rest) ← takeNumber? 2 rest
    let rest ← takeMark? ':' rest
    let (minutes, rest) ← takeNumber? 2 rest
    if rest.isEmpty && minutes ≤ 59 then
      if sign == '+' then return hours * 60 + minutes
      else if sign == '-' then return -(hours * 60 + minutes : Int)
      else none
    else none
  | [] => none

/-- Reads the text of records; the fraction may be shorter than six digits. -/
def read? (text : String) : Option Instant := do
  let (year, rest) ← takeNumber? 4 text.toList
  let rest ← takeMark? '-' rest
  let (month, rest) ← takeNumber? 2 rest
  let rest ← takeMark? '-' rest
  let (day, rest) ← takeNumber? 2 rest
  let rest ← (takeMark? 'T' rest).or (takeMark? ' ' rest)
  let (hour, rest) ← takeNumber? 2 rest
  let rest ← takeMark? ':' rest
  let (minute, rest) ← takeNumber? 2 rest
  let rest ← takeMark? ':' rest
  let (second, rest) ← takeNumber? 2 rest
  let (micro, rest) ← takeFraction rest
  let offset ← readOffset? rest
  ofParts? year month day hour minute second micro offset

end Instant
end Rbac
