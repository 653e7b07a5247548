/-!
# Dates and times

Dates of the proleptic Gregorian calendar, times of day to the microsecond, and moments that join
the two, with or without an offset from universal time. Constructors that check their parts return
`none` for a day or time that does not exist.
-/

namespace TestSkeleton

/-- A day of the Gregorian calendar. -/
structure Date where
  year : Nat
  month : Nat
  day : Nat
deriving DecidableEq, Repr, Inhabited

/-- A time of day. -/
structure TimeOfDay where
  hour : Nat
  minute : Nat
  second : Nat
  microsecond : Nat
deriving DecidableEq, Repr, Inhabited

/-- A date, a time of day, or both, these with an optional offset in minutes. -/
inductive Moment where
  | date (d : Date)
  | time (t : TimeOfDay)
  | dateTime (d : Date) (t : TimeOfDay) (offset : Option Int)
deriving DecidableEq, Repr, Inhabited

/-- Whether a year has a 29th of February. -/
def isLeapYear (y : Nat) : Bool := y % 4 == 0 && (y % 100 != 0 || y % 400 == 0)

/-- The number of days of a month. -/
def daysInMonth (y m : Nat) : Nat :=
  if m = 2 then (if isLeapYear y then 29 else 28)
  else if m ∈ [4, 6, 9, 11] then 30 else 31

/-- A date, if there is such a day from the year 1 to the year 9999. -/
def Date.ofParts? (y m d : Nat) : Option Date :=
  if 1 ≤ y ∧ y ≤ 9999 ∧ 1 ≤ m ∧ m ≤ 12 ∧ 1 ≤ d ∧ d ≤ daysInMonth y m then some ⟨y, m, d⟩ else none

/-- A time, if there is such a time of day. -/
def TimeOfDay.ofParts? (h m s us : Nat) : Option TimeOfDay :=
  if h < 24 ∧ m < 60 ∧ s < 60 ∧ us < 1000000 then some ⟨h, m, s, us⟩ else none

/-- The number of a day, counted from the first day of the year 1. -/
def Date.number (d : Date) : Nat :=
  let years := d.year - 1
  let earlier := (List.range (d.month - 1)).foldl (fun n m => n + daysInMonth d.year (m + 1)) 0
  365 * years + years / 4 - years / 100 + years / 400 + earlier + d.day

/-- The minutes of universal time up to a date and a time that are ahead of it by an offset. -/
def universalMinutes (d : Date) (t : TimeOfDay) (offset : Int) : Int :=
  1440 * d.number + 60 * t.hour + t.minute - offset

/-- Whether two moments are the same. With offsets these are moments of universal time. -/
def Moment.same : Moment → Moment → Bool
  | .dateTime d t (some o), .dateTime d' t' (some o') =>
    universalMinutes d t o == universalMinutes d' t' o' && t.second == t'.second
      && t.microsecond == t'.microsecond
  | a, b => a == b

/-- A number with zeros in front up to a width. -/
def zeroFilled (width n : Nat) : String :=
  let ds := Nat.toDigits 10 n
  String.ofList (List.replicate (width - ds.length) '0' ++ ds)

/-- A date as year, month and day with hyphens. -/
def Date.text (d : Date) : String :=
  zeroFilled 4 d.year ++ "-" ++ zeroFilled 2 d.month ++ "-" ++ zeroFilled 2 d.day

/-- A time with colons, and six places after the point unless the second is whole. -/
def TimeOfDay.text (t : TimeOfDay) : String :=
  zeroFilled 2 t.hour ++ ":" ++ zeroFilled 2 t.minute ++ ":" ++ zeroFilled 2 t.second
    ++ (if t.microsecond = 0 then "" else "." ++ zeroFilled 6 t.microsecond)

/-- An offset as sign, hours and minutes. -/
def offsetText (minutes : Int) : String :=
  let n := minutes.natAbs
  (if minutes < 0 then "-" else "+") ++ zeroFilled 2 (n / 60) ++ ":" ++ zeroFilled 2 (n % 60)

/-- A moment in the notation of ISO 8601 with a blank between date and time. -/
def Moment.text : Moment → String
  | .date d => d.text
  | .time t => t.text
  | .dateTime d t offset =>
    d.text ++ " " ++ t.text ++ (match offset with | none => "" | some o => offsetText o)

private def commaList (ns : List Nat) : String := ", ".intercalate (ns.map fun n => toString n)

-- The parts of a time; a whole minute leaves out the second, a whole second the microsecond.
private def TimeOfDay.parts (t : TimeOfDay) : List Nat :=
  [t.hour, t.minute] ++
    (if t.microsecond ≠ 0 then [t.second, t.microsecond]
     else if t.second ≠ 0 then [t.second] else [])

-- The length of an offset as days and seconds, the days taking the sign.
private def offsetParts (minutes : Int) : String :=
  let days := minutes / 1440
  let seconds := minutes % 1440 * 60
  ", ".intercalate <|
    (if days ≠ 0 then ["days=" ++ toString days] else []) ++
    (if seconds ≠ 0 then ["seconds=" ++ toString seconds] else [])

/-- How a moment appears inside the display of a collection. -/
def Moment.quoted : Moment → String
  | .date d => "datetime.date(" ++ commaList [d.year, d.month, d.day] ++ ")"
  | .time t => "datetime.time(" ++ commaList t.parts ++ ")"
  | .dateTime d t offset =>
    let zone := match offset with
      | none => ""
      | some o =>
        ", tzinfo=datetime.timezone" ++
          (if o = 0 then ".utc" else "(datetime.timedelta(" ++ offsetParts o ++ "))")
    "datetime.datetime(" ++ commaList ([d.year, d.month, d.day] ++ t.parts) ++ zone ++ ")"

end TestSkeleton
