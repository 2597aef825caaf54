import HotReload.Text.Numeral
/-!
Dates, times of day, and moments (a date with a time).

* `Date.iso`, `Time.iso` and `Moment.iso` write them; a moment has a separator of the
  caller's choice between its parts.
* `Date.read?`, `Time.read?` and `Moment.read?` read one from the start of a text and
  return the rest. `Date.ofIso?`, `Time.ofIso?` and `Moment.ofIso?` take a whole text.
* `Date.quoted`, `Time.quoted` and `Moment.quoted` are the forms that stand in the
  text of a list or mapping.
-/

namespace HotReload

/-- A day of the Gregorian calendar. -/
structure Date where
  year : Nat
  month : Nat
  day : Nat
  deriving DecidableEq, Repr, Inhabited

/-- A time of day, and its distance from UTC in seconds if it has one. -/
structure Time where
  hour : Nat
  minute : Nat
  second : Nat
  micro : Nat
  offset : Option Int
  deriving DecidableEq, Repr, Inhabited

/-- A date with a time. -/
structure Moment where
  date : Date
  time : Time
  deriving DecidableEq, Repr, Inhabited

/-! ### Validity -/

/-- Whether the year has a twenty-ninth of February. -/
def isLeapYear (year : Nat) : Bool :=
  year % 4 == 0 && (year % 100 != 0 || year % 400 == 0)

/-- The number of days of a month. -/
def daysInMonth (year month : Nat) : Nat :=
  if month = 2 then (if isLeapYear year then 29 else 28)
  else if month = 4 ∨ month = 6 ∨ month = 9 ∨ month = 11 then 30
  else 31

/-- Whether the day exists, in the years 1 to 9999. -/
def Date.isValid (d : Date) : Bool :=
  1 ≤ d.year && d.year ≤ 9999 && 1 ≤ d.month && d.month ≤ 12 && 1 ≤ d.day &&
    d.day ≤ daysInMonth d.year d.month

/-! ### Writing -/

/-- Year, month and day with dashes. -/
def Date.iso (d : Date) : Text :=
  padded 10 4 d.year ++ ['-'] ++ padded 10 2 d.month ++ ['-'] ++ padded 10 2 d.day

/-- A distance from UTC: sign, hours and minutes, and seconds if there are any. -/
def offsetText (seconds : Int) : Text :=
  let n := seconds.natAbs
  [if seconds < 0 then '-' else '+'] ++ padded 10 2 (n / 3600) ++ [':'] ++
    padded 10 2 (n / 60 % 60) ++ (if n % 60 = 0 then [] else ':' :: padded 10 2 (n % 60))

/-- Hours, minutes and seconds with colons, the microseconds if there are any, and the
distance from UTC if there is one. -/
def Time.iso (t : Time) : Text :=
  padded 10 2 t.hour ++ [':'] ++ padded 10 2 t.minute ++ [':'] ++ padded 10 2 t.second ++
    (if t.micro = 0 then [] else '.' :: padded 10 6 t.micro) ++
    (match t.offset with
      | none => []
      | some seconds => offsetText seconds)

/-- Date and time with `separator` between them. -/
def Moment.iso (separator : Char) (m : Moment) : Text :=
  m.date.iso ++ [separator] ++ m.time.iso

/-- Numbers with a comma and a blank between any two. -/
def numberList (ns : List Nat) : Text := Text.join ", " (ns.map decimal)

/-- The zone of a time inside its quoted form. -/
def zoneText : Option Int → Text
  | none => []
  | some seconds =>
      let days := seconds.fdiv 86400
      let dayPart : Text := if days = 0 then [] else "days=" ++ signedDecimal days ++ ", "
      let zone : Text :=
        if seconds = 0 then ".utc"
        else "(datetime.timedelta(" ++ dayPart ++ "seconds=" ++
          signedDecimal (seconds - days * 86400) ++ "))"
      ", tzinfo=datetime.timezone" ++ zone

/-- The quoted form of a date. -/
def Date.quoted (d : Date) : Text :=
  "datetime.date(" ++ numberList [d.year, d.month, d.day] ++ ")"

/-- The seconds and microseconds that are shown: none if both are zero. -/
def Time.secondsShown (t : Time) : List Nat :=
  if t.micro ≠ 0 then [t.second, t.micro] else if t.second ≠ 0 then [t.second] else []

/-- The quoted form of a time. -/
def Time.quoted (t : Time) : Text :=
  "datetime.time(" ++ numberList ([t.hour, t.minute] ++ t.secondsShown) ++
    zoneText t.offset ++ ")"

/-- The quoted form of a moment. -/
def Moment.quoted (m : Moment) : Text :=
  "datetime.datetime(" ++
    numberList
      ([m.date.year, m.date.month, m.date.day, m.time.hour, m.time.minute] ++
        m.time.secondsShown) ++
    zoneText m.time.offset ++ ")"

/-! ### Reading -/

/-- The number that exactly `n` decimal digits at the start of a text write. -/
def readDigits (n : Nat) (text : Text) : Option (Nat × Text) :=
  let (ds, _) := spanDigits decimalDigit? (text.take n)
  if ds.length = n then some (numeralValue 10 ds, text.drop n) else none

/-- Two digits with a value between the bounds. -/
def readPair (low high : Nat) (text : Text) : Option (Nat × Text) :=
  match readDigits 2 text with
  | some (n, rest) => if low ≤ n ∧ n ≤ high then some (n, rest) else none
  | none => none

/-- The rest of a text after the character `c`. -/
def readChar (c : Char) : Text → Option Text
  | [] => none
  | d :: rest => if d = c then some rest else none

/-- A date with a possible month and a day up to thirty-one. -/
def Date.read? (text : Text) : Option (Date × Text) := do
  let (year, text) ← readDigits 4 text
  let text ← readChar '-' text
  let (month, text) ← readPair 1 12 text
  let text ← readChar '-' text
  let (day, text) ← readPair 1 31 text
  return (⟨year, month, day⟩, text)

/-- A fraction of a second in microseconds: the digits after the sixth are dropped. -/
def readMicro (text : Text) : Nat × Text :=
  match text with
  | '.' :: rest =>
      match spanDigits decimalDigit? rest with
      | ([], _) => (0, text)
      | (ds, after) => (numeralValue 10 ((ds ++ List.replicate 6 0).take 6), after)
  | _ => (0, text)

/-- A time of day without a distance from UTC. -/
def Time.read? (text : Text) : Option (Time × Text) := do
  let (hour, text) ← readPair 0 23 text
  let text ← readChar ':' text
  let (minute, text) ← readPair 0 59 text
  let text ← readChar ':' text
  let (second, text) ← readPair 0 59 text
  let (micro, text) := readMicro text
  return (⟨hour, minute, second, micro, none⟩, text)

/-- A distance from UTC: the letter Z, or a sign, hours and minutes. -/
def readOffset? : Text → Option (Int × Text)
  | [] => none
  | c :: rest =>
      if c = 'Z' ∨ c = 'z' then some (0, rest)
      else if c = '+' ∨ c = '-' then do
        let (hours, rest) ← readPair 0 23 rest
        let rest ← readChar ':' rest
        let (minutes, rest) ← readPair 0 59 rest
        let seconds : Int := hours * 3600 + minutes * 60
        return (if c = '-' then -seconds else seconds, rest)
      else none

/-- A time of day with a distance from UTC if one follows. -/
def Time.readZoned? (text : Text) : Option (Time × Text) := do
  let (time, text) ← Time.read? text
  match readOffset? text with
  | some (offset, text) => return ({ time with offset := some offset }, text)
  | none => return (time, text)

/-- A date, a separator and a time. -/
def Moment.read? (text : Text) : Option (Moment × Text) := do
  let (date, text) ← Date.read? text
  match text with
  | [] => none
  | c :: text =>
      if c = 'T' ∨ c = 't' ∨ c = ' ' then do
        let (time, text) ← Time.readZoned? text
        return (⟨date, time⟩, text)
      else none

/-- A distance from UTC with seconds after it, as `offsetText` writes it. -/
def readExactOffset? (text : Text) : Option (Int × Text) := do
  let (offset, rest) ← readOffset? text
  match readChar ':' rest with
  | none => return (offset, rest)
  | some rest =>
      let (seconds, rest) ← readPair 0 59 rest
      return (if text.head? = some '-' then offset - seconds else offset + seconds, rest)

/-- The date that a whole text writes. -/
def Date.ofIso? (text : Text) : Option Date :=
  match Date.read? text with
  | some (date, []) => some date
  | _ => none

/-- The time of day that a whole text writes. -/
def Time.ofIso? (text : Text) : Option Time :=
  match Time.read? text with
  | some (time, []) => some time
  | some (time, zone) =>
      match readExactOffset? zone with
      | some (offset, []) => some { time with offset := some offset }
      | _ => none
  | none => none

/-- The moment that a whole text writes, with any character between date and time. -/
def Moment.ofIso? (text : Text) : Option Moment :=
  match Date.read? text with
  | some (date, _ :: rest) => (Time.ofIso? rest).map fun time => ⟨date, time⟩
  | _ => none

/-! ### Comparison -/

/-- The days from the first day of the year 1 to the date. -/
def Date.dayNumber (d : Date) : Nat :=
  let before := d.year - 1
  before * 365 + before / 4 - before / 100 + before / 400 +
    (List.range (d.month - 1)).foldl (fun days m => days + daysInMonth d.year (m + 1)) d.day

/-- The microseconds since midnight, moved to UTC if the time has a distance from it. -/
def Time.instant (t : Time) : Int :=
  ((t.hour * 3600 + t.minute * 60 + t.second : Nat) - t.offset.getD 0) * 1000000 + t.micro

/-- Equality of times: with a distance from UTC on both sides, that of the instants. -/
def Time.equals (s t : Time) : Bool :=
  s.offset.isSome == t.offset.isSome && s.instant == t.instant

/-- Equality of moments: with a distance from UTC on both sides, that of the instants. -/
def Moment.equals (s t : Moment) : Bool :=
  s.time.offset.isSome == t.time.offset.isSome &&
    s.date.dayNumber * 86400000000 + s.time.instant ==
      t.date.dayNumber * 86400000000 + t.time.instant

end HotReload
