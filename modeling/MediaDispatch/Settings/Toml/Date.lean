import MediaDispatch.Number.Decimal

/-! # Dates and times of TOML

    Dates, times of day, and both together.  They are read into their normal
    texts: `T` between date and time, no zeros at the end of a fraction. -/

namespace MediaDispatch.Toml

open MediaDispatch.Number

/-! ## Section 1: Digits -/

/-- Is `c` a digit below `base`? -/
def isDigit (base : Nat) (c : Char) : Bool := (digitBelow? base c).isSome

/-- Exactly `count` digits. -/
def takeCount? (count : Nat) (s : List Char) : Option (Nat × List Char) :=
  if s.length < count then none
  else (readNat? 10 (s.take count)).map fun n => (n, s.drop count)

/-- Two digits from `low` to `high`. -/
def takeTwo? (low high : Nat) (s : List Char) : Option (Nat × List Char) :=
  (takeCount? 2 s).filter fun (n, _) => low ≤ n && n ≤ high

/-- A given character. -/
def takeChar? (c : Char) : List Char → Option (List Char)
  | d :: rest => if d = c then some rest else none
  | [] => none

/-- A number in at least `width` digits. -/
def padded (width n : Nat) : List Char :=
  let digits := Nat.toDigits 10 n
  List.replicate (width - digits.length) '0' ++ digits

/-- How many days a month has. -/
def daysIn (year month : Nat) : Nat :=
  if month = 2 then
    if year % 4 = 0 && (year % 100 ≠ 0 || year % 400 = 0) then 29 else 28
  else if month = 4 || month = 6 || month = 9 || month = 11 then 30
  else 31

/-! ## Section 2: Dates -/

/-- A date. -/
def takeDate? (s : List Char) : Option (List Char × List Char) := do
  let (year, s) ← takeCount? 4 s
  let s ← takeChar? '-' s
  let (month, s) ← takeTwo? 1 12 s
  let s ← takeChar? '-' s
  let (day, s) ← takeTwo? 1 (daysIn year month) s
  return (padded 4 year ++ '-' :: (padded 2 month ++ '-' :: padded 2 day), s)

/-! ## Section 3: Times -/

/-- The greatest numbers that may stand in a time and in its distance from
    universal time. -/
structure TimeLimits where
  hour : Nat
  offsetHour : Nat
  offsetMinute : Nat

/-- The limits of times as they stand in a text. -/
def TimeLimits.inText : TimeLimits := ⟨23, 23, 59⟩

/-- The limits of times that are given by strings. -/
def TimeLimits.inString : TimeLimits := ⟨24, 99, 99⟩

/-- A fraction of a second, to nine places and without zeros at its end. -/
def secondFraction (digits : List Char) : List Char :=
  let kept := ((digits.take 9).reverse.dropWhile (· = '0')).reverse
  if kept.isEmpty then [] else '.' :: kept

/-- A time of day. -/
def takeTime? (limits : TimeLimits) (s : List Char) : Option (List Char × List Char) := do
  let (hour, s) ← takeTwo? 0 limits.hour s
  let s ← takeChar? ':' s
  let (minute, s) ← takeTwo? 0 59 s
  let s ← takeChar? ':' s
  let (second, s) ← takeTwo? 0 60 s
  let text := padded 2 hour ++ ':' :: (padded 2 minute ++ ':' :: padded 2 second)
  match s with
  | '.' :: rest =>
    let digits := rest.takeWhile (isDigit 10)
    if digits.isEmpty then return (text, s)
    else return (text ++ secondFraction digits, rest.dropWhile (isDigit 10))
  | _ => return (text, s)

/-- The longest distance from universal time, in minutes. -/
def maxOffset : Nat := 24 * 60

/-- A distance from universal time, shown in hours and the minutes left over.
    No distance has no sign of its own. -/
def takeOffset? (limits : TimeLimits) : List Char → Option (List Char × List Char)
  | 'Z' :: rest => some (['Z'], rest)
  | 'z' :: rest => some (['Z'], rest)
  | sign :: s =>
    if sign = '+' || sign = '-' then do
      let (hour, s) ← takeTwo? 0 limits.offsetHour s
      let s ← takeChar? ':' s
      let (minute, s) ← takeTwo? 0 limits.offsetMinute s
      let distance := hour * 60 + minute
      -- the parts may each be in bounds and the distance is not
      if maxOffset < distance then none
      let sign := if distance = 0 then '+' else sign
      return (sign :: (padded 2 (distance / 60) ++ ':' :: padded 2 (distance % 60)), s)
    else none
  | [] => none

/-! ## Section 4: Dates with times -/

/-- What follows a date: a time, and perhaps its distance from universal
    time. -/
def takeTimeOfDate? (limits : TimeLimits) : List Char → Option (List Char × List Char)
  | c :: s =>
    if c = 'T' || c = 't' || c = ' ' then
      (takeTime? limits s).map fun (time, rest) =>
        match takeOffset? limits rest with
        | some (offset, rest) => ('T' :: (time ++ offset), rest)
        | none => ('T' :: time, rest)
    else none
  | [] => none

/-- A date, a time, or both. -/
def takeDateTime? (limits : TimeLimits) (s : List Char) : Option (List Char × List Char) :=
  match takeDate? s with
  | some (date, rest) =>
    match takeTimeOfDate? limits rest with
    | some (time, rest) => some (date ++ time, rest)
    | none => some (date, rest)
  | none => takeTime? limits s

/-- The normal text of the date, time or both that a string consists of. -/
def normalDateTime? (s : String) : Option String :=
  (takeDateTime? .inString s.toList).bind fun (text, rest) =>
    if rest.isEmpty then some (String.ofList text) else none

end MediaDispatch.Toml
