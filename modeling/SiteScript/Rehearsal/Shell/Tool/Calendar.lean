import SiteScript.Rehearsal.Shell.Tool.Ends

/-!
# SiteScript.Rehearsal.Shell.Tool.Calendar

Days and times of the calendar.  A time is the number of seconds since the beginning of the year 1970;
`Date.toDays` and `Date.ofDays` lead from dates to days and back.  `showDate` writes a time in the way that
a format says.
-/

namespace SiteScript.Rehearsal.Shell

/-- A date. -/
structure Date where
  year : Int
  month : Nat
  day : Nat

namespace Date

/-- The days since the beginning of the year 1970.  Years begin with March, so that the day that is added
comes last. -/
def toDays (date : Date) : Int :=
  let year := if date.month ≤ 2 then date.year - 1 else date.year
  let era := Int.fdiv year 400
  let yearOfEra := year - era * 400
  let month : Int := if date.month > 2 then date.month - 3 else date.month + 9
  let dayOfYear := (153 * month + 2) / 5 + date.day - 1
  let dayOfEra := yearOfEra * 365 + yearOfEra / 4 - yearOfEra / 100 + dayOfYear
  era * 146097 + dayOfEra - 719468

/-- The date of a day. -/
def ofDays (days : Int) : Date :=
  let days := days + 719468
  let era := Int.fdiv days 146097
  let dayOfEra := days - era * 146097
  let yearOfEra := (dayOfEra - dayOfEra / 1460 + dayOfEra / 36524 - dayOfEra / 146096) / 365
  let dayOfYear := dayOfEra - (365 * yearOfEra + yearOfEra / 4 - yearOfEra / 100)
  let shifted := (5 * dayOfYear + 2) / 153
  let day := dayOfYear - (153 * shifted + 2) / 5 + 1
  let month := if shifted < 10 then shifted + 3 else shifted - 9
  let year := yearOfEra + era * 400
  { year := if month ≤ 2 then year + 1 else year, month := month.toNat, day := day.toNat }

/-- Whether there is such a date. -/
def isValid (date : Date) : Bool :=
  1 ≤ date.month && date.month ≤ 12 && 1 ≤ date.day && date.day ≤ 31 &&
    (let back := ofDays date.toDays
     back.month == date.month && back.day == date.day)

end Date

/-- The names of the days of the week. -/
def dayTitles : List String :=
  ["Sunday", "Monday", "Tuesday", "Wednesday", "Thursday", "Friday", "Saturday"]

/-- The names of the months. -/
def monthTitles : List String :=
  ["January", "February", "March", "April", "May", "June", "July", "August", "September", "October",
    "November", "December"]

/-! ## Writing -/

/-- A field of a format: how it is brought to its width, and its digits or letters. -/
structure DateField where
  width : Nat := 2
  fill : Char := '0'
  text : Octets

/-- The formats that a letter stands for. -/
def composedFormats : List (Char × String) :=
  [('F', "%Y-%m-%d"), ('T', "%H:%M:%S"), ('D', "%m/%d/%y"), ('R', "%H:%M"), ('r', "%I:%M:%S %p"),
    ('c', "%a %b %e %H:%M:%S %Y"), ('x', "%m/%d/%y"), ('X', "%H:%M:%S")]

/-- The week of a year that begins on a day of the week, for a day of the year that is one of the week. -/
def weekOf (first dayOfYear weekDay : Int) : Int := (dayOfYear + 7 - (weekDay - first + 7) % 7) / 7

/-- The year and the week of a day, where weeks begin on Monday and the first holds the fourth of
January. -/
def isoWeek (days : Int) : Int × Int :=
  let weekDay := (days + 3) % 7
  let thursday := days - weekDay + 3
  let year := (Date.ofDays thursday).year
  let first := Date.toDays ⟨year, 1, 1⟩
  (year, (thursday - first) / 7 + 1)

/-- What a letter of a format stands for. -/
def dateField? (time : Int) (letter : Char) : Option DateField :=
  let days := Int.fdiv time 86400
  let rest := time - days * 86400
  let date := Date.ofDays days
  let weekDay := (days + 4) % 7
  let dayOfYear := days - Date.toDays ⟨date.year, 1, 1⟩
  let hour := rest / 3600
  let minute := rest / 60 % 60
  let second := rest % 60
  let twelve := if hour % 12 = 0 then 12 else hour % 12
  let number (n : Int) (width : Nat) : Option DateField :=
    some { width, text := Decimal.ofInt n }
  let padded (n : Int) : Option DateField := some { fill := ' ', text := Decimal.ofInt n }
  let word (text : String) : Option DateField := some { width := 0, fill := ' ', text := text.toList }
  let dayName := dayTitles.getD weekDay.toNat ""
  let monthName := monthTitles.getD (date.month - 1) ""
  match letter with
  | 'Y' => number date.year 4
  | 'm' => number date.month 2
  | 'd' => number date.day 2
  | 'e' => padded date.day
  | 'H' => number hour 2
  | 'k' => padded hour
  | 'I' => number twelve 2
  | 'l' => padded twelve
  | 'M' => number minute 2
  | 'S' => number second 2
  | 's' => number time 1
  | 'N' => number 0 9
  | 'j' => number (dayOfYear + 1) 3
  | 'y' => number (date.year % 100) 2
  | 'C' => number (date.year / 100) 2
  | 'u' => number (if weekDay = 0 then 7 else weekDay) 1
  | 'w' => number weekDay 1
  | 'U' => number (weekOf 0 dayOfYear weekDay) 2
  | 'W' => number (weekOf 1 dayOfYear weekDay) 2
  | 'V' => number (isoWeek days).2 2
  | 'G' => number (isoWeek days).1 4
  | 'g' => number ((isoWeek days).1 % 100) 2
  | 'q' => number ((date.month - 1) / 3 + 1) 1
  | 'a' => word (String.ofList (dayName.toList.take 3))
  | 'A' => word dayName
  | 'b' => word (String.ofList (monthName.toList.take 3))
  | 'h' => word (String.ofList (monthName.toList.take 3))
  | 'B' => word monthName
  | 'p' => word (if hour < 12 then "AM" else "PM")
  | 'P' => word (if hour < 12 then "am" else "pm")
  | 'Z' => word "UTC"
  | 'z' => word "+0000"
  | 'n' => word "\n"
  | 't' => word "\t"
  | '%' => word "%"
  | _ => none

/-- Write a time by a format. -/
def showDate (time : Int) : Nat → Octets → Octets
  | 0, text => text
  | _, [] => []
  | fuel + 1, '%' :: rest =>
    let flags := rest.takeWhile fun c => ['-', '_', '0', '^', '#'].contains c
    let rest' := rest.drop flags.length
    let digits := rest'.takeWhile Char.isDigit
    match rest'.drop digits.length with
    | [] => '%' :: rest
    | letter :: more =>
      let colons := if letter == ':' then (letter :: more).takeWhile (· == ':') else []
      let (letter, more) := if colons.isEmpty then (letter, more)
        else ((more.drop (colons.length - 1)).headD ':', more.drop colons.length)
      let upper (text : Octets) : Octets := if flags.contains '^' then text.map Char.toUpper else text
      if !colons.isEmpty then
        (if letter == 'z' then "+00:00".toList else '%' :: colons ++ [letter]) ++ showDate time fuel more
      else
        match composedFormats.lookup letter, dateField? time letter with
        | some form, _ => upper (showDate time fuel form.toList) ++ showDate time fuel more
        | none, some field =>
          let fill := if flags.contains '_' then ' ' else if flags.contains '0' then '0' else field.fill
          let width := if flags.contains '-' then 0
            else if digits.isEmpty then field.width else Decimal.value digits
          let (sign, body) := match field.text with
            | '-' :: body => if fill == '0' then (['-'], body) else ([], '-' :: body)
            | body => ([], body)
          upper (sign ++ List.replicate (width - sign.length - body.length) fill ++ body) ++
            showDate time fuel more
        | none, none => '%' :: flags ++ digits ++ letter :: showDate time fuel more
  | fuel + 1, c :: rest => c :: showDate time fuel rest

/-! ## Reading -/

/-- What a description of a time says so far. -/
structure Description where
  date : Option Date := none
  /-- The second of the day. -/
  second : Option Int := none
  months : Int := 0
  days : Int := 0
  seconds : Int := 0
  /-- The last step, which can be turned back. -/
  step : Int × Int × Int := (0, 0, 0)

namespace Description

/-- Numbers with marks between them. -/
def numbers? (mark : Char) (text : Octets) : Option (List Nat) := (Text.split mark text).mapM natural?

/-- The second of the day that a text stands for. -/
def second? (text : Octets) : Option Int :=
  let text := text.takeWhile (· != '.')
  match numbers? ':' text with
  | some [h, m] => if h < 24 && m < 60 then some ((h * 60 + m : Nat) * 60) else none
  | some [h, m, s] => if h < 24 && m < 60 && s < 61 then some (((h * 60 + m) * 60 + s : Nat) : Int) else none
  | _ => none

/-- The date that a text stands for. -/
def date? (text : Octets) : Option Date :=
  let valid (date : Date) : Option Date := if date.isValid then some date else none
  match numbers? '-' text, numbers? '/' text with
  | some [y, m, d], _ => valid ⟨y, m, d⟩
  | _, some [a, b, c] => if a > 31 then valid ⟨a, b, c⟩ else valid ⟨c, a, b⟩
  | some [n], _ => if text.length = 8 then valid ⟨n / 10000, n / 100 % 100, n % 100⟩ else none
  | _, _ => none

/-- The months, days and seconds of a unit. -/
def unit? (word : Octets) : Option (Int × Int × Int) :=
  let word := word.map Char.toLower
  let word := if word.length > 3 && word.getLast? == some 's' then word.dropLast else word
  match String.ofList word with
  | "sec" => some (0, 0, 1)
  | "second" => some (0, 0, 1)
  | "min" => some (0, 0, 60)
  | "minute" => some (0, 0, 60)
  | "hour" => some (0, 0, 3600)
  | "day" => some (0, 1, 0)
  | "week" => some (0, 7, 0)
  | "fortnight" => some (0, 14, 0)
  | "month" => some (1, 0, 0)
  | "year" => some (12, 0, 0)
  | _ => none

/-- Move by a number of units. -/
def move (description : Description) (n : Int) (unit : Int × Int × Int) : Description :=
  let (months, days, seconds) := unit
  { description with
    months := description.months + n * months
    days := description.days + n * days
    seconds := description.seconds + n * seconds
    step := (n * months, n * days, n * seconds) }

/-- The number of a month by its name. -/
def month? (word : Octets) : Option Nat :=
  let word := word.map Char.toLower
  let isName (name : String) : Bool :=
    let name := name.toList.map Char.toLower
    word == name || word == name.take 3
  (monthTitles.findIdx? isName).map (· + 1)

/-- Take one word, or a few that belong together, into a description. -/
def read : Nat → Description → List Octets → Option Description
  | 0, _, _ => none
  | _, description, [] => some description
  | fuel + 1, description, word :: rest =>
    let lower := String.ofList (word.map Char.toLower)
    let day := (0, (1 : Int), 0)
    if lower == "now" || lower == "today" || lower == "utc" || lower == "gmt" || lower == "z" then
      read fuel description rest
    else if lower == "tomorrow" then read fuel (description.move 1 day) rest
    else if lower == "yesterday" then read fuel (description.move (-1) day) rest
    else if lower == "midnight" then read fuel { description with second := some 0 } rest
    else if lower == "noon" then read fuel { description with second := some 43200 } rest
    else if lower == "ago" then
      let (months, days, seconds) := description.step
      read fuel { description with
        months := description.months - 2 * months
        days := description.days - 2 * days
        seconds := description.seconds - 2 * seconds
        step := (0, 0, 0) } rest
    else
      match date? word, second? ((Text.dropEndWhile (fun c => c == 'Z' || c == 'z') word)) with
      | some date, _ =>
        if description.date.isSome then none else read fuel { description with date := some date } rest
      | none, some second => read fuel { description with second := some second } rest
      | none, none =>
        match Text.cut? 'T' word with
        | some (first, second) =>
          if (date? first).isSome then read fuel description (first :: second :: rest)
          else others fuel description word rest
        | none => others fuel description word rest
where
  /-- Units, and dates with the names of months. -/
  others (fuel : Nat) (description : Description) (word : Octets) (rest : List Octets) :
      Option Description :=
    let factor? := match String.ofList (word.map Char.toLower) with
      | "next" => some (1 : Int)
      | "last" => some (-1)
      | "this" => some 0
      | _ => integer? word
    match factor?, unit? word, month? word, rest with
    | some n, _, _, next :: rest =>
      match unit? next, month? next, rest with
      | some unit, _, rest => read fuel (description.move n unit) rest
      | none, some month, year :: rest => do
        let year ← natural? year
        let date : Date := ⟨year, month, n.toNat⟩
        if date.isValid then read fuel { description with date := some date } rest else none
      | _, _, _ => none
    | none, some unit, _, rest => read fuel (description.move 1 unit) rest
    | none, none, some month, day :: year :: rest => do
      let day ← natural? (Text.dropEndWhile (· == ',') day)
      let year ← natural? year
      let date : Date := ⟨year, month, day⟩
      if date.isValid then read fuel { description with date := some date } rest else none
    | _, _, _, _ => none

/-- The time that a description stands for. -/
def time (description : Description) (now : Int) : Int :=
  let today := Int.fdiv now 86400
  let second := match description.second, description.date with
    | some second, _ => second
    | none, some _ => 0
    | none, none => now - today * 86400
  let date := description.date.getD (Date.ofDays today)
  let months := date.year * 12 + date.month - 1 + description.months
  let date : Date := ⟨Int.fdiv months 12, (months % 12).toNat + 1, date.day⟩
  (date.toDays + description.days) * 86400 + second + description.seconds

/-- The time that a text describes. -/
def time? (now : Int) (text : Octets) : Option Int :=
  match text with
  | '@' :: number => integer? (number.takeWhile (· != '.'))
  | text =>
    let words := Octets.words text
    if words.isEmpty then some (Int.fdiv now 86400 * 86400)
    else (read (3 * text.length + 10) {} words).map (·.time now)

end Description

/-- Write a date: the one described, or the beginning of time. -/
def tellDate : Tool := fun call =>
  call.withOptions
    { flags := "uR", valued := "drfs", optional := "I"
      long := [("date", 'd'), ("utc", 'u'), ("universal", 'u'), ("rfc-email", 'R'), ("iso-8601", 'I'),
        ("reference", 'r'), ("rfc-3339", '3'), ("set", 's')] } 1 fun options =>
    let now : Int := 0
    let described := (options.value? 'd').getD ['@', '0']
    match Description.time? now described with
    | none => call.start.complain (call.name ++ ": invalid date " ++ inQuotes described)
    | some time =>
      let iso (what : Octets) : Option String :=
        match String.ofList what with
        | "" => some "%Y-%m-%d"
        | "date" => some "%Y-%m-%d"
        | "hours" => some "%Y-%m-%dT%H%:z"
        | "minutes" => some "%Y-%m-%dT%H:%M%:z"
        | "seconds" => some "%Y-%m-%dT%H:%M:%S%:z"
        | "ns" => some "%Y-%m-%dT%H:%M:%S,%N%:z"
        | _ => none
      let form : Option Octets := match options.operands, options.value? 'I', options.value? '3' with
        | ('+' :: form) :: _, _, _ => some form
        | _, some what, _ => (iso what).map String.toList
        | _, _, some what =>
          if what == "date".toList then some "%Y-%m-%d".toList
          else some "%Y-%m-%d %H:%M:%S%:z".toList
        | _, _, _ =>
          some (if options.has 'R' then "%a, %d %b %Y %H:%M:%S %z" else "%a %b %e %H:%M:%S UTC %Y").toList
      match options.operands, form with
      | ('+' :: _) :: word :: _, _ => call.lacking ("extra operand " ++ inQuotes word)
      | _, none => call.lacking "invalid argument"
      | [], some form => call.start.say (showDate time (form.length * 20 + 20) form ++ ['\n'])
      | ('+' :: _) :: _, some form =>
        call.start.say (showDate time (form.length * 20 + 20) form ++ ['\n'])
      | word :: _, some _ => call.start.complain (call.name ++ ": invalid date " ++ inQuotes word)

end SiteScript.Rehearsal.Shell
