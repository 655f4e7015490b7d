/-!
Dates of header fields: day of the week, date and time of day, in English and in universal time.  `text`
is `http_date`.
-/
namespace Courier.Http.Date

def dayNames : List String := ["Sun", "Mon", "Tue", "Wed", "Thu", "Fri", "Sat"]

def monthNames : List String :=
  ["Jan", "Feb", "Mar", "Apr", "May", "Jun", "Jul", "Aug", "Sep", "Oct", "Nov", "Dec"]

structure Civil where
  year : Int
  month : Nat
  day : Nat
  deriving DecidableEq, Repr

/-- The calendar date that lies `days` after the first of January 1970.  Years are counted from March,
so that a leap day ends one. -/
def civil (days : Int) : Civil :=
  let z := days + 719468
  let era := z / 146097
  let dayOfEra := (z % 146097).toNat
  let yearOfEra := (dayOfEra - dayOfEra / 1460 + dayOfEra / 36524 - dayOfEra / 146096) / 365
  let dayOfYear := dayOfEra - (365 * yearOfEra + yearOfEra / 4 - yearOfEra / 100)
  let shifted := (5 * dayOfYear + 2) / 153
  let month := if shifted < 10 then shifted + 3 else shifted - 9
  { year := (yearOfEra : Int) + era * 400 + if month ≤ 2 then 1 else 0
    month := month
    day := dayOfYear - (153 * shifted + 2) / 5 + 1 }

def pad (width n : Nat) : String :=
  let digits := Nat.toDigits 10 n
  String.ofList (List.replicate (width - digits.length) '0' ++ digits)

/-- The text for a number of seconds since the start of 1970. -/
def text (seconds : Int) : String :=
  let days := seconds / 86400
  let rest := (seconds % 86400).toNat
  let c := civil days
  (dayNames[((days + 4) % 7).toNat]?.getD "") ++ ", " ++ pad 2 c.day ++ " "
    ++ (monthNames[c.month - 1]?.getD "") ++ " " ++ pad 4 c.year.toNat ++ " "
    ++ pad 2 (rest / 3600) ++ ":" ++ pad 2 (rest / 60 % 60) ++ ":" ++ pad 2 (rest % 60) ++ " GMT"

end Courier.Http.Date
