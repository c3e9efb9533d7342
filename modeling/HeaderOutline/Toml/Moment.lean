import HeaderOutline.Decimal.Numeral

/-! Dates and times of day as a document writes them: a date, a time, or both with or without an offset from
universal time. Days are checked against the calendar; a minute may have a leap second. -/
namespace HeaderOutline.Toml

structure Date where
  year : Nat
  month : Nat
  day : Nat
  deriving DecidableEq, Repr

structure ClockTime where
  hour : Nat
  minute : Nat
  second : Nat
  nanosecond : Nat
  deriving DecidableEq, Repr

inductive Offset where
  | universal
  | minutes (count : Int)
  deriving DecidableEq, Repr

structure Moment where
  date : Option Date
  time : Option ClockTime
  offset : Option Offset
  deriving DecidableEq, Repr

def isLeapYear (year : Nat) : Bool := year % 4 = 0 ∧ (year % 100 ≠ 0 ∨ year % 400 = 0)

def daysInMonth (year month : Nat) : Nat :=
  if month = 2 then if isLeapYear year then 29 else 28
  else if month ∈ [4, 6, 9, 11] then 30
  else 31

def fixed? (digits : Nat) (text : List Char) : Option (Nat × List Char) :=
  let head := text.take digits
  if head.length = digits ∧ head.all Char.isDigit then some (Decimal.ofDigits head, text.drop digits)
  else none

def afterMark? (mark : Char) : List Char → Option (Nat × List Char)
  | c :: rest => if c = mark then fixed? 2 rest else none
  | [] => none

def date? (text : List Char) : Option (Date × List Char) := do
  let (year, rest) ← fixed? 4 text
  let (month, rest) ← afterMark? '-' rest
  let (day, rest) ← afterMark? '-' rest
  if 1 ≤ month ∧ month ≤ 12 ∧ 1 ≤ day ∧ day ≤ daysInMonth year month then some (⟨year, month, day⟩, rest)
  else none

def fraction? : List Char → Option (Nat × List Char)
  | '.' :: rest =>
      let digits := rest.takeWhile Char.isDigit
      let kept := digits.take 9
      if digits = [] then none
      else some (Decimal.ofDigits kept * Nat.pow 10 (9 - kept.length), rest.dropWhile Char.isDigit)
  | rest => some (0, rest)

def clockTime? (text : List Char) : Option (ClockTime × List Char) := do
  let (hour, rest) ← fixed? 2 text
  let (minute, rest) ← afterMark? ':' rest
  let (second, rest) ← afterMark? ':' rest
  let (nanosecond, rest) ← fraction? rest
  if hour ≤ 23 ∧ minute ≤ 59 ∧ second ≤ 60 then some (⟨hour, minute, second, nanosecond⟩, rest) else none

def span? (text : List Char) : Option Int := do
  let (hour, rest) ← fixed? 2 text
  let (minute, rest) ← afterMark? ':' rest
  if rest = [] ∧ hour ≤ 23 ∧ minute ≤ 59 then some (60 * hour + minute) else none

def offset? : List Char → Option (Option Offset)
  | [] => some none
  | '+' :: rest => (span? rest).map fun count => some (.minutes count)
  | '-' :: rest => (span? rest).map fun count => some (.minutes (-count))
  | text => if text = ['Z'] ∨ text = ['z'] then some (some .universal) else none

def moment? (text : List Char) : Option Moment :=
  match date? text with
  | some (date, []) => some ⟨some date, none, none⟩
  | some (date, mark :: rest) =>
      if mark = 'T' ∨ mark = 't' ∨ mark = ' ' then do
        let (time, rest) ← clockTime? rest
        some ⟨some date, some time, ← offset? rest⟩
      else none
  | none => match clockTime? text with
      | some (time, []) => some ⟨none, some time, none⟩
      | _ => none

def padded (width n : Nat) : List Char :=
  let digits := Nat.toDigits 10 n
  List.replicate (width - digits.length) '0' ++ digits

def Date.text (date : Date) : List Char :=
  padded 4 date.year ++ '-' :: padded 2 date.month ++ '-' :: padded 2 date.day

def ClockTime.text (time : ClockTime) : List Char :=
  let fraction :=
    if time.nanosecond = 0 then []
    else '.' :: ((padded 9 time.nanosecond).reverse.dropWhile (· = '0')).reverse
  padded 2 time.hour ++ ':' :: padded 2 time.minute ++ ':' :: padded 2 time.second ++ fraction

def Offset.text : Offset → List Char
  | universal => ['Z']
  | minutes count =>
      (if count < 0 then '-' else '+') :: padded 2 (count.natAbs / 60) ++ ':' :: padded 2 (count.natAbs % 60)

def Moment.text (moment : Moment) : String :=
  let date := (moment.date.map Date.text).getD []
  let mark := if moment.date.isSome ∧ moment.time.isSome then ['T'] else []
  let time := (moment.time.map ClockTime.text).getD []
  String.ofList (date ++ mark ++ time ++ (moment.offset.map Offset.text).getD [])

end HeaderOutline.Toml
