import AnalystQuery.Calendar.Instant
import AnalystQuery.Text.Alphanumeric
import AnalystQuery.Text.Blank
import AnalystQuery.Text.DecimalDigit
import AnalystQuery.Text.LetterCase
import AnalystQuery.Text.WordCharacter

/-! Phrases for spans of time, such as "last week" or "past 3 days", and the windows they stand
for. The named calendar phrases mean the full period before the current one, or the current one
so far; "last N units" is a window that ends at the reference instant. A phrase may stand alone
or within other text. -/

namespace AnalystQuery.Calendar

/-- A window of time, both ends included, as texts of instants. -/
structure TimeRange where
  start : String
  finish : String
  deriving DecidableEq, Repr

def TimeRange.between (start finish : Reading) : TimeRange := ⟨start.render, finish.render⟩

inductive Period where
  | yesterday
  | today
  | lastWeek
  | lastMonth
  | lastYear
  | thisWeek
  | thisMonth
  | thisYear
  deriving DecidableEq, Repr

/-- The calendar phrases in the order in which they are looked for within text. -/
def Period.all : List Period :=
  [.yesterday, .today, .lastWeek, .lastMonth, .lastYear, .thisWeek, .thisMonth, .thisYear]

def Period.phrase : Period → List Char
  | .yesterday => "yesterday".toList
  | .today => "today".toList
  | .lastWeek => "last week".toList
  | .lastMonth => "last month".toList
  | .lastYear => "last year".toList
  | .thisWeek => "this week".toList
  | .thisMonth => "this month".toList
  | .thisYear => "this year".toList

inductive TimeUnit where
  | day
  | week
  | month
  | year
  deriving DecidableEq, Repr

def TimeUnit.all : List TimeUnit := [.day, .week, .month, .year]

def TimeUnit.word : TimeUnit → List Char
  | .day => "day".toList
  | .week => "week".toList
  | .month => "month".toList
  | .year => "year".toList

def Period.window? (now : Instant) : Period → Option (Instant × Instant)
  | .yesterday => do
    let day := now.date.addDays (-1)
    pure (← Instant.startOfDay? day now.offset, ← Instant.endOfDay? day now.offset)
  | .today => do
    pure (← Instant.startOfDay? now.date now.offset, now)
  | .lastWeek => do
    let sunday := now.date.sundayOnOrBefore
    pure (← Instant.startOfDay? (sunday.addDays (-7)) now.offset,
      ← Instant.endOfDay? (sunday.addDays (-1)) now.offset)
  | .lastMonth => do
    let lastDay := now.date.firstOfMonth.addDays (-1)
    pure (← Instant.startOfDay? lastDay.firstOfMonth now.offset,
      ← Instant.endOfDay? lastDay now.offset)
  | .lastYear => do
    let year := now.date.year - 1
    pure (← Instant.startOfDay? ⟨year, 1, 1⟩ now.offset,
      ← Instant.endOfDay? ⟨year, 12, 31⟩ now.offset)
  | .thisWeek => do
    pure (← Instant.startOfDay? now.date.sundayOnOrBefore now.offset, now)
  | .thisMonth => do
    pure (← Instant.startOfDay? now.date.firstOfMonth now.offset, now)
  | .thisYear => do
    pure (← Instant.startOfDay? ⟨now.date.year, 1, 1⟩ now.offset, now)

def rollingStart? (now : Instant) (amount : Nat) : TimeUnit → Option Instant
  | .day => now.secondsEarlier? (amount * 86400)
  | .week => now.secondsEarlier? (amount * 604800)
  | .month => now.monthsEarlier? amount
  | .year => if amount * 12 < Nat.pow 2 32 then now.monthsEarlier? (amount * 12) else none

structure RollingPhrase where
  amount : List Char
  unit : TimeUnit
  deriving DecidableEq, Repr

def endsWord (text : List Char) : Bool :=
  match text with
  | c :: _ => !Text.isWordCharacter c
  | [] => true

def dropWord? (word text : List Char) : Option (List Char) :=
  if word.isPrefixOf text then some (text.drop word.length) else none

def readUnit? (boundary : List Char → Bool) (text : List Char) : Option TimeUnit :=
  TimeUnit.all.find? fun unit =>
    match dropWord? unit.word text with
    | some rest => boundary rest || match rest with
      | 's' :: rest => boundary rest
      | _ => false
    | none => false

/-- Reads "last N units" or "past N units" at the front of text in which words are set apart by
single spaces; what follows must satisfy `boundary`. -/
def readRolling? (boundary : List Char → Bool) (text : List Char) : Option RollingPhrase := do
  let rest ← (dropWord? "last ".toList text) <|> (dropWord? "past ".toList text)
  let amount := rest.takeWhile Text.isDecimalDigit
  if amount.isEmpty then none
  else
    match rest.dropWhile Text.isDecimalDigit with
    | ' ' :: rest => (readUnit? boundary rest).map (⟨amount, ·⟩)
    | _ => none

/-- Reads the leftmost rolling phrase in text whose preceding character is `before`. -/
def findRolling? (before : Option Char) (text : List Char) : Option RollingPhrase :=
  let here := if before.all (!Text.isWordCharacter ·) then readRolling? endsWord text else none
  match here, text with
  | some phrase, _ => some phrase
  | none, c :: rest => findRolling? (some c) rest
  | none, [] => none

def containsPhrase (phrase : List Char) (before : Option Char) (text : List Char) : Bool :=
  let here := phrase.isPrefixOf text && before.all (!Text.isAlphanumeric ·) &&
    (text.drop phrase.length).head?.all (!Text.isAlphanumeric ·)
  here || match text with
    | c :: rest => containsPhrase phrase (some c) rest
    | [] => false

def unrestricted : List (List Char) :=
  ["".toList, "all".toList, "all time".toList, "any time".toList, "anytime".toList,
   "ever".toList]

def RollingPhrase.range? (now : Instant) (phrase : RollingPhrase) : Option TimeRange := do
  if !phrase.amount.all Char.isDigit then none
  else
    let amount := Number.digitsValue phrase.amount
    if amount < Nat.pow 2 32 then
      let start ← rollingStart? now amount phrase.unit
      pure (.between start now)
    else none

def Period.range? (now : Instant) (period : Period) : Option TimeRange :=
  (period.window? now).map fun (start, finish) => .between start finish

/-- Days that phrases are reckoned from and that the calendar may lack: today in the reference
instant's own offset, and the Sunday on which a week begins. -/
inductive MissingDay where
  | today
  | sunday
  deriving DecidableEq, Repr

def Period.weekInRange (now : Instant) : Period → Bool
  | .thisWeek => now.date.sundayOnOrBefore.inRange
  | .lastWeek => (now.date.sundayOnOrBefore.addDays (-7)).inRange
  | _ => true

def Period.rangeOf (now : Instant) : Option Period → Except MissingDay (Option TimeRange)
  | some period => if period.weekInRange now then .ok (period.range? now) else .error .sunday
  | none => .ok none

def plainPhrase (phrase : String) : List Char :=
  (Text.squash (Text.lowerCase (Text.trim phrase))).toList

def resolvePlain (now : Instant) (phrase : List Char) : Except MissingDay (Option TimeRange) :=
  if unrestricted.contains phrase then .ok none
  else if now.date.inRange then do
    match ← Period.rangeOf now (Period.all.find? fun period => period.phrase == phrase) with
    | some range => .ok (some range)
    | none =>
      match readRolling? List.isEmpty phrase with
      | some rolling => .ok (rolling.range? now)
      | none =>
        match findRolling? none phrase with
        | some rolling => .ok (rolling.range? now)
        | none =>
          Period.rangeOf now
            (Period.all.find? fun period => containsPhrase period.phrase none phrase)
  else .error .today

/-- The window that a phrase stands for; nothing means no restriction in time. It fails where the
calendar lacks a day that is reckoned from. -/
def resolve (now : Instant) (phrase : String) : Except MissingDay (Option TimeRange) :=
  resolvePlain now (plainPhrase phrase)

/-- The window of a phrase, if there is one; a day that is missing counts as none. -/
def resolve? (now : Instant) (phrase : String) : Option TimeRange :=
  (resolve now phrase).toOption.join

end AnalystQuery.Calendar
