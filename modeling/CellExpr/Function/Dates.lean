import CellExpr.Calendar.TimeUnit
import CellExpr.Function.Arguments
import CellExpr.Number.Rounding

/-!
# Functions on dates

The present instant, parts of dates, shifts and differences. The difference of two texts is what follows their common
beginning.
-/

namespace CellExpr.DateFunctions

open CellExpr.Args CellExpr.Calendar

/-- `now()`, at an instant. -/
def now (instant : Instant) : Body := body fun _ => return .date instant

/-- `datePart(date, part)` -/
def datePart : Body := body fun args => do
  let d ← date (← nth args 0)
  let name ← textAt args 1
  match ← .orFault (.unknownPart name) (d.part? name) with
  | .number n => return .number (Number.ofInt n)
  | .name s => return .string s

/-- `inc(date, amount, unit)` -/
def shift : Body := body fun args => do
  let d ← date (← nth args 0)
  let amount := Number.truncateToWord (← numberAt args 1)
  let name ← textAt args 2
  let unit ← .orFault (.unknownUnit name) (TimeUnit.ofName? name)
  return .date (← .orFault .dateOutOfRange (d.shift? amount unit))

/-- The greatest number of milliseconds that a span of time has room for. -/
def maxSpan : Int := Number.maxWord

/-- The nanoseconds from one instant to another, which a span of time has room for. -/
def spanSince (stop start : Instant) : Outcome Int :=
  .given ((stop.since start).natAbs ≤ maxSpan * 1000000) (stop.since start)

/-- The whole months from one instant to another, calculated with years of 32 bits and months of 64. -/
def monthsSince (stop start : Instant) : Outcome Int := do
  let years ← .inBits 32 (stop.civil.year - start.civil.year)
  let months ← .inBits 64 (years * 12)
  let months ← .inBits 64 (months + stop.civil.month)
  let months ← .inBits 64 (months - start.civil.month)
  .inBits 64 (months + stop.monthCarry start months)

/-- The whole units from one instant to another, whose span is known. -/
def wholeUnits (stop start : Instant) (span : Int) (unit : TimeUnit) : Outcome Int :=
  match unit.length with
  | .inl months => do return (← monthsSince stop start).tdiv months
  | .inr nanos => return span.tdiv nanos

/-- The whole units with a name from one instant to another. -/
def unitsBetween (stop start : Instant) (name : String) : Outcome Int := do
  let span ← spanSince stop start
  wholeUnits stop start span (← .orFault (.unknownUnit name) (TimeUnit.ofName? name))

/-- `diff(a, b, [unit])` -/
def difference : Body := body fun args => do
  match ← nth args 0, ← nth args 1 with
  | .date a, .date b =>
    let name ← match args[2]? with
      | none => .ok "days"
      | some v => text v
    return .number (Number.ofInt (← unitsBetween a b name))
  | .string a, .string b =>
    if args.length = 3 then .fault .unitOfTexts
    else
      let common := Text.commonBytes a.toList b.toList
      return .ofChars (← .textBetween b.toList common (Text.byteLength b.toList))
  | _, _ => .fault .incomparableKinds

/-- The functions on dates, called at an instant. -/
def all (instant : Instant) : List Function := [
  Function.new "now" (now instant),
  (Function.new "datePart" datePart).taking [.date, .string],
  (Function.new "inc" shift).taking [.date, .number, .string],
  ((Function.new "diff" difference).taking [.kinds [.date, .string], .kinds [.date, .string]]).optionally [.string]
    |>.describedAs "diff(d1, d2, [unit]) for dates; diff(s1, s2) returns the tail of s2 after the common prefix"]

end CellExpr.DateFunctions
