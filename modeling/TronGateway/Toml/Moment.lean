set_option autoImplicit false

/-!
# Dates and times of a configuration file

A moment is a date, a time of day, or both with an optional distance from universal time. It is
written with a `T` between date and time, at most nine digits behind the second without closing
zeros, and no minus in front of a distance of no hours.
-/

namespace TronGateway.Toml.Moment

def isDigit (c : Char) : Bool := '0' ≤ c && c ≤ '9'

def valueOf (c : Char) : Nat := c.toNat - 48

def pair? (low high : Nat) : List Char → Option (List Char × List Char)
  | tens :: ones :: rest =>
    let value := valueOf tens * 10 + valueOf ones
    if isDigit tens && isDigit ones && decide (low ≤ value) && decide (value ≤ high) then
      some ([tens, ones], rest)
    else none
  | _ => none

def mark? (mark : Char) : List Char → Option (List Char)
  | [] => none
  | c :: rest => if c = mark then some rest else none

def date? (chars : List Char) : Option (List Char × List Char) := do
  let (century, rest) ← pair? 0 99 chars
  let (year, rest) ← pair? 0 99 rest
  let rest ← mark? '-' rest
  let (month, rest) ← pair? 1 12 rest
  let rest ← mark? '-' rest
  let (day, rest) ← pair? 1 31 rest
  return (century ++ year ++ ['-'] ++ month ++ ['-'] ++ day, rest)

def trimZeros (digits : List Char) : List Char :=
  (digits.reverse.dropWhile (· = '0')).reverse

/-- The fraction of a second, as it is written; there is one only behind a point. -/
def fraction? : List Char → Option (List Char × List Char)
  | '.' :: rest =>
    let digits := rest.takeWhile isDigit
    if digits.isEmpty then none
    else
      let shown := trimZeros (digits.take 9)
      some (if shown.isEmpty then [] else '.' :: shown, rest.dropWhile isDigit)
  | chars => some ([], chars)

def time? (chars : List Char) : Option (List Char × List Char) := do
  let (hour, rest) ← pair? 0 24 chars
  let rest ← mark? ':' rest
  let (minute, rest) ← pair? 0 59 rest
  let rest ← mark? ':' rest
  let (second, rest) ← pair? 0 59 rest
  let (fraction, rest) ← fraction? rest
  return (hour ++ [':'] ++ minute ++ [':'] ++ second ++ fraction, rest)

/-- The distance from universal time, as it is written; there may be none. -/
def distance? : List Char → Option (List Char × List Char)
  | [] => some ([], [])
  | sign :: rest =>
    if sign = 'Z' ∨ sign = 'z' then some (['Z'], rest)
    else if sign = '+' ∨ sign = '-' then do
      let (hours, rest) ← pair? 0 99 rest
      let rest ← mark? ':' rest
      let (minutes, rest) ← pair? 0 99 rest
      let sign := if hours = ['0', '0'] then '+' else sign
      return (sign :: hours ++ [':'] ++ minutes, rest)
    else none

def afterDate? : List Char → Option (List Char × List Char)
  | [] => some ([], [])
  | c :: rest =>
    if c = 'T' ∨ c = 't' ∨ c = ' ' then do
      let (time, rest) ← time? rest
      let (distance, rest) ← distance? rest
      return ('T' :: time ++ distance, rest)
    else none

def dated? (chars : List Char) : Option (List Char × List Char) := do
  let (date, rest) ← date? chars
  let (time, rest) ← afterDate? rest
  return (date ++ time, rest)

def normal? (chars : List Char) : Option String := do
  let (shown, rest) ←
    if (chars.drop 2).head? = some ':' then time? chars else dated? chars
  if rest.isEmpty then return String.ofList shown else none

end TronGateway.Toml.Moment
