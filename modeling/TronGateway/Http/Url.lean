import TronGateway.Text.Utf8
set_option autoImplicit false

/-!
# Addresses of requests

An `http` URL taken apart into the authority that is connected to and the target that is asked for.
The target is written as it goes over the line: dot segments are resolved, characters that a URL
cannot hold are written by number, and the fragment is left out.
-/

namespace TronGateway.Http

structure Url where
  authority : String
  target : String
  deriving DecidableEq, Repr

namespace Url

def isOuter (c : Char) : Bool :=
  c.toNat ≤ 0x20

/-- The text without controls and spaces at its ends and without tabs and line ends inside. -/
def clean (chars : List Char) : List Char :=
  let inner := (chars.dropWhile isOuter).reverse.dropWhile isOuter |>.reverse
  inner.filter fun c => !(c = '\t' || c = '\n' || c = '\r')

def isSlash (c : Char) : Bool :=
  c = '/' || c = '\\'

def segments : List Char → List (List Char)
  | [] => [[]]
  | c :: rest =>
    if isSlash c then [] :: segments rest
    else
      match segments rest with
      | [] => [[c]]
      | first :: others => (c :: first) :: others

def withPoints : List Char → List Char
  | '%' :: '2' :: 'e' :: rest => '.' :: withPoints rest
  | '%' :: '2' :: 'E' :: rest => '.' :: withPoints rest
  | c :: rest => c :: withPoints rest
  | [] => []

/-- Resolves `.` and `..`; `done` holds the resolved segments, the last one first. A dot segment at
the end leaves an empty segment. -/
def resolve : List (List Char) → List (List Char) → List (List Char)
  | done, [] => done.reverse
  | done, segment :: rest =>
    let plain := withPoints segment
    if plain = ['.'] then
      if rest.isEmpty then ([] :: done).reverse else resolve done rest
    else if plain = ['.', '.'] then
      if rest.isEmpty then ([] :: done.drop 1).reverse else resolve (done.drop 1) rest
    else resolve (segment :: done) rest

def upperHex (value : Nat) : Char :=
  if value < 10 then Char.ofNat (48 + value) else Char.ofNat (55 + value)

/-- A character as it may stand in a target; `special` lists what has to be written by number
besides controls and everything beyond ASCII. -/
def escape (special : List Char) (c : Char) : List Char :=
  if c.toNat < 0x20 || 0x7E < c.toNat || special.contains c then
    (Utf8.encodeChar c).flatMap fun byte =>
      ['%', upperHex (byte.toNat / 16), upperHex (byte.toNat % 16)]
  else [c]

def pathSpecial : List Char := [' ', '"', '<', '>', '`', '#', '?', '\x7b', '\x7d']

def querySpecial : List Char := [' ', '"', '<', '>', '#', '\'']

def path (chars : List Char) : List Char :=
  let inner := match chars with
    | [] => []
    | _ :: rest => rest
  '/' :: List.intercalate ['/'] ((resolve [] (segments inner)).map (·.flatMap (escape pathSpecial)))

def targetOf (chars : List Char) : List Char :=
  let shown := chars.takeWhile (· ≠ '#')
  let before := shown.takeWhile (· ≠ '?')
  match shown.drop before.length with
  | [] => path before
  | _ :: query => path before ++ '?' :: query.flatMap (escape querySpecial)

def parse? (text : String) : Option Url :=
  let chars := clean text.toList
  let scheme := (chars.take 5).map Char.toLower
  if scheme = "http:".toList then
    let behind := (chars.drop 5).dropWhile isSlash
    let authority := behind.takeWhile fun c => !(isSlash c || c = '?' || c = '#')
    if authority.isEmpty then none
    else some ⟨String.ofList authority, String.ofList (targetOf (behind.drop authority.length))⟩
  else none

end Url
end TronGateway.Http
