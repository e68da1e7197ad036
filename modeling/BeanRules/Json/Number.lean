import BeanRules.Decimal.Power
import BeanRules.Json.Scan

/-!
Numbers. The written form is split into its parts first. As a value, a number keeps its leading
digits as far as they fit into 64 bits; a power of ten makes up for the others, and each
multiplication or division by one is rounded on its own.
-/
namespace BeanRules.Json

open Decimal (Binary64 powerOfTen)
open Text (Rest Tail)

/-- The parts of an unsigned number. No fraction and no point are the same. -/
structure NumberText where
  whole : List Char
  fraction : List Char
  /-- Whether the exponent has a minus, and its digits. -/
  exponent : Option (Bool × List Char)

/-- The exponent, read from behind its letter. A missing digit is a fault of the number, unless the
text ends there, where `ends` says what is missing. -/
def exponentText (ends : Problem) (s : List Char) : Except Stop ((Bool × List Char) × Tail s) :=
  let (negative, t) : Bool × Tail s := match s with
    | '-' :: r => (true, .cons '-' (.whole r))
    | '+' :: r => (false, .cons '+' (.whole r))
    | s => (false, .whole s)
  let ds := t.text.takeWhile Char.isDigit
  if ds = [] then .error (.here (if t.text = [] then ends else .invalidNumber) t.text)
  else .ok ((negative, ds), t.andThen (.dropWhile Char.isDigit t.text))

def exponentText? (ends : Problem) (s : List Char) :
    Except Stop (Option (Bool × List Char) × Tail s) :=
  match s with
  | [] => .ok (none, .whole [])
  | c :: r =>
    if c = 'e' ∨ c = 'E' then do
      let (e, t) ← exponentText ends r
      return (some e, .cons c t)
    else .ok (none, .whole (c :: r))

def fractionText (ends : Problem) (s : List Char) : Except Stop (List Char × Tail s) :=
  match s with
  | '.' :: r =>
    let ds := r.takeWhile Char.isDigit
    if ds = [] then .error (.here (if r = [] then ends else .invalidNumber) r)
    else .ok (ds, .cons '.' (.dropWhile Char.isDigit r))
  | s => .ok ([], .whole s)

/-- A number that starts with zero has no further whole digit. -/
def wholeText (ends : Problem) (s : List Char) : Except Stop (List Char × Rest s) :=
  match s with
  | [] => .error (.here ends [])
  | c :: r =>
    if c = '0' then
      if (r.head?).any Char.isDigit then .error (.here .invalidNumber r)
      else .ok (['0'], .cons c (.whole r))
    else if c.isDigit then
      .ok (c :: r.takeWhile Char.isDigit, .cons c (.dropWhile Char.isDigit r))
    else .error (.here .invalidNumber (c :: r))

def numberText (ends : Problem) (s : List Char) : Except Stop (NumberText × Rest s) := do
  let (whole, t) ← wholeText ends s
  let (fraction, u) ← fractionText ends t.text
  let (exponent, v) ← exponentText? ends u.text
  return (⟨whole, fraction, exponent⟩, t.andThen (u.andThen v))

def skipNumber (s : List Char) : Except Stop (Rest s) := do
  let (_, rest) ← numberText .invalidNumber s
  return rest

def takeDigits (bound : Nat) (n : Nat) : List Char → Nat × List Char
  | [] => (n, [])
  | c :: r =>
    let m := 10 * n + (c.toNat - '0'.toNat)
    if m < bound then takeDigits bound m r else (n, c :: r)

/-- Powers of ten up to 10^308 are doubles; a smaller scale is reached in steps. -/
def scaled? (x : Binary64) (e : Int) : Option Binary64 :=
  if e.natAbs ≤ 308 then
    let power := Binary64.ofNat (powerOfTen e.natAbs)
    if 0 ≤ e then
      let y := x.mul power
      if y.isFinite then some y else none
    else some (x.div power)
  else if x.isZero then some x
  else if 0 ≤ e then none
  else scaled? (x.div (Binary64.ofNat (powerOfTen 308))) (e + 308)
termination_by e.natAbs

def signed (negative : Bool) (x : Binary64) : Binary64 := if negative then x.neg else x

/-- Whole numbers that fit into 64 bits are integers, except a negative zero. -/
def integerValue (negative : Bool) (n : Nat) : Found :=
  if !negative then .integer n
  else if n = 0 ∨ 0x8000000000000000 < n then .float (Binary64.ofNat n).neg
  else .integer (-n)

/-- The value of a number, whose text `rest` follows. An exponent of more than 31 bits settles the
value at the digit that makes it so. -/
def numberValue (negative : Bool) (n : NumberText) (rest : List Char) : Except Stop Found :=
  let (whole, extra) := takeDigits (UInt64.size) 0 n.whole
  let (digits, dropped) :=
    if n.fraction.isEmpty then (whole, []) else takeDigits (UInt64.size) whole n.fraction
  let places : Int := extra.length - (n.fraction.length - dropped.length : Nat)
  let finish (e : Int) : Except Stop Found :=
    match scaled? (Binary64.ofNat digits) e with
    | some x => .ok (.float (signed negative x))
    | none => .error (.behind .numberOutOfRange rest)
  match n.exponent with
  | none =>
    if extra.isEmpty && n.fraction.isEmpty then .ok (integerValue negative digits)
    else finish places
  | some (minus, ds) =>
    match takeDigits (0x80000000) 0 ds with
    | (e, []) => finish (if minus then places - e else places + e)
    | (_, _ :: unread) =>
      if digits ≠ 0 ∧ !minus then .error (.behind .numberOutOfRange (unread ++ rest))
      else .ok (.float (signed negative (Binary64.ofNat 0)))

def readNumber (negative : Bool) (s : List Char) : Except Stop (Found × List Char) := do
  let (n, rest) ← numberText .valueEnds s
  let v ← numberValue negative n rest.1
  return (v, rest.1)

end BeanRules.Json
