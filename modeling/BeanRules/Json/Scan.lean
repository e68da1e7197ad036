import BeanRules.Json.Fault
import BeanRules.Text.Rest

/-!
The lexical parts of a document: white space, words, strings and numbers. A string or number that
nobody asked for is skipped, which leaves surrogates unpaired and magnitudes unchecked.
-/
namespace BeanRules.Json

open Decimal (Binary64)
open Text (Rest Tail)

def isSpace (c : Char) : Bool := c == ' ' || c == '\n' || c == '\t' || c == '\r'

def skipSpace (s : List Char) : List Char := s.dropWhile isSpace

theorem length_skipSpace_le (s : List Char) : (skipSpace s).length ≤ s.length :=
  (List.dropWhile_sublist _).length_le

theorem length_lt_of_skipSpace {s r : List Char} {c : Char} (h : skipSpace s = c :: r) :
    r.length < s.length := by
  have := length_skipSpace_le s
  grind

def afterSpace {s r : List Char} (h : skipSpace s = r) (t : Rest r) : Rest s :=
  .ofTail (h ▸ length_skipSpace_le s) t

def word : List Char → (s : List Char) → Except Stop (Tail s)
  | [], s => .ok (.whole s)
  | _ :: _, [] => .error (.behind .valueEnds [])
  | e :: es, c :: r =>
    if c = e then (word es r).map (.cons c)
    else .error (.here .wordExpected (c :: r))

def hexValue? (c : Char) : Option Nat :=
  if c.isDigit then some (c.toNat - '0'.toNat)
  else if 'a' ≤ c ∧ c ≤ 'f' then some (c.toNat - 'a'.toNat + 10)
  else if 'A' ≤ c ∧ c ≤ 'F' then some (c.toNat - 'A'.toNat + 10)
  else none

def fourDigits? (a b c d : Char) : Option Nat := do
  return 16 * (16 * (16 * (← hexValue? a) + (← hexValue? b)) + (← hexValue? c)) + (← hexValue? d)

/-- Four hexadecimal digits; four bytes of anything else are one bad escape. -/
def codeUnit (s : List Char) : Except Stop (Nat × Rest s) :=
  match s with
  | a :: b :: c :: d :: r =>
    match fourDigits? a b c d with
    | some n => .ok (n, .cons a (.cons b (.cons c (.cons d (.whole r)))))
    | none => .error ⟨.invalidEscape, a :: b :: c :: d :: r, 4⟩
  | s => .error (if byteSize s < 4 then .behind .stringEnds [] else ⟨.invalidEscape, s, 4⟩)

def shortEscape? : Char → Option Char
  | '"' => some '"'
  | '\\' => some '\\'
  | '/' => some '/'
  | 'b' => some '\x08'
  | 'f' => some '\x0c'
  | 'n' => some '\n'
  | 'r' => some '\r'
  | 't' => some '\t'
  | _ => none

def isHighSurrogate (n : Nat) : Bool := 0xD800 ≤ n && n ≤ 0xDBFF

def isLowSurrogate (n : Nat) : Bool := 0xDC00 ≤ n && n ≤ 0xDFFF

/-- A character in one code unit, or in two that are a surrogate pair. -/
def unicodeEscape (s : List Char) : Except Stop (Char × Rest s) := do
  let (n, rest) ← codeUnit s
  if isLowSurrogate n then .error (.behind .loneSurrogate rest.text)
  else if !isHighSurrogate n then return (Char.ofNat n, rest)
  else
    match h : rest.text with
    | [] => .error (.behind .stringEnds [])
    | ['\\'] => .error (.behind .stringEnds [])
    | '\\' :: 'u' :: r =>
      let (m, t) ← codeUnit r
      if isLowSurrogate m then
        let c := Char.ofNat (0x10000 + (n - 0xD800) * 0x400 + (m - 0xDC00))
        return (c, .of (h ▸ rest.length_lt) (.cons '\\' (.cons 'u' t)))
      else .error (.behind .loneSurrogate t.text)
    | '\\' :: r => .error (.here .surrogateEnds r)
    | r => .error (.here .surrogateEnds r)

def stringBody (s : List Char) : Except Stop (List Char × Rest s) :=
  match s with
  | [] => .error (.behind .stringEnds [])
  | '"' :: r => .ok ([], .cons '"' (.whole r))
  | '\\' :: r =>
    match r with
    | [] => .error (.behind .stringEnds [])
    | 'u' :: t => do
      let (c, u) ← unicodeEscape t
      let (text, v) ← stringBody u.text
      return (c :: text, .cons '\\' (.cons 'u' (u.andThen v)))
    | e :: t =>
      match shortEscape? e with
      | none => .error (.here .invalidEscape (e :: t))
      | some c => do
        let (text, u) ← stringBody t
        return (c :: text, .cons '\\' (.cons e u))
  | c :: r =>
    if c.toNat < 0x20 then .error (.here .controlCharacter (c :: r))
    else do
      let (text, t) ← stringBody r
      return (c :: text, .cons c t)
termination_by s.length
decreasing_by all_goals grind [Rest]

def skipString (s : List Char) : Except Stop (Rest s) :=
  match s with
  | [] => .error (.behind .stringEnds [])
  | '"' :: r => .ok (.cons '"' (.whole r))
  | '\\' :: r =>
    match r with
    | [] => .error (.behind .stringEnds [])
    | 'u' :: t => do
      let (_, u) ← codeUnit t
      let v ← skipString u.text
      return .cons '\\' (.cons 'u' (u.andThen v))
    | e :: t =>
      if (shortEscape? e).isNone then .error (.here .invalidEscape (e :: t))
      else do
        let u ← skipString t
        return .cons '\\' (.cons e u)
  | c :: r =>
    if c.toNat < 0x20 then .error (.behind .controlCharacter (c :: r))
    else do
      let t ← skipString r
      return .cons c t
termination_by s.length
decreasing_by all_goals grind [Rest]

end BeanRules.Json
