import BeanRules.Decimal.Layout

/-!
JSON documents and their two written forms, one on a single line and one indented by two spaces a
level. Members keep the order they are given in.
-/
namespace BeanRules

inductive Json where
  | null
  | bool (b : Bool)
  | int (n : Int)
  | float (x : Decimal.Binary64)
  | string (s : String)
  | array (items : List Json)
  | object (members : List (String × Json))

namespace Json

/-- No exponent from 10^-5 up to below 10^16; a number always shows that it is not an integer. -/
def floatLayout : Decimal.Layout where
  positional e := decide (-5 ≤ e ∧ e ≤ 15)
  keepsPoint := true
  signsExponent := true
  tie := .even

def escape (c : Char) : List Char :=
  match c with
  | '"' => ['\\', '"']
  | '\\' => ['\\', '\\']
  | '\x08' => ['\\', 'b']
  | '\x0c' => ['\\', 'f']
  | '\n' => ['\\', 'n']
  | '\r' => ['\\', 'r']
  | '\t' => ['\\', 't']
  | c =>
    if c.toNat < 0x20 then
      ['\\', 'u', '0', '0', Nat.digitChar (c.toNat / 16), Nat.digitChar (c.toNat % 16)]
    else [c]

def writeString (s : String) : List Char := '"' :: s.toList.flatMap escape ++ ['"']

/-- The white space of a written form: what stands before an item or a closing bracket at a depth,
and what follows a colon. -/
structure Spacing where
  line : Nat → List Char
  afterColon : List Char

def Spacing.tight : Spacing := ⟨fun _ => [], []⟩

def Spacing.indented : Spacing := ⟨fun depth => '\n' :: List.replicate (2 * depth) ' ', [' ']⟩

mutual

def write (sp : Spacing) (depth : Nat) : Json → List Char
  | null => ['n', 'u', 'l', 'l']
  | bool true => ['t', 'r', 'u', 'e']
  | bool false => ['f', 'a', 'l', 's', 'e']
  | int n => (toString n).toList
  | float x => (floatLayout.render x).toList
  | string s => writeString s
  | array [] => ['[', ']']
  | array (x :: r) => '[' :: writeItems sp (depth + 1) (x :: r) ++ sp.line depth ++ [']']
  | object [] => ['\x7b', '\x7d']
  | object (m :: r) =>
    '\x7b' :: writeMembers sp (depth + 1) (m :: r) ++ sp.line depth ++ ['\x7d']

def writeItems (sp : Spacing) (depth : Nat) : List Json → List Char
  | [] => []
  | [x] => sp.line depth ++ write sp depth x
  | x :: r => sp.line depth ++ write sp depth x ++ ',' :: writeItems sp depth r

def writeMembers (sp : Spacing) (depth : Nat) : List (String × Json) → List Char
  | [] => []
  | [m] => sp.line depth ++ writeMember sp depth m
  | m :: r => sp.line depth ++ writeMember sp depth m ++ ',' :: writeMembers sp depth r

def writeMember (sp : Spacing) (depth : Nat) : String × Json → List Char
  | (k, v) => writeString k ++ ':' :: sp.afterColon ++ write sp depth v

end

def compact (j : Json) : String := String.ofList (j.write .tight 0)

def pretty (j : Json) : String := String.ofList (j.write .indented 0)

def strings (l : List String) : Json := array (l.map string)

end Json

end BeanRules
