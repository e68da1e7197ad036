import BeanRules.Text.Printable

/-!
Text in double quotes, in which every character without a picture of its own is written as an
escape. Messages quote in this way what a caller passed in.
-/
namespace BeanRules.Text

def hex (n : Nat) : List Char := Nat.toDigits 16 n

def escape (c : Char) : List Char :=
  match c with
  | '\x00' => ['\\', '0']
  | '\t' => ['\\', 't']
  | '\n' => ['\\', 'n']
  | '\r' => ['\\', 'r']
  | '"' => ['\\', '"']
  | '\\' => ['\\', '\\']
  | c => if isPrintable c then [c] else ['\\', 'u', '\x7b'] ++ hex c.toNat ++ ['\x7d']

def quoted (s : String) : String :=
  String.ofList ('"' :: s.toList.flatMap escape ++ ['"'])

end BeanRules.Text
