import BeanRules.Json.Basic
import BeanRules.Text.Quoted

/-!
What can go wrong while a document is read, and where. Positions count lines from one and, within a
line, the bytes of the UTF-8 form.
-/
namespace BeanRules.Json

inductive Found where
  | null
  | bool (b : Bool)
  | integer (n : Int)
  | float (x : Decimal.Binary64)
  | string (s : String)
  | sequence
  | map

def Found.describe : Found → String
  | null => "null"
  | bool b => s!"boolean `{b}`"
  | integer n => s!"integer `{n}`"
  | float x => s!"floating point `{floatLayout.render x}`"
  | string s => s!"string {Text.quoted s}"
  | sequence => "sequence"
  | map => "map"

inductive Problem where
  | valueEnds
  | objectEnds
  | listEnds
  | stringEnds
  | valueExpected
  | wordExpected
  | colonExpected
  | objectCommaExpected
  | listCommaExpected
  | keyExpected
  | trailingComma
  | trailingCharacters
  | controlCharacter
  | invalidEscape
  | loneSurrogate
  | surrogateEnds
  | invalidNumber
  | numberOutOfRange
  | wrongType (found : Found) (expected : String)
  | unknownVariant (name : String) (known : List String)
  | duplicateField (name : String)

def Problem.message : Problem → String
  | valueEnds => "EOF while parsing a value"
  | objectEnds => "EOF while parsing an object"
  | listEnds => "EOF while parsing a list"
  | stringEnds => "EOF while parsing a string"
  | valueExpected => "expected value"
  | wordExpected => "expected ident"
  | colonExpected => "expected `:`"
  | objectCommaExpected => "expected `,` or `\x7d`"
  | listCommaExpected => "expected `,` or `]`"
  | keyExpected => "key must be a string"
  | trailingComma => "trailing comma"
  | trailingCharacters => "trailing characters"
  | controlCharacter => "control character (\\u0000-\\u001F) found while parsing a string"
  | invalidEscape => "invalid escape"
  | loneSurrogate => "lone leading surrogate in hex escape"
  | surrogateEnds => "unexpected end of hex escape"
  | invalidNumber => "invalid number"
  | numberOutOfRange => "number out of range"
  | wrongType found expected => s!"invalid type: {found.describe}, expected {expected}"
  | unknownVariant name known =>
    s!"unknown variant `{name}`, expected " ++ " or ".intercalate (known.map fun k => s!"`{k}`")
  | duplicateField name => s!"duplicate field `{name}`"

/-- Reading stopped `ahead` bytes into what was left of the text. -/
structure Stop where
  problem : Problem
  rest : List Char
  ahead : Nat

namespace Stop

def here (problem : Problem) (rest : List Char) : Stop := ⟨problem, rest, 1⟩

def behind (problem : Problem) (rest : List Char) : Stop := ⟨problem, rest, 0⟩

end Stop

def byteSize : List Char → Nat
  | [] => 0
  | c :: r => c.utf8Size + byteSize r

def position (line column : Nat) (bytes : Nat) : List Char → Nat × Nat
  | [] => (line, column)
  | c :: r =>
    if bytes = 0 then (line, column)
    else if c = '\n' then position (line + 1) 0 (bytes - 1) r
    else
      let n := min c.utf8Size bytes
      position line (column + n) (bytes - n) r

structure Fault where
  problem : Problem
  line : Nat
  column : Nat

def Stop.locate (s : Stop) (text : List Char) : Fault :=
  let (line, column) := position 1 0 (byteSize text - byteSize s.rest + s.ahead) text
  ⟨s.problem, line, column⟩

def Fault.message (f : Fault) : String :=
  s!"{f.problem.message} at line {f.line} column {f.column}"

end BeanRules.Json
