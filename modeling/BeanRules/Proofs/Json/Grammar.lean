import BeanRules.Json.Scan
import BeanRules.Proofs.Decimal.Spelling

/-!
Which texts are JSON values, by how they are put together and without any reader. A string is the
list of its parts, which tells its text from what the text stands for.
-/
namespace BeanRules.Json

def Spaces (s : List Char) : Prop := ∀ c ∈ s, c = ' ' ∨ c = '\n' ∨ c = '\t' ∨ c = '\r'

/-- One character of a string, or a backslash with what belongs to it. -/
inductive StringPart where
  | plain (c : Char) (printable : 0x20 ≤ c.toNat) (quote : c ≠ '"') (slash : c ≠ '\\')
  | short (letter c : Char) (stands : shortEscape? letter = some c)
  | unit (a b c d : Char) (n : Nat) (digits : fourDigits? a b c d = some n)

namespace StringPart

def text : StringPart → List Char
  | plain c _ _ _ => [c]
  | short letter _ _ => ['\\', letter]
  | unit a b c d _ _ => ['\\', 'u', a, b, c, d]

/-- The text that the parts stand for, if every surrogate is one of a pair. -/
def decode? : List StringPart → Option (List Char)
  | [] => some []
  | plain c _ _ _ :: rest => (decode? rest).map (c :: ·)
  | short _ c _ :: rest => (decode? rest).map (c :: ·)
  | unit _ _ _ _ n _ :: rest =>
    if isLowSurrogate n then none
    else if isHighSurrogate n then
      match rest with
      | unit _ _ _ _ m _ :: rest =>
        if isLowSurrogate m then
          (decode? rest).map (Char.ofNat (0x10000 + (n - 0xD800) * 0x400 + (m - 0xDC00)) :: ·)
        else none
      | _ => none
    else (decode? rest).map (Char.ofNat n :: ·)

theorem decode?_low {a b c d : Char} {n : Nat} (digits : fourDigits? a b c d = some n)
    (low : isLowSurrogate n = true) (rest : List StringPart) :
    decode? (unit a b c d n digits :: rest) = none := by
  rw [decode?.eq_def]
  exact if_pos low

theorem decode?_single {a b c d : Char} {n : Nat} (digits : fourDigits? a b c d = some n)
    (low : isLowSurrogate n = false) (high : isHighSurrogate n = false) (rest : List StringPart) :
    decode? (unit a b c d n digits :: rest) = (decode? rest).map (Char.ofNat n :: ·) := by
  rw [decode?.eq_def]
  dsimp only
  rw [low, high, if_neg Bool.false_ne_true, if_neg Bool.false_ne_true]

end StringPart

def closed (parts : List StringPart) : List Char := parts.flatMap StringPart.text ++ ['"']

inductive WholePart : List Char → Prop where
  | zero : WholePart ['0']
  | digits {c : Char} {ds : List Char} (first : c.isDigit = true) (nonzero : c ≠ '0')
      (more : ∀ d ∈ ds, d.isDigit = true) : WholePart (c :: ds)

inductive FractionPart : List Char → Prop where
  | absent : FractionPart []
  | written {ds : List Char} (present : ds ≠ []) (digits : ∀ c ∈ ds, c.isDigit = true) :
      FractionPart ('.' :: ds)

inductive Unsigned : List Char → Prop where
  | parts {whole fraction exponent : List Char} {e : Int} (counts : WholePart whole)
      (divides : FractionPart fraction) (scales : Decimal.ExponentPart exponent e) :
      Unsigned (whole ++ (fraction ++ exponent))

structure Item where
  before : List Char
  value : List Char
  after : List Char
  spaces_before : Spaces before
  spaces_after : Spaces after

def Item.text (i : Item) : List Char := i.before ++ (i.value ++ i.after)

structure Member where
  before : List Char
  key : List StringPart
  behindKey : List Char
  item : Item
  spaces_before : Spaces before
  spaces_behindKey : Spaces behindKey

/-- From behind the opening quote of the key. -/
def Member.fromKey (m : Member) : List Char :=
  closed m.key ++ (m.behindKey ++ ':' :: m.item.text)

def Member.text (m : Member) : List Char := m.before ++ '"' :: m.fromKey

/-- Texts with commas between them, or nothing but white space. -/
inductive Listed {α : Type} (text : α → List Char) : List α → List Char → Prop where
  | none {blank : List Char} (spaces : Spaces blank) : Listed text [] blank
  | some (first : α) (rest : List α) :
      Listed text (first :: rest) (text first ++ rest.flatMap fun a => ',' :: text a)

inductive ValueText : List Char → Prop where
  | null : ValueText ['n', 'u', 'l', 'l']
  | yes : ValueText ['t', 'r', 'u', 'e']
  | no : ValueText ['f', 'a', 'l', 's', 'e']
  | string (parts : List StringPart) : ValueText ('"' :: closed parts)
  | number {s : List Char} (h : Unsigned s) : ValueText s
  | negative {s : List Char} (h : Unsigned s) : ValueText ('-' :: s)
  | array {items : List Item} {body : List Char} (listed : Listed Item.text items body)
      (values : ∀ i ∈ items, ValueText i.value) : ValueText ('[' :: (body ++ [']']))
  | object {members : List Member} {body : List Char} (listed : Listed Member.text members body)
      (values : ∀ m ∈ members, ValueText m.item.value) : ValueText ('\x7b' :: (body ++ ['\x7d']))

end BeanRules.Json
