import BeanRules.Proofs.Json.Grammar
import BeanRules.Proofs.Json.Strings

/-!
Written strings in the grammar of JSON texts. Each character is one part, and the parts stand for the
string that was written.
-/
namespace BeanRules.Json

def writtenPart (c : Char) : StringPart :=
  if quote : c = '"' then .short '"' '"' rfl
  else if slash : c = '\\' then .short '\\' '\\' rfl
  else if c = '\x08' then .short 'b' '\x08' rfl
  else if c = '\x0c' then .short 'f' '\x0c' rfl
  else if c = '\n' then .short 'n' '\n' rfl
  else if c = '\r' then .short 'r' '\r' rfl
  else if c = '\t' then .short 't' '\t' rfl
  else if control : c.toNat < 0x20 then
    .unit '0' '0' (Nat.digitChar (c.toNat / 16)) (Nat.digitChar (c.toNat % 16)) c.toNat
      (fourDigits?_digitChar control)
  else .plain c (Nat.not_lt.mp control) quote slash

theorem text_writtenPart (c : Char) : (writtenPart c).text = escape c := by
  unfold writtenPart escape
  grind [StringPart.text]

theorem decode?_writtenPart (c : Char) (parts : List StringPart) :
    StringPart.decode? (writtenPart c :: parts) = (StringPart.decode? parts).map (c :: ·) := by
  unfold writtenPart
  iterate 7
    split
    next h =>
      cases h
      rfl
  split
  next control =>
    have hlow : isLowSurrogate c.toNat = false := by
      simp [isLowSurrogate]
      omega
    have hhigh : isHighSurrogate c.toNat = false := by
      simp [isHighSurrogate]
      omega
    rw [StringPart.decode?_single _ hlow hhigh, Char.ofNat_toNat]
  next => rfl

def writtenParts (s : String) : List StringPart := s.toList.map writtenPart

theorem quote_closed_writtenParts (s : String) : '"' :: closed (writtenParts s) = writeString s := by
  unfold writeString closed writtenParts
  rw [List.flatMap_map, funext text_writtenPart, List.cons_append]

theorem decode?_writtenParts (s : String) :
    StringPart.decode? (writtenParts s) = some s.toList := by
  unfold writtenParts
  induction s.toList with
  | nil => rfl
  | cons c l ih => rw [List.map_cons, decode?_writtenPart, ih, Option.map_some]

theorem value_writeString (s : String) : ValueText (writeString s) :=
  quote_closed_writtenParts s ▸ .string (writtenParts s)

end BeanRules.Json
