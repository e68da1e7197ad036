import Mathlib.Data.List.Basic

/-!
Texts are compared character by character, and their UTF-8 forms byte by byte. The two orders are
the same, so whatever is sorted by name is sorted by the bytes of its name.
-/
namespace BeanRules.Text

def utf8 (s : String) : List UInt8 := s.toByteArray.data.toList

theorem utf8_eq_flatMap (s : String) : utf8 s = s.toList.flatMap String.utf8EncodeChar := by
  unfold utf8
  conv => lhs; rw [← String.ofList_toList (s := s)]
  rw [String.toByteArray_ofList, List.utf8Encode, List.data_toByteArray]

/-- The bytes of a code point, by their number. -/
inductive Encodes : Nat → List UInt8 → Prop where
  | one {v : Nat} (range : v ≤ 127) : Encodes v [UInt8.ofNat v]
  | two {v : Nat} (range : 127 < v ∧ v ≤ 2047) :
      Encodes v [UInt8.ofNat (v / 64 % 32 + 192), UInt8.ofNat (v % 64 + 128)]
  | three {v : Nat} (range : 2047 < v ∧ v ≤ 65535) :
      Encodes v [UInt8.ofNat (v / 4096 % 16 + 224), UInt8.ofNat (v / 64 % 64 + 128),
        UInt8.ofNat (v % 64 + 128)]
  | four {v : Nat} (range : 65535 < v ∧ v < 0x110000) :
      Encodes v [UInt8.ofNat (v / 262144 % 8 + 240), UInt8.ofNat (v / 4096 % 64 + 128),
        UInt8.ofNat (v / 64 % 64 + 128), UInt8.ofNat (v % 64 + 128)]

theorem encodes_utf8EncodeChar (c : Char) : Encodes c.toNat (String.utf8EncodeChar c) := by
  have hmax : c.val.toNat < 0x110000 := by
    rcases c.valid with h | h
    · omega
    · exact h.2
  unfold String.utf8EncodeChar Char.toNat
  dsimp only
  generalize c.val.toNat = v at hmax ⊢
  split
  · exact .one (by omega)
  · split
    · exact .two (by omega)
    · split
      · exact .three (by omega)
      · exact .four (by omega)

theorem ofNat_cons_lt_iff {a b : Nat} (ha : a < 256) (hb : b < 256) {r q : List UInt8} :
    UInt8.ofNat a :: r < UInt8.ofNat b :: q ↔ a < b ∨ a = b ∧ r < q := by
  have heq : UInt8.ofNat a = UInt8.ofNat b ↔ a = b := by
    rw [← UInt8.toNat_inj, UInt8.toNat_ofNat_of_lt' ha, UInt8.toNat_ofNat_of_lt' hb]
  rw [List.cons_lt_cons_iff, UInt8.ofNat_lt_iff_lt ha hb, heq]

/-- A smaller code point has the smaller bytes, whatever follows either: a longer form starts with a
greater byte, and in forms of one length the groups of six bits are digits to the base 64. -/
theorem Encodes.append_lt {v w : Nat} {x y : List UInt8} (hx : Encodes v x) (hy : Encodes w y)
    (h : v < w) (r q : List UInt8) : x ++ r < y ++ q := by
  have hdigits (n : Nat) : n / 64 / 64 = n / 4096 ∧ n / 4096 / 64 = n / 262144 :=
    ⟨Nat.div_div_eq_div_mul n 64 64, Nat.div_div_eq_div_mul n 4096 64⟩
  have hv := hdigits v
  have hw := hdigits w
  cases hx <;> cases hy <;>
    simp (disch := omega) only [List.cons_append, List.nil_append, ofNat_cons_lt_iff,
      Nat.mod_eq_of_lt] <;>
    omega

theorem flatMap_utf8EncodeChar_lt {l m : List Char} (h : l < m) :
    l.flatMap String.utf8EncodeChar < m.flatMap String.utf8EncodeChar := by
  induction l generalizing m with
  | nil =>
    cases m with
    | nil => exact absurd h (List.lt_irrefl [])
    | cons d m =>
      obtain ⟨b, bytes, hbytes⟩ :=
        List.exists_cons_of_ne_nil (String.utf8EncodeChar_ne_nil (c := d))
      rw [List.flatMap_nil, List.flatMap_cons, hbytes]
      exact List.nil_lt_cons b _
  | cons c l ih =>
    cases m with
    | nil => exact absurd h (List.not_lt_nil _)
    | cons d m =>
      rw [List.flatMap_cons, List.flatMap_cons]
      rcases List.cons_lt_cons_iff.mp h with hlt | ⟨rfl, hrest⟩
      · exact (encodes_utf8EncodeChar c).append_lt (encodes_utf8EncodeChar d) hlt _ _
      · exact List.append_left_lt (ih hrest)

theorem utf8_lt_iff {s t : String} : utf8 s < utf8 t ↔ s < t := by
  have hmono {s t : String} (h : s < t) : utf8 s < utf8 t := by
    rw [utf8_eq_flatMap, utf8_eq_flatMap]
    exact flatMap_utf8EncodeChar_lt h
  constructor
  · intro h
    rcases Std.lt_trichotomy s t with hlt | rfl | hgt
    · exact hlt
    · exact absurd h Std.lt_irrefl
    · exact absurd (Std.lt_trans h (hmono hgt)) Std.lt_irrefl
  · exact hmono

theorem utf8_le_iff {s t : String} : utf8 s ≤ utf8 t ↔ s ≤ t := by
  rw [← List.not_lt, ← String.not_lt, utf8_lt_iff]

end BeanRules.Text
