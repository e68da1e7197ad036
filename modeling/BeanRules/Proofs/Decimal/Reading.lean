import BeanRules.Decimal.Layout
import BeanRules.Decimal.Numeral
import BeanRules.Proofs.Decimal.Shortest
import Mathlib.Data.List.Induction

/-!
Every layout of a finite double is a numeral with the sign of the number and the value of its
shortest digits, so a layout tells all finite doubles apart.
-/
namespace BeanRules.Decimal

theorem natOfDigits_eq (ds : List Char) : natOfDigits ds = Nat.ofDigitChars 10 ds 0 :=
  Nat.ofDigitChars_eq_foldl.symm

theorem natOfDigits_toDigits (n : Nat) : natOfDigits (Nat.toDigits 10 n) = n := by
  rw [natOfDigits_eq, Nat.ofDigitChars_ten_toDigits]

theorem natOfDigits_append_singleton (ds : List Char) (c : Char) :
    natOfDigits (ds ++ [c]) = 10 * natOfDigits ds + digitValue c := by
  simp [natOfDigits]

theorem natOfDigits_append_zeros (ds : List Char) (n : Nat) :
    natOfDigits (ds ++ List.replicate n '0') = 10 ^ n * natOfDigits ds := by
  rw [natOfDigits_eq, natOfDigits_eq, Nat.ofDigitChars_append, Nat.ofDigitChars_replicate_zero]

theorem natOfDigits_zeros_append (ds : List Char) (n : Nat) :
    natOfDigits (List.replicate n '0' ++ ds) = natOfDigits ds := by
  rw [natOfDigits_eq, natOfDigits_eq, Nat.ofDigitChars_append, Nat.ofDigitChars_replicate_zero,
    Nat.mul_zero]

theorem exponentOfDigits_eq (ds : List Char) (h : natOfDigits ds < 65536) :
    exponentOfDigits ds = natOfDigits ds := by
  induction ds using List.reverseRecOn with
  | nil => rfl
  | append_singleton ds c ih =>
    rw [natOfDigits_append_singleton] at h ⊢
    have hprefix : natOfDigits ds < 65536 := by omega
    have hstep : exponentOfDigits (ds ++ [c]) =
        if exponentOfDigits ds < 65536 then 10 * exponentOfDigits ds + digitValue c
        else exponentOfDigits ds := by
      unfold exponentOfDigits
      rw [List.foldl_append]
      rfl
    rw [hstep, ih hprefix, if_pos hprefix]

theorem all_isDigit_toDigits (n : Nat) : ∀ c ∈ Nat.toDigits 10 n, c.isDigit = true :=
  fun _ => Nat.isDigit_of_mem_toDigits (by decide) (by decide)

theorem all_isDigit_zeros (n : Nat) : ∀ c ∈ List.replicate n '0', c.isDigit = true := by
  intro c hc
  rw [List.eq_of_mem_replicate hc]
  decide

def signText (negative : Bool) : List Char := if negative then ['-'] else []

inductive IsSign : List Char → Bool → Prop where
  | absent : IsSign [] false
  | plus : IsSign ['+'] false
  | minus : IsSign ['-'] true

theorem isSign_signText (negative : Bool) : IsSign (signText negative) negative := by
  cases negative
  · exact .absent
  · exact .minus

theorem takeSign_append {sign : List Char} {negative : Bool} (h : IsSign sign negative)
    {r : List Char} (hr : ∀ c ∈ r.head?, c ≠ '-' ∧ c ≠ '+') :
    takeSign (sign ++ r) = (negative, r) := by
  cases h with
  | absent =>
    rw [List.nil_append]
    unfold takeSign
    split
    case h_1 => exact absurd rfl (hr '-' (by simp)).1
    case h_2 => exact absurd rfl (hr '+' (by simp)).2
    case h_3 => rfl
  | plus | minus => rfl

theorem ne_of_isDigit {c d : Char} (hc : c.isDigit = true) (hd : d.isDigit = false) : c ≠ d := by
  rintro rfl
  rw [hc] at hd
  cases hd

theorem not_sign_of_isDigit {ds r : List Char} (hne : ds ≠ [])
    (hds : ∀ c ∈ ds, c.isDigit = true) : ∀ c ∈ (ds ++ r).head?, c ≠ '-' ∧ c ≠ '+' := by
  cases ds with
  | nil => exact absurd rfl hne
  | cons c ds =>
    have hc := hds c List.mem_cons_self
    simpa using ⟨ne_of_isDigit hc (d := '-') rfl, ne_of_isDigit hc (d := '+') rfl⟩

theorem takeWhile_append_of_stop {p : Char → Bool} {s r : List Char} (hs : ∀ c ∈ s, p c = true)
    (hr : ∀ c ∈ r.head?, p c = false) : (s ++ r).takeWhile p = s := by
  rw [List.takeWhile_append_of_pos hs]
  cases r with
  | nil => simp
  | cons c r => simp [hr c (by simp)]

theorem dropWhile_append_of_stop {p : Char → Bool} {s r : List Char} (hs : ∀ c ∈ s, p c = true)
    (hr : ∀ c ∈ r.head?, p c = false) : (s ++ r).dropWhile p = r := by
  rw [List.dropWhile_append_of_pos hs]
  cases r with
  | nil => rfl
  | cons c r => simp [hr c (by simp)]

namespace Numeral

def value (n : Numeral) : ℚ := n.digits * 10 ^ (n.exponent - n.places)

section OfChars

variable {sign : List Char} {negative : Bool}

theorem ofChars?_whole (hsign : IsSign sign negative) {whole : List Char} (tail : List Char)
    (hne : whole ≠ []) (hwhole : ∀ c ∈ whole, c.isDigit = true)
    (htail : ∀ c ∈ tail.head?, c.isDigit = false ∧ c ≠ '.') :
    ofChars? (sign ++ (whole ++ tail)) =
      (exponentPart? tail).map fun e => ⟨negative, natOfDigits whole, 0, e⟩ := by
  have hdigit : ∀ c ∈ tail.head?, c.isDigit = false := fun c hc => (htail c hc).1
  unfold ofChars?
  simp only [takeSign_append hsign (not_sign_of_isDigit hne hwhole),
    takeWhile_append_of_stop hwhole hdigit, dropWhile_append_of_stop hwhole hdigit]
  split
  case h_1 r => exact absurd rfl (htail '.' (by simp)).2
  case h_2 => simp [hne]

theorem ofChars?_point (hsign : IsSign sign negative) {whole : List Char}
    (places tail : List Char) (hne : whole ≠ [] ∨ places ≠ [])
    (hwhole : ∀ c ∈ whole, c.isDigit = true) (hplaces : ∀ c ∈ places, c.isDigit = true)
    (htail : ∀ c ∈ tail.head?, c.isDigit = false) :
    ofChars? (sign ++ (whole ++ '.' :: (places ++ tail))) =
      (exponentPart? tail).map fun e =>
        ⟨negative, natOfDigits (whole ++ places), places.length, e⟩ := by
  have hpoint : ∀ c ∈ ('.' :: (places ++ tail)).head?, c.isDigit = false := by simp
  have hunsigned : ∀ c ∈ (whole ++ '.' :: (places ++ tail)).head?, c ≠ '-' ∧ c ≠ '+' := by
    cases whole with
    | nil => simp
    | cons c whole => exact not_sign_of_isDigit (List.cons_ne_nil c whole) hwhole
  have hsome : ¬(whole = [] ∧ places = []) := by
    rintro ⟨rfl, rfl⟩
    simp at hne
  unfold ofChars?
  simp only [takeSign_append hsign hunsigned, takeWhile_append_of_stop hwhole hpoint,
    dropWhile_append_of_stop hwhole hpoint, takeWhile_append_of_stop hplaces htail,
    dropWhile_append_of_stop hplaces htail]
  rw [if_neg hsome]

end OfChars

end Numeral

def Reads (s : List Char) (negative : Bool) (q : ℚ) : Prop :=
  ∃ n, Numeral.ofChars? s = some n ∧ n.negative = negative ∧ n.value = q

theorem Reads.unique {s : List Char} {a b : Bool} {p q : ℚ} (h : Reads s a p) (h' : Reads s b q) :
    a = b ∧ p = q := by
  obtain ⟨n, hn, rfl, rfl⟩ := h
  obtain ⟨m, hm, rfl, rfl⟩ := h'
  cases hn.symm.trans hm
  exact ⟨rfl, rfl⟩

theorem value_of_nonneg {d : Digits} (h : 0 ≤ d.exponent) :
    d.value = (10 ^ d.exponent.toNat * d.digits : Nat) := by
  obtain ⟨n, hn⟩ := Int.eq_ofNat_of_zero_le h
  unfold Digits.value
  rw [hn, Int.toNat_natCast, zpow_natCast]
  push_cast
  exact mul_comm _ _

/-- A whole number with zeros up to the point, and one behind it where the point is kept. -/
theorem reads_whole (negative keepsPoint : Bool) {d : Digits} (h : 0 ≤ d.exponent) :
    Reads (signText negative ++ (Nat.toDigits 10 d.digits ++
      List.replicate d.exponent.toNat '0' ++ if keepsPoint then ['.', '0'] else []))
      negative d.value := by
  have hne : Nat.toDigits 10 d.digits ++ List.replicate d.exponent.toNat '0' ≠ [] := by
    simp [Nat.toDigits_ne_nil]
  have hwhole : ∀ c ∈ Nat.toDigits 10 d.digits ++ List.replicate d.exponent.toNat '0',
      c.isDigit = true :=
    List.forall_mem_append.mpr ⟨all_isDigit_toDigits _, all_isDigit_zeros _⟩
  have hvalue := value_of_nonneg h
  have hdigits := natOfDigits_append_zeros (Nat.toDigits 10 d.digits) d.exponent.toNat
  rw [natOfDigits_toDigits] at hdigits
  generalize Nat.toDigits 10 d.digits ++ List.replicate d.exponent.toNat '0' = whole
    at hne hwhole hdigits ⊢
  cases keepsPoint
  case false =>
    refine ⟨_, Numeral.ofChars?_whole (isSign_signText negative) [] hne hwhole (by simp), rfl, ?_⟩
    simp [Numeral.value, hdigits, hvalue]
  case true =>
    refine ⟨_, Numeral.ofChars?_point (isSign_signText negative) ['0'] [] (.inl hne) hwhole
      (by simp) (by simp), rfl, ?_⟩
    have hzero : digitValue '0' = 0 := rfl
    simp only [Numeral.value, natOfDigits_append_singleton, hzero, hdigits, hvalue]
    push_cast
    norm_num
    ring

/-- Digits with zeros in front, cut at the point. -/
theorem reads_places (negative : Bool) {d : Digits} (h : d.exponent < 0) {padded : List Char}
    (hdigits : ∀ c ∈ padded, c.isDigit = true) (hvalue : natOfDigits padded = d.digits)
    (hlength : (-d.exponent).toNat < padded.length) :
    Reads (signText negative ++ (padded.take (padded.length - (-d.exponent).toNat) ++
      '.' :: padded.drop (padded.length - (-d.exponent).toNat))) negative d.value := by
  have hne : padded.take (padded.length - (-d.exponent).toNat) ≠ [] := by
    rw [← List.length_pos_iff, List.length_take]
    omega
  have hread := Numeral.ofChars?_point (isSign_signText negative)
    (padded.drop (padded.length - (-d.exponent).toNat)) [] (.inl hne)
    (fun c hc => hdigits c (List.mem_of_mem_take hc))
    (fun c hc => hdigits c (List.mem_of_mem_drop hc)) (by simp)
  rw [List.append_nil] at hread
  refine ⟨_, hread, rfl, ?_⟩
  have hexponent : (0 : Int) - (padded.drop (padded.length - (-d.exponent).toNat)).length =
      d.exponent := by
    rw [List.length_drop]
    omega
  simp only [Numeral.value, List.take_append_drop, hvalue, hexponent, Digits.value]

theorem reads_positionalDigits (negative keepsPoint : Bool) (d : Digits) :
    Reads (signText negative ++ positionalDigits keepsPoint d) negative d.value := by
  unfold positionalDigits
  extract_lets ds places padded
  split
  case isTrue h => exact reads_whole negative keepsPoint h
  case isFalse h =>
    apply reads_places negative (Int.not_le.mp h)
    · exact List.forall_mem_append.mpr ⟨all_isDigit_zeros _, all_isDigit_toDigits _⟩
    · rw [natOfDigits_zeros_append, natOfDigits_toDigits]
    · simp only [padded, List.length_append, List.length_replicate]
      omega

def exponentSuffix (signsExponent : Bool) (e : Int) : List Char :=
  'e' :: (if e < 0 then ['-'] else if signsExponent then ['+'] else []) ++ Nat.toDigits 10 e.natAbs

theorem exponentDigits_eq (signsExponent : Bool) {d : Digits} {c : Char} {r : List Char}
    (h : Nat.toDigits 10 d.digits = c :: r) :
    exponentDigits signsExponent d =
      (if r = [] then [c] else c :: '.' :: r) ++ exponentSuffix signsExponent d.lead := by
  unfold exponentDigits exponentSuffix
  rw [h]
  cases r <;> simp

theorem exponentPart?_exponentSuffix (signsExponent : Bool) {e : Int} (h : e.natAbs < 65536) :
    exponentPart? (exponentSuffix signsExponent e) = some e := by
  have hds := all_isDigit_toDigits e.natAbs
  have hne : Nat.toDigits 10 e.natAbs ≠ [] := Nat.toDigits_ne_nil
  have hunsigned := not_sign_of_isDigit (r := []) hne hds
  rw [List.append_nil] at hunsigned
  have hsign : takeSign ((if e < 0 then ['-'] else if signsExponent then ['+'] else []) ++
      Nat.toDigits 10 e.natAbs) = (decide (e < 0), Nat.toDigits 10 e.natAbs) := by
    apply takeSign_append _ hunsigned
    by_cases hneg : e < 0
    · simpa [hneg] using IsSign.minus
    · cases signsExponent
      · simpa [hneg] using IsSign.absent
      · simpa [hneg] using IsSign.plus
  have hall : (Nat.toDigits 10 e.natAbs).all Char.isDigit = true := List.all_eq_true.mpr hds
  have hvalue : exponentOfDigits (Nat.toDigits 10 e.natAbs) = e.natAbs := by
    rw [exponentOfDigits_eq _ (by rwa [natOfDigits_toDigits]), natOfDigits_toDigits]
  have hmagnitude : (if decide (e < 0) then -(e.natAbs : Int) else e.natAbs) = e := by
    by_cases hneg : e < 0
    · rw [decide_eq_true hneg, if_pos rfl]
      omega
    · rw [decide_eq_false hneg, if_neg (by decide)]
      omega
  rw [exponentSuffix, List.cons_append]
  simp only [exponentPart?, hsign, hall, hvalue, hmagnitude]
  simp [hne]

theorem reads_exponentDigits (negative signsExponent : Bool) {d : Digits}
    (h : d.lead.natAbs < 65536) :
    Reads (signText negative ++ exponentDigits signsExponent d) negative d.value := by
  have hdigits := all_isDigit_toDigits d.digits
  have hvalue := natOfDigits_toDigits d.digits
  have hlead : d.lead = d.exponent + ((Nat.toDigits 10 d.digits).length - 1 : Nat) := rfl
  obtain ⟨c, r, hcons⟩ := List.exists_cons_of_ne_nil (Nat.toDigits_ne_nil (b := 10) (n := d.digits))
  rw [exponentDigits_eq signsExponent hcons]
  rw [hcons, List.forall_mem_cons] at hdigits
  rw [hcons] at hvalue hlead
  have hplaces : d.lead - r.length = d.exponent := by
    rw [hlead, List.length_cons]
    omega
  have hc : ∀ c' ∈ [c], c'.isDigit = true := List.forall_mem_singleton.mpr hdigits.1
  have htail : ∀ c' ∈ (exponentSuffix signsExponent d.lead).head?,
      c'.isDigit = false ∧ c' ≠ '.' := by
    simp [exponentSuffix]
  split
  case isTrue hr =>
    rw [hr] at hvalue hplaces
    have hread := Numeral.ofChars?_whole (isSign_signText negative) _ (List.cons_ne_nil c []) hc htail
    rw [exponentPart?_exponentSuffix signsExponent h] at hread
    refine ⟨_, hread, rfl, ?_⟩
    rw [List.length_nil] at hplaces
    rw [Numeral.value, Digits.value, hvalue, hplaces]
  case isFalse =>
    have hread := Numeral.ofChars?_point (isSign_signText negative) r _
      (.inl (List.cons_ne_nil c [])) hc hdigits.2 fun c' hc' => (htail c' hc').1
    rw [exponentPart?_exponentSuffix signsExponent h] at hread
    refine ⟨_, hread, rfl, ?_⟩
    rw [Numeral.value, Digits.value, List.singleton_append, hvalue, hplaces]

namespace Layout

variable (l : Layout)

def written (x : Binary64) : ℚ := if x.isZero then 0 else (x.shortest l.tie).value

theorem reads_magnitude (negative : Bool) {x : Binary64} (h : x.isZero = false) :
    Reads (signText negative ++ l.magnitude x) negative (x.shortest l.tie).value := by
  unfold magnitude
  dsimp only
  split
  · exact reads_positionalDigits negative l.keepsPoint _
  · apply reads_exponentDigits negative l.signsExponent
    have := Binary64.natAbs_lead_shortest_le l.tie h
    omega

theorem toList_render {x : Binary64} (h : x.isFinite = true) :
    (l.render x).toList = signText x.negative ++
      if x.isZero then positionalDigits l.keepsPoint ⟨0, 0⟩ else l.magnitude x := by
  have hnan : x.isNaN = false := by
    unfold Binary64.isFinite at h
    unfold Binary64.isNaN
    rw [bne_iff_ne] at h
    simp [h]
  simp [render, hnan, h, signText]

/-- Behind the sign stands one of the two notations. -/
theorem render_notation {x : Binary64} (h : x.isFinite = true) : ∃ d : Digits,
    (l.render x).toList = signText x.negative ++ positionalDigits l.keepsPoint d ∨
      (l.render x).toList = signText x.negative ++ exponentDigits l.signsExponent d := by
  rw [l.toList_render h]
  split
  · exact ⟨_, .inl rfl⟩
  · unfold magnitude
    dsimp only
    split
    · exact ⟨_, .inl rfl⟩
    · exact ⟨_, .inr rfl⟩

theorem reads_render {x : Binary64} (h : x.isFinite = true) :
    Reads (l.render x).toList x.negative (l.written x) := by
  rw [l.toList_render h]
  unfold written
  cases hzero : x.isZero
  case true =>
    have hread := reads_positionalDigits x.negative l.keepsPoint ⟨0, 0⟩
    simpa [Digits.value] using hread
  case false => simpa using l.reads_magnitude x.negative hzero

theorem written_pos {x : Binary64} (h : x.isZero = false) : 0 < l.written x := by
  unfold written
  rw [h, if_neg (by decide)]
  apply mul_pos
  · exact_mod_cast Binary64.digits_shortest_pos l.tie h
  · exact zpow_pos (by decide) _

theorem written_of_isZero {x : Binary64} (h : x.isZero = true) : l.written x = 0 := if_pos h

/-- A layout tells finite doubles apart, also the two zeros. -/
theorem render_inj {x y : Binary64} (hx : x.isFinite = true) (hy : y.isFinite = true)
    (h : l.render x = l.render y) : x = y := by
  have hread := l.reads_render hx
  rw [h] at hread
  obtain ⟨hsign, hwritten⟩ := hread.unique (l.reads_render hy)
  cases hzx : x.isZero <;> cases hzy : y.isZero
  case false.false =>
    have hsame : (x.shortest l.tie).value = (y.shortest l.tie).value := by
      simpa [written, hzx, hzy] using hwritten
    have hinside := Binary64.contains_shortest l.tie hzx
    rw [Digits.quarters, hsame] at hinside
    obtain ⟨hexponent, hfraction⟩ :=
      Binary64.magnitude_eq_of_contains hinside (Binary64.contains_shortest l.tie hzy)
    exact Binary64.eq_of_fields hsign hexponent hfraction
  case false.true =>
    have hpos := l.written_pos hzx
    rw [hwritten, l.written_of_isZero hzy] at hpos
    exact absurd hpos (lt_irrefl 0)
  case true.false =>
    have hpos := l.written_pos hzy
    rw [← hwritten, l.written_of_isZero hzx] at hpos
    exact absurd hpos (lt_irrefl 0)
  case true.true =>
    simp only [Binary64.isZero, Bool.and_eq_true, beq_iff_eq] at hzx hzy
    exact Binary64.eq_of_fields hsign (hzx.1.trans hzy.1.symm) (hzx.2.trans hzy.2.symm)

end Layout

end BeanRules.Decimal
