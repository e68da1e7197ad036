import BeanRules.Json.Skip
import BeanRules.Proofs.Json.Grammar
import BeanRules.Proofs.Json.Strings

/-!
A well-formed value that nobody asked for is skipped to its end, whatever is nested in it.
-/
namespace BeanRules.Json

open Text (Rest Tail)

/-- What may follow a value inside a document, or the end of the document. -/
def Follows (r : List Char) : Prop :=
  ∀ c ∈ r.head?, c = ' ' ∨ c = '\n' ∨ c = '\t' ∨ c = '\r' ∨ c = ',' ∨ c = ']' ∨ c = '\x7d'

/-- A step succeeds and leaves this text unread. -/
def Leaves {s : List Char} (x : Except Stop (Rest s)) (r : List Char) : Prop :=
  ∃ t, x = .ok t ∧ t.text = r

section Combine

variable {s t u r : List Char} {x : Except Stop (Rest s)}

theorem Leaves.bind {k : Rest s → Except Stop (Rest t)} (hx : Leaves x u)
    (hk : ∀ v, v.text = u → Leaves (k v) r) : Leaves (x >>= k) r := by
  obtain ⟨v, rfl, hv⟩ := hx
  exact hk v hv

theorem leaves_ok (v : Rest s) : Leaves (.ok v) v.text := ⟨v, rfl, rfl⟩

end Combine

section Space

variable {b r : List Char} {c : Char}

theorem spaces_iff : Spaces b ↔ ∀ c ∈ b, isSpace c = true := by
  simp [Spaces, isSpace, or_assoc]

theorem spaces_nil : Spaces [] := List.forall_mem_nil _

theorem skipSpace_append (h : Spaces b) (s : List Char) : skipSpace (b ++ s) = skipSpace s :=
  List.dropWhile_append_of_pos (spaces_iff.mp h)

theorem skipSpace_of_spaces (h : Spaces b) (hc : isSpace c = false) (s : List Char) :
    skipSpace (b ++ c :: s) = c :: s := by
  rw [skipSpace_append h]
  exact List.dropWhile_cons_of_neg (by simp [hc])

theorem Spaces.follows (h : Spaces b) (hr : Follows r) : Follows (b ++ r) := by
  cases b with
  | nil => exact hr
  | cons c b =>
    intro d hd
    cases hd
    rcases h c List.mem_cons_self with rfl | rfl | rfl | rfl <;> simp

end Space

section Strings

variable {s r : List Char}

theorem leaves_skipString_plain {c : Char} (printable : 0x20 ≤ c.toNat) (quote : c ≠ '"')
    (slash : c ≠ '\\') (h : Leaves (skipString s) r) : Leaves (skipString (c :: s)) r := by
  rw [skipString]
  · rw [if_neg (Nat.not_lt.mpr printable)]
    apply h.bind
    rintro v rfl
    exact leaves_ok _
  · simpa using quote
  · simpa using slash

theorem leaves_skipString_short {e c : Char} (stands : shortEscape? e = some c)
    (h : Leaves (skipString s) r) : Leaves (skipString ('\\' :: e :: s)) r := by
  rw [skipString]
  · rw [stands]
    apply h.bind
    rintro v rfl
    exact leaves_ok _
  · rintro rfl
    cases stands

theorem codeUnit_of_digits {a b c d : Char} {n : Nat} (digits : fourDigits? a b c d = some n)
    (s : List Char) : codeUnit (a :: b :: c :: d :: s) =
      .ok (n, .cons a (.cons b (.cons c (.cons d (.whole s))))) := by
  unfold codeUnit
  dsimp only
  rw [digits]

theorem leaves_skipString_unit {a b c d : Char} {n : Nat} (digits : fourDigits? a b c d = some n)
    (h : Leaves (skipString s) r) :
    Leaves (skipString ('\\' :: 'u' :: a :: b :: c :: d :: s)) r := by
  rw [skipString, codeUnit_of_digits digits]
  apply h.bind
  rintro v rfl
  exact leaves_ok _

theorem leaves_skipString (parts : List StringPart) (r : List Char) :
    Leaves (skipString (closed parts ++ r)) r := by
  unfold closed
  induction parts with
  | nil =>
    rw [List.flatMap_nil, List.nil_append, List.singleton_append, skipString]
    exact ⟨_, rfl, rfl⟩
  | cons part parts ih =>
    rw [List.flatMap_cons, List.append_assoc, List.append_assoc]
    rw [List.append_assoc] at ih
    cases part with
    | plain c printable quote slash => exact leaves_skipString_plain printable quote slash ih
    | short letter c stands => exact leaves_skipString_short stands ih
    | unit a b c d n digits => exact leaves_skipString_unit digits ih

end Strings

section Numbers

variable {s r : List Char}

theorem Follows.not_numeric (h : Follows r) : ∀ c ∈ r.head?, c.isDigit = false ∧ c ≠ '.' ∧
    ¬(c = 'e' ∨ c = 'E') := by
  intro c hc
  rcases h c hc with rfl | rfl | rfl | rfl | rfl | rfl | rfl <;> decide

theorem wholeText_append (h : WholePart s) (ends : Problem)
    (hr : ∀ c ∈ r.head?, c.isDigit = false) :
    ∃ t, wholeText ends (s ++ r) = .ok (s, t) ∧ t.text = r := by
  cases h with
  | zero =>
    have hnone : r.head?.any Char.isDigit = false := by
      cases r with
      | nil => rfl
      | cons c r => exact hr c rfl
    refine ⟨.cons '0' (.whole r), ?_, rfl⟩
    simp [wholeText, hnone]
  | @digits c ds first nonzero more =>
    refine ⟨.cons c (.dropWhile Char.isDigit (ds ++ r)), ?_, ?_⟩
    · simp only [wholeText, List.cons_append]
      rw [if_neg nonzero, if_pos first, Decimal.takeWhile_append_of_stop more hr]
    · exact Decimal.dropWhile_append_of_stop more hr

theorem fractionText_append (h : FractionPart s) (ends : Problem)
    (hr : ∀ c ∈ r.head?, c.isDigit = false ∧ c ≠ '.') :
    ∃ ds t, fractionText ends (s ++ r) = .ok (ds, t) ∧ t.text = r := by
  cases h with
  | absent =>
    rw [List.nil_append]
    refine ⟨[], .whole r, ?_, rfl⟩
    unfold fractionText
    split
    · exact absurd rfl (hr '.' rfl).2
    · rfl
  | @written ds present digits =>
    have hstop : ∀ c ∈ r.head?, c.isDigit = false := fun c hc => (hr c hc).1
    refine ⟨ds, .cons '.' (.dropWhile Char.isDigit (ds ++ r)), ?_, ?_⟩
    · simp only [fractionText, List.cons_append]
      rw [Decimal.takeWhile_append_of_stop digits hstop, if_neg present]
    · exact Decimal.dropWhile_append_of_stop digits hstop

theorem exponentText_append {sign ds : List Char} {negative : Bool}
    (signed : Decimal.IsSign sign negative) (present : ds ≠ [])
    (digits : ∀ c ∈ ds, c.isDigit = true) (ends : Problem)
    (hr : ∀ c ∈ r.head?, c.isDigit = false) :
    ∃ x t, exponentText ends (sign ++ (ds ++ r)) = .ok (x, t) ∧ t.text = r := by
  have hdigits := Decimal.takeWhile_append_of_stop digits hr
  have hrest := Decimal.dropWhile_append_of_stop digits hr
  have hunsigned := Decimal.not_sign_of_isDigit (r := r) present digits
  generalize ds ++ r = w at hdigits hrest hunsigned ⊢
  cases signed with
  | absent =>
    rw [List.nil_append]
    refine ⟨(false, ds), .dropWhile Char.isDigit w, ?_, hrest⟩
    unfold exponentText
    split
    next negative t hmatch =>
      split at hmatch
      · exact absurd rfl (hunsigned '-' rfl).1
      · exact absurd rfl (hunsigned '+' rfl).2
      · cases hmatch
        simp only [Tail.whole, hdigits]
        rw [if_neg present]
        rfl
  | plus =>
    refine ⟨(false, ds), .cons '+' (.dropWhile Char.isDigit w), ?_, hrest⟩
    simp only [exponentText, List.singleton_append, Tail.cons, Tail.whole, hdigits]
    rw [if_neg present]
    rfl
  | minus =>
    refine ⟨(true, ds), .cons '-' (.dropWhile Char.isDigit w), ?_, hrest⟩
    simp only [exponentText, List.singleton_append, Tail.cons, Tail.whole, hdigits]
    rw [if_neg present]
    rfl

theorem exponentText?_append {e : Int} (h : Decimal.ExponentPart s e) (ends : Problem)
    (hr : Follows r) : ∃ x t, exponentText? ends (s ++ r) = .ok (x, t) ∧ t.text = r := by
  cases h with
  | absent =>
    rw [List.nil_append]
    refine ⟨none, .whole r, ?_, rfl⟩
    cases r with
    | nil => rfl
    | cons c r =>
      unfold exponentText?
      dsimp only
      rw [if_neg (hr.not_numeric c rfl).2.2]
  | @written c sign ds negative letter signed present digits =>
    obtain ⟨x, t, hx, ht⟩ :=
      exponentText_append signed present digits ends fun c hc => (hr.not_numeric c hc).1
    rw [List.cons_append, List.append_assoc]
    refine ⟨some x, .cons c t, ?_, ht⟩
    unfold exponentText?
    dsimp only
    rw [if_pos letter, hx]
    rfl

theorem head_exponent_append {e : Int} (h : Decimal.ExponentPart s e) (hr : Follows r) :
    ∀ c ∈ (s ++ r).head?, c.isDigit = false ∧ c ≠ '.' := by
  cases s with
  | nil =>
    intro c hc
    exact ⟨(hr.not_numeric c hc).1, (hr.not_numeric c hc).2.1⟩
  | cons c s => exact h.head

theorem head_fraction_append (h : FractionPart s) (hr : ∀ c ∈ r.head?, c.isDigit = false) :
    ∀ c ∈ (s ++ r).head?, c.isDigit = false := by
  cases h with
  | absent => exact hr
  | written => simp

theorem leaves_skipNumber (h : Unsigned s) (hr : Follows r) : Leaves (skipNumber (s ++ r)) r := by
  obtain ⟨counts, divides, scales⟩ := h
  have hexponent := exponentText?_append scales .invalidNumber hr
  have hhead := head_exponent_append scales hr
  have hfraction := fractionText_append divides .invalidNumber hhead
  have hwhole := wholeText_append counts .invalidNumber
    (head_fraction_append divides fun c hc => (hhead c hc).1)
  rw [List.append_assoc, List.append_assoc]
  obtain ⟨t, ht, ht'⟩ := hwhole
  rw [← ht'] at hfraction
  obtain ⟨ds, u, hu, hu'⟩ := hfraction
  rw [← hu'] at hexponent
  obtain ⟨x, v, hv, hv'⟩ := hexponent
  refine ⟨t.andThen (u.andThen v), ?_, hv'⟩
  simp only [skipNumber, numberText, ht, hu, hv, bind, Except.bind, pure, Except.pure]

end Numbers

section Steps

variable {s t u v w r : List Char}

theorem leaves_colon (h : skipSpace s = ':' :: r) : Leaves (colon s) r := by
  unfold colon
  split
  case h_1 h' =>
    cases h.symm.trans h'
    exact leaves_ok _
  all_goals simp_all

theorem leaves_skipKey (h : skipSpace s = '"' :: t) (key : Leaves (skipString t) u)
    (behind : skipSpace u = ':' :: r) : Leaves (skipKey s) r := by
  unfold skipKey
  split
  case h_1 h' =>
    cases h.symm.trans h'
    apply key.bind
    rintro t' rfl
    apply (leaves_colon behind).bind
    rintro u' rfl
    exact leaves_ok _
  all_goals simp_all

/-! Each form of a value by the character that it starts with. -/

theorem leaves_null (h : skipSpace s = 'n' :: 'u' :: 'l' :: 'l' :: r) :
    Leaves (skipValue s) r := by
  rw [skipValue]
  split
  case h_2 h' =>
    cases h.symm.trans h'
    exact leaves_ok _
  all_goals simp_all

theorem leaves_true (h : skipSpace s = 't' :: 'r' :: 'u' :: 'e' :: r) :
    Leaves (skipValue s) r := by
  rw [skipValue]
  split
  case h_3 h' =>
    cases h.symm.trans h'
    exact leaves_ok _
  all_goals simp_all

theorem leaves_false (h : skipSpace s = 'f' :: 'a' :: 'l' :: 's' :: 'e' :: r) :
    Leaves (skipValue s) r := by
  rw [skipValue]
  split
  case h_4 h' =>
    cases h.symm.trans h'
    exact leaves_ok _
  all_goals simp_all

theorem leaves_string (h : skipSpace s = '"' :: t) (body : Leaves (skipString t) r) :
    Leaves (skipValue s) r := by
  rw [skipValue]
  split
  case h_5 h' =>
    cases h.symm.trans h'
    obtain ⟨t', ht, rfl⟩ := body
    rw [ht]
    exact leaves_ok _
  all_goals simp_all

theorem leaves_negative (h : skipSpace s = '-' :: t) (number : Leaves (skipNumber t) r) :
    Leaves (skipValue s) r := by
  rw [skipValue]
  split
  case h_6 h' =>
    cases h.symm.trans h'
    obtain ⟨t', ht, rfl⟩ := number
    rw [ht]
    exact leaves_ok _
  all_goals simp_all

theorem leaves_number {c : Char} (h : skipSpace s = c :: t) (hc : c.isDigit = true)
    (number : Leaves (skipNumber (c :: t)) r) : Leaves (skipValue s) r := by
  have hletter (d : Char) (hd : d.isDigit = false) (u : List Char) : skipSpace s ≠ d :: u := by
    intro h'
    cases h.symm.trans h'
    rw [hc] at hd
    cases hd
  rw [skipValue]
  split
  case h_9 h' =>
    cases h.symm.trans h'
    rw [if_pos hc]
    apply number.bind
    rintro t' rfl
    exact leaves_ok _
  case h_1 h' => cases h.symm.trans h'
  all_goals exact absurd (by assumption) (hletter _ rfl _)

theorem leaves_emptyList (h : skipSpace s = '[' :: t) (close : skipSpace t = ']' :: r) :
    Leaves (skipValue s) r := by
  rw [skipValue]
  split
  case h_7 h' =>
    cases h.symm.trans h'
    split
    case h_2 h'' =>
      cases close.symm.trans h''
      exact leaves_ok _
    all_goals simp_all
  all_goals simp_all

theorem leaves_list {c : Char} (h : skipSpace s = '[' :: t) (front : skipSpace t = c :: u)
    (opens : c ≠ ']') (first : Leaves (skipValue t) v) (rest : Leaves (skipItems v) r) :
    Leaves (skipValue s) r := by
  rw [skipValue]
  split
  case h_7 h' =>
    cases h.symm.trans h'
    split
    case h_1 h'' => cases front.symm.trans h''
    case h_2 h'' =>
      cases front.symm.trans h''
      exact absurd rfl opens
    case h_3 =>
      apply first.bind
      rintro t' rfl
      apply rest.bind
      rintro v' rfl
      exact leaves_ok _
  all_goals simp_all

theorem leaves_emptyObject (h : skipSpace s = '\x7b' :: t) (close : skipSpace t = '\x7d' :: r) :
    Leaves (skipValue s) r := by
  rw [skipValue]
  split
  case h_8 h' =>
    cases h.symm.trans h'
    split
    case h_2 h'' =>
      cases close.symm.trans h''
      exact leaves_ok _
    all_goals simp_all
  all_goals simp_all

theorem leaves_object (h : skipSpace s = '\x7b' :: t) (front : skipSpace t = '"' :: u)
    (key : Leaves (skipKey t) v) (value : Leaves (skipValue v) w)
    (rest : Leaves (skipMembers w) r) : Leaves (skipValue s) r := by
  rw [skipValue]
  split
  case h_8 h' =>
    cases h.symm.trans h'
    split
    case h_1 h'' => cases front.symm.trans h''
    case h_2 h'' => cases front.symm.trans h''
    case h_3 =>
      apply key.bind
      rintro t' rfl
      apply value.bind
      rintro v' rfl
      apply rest.bind
      rintro w' rfl
      exact leaves_ok _
  all_goals simp_all

theorem leaves_itemsEnd (h : skipSpace s = ']' :: r) : Leaves (skipItems s) r := by
  rw [skipItems]
  split
  case h_2 h' =>
    cases h.symm.trans h'
    exact leaves_ok _
  all_goals simp_all

theorem leaves_items (h : skipSpace s = ',' :: t) (first : Leaves (skipValue t) u)
    (rest : Leaves (skipItems u) r) : Leaves (skipItems s) r := by
  rw [skipItems]
  split
  case h_3 h' =>
    cases h.symm.trans h'
    apply first.bind
    rintro t' rfl
    apply rest.bind
    rintro u' rfl
    exact leaves_ok _
  all_goals simp_all

theorem leaves_membersEnd (h : skipSpace s = '\x7d' :: r) : Leaves (skipMembers s) r := by
  rw [skipMembers]
  split
  case h_2 h' =>
    cases h.symm.trans h'
    exact leaves_ok _
  all_goals simp_all

theorem leaves_members (h : skipSpace s = ',' :: t) (key : Leaves (skipKey t) u)
    (value : Leaves (skipValue u) v) (rest : Leaves (skipMembers v) r) :
    Leaves (skipMembers s) r := by
  rw [skipMembers]
  split
  case h_3 h' =>
    cases h.symm.trans h'
    apply key.bind
    rintro t' rfl
    apply value.bind
    rintro u' rfl
    apply rest.bind
    rintro v' rfl
    exact leaves_ok _
  all_goals simp_all

end Steps

section Values

variable {v s r : List Char}

theorem Unsigned.head (h : Unsigned s) : ∃ c t, s = c :: t ∧ c.isDigit = true := by
  obtain ⟨counts, -, -⟩ := h
  cases counts with
  | zero => exact ⟨_, _, rfl, rfl⟩
  | digits first => exact ⟨_, _, rfl, first⟩

theorem not_isSpace_of_isDigit {c : Char} (h : c.isDigit = true) : isSpace c = false := by
  cases hspace : isSpace c with
  | false => rfl
  | true =>
    simp only [isSpace, Bool.or_eq_true, beq_iff_eq] at hspace
    rcases hspace with ((rfl | rfl) | rfl) | rfl <;> cases h

theorem ValueText.head (h : ValueText v) : ∃ c t, v = c :: t ∧ isSpace c = false ∧ c ≠ ']' := by
  cases h with
  | number h =>
    obtain ⟨c, t, rfl, hc⟩ := h.head
    exact ⟨c, t, rfl, not_isSpace_of_isDigit hc, Decimal.ne_of_isDigit hc rfl⟩
  | _ => exact ⟨_, _, rfl, rfl, by decide⟩

def Skippable (v : List Char) : Prop :=
  ∀ b r, Spaces b → Follows r → Leaves (skipValue (b ++ (v ++ r))) r

theorem follows_items {α : Type} (text : α → List Char) (l : List α) {c : Char}
    (hc : c = ']' ∨ c = '\x7d') (r : List Char) :
    Follows (l.flatMap (fun a => ',' :: text a) ++ c :: r) := by
  intro d hd
  cases l with
  | nil =>
    cases hd
    rcases hc with rfl | rfl <;> simp
  | cons a l =>
    cases hd
    simp

theorem Skippable.leaves_item {i : Item} (h : Skippable i.value) (hr : Follows r) :
    Leaves (skipValue (i.text ++ r)) (i.after ++ r) := by
  unfold Item.text
  rw [List.append_assoc, List.append_assoc]
  exact h _ _ i.spaces_before (i.spaces_after.follows hr)

theorem leaves_skipItems (items : List Item) (values : ∀ i ∈ items, Skippable i.value)
    {b : List Char} (hb : Spaces b) (r : List Char) :
    Leaves (skipItems (b ++ (items.flatMap (fun i => ',' :: i.text) ++ ']' :: r))) r := by
  induction items generalizing b with
  | nil =>
    apply leaves_itemsEnd
    exact skipSpace_of_spaces hb rfl r
  | cons i items ih =>
    obtain ⟨hi, hitems⟩ := List.forall_mem_cons.mp values
    have hrest := ih hitems i.spaces_after
    have hfirst := hi.leaves_item (follows_items Item.text items (.inl rfl) r)
    rw [List.flatMap_cons, List.cons_append, List.cons_append, List.append_assoc]
    apply leaves_items _ hfirst hrest
    exact skipSpace_of_spaces hb rfl _

theorem skipSpace_member (m : Member) (r : List Char) :
    skipSpace (m.text ++ r) = '"' :: (m.fromKey ++ r) := by
  unfold Member.text
  rw [List.append_assoc]
  exact skipSpace_of_spaces m.spaces_before rfl _

theorem fromKey_append (m : Member) (r : List Char) :
    m.fromKey ++ r = closed m.key ++ (m.behindKey ++ ':' :: (m.item.text ++ r)) := by
  simp [Member.fromKey]

theorem skipSpace_behindKey (m : Member) (r : List Char) :
    skipSpace (m.behindKey ++ ':' :: (m.item.text ++ r)) = ':' :: (m.item.text ++ r) :=
  skipSpace_of_spaces m.spaces_behindKey rfl _

theorem leaves_skipKey_member (m : Member) (r : List Char) :
    Leaves (skipKey (m.text ++ r)) (m.item.text ++ r) := by
  have hkey := leaves_skipString m.key (m.behindKey ++ ':' :: (m.item.text ++ r))
  rw [← fromKey_append] at hkey
  exact leaves_skipKey (skipSpace_member m r) hkey (skipSpace_behindKey m r)

theorem leaves_skipMembers (members : List Member) (values : ∀ m ∈ members, Skippable m.item.value)
    {b : List Char} (hb : Spaces b) (r : List Char) :
    Leaves (skipMembers (b ++ (members.flatMap (fun m => ',' :: m.text) ++ '\x7d' :: r))) r := by
  induction members generalizing b with
  | nil =>
    apply leaves_membersEnd
    exact skipSpace_of_spaces hb rfl r
  | cons m members ih =>
    obtain ⟨hm, hmembers⟩ := List.forall_mem_cons.mp values
    have hrest := ih hmembers m.item.spaces_after
    have hfirst := hm.leaves_item (follows_items Member.text members (.inr rfl) r)
    rw [List.flatMap_cons, List.cons_append, List.cons_append, List.append_assoc]
    apply leaves_members _ (leaves_skipKey_member m _) hfirst hrest
    exact skipSpace_of_spaces hb rfl _

theorem skippable_word {w : List Char} {c : Char} (hc : isSpace c = false)
    (step : ∀ s r, skipSpace s = c :: (w ++ r) → Leaves (skipValue s) r) :
    Skippable (c :: w) := by
  intro b r hb hr
  apply step
  exact skipSpace_of_spaces hb hc _

/-- Well-formed values are skipped. The induction is on how the value is put together. -/
theorem ValueText.skippable (h : ValueText v) : Skippable v := by
  induction h with
  | null => exact skippable_word rfl fun s r => leaves_null
  | yes => exact skippable_word rfl fun s r => leaves_true
  | no => exact skippable_word rfl fun s r => leaves_false
  | string parts =>
    exact skippable_word rfl fun s r hs => leaves_string hs (leaves_skipString parts r)
  | number h =>
    intro b r hb hr
    have hnumber := leaves_skipNumber h hr
    obtain ⟨c, t, rfl, hc⟩ := h.head
    apply leaves_number _ hc hnumber
    exact skipSpace_of_spaces hb (not_isSpace_of_isDigit hc) _
  | negative h =>
    intro b r hb hr
    apply leaves_negative _ (leaves_skipNumber h hr)
    exact skipSpace_of_spaces hb rfl _
  | @array items body listed values ih =>
    apply skippable_word rfl
    intro s r hs
    rw [List.append_assoc] at hs
    cases listed with
    | none spaces =>
      apply leaves_emptyList hs
      exact skipSpace_of_spaces spaces rfl r
    | some first rest =>
      obtain ⟨hfirst, hrest⟩ := List.forall_mem_cons.mp ih
      obtain ⟨c, t, hvalue, hspace, hclose⟩ := (values first List.mem_cons_self).head
      have hitems := leaves_skipItems rest hrest first.spaces_after r
      have hitem := hfirst.leaves_item (follows_items Item.text rest (.inl rfl) r)
      have front (q : List Char) : skipSpace (first.text ++ q) = c :: (t ++ first.after ++ q) := by
        unfold Item.text
        rw [List.append_assoc, hvalue]
        exact skipSpace_of_spaces first.spaces_before hspace _
      rw [List.append_assoc, List.singleton_append] at hs
      exact leaves_list hs (front _) hclose hitem hitems
  | @object members body listed values ih =>
    apply skippable_word rfl
    intro s r hs
    rw [List.append_assoc] at hs
    cases listed with
    | none spaces =>
      apply leaves_emptyObject hs
      exact skipSpace_of_spaces spaces rfl r
    | some first rest =>
      obtain ⟨hfirst, hrest⟩ := List.forall_mem_cons.mp ih
      have hmembers := leaves_skipMembers rest hrest first.item.spaces_after r
      have hitem := hfirst.leaves_item (follows_items Member.text rest (.inr rfl) r)
      rw [List.append_assoc, List.singleton_append] at hs
      exact leaves_object hs (skipSpace_member first _) (leaves_skipKey_member first _) hitem
        hmembers

end Values

end BeanRules.Json
