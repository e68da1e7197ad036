import BeanRules.Proofs.Json.Numbers
import BeanRules.Proofs.Json.Strings

/-!
Two documents are written alike only if they are the same. A value shows by its first character
which shape it has, and what may follow it never continues it, so a text falls into the parts it
was put together from in one way only.
-/
namespace BeanRules.Json

open Decimal (Binary64)

/-- A document without infinities and NaNs, which no number text stands for. -/
inductive Finite : Json → Prop
  | null : Finite .null
  | bool (b : Bool) : Finite (.bool b)
  | int (n : Int) : Finite (.int n)
  | float {x : Binary64} (h : x.isFinite = true) : Finite (.float x)
  | string (s : String) : Finite (.string s)
  | array {items : List Json} (h : ∀ j ∈ items, Finite j) : Finite (.array items)
  | object {members : List (String × Json)} (h : ∀ m ∈ members, Finite m.2) :
    Finite (.object members)

theorem finite_object_nil : (object []).Finite := .object (by simp)

theorem finite_object_append {l m : List (String × Json)} :
    (object (l ++ m)).Finite ↔ (object l).Finite ∧ (object m).Finite := by
  constructor
  · rintro ⟨⟩
    case object h =>
      rw [List.forall_mem_append] at h
      exact ⟨.object h.1, .object h.2⟩
  · rintro ⟨⟨⟩, ⟨⟩⟩
    case object.object hl hm => exact .object (List.forall_mem_append.mpr ⟨hl, hm⟩)

theorem finite_object_cons {k : String} {v : Json} {l : List (String × Json)} :
    (object ((k, v) :: l)).Finite ↔ v.Finite ∧ (object l).Finite := by
  constructor
  · rintro ⟨⟩
    case object h =>
      rw [List.forall_mem_cons] at h
      exact ⟨h.1, .object h.2⟩
  · rintro ⟨hv, ⟨⟩⟩
    case object hl => exact .object (List.forall_mem_cons.mpr ⟨hv, hl⟩)

/-! Shapes. -/

inductive Shape where
  | null
  | bool
  | number
  | string
  | array
  | object

def shape : Json → Shape
  | null => .null
  | bool _ => .bool
  | int _ => .number
  | float _ => .number
  | string _ => .string
  | array _ => .array
  | object _ => .object

def shapeAt? (c : Char) : Option Shape :=
  if isNumeric c then some .number
  else match c with
    | 'n' => some .null
    | 't' => some .bool
    | 'f' => some .bool
    | '"' => some .string
    | '[' => some .array
    | '\x7b' => some .object
    | _ => none

theorem shapeAt?_of_numeric {s : List Char} (hs : Numeric s) (hne : s ≠ []) :
    ∃ c t, s = c :: t ∧ shapeAt? c = some .number := by
  obtain ⟨c, t, rfl⟩ := List.exists_cons_of_ne_nil hne
  exact ⟨c, t, rfl, if_pos (numeric_cons.mp hs).1⟩

theorem Finite.shapeAt?_write {j : Json} (h : j.Finite) (sp : Spacing) (depth : Nat) :
    ∃ c t, j.write sp depth = c :: t ∧ shapeAt? c = some j.shape := by
  cases h with
  | null => exact ⟨'n', _, by rw [write], rfl⟩
  | bool b => cases b <;> exact ⟨_, _, by rw [write], rfl⟩
  | int n =>
    rw [write]
    apply shapeAt?_of_numeric (numeric_toString_int n)
    rw [toList_toString_int]
    exact List.append_ne_nil_of_right_ne_nil _ Nat.toDigits_ne_nil
  | float hx =>
    rw [write]
    apply shapeAt?_of_numeric (numeric_render hx)
    obtain ⟨c, hc, -⟩ := exists_isMark_render hx
    exact List.ne_nil_of_mem hc
  | string s => exact ⟨'"', _, by rw [write, writeString]; rfl, rfl⟩
  | @array items _ =>
    cases items with
    | nil => exact ⟨'[', _, by rw [write], rfl⟩
    | cons => exact ⟨'[', _, by rw [write]; rfl, rfl⟩
  | @object members _ =>
    cases members with
    | nil => exact ⟨'\x7b', _, by rw [write], rfl⟩
    | cons => exact ⟨'\x7b', _, by rw [write]; rfl, rfl⟩

/-! Parts. -/

section

variable {α : Type} (w : α → List Char)

def separated : List α → List Char
  | [] => []
  | [x] => w x
  | x :: r => w x ++ ',' :: separated r

def bracketed (opening : Char) (blank : List Char) (closing : Char) : List α → List Char
  | [] => [opening, closing]
  | x :: r => opening :: separated w (x :: r) ++ blank ++ [closing]

def Closes (r : List Char) : Prop := ∀ c ∈ r.head?, isNumeric c = false ∧ c ≠ ','

theorem Closes.ends {r : List Char} (h : Closes r) : Ends r := fun c hc => (h c hc).1

theorem Closes.ne_comma {r : List Char} (h : Closes r) (t : List Char) : r ≠ ',' :: t := by
  rintro rfl
  exact (h ',' (by simp)).2 rfl

/-- Two parts are told apart, whatever may follow them. -/
def Apart (x y : α) : Prop :=
  ∀ r q, Ends r → Ends q → w x ++ r = w y ++ q → x = y ∧ r = q

variable {w} {xs ys : List α} {r q : List Char}

/-- Lists fall into their parts in one way, if these do. -/
theorem separated_inj (hxs : xs ≠ []) (hys : ys ≠ []) (hw : ∀ x ∈ xs, ∀ y ∈ ys, Apart w x y)
    (hr : Closes r) (hq : Closes q) (h : separated w xs ++ r = separated w ys ++ q) :
    xs = ys ∧ r = q := by
  have hcomma (t : List Char) : Ends (',' :: t) := ends_cons (by decide)
  induction xs generalizing ys with
  | nil => exact absurd rfl hxs
  | cons x xs ih =>
    cases ys with
    | nil => exact absurd rfl hys
    | cons y ys =>
      have hxy := hw x List.mem_cons_self y List.mem_cons_self
      cases xs with
      | nil =>
        cases ys with
        | nil =>
          obtain ⟨rfl, hrest⟩ := hxy r q hr.ends hq.ends h
          exact ⟨rfl, hrest⟩
        | cons y' ys =>
          have hparts : w x ++ r = w y ++ ',' :: (separated w (y' :: ys) ++ q) := by
            simpa [separated] using h
          exact absurd (hxy _ _ hr.ends (hcomma _) hparts).2 (hr.ne_comma _)
      | cons x' xs =>
        cases ys with
        | nil =>
          have hparts : w x ++ ',' :: (separated w (x' :: xs) ++ r) = w y ++ q := by
            simpa [separated] using h
          exact absurd (hxy _ _ (hcomma _) hq.ends hparts).2.symm (hq.ne_comma _)
        | cons y' ys =>
          have hparts : w x ++ ',' :: (separated w (x' :: xs) ++ r) =
              w y ++ ',' :: (separated w (y' :: ys) ++ q) := by
            simpa [separated] using h
          obtain ⟨rfl, hrest⟩ := hxy _ _ (hcomma _) (hcomma _) hparts
          obtain ⟨htail, hrest⟩ := ih (List.cons_ne_nil x' xs) (List.cons_ne_nil y' ys)
            (fun a ha b hb => hw a (List.mem_cons_of_mem x ha) b (List.mem_cons_of_mem x hb))
            (List.cons.inj hrest).2
          exact ⟨congrArg (x :: ·) htail, hrest⟩

theorem bracketed_inj {opening closing : Char} {blank : List Char}
    (hw : ∀ x ∈ xs, ∀ y ∈ ys, Apart w x y)
    (hstart : ∀ x, x ∈ xs ∨ x ∈ ys → ∀ s t, w x ++ s ≠ closing :: t)
    (hblank : ∀ s, Closes (blank ++ closing :: s))
    (h : bracketed w opening blank closing xs ++ r = bracketed w opening blank closing ys ++ q) :
    xs = ys ∧ r = q := by
  have hfirst {x : α} (l : List α) (hx : x ∈ xs ∨ x ∈ ys) (s t : List Char) :
      separated w (x :: l) ++ s ≠ closing :: t := by
    cases l with
    | nil => exact hstart x hx s t
    | cons y l =>
      have hsplit : separated w (x :: y :: l) ++ s = w x ++ ',' :: (separated w (y :: l) ++ s) := by
        simp [separated]
      rw [hsplit]
      exact hstart x hx _ t
  cases xs with
  | nil =>
    cases ys with
    | nil => exact ⟨rfl, by simpa [bracketed] using h⟩
    | cons y ys =>
      have hbody : closing :: r = separated w (y :: ys) ++ (blank ++ closing :: q) := by
        simpa [bracketed] using h
      exact absurd hbody.symm (hfirst ys (.inr List.mem_cons_self) _ _)
  | cons x xs =>
    cases ys with
    | nil =>
      have hbody : separated w (x :: xs) ++ (blank ++ closing :: r) = closing :: q := by
        simpa [bracketed] using h
      exact absurd hbody (hfirst xs (.inl List.mem_cons_self) _ _)
    | cons y ys =>
      have hbody : separated w (x :: xs) ++ (blank ++ closing :: r) =
          separated w (y :: ys) ++ (blank ++ closing :: q) := by
        simpa [bracketed] using h
      obtain ⟨hparts, hrest⟩ := separated_inj (List.cons_ne_nil x xs) (List.cons_ne_nil y ys) hw
        (hblank r) (hblank q) hbody
      exact ⟨hparts, (List.cons.inj (List.append_cancel_left hrest)).2⟩

end

section

variable (sp : Spacing) (depth : Nat)

def itemText (j : Json) : List Char := sp.line depth ++ j.write sp depth

def memberText (m : String × Json) : List Char := sp.line depth ++ writeMember sp depth m

theorem writeItems_eq (items : List Json) :
    writeItems sp depth items = separated (itemText sp depth) items := by
  induction items with
  | nil => rw [writeItems, separated]
  | cons j items ih =>
    cases items with
    | nil => rw [writeItems, separated, itemText]
    | cons =>
      rw [writeItems, ih]
      · rfl
      · exact List.cons_ne_nil _ _

theorem writeMembers_eq (members : List (String × Json)) :
    writeMembers sp depth members = separated (memberText sp depth) members := by
  induction members with
  | nil => rw [writeMembers, separated]
  | cons m members ih =>
    cases members with
    | nil => rw [writeMembers, separated, memberText]
    | cons =>
      rw [writeMembers, ih]
      · rfl
      · exact List.cons_ne_nil _ _

theorem write_array (items : List Json) :
    (array items).write sp depth =
      bracketed (itemText sp (depth + 1)) '[' (sp.line depth) ']' items := by
  cases items with
  | nil => rw [write, bracketed]
  | cons => rw [write, bracketed, writeItems_eq]

theorem write_object (members : List (String × Json)) :
    (object members).write sp depth =
      bracketed (memberText sp (depth + 1)) '\x7b' (sp.line depth) '\x7d' members := by
  cases members with
  | nil => rw [write, bracketed]
  | cons => rw [write, bracketed, writeMembers_eq]

end

def Spacing.Blank (sp : Spacing) : Prop := ∀ depth, ∀ c ∈ sp.line depth, isSpace c = true

theorem Spacing.blank_tight : Spacing.tight.Blank := by
  simp [Blank, tight]

theorem Spacing.blank_indented : Spacing.indented.Blank := by
  intro depth
  refine List.forall_mem_cons.mpr ⟨by decide, fun c hc => ?_⟩
  rw [List.eq_of_mem_replicate hc]
  decide

section

variable {sp : Spacing} (hsp : sp.Blank)

include hsp

theorem closes_line (depth : Nat) {c : Char} (hc : isNumeric c = false ∧ c ≠ ',')
    (s : List Char) : Closes (sp.line depth ++ c :: s) := by
  have hblank := hsp depth
  cases hline : sp.line depth with
  | nil => simpa [Closes] using hc
  | cons b t =>
    have hb : isSpace b = true := hblank b (hline ▸ List.mem_cons_self)
    have hspace : isNumeric b = false ∧ b ≠ ',' := by
      simp only [isSpace, Bool.or_eq_true, beq_iff_eq] at hb
      rcases hb with ((rfl | rfl) | rfl) | rfl <;> decide
    simpa [Closes] using hspace

theorem line_append_ne (depth : Nat) {b c : Char} (hb : isSpace b = false) (hne : c ≠ b)
    (s t : List Char) : sp.line depth ++ c :: s ≠ b :: t := by
  have hblank := hsp depth
  intro h
  cases hline : sp.line depth with
  | nil =>
    rw [hline] at h
    exact hne (List.cons.inj h).1
  | cons d r =>
    rw [hline] at h
    have hd : isSpace d = true := hblank d (hline ▸ List.mem_cons_self)
    rw [(List.cons.inj h).1, hb] at hd
    cases hd

end

theorem Finite.shape_eq {j j' : Json} (hj : j.Finite) (hj' : j'.Finite) {sp : Spacing}
    {depth : Nat} {r q : List Char} (h : j.write sp depth ++ r = j'.write sp depth ++ q) :
    j.shape = j'.shape := by
  obtain ⟨c, t, htext, hshape⟩ := hj.shapeAt?_write sp depth
  obtain ⟨c', t', htext', hshape'⟩ := hj'.shapeAt?_write sp depth
  rw [htext, htext'] at h
  rw [(List.cons.inj h).1, hshape'] at hshape
  exact (Option.some.inj hshape).symm

theorem Finite.numeric_write {j : Json} (h : j.Finite) (hshape : j.shape = .number) (sp : Spacing)
    (depth : Nat) : Numeric (j.write sp depth) := by
  cases h with
  | int n =>
    rw [write]
    exact numeric_toString_int n
  | float hx =>
    rw [write]
    exact numeric_render hx
  | _ => cases hshape

theorem Finite.number_inj {j j' : Json} (hj : j.Finite) (hj' : j'.Finite)
    (hshape : j.shape = .number) (hshape' : j'.shape = .number) {sp : Spacing} {depth : Nat}
    {r q : List Char} (hr : Ends r) (hq : Ends q)
    (h : j.write sp depth ++ r = j'.write sp depth ++ q) : j = j' ∧ r = q := by
  obtain ⟨htext, hrest⟩ := numeric_append_inj (hj.numeric_write hshape sp depth)
    (hj'.numeric_write hshape' sp depth) hr hq h
  refine ⟨?_, hrest⟩
  cases hj with
  | int n =>
    cases hj' with
    | int m =>
      rw [write, write] at htext
      rw [toString_int_inj htext]
    | float hy =>
      rw [write, write] at htext
      exact absurd htext (toString_int_ne_render n hy)
    | _ => cases hshape'
  | float hx =>
    cases hj' with
    | int m =>
      rw [write, write] at htext
      exact absurd htext.symm (toString_int_ne_render m hx)
    | float hy =>
      rw [write, write] at htext
      rw [floatLayout.render_inj hx hy (String.toList_inj.mp htext)]
    | _ => cases hshape'
  | _ => cases hshape

theorem Finite.itemText_ne {j : Json} (h : j.Finite) {sp : Spacing} (hsp : sp.Blank) (depth : Nat)
    (s t : List Char) : itemText sp depth j ++ s ≠ ']' :: t := by
  obtain ⟨c, u, htext, hshape⟩ := h.shapeAt?_write sp depth
  have hnone : shapeAt? ']' = none := rfl
  have hne : c ≠ ']' := by
    rintro rfl
    rw [hnone] at hshape
    cases hshape
  rw [itemText, htext, List.append_assoc, List.cons_append]
  exact line_append_ne hsp depth (by decide) hne _ t

theorem memberText_ne {sp : Spacing} (hsp : sp.Blank) (depth : Nat) (m : String × Json)
    (s t : List Char) : memberText sp depth m ++ s ≠ '\x7d' :: t := by
  rw [memberText, writeMember, writeString, List.append_assoc]
  exact line_append_ne hsp depth (by decide) (by decide) _ t

/-- A document shows where it ends, and which document it is. -/
theorem Finite.write_inj {sp : Spacing} (hsp : sp.Blank) {j j' : Json} (hj : j.Finite)
    (hj' : j'.Finite) {depth : Nat} {r q : List Char} (hr : Ends r) (hq : Ends q)
    (h : j.write sp depth ++ r = j'.write sp depth ++ q) : j = j' ∧ r = q := by
  have hshape := hj.shape_eq hj' h
  induction hj generalizing j' depth r q with
  | null =>
    cases hj' with
    | null => exact ⟨rfl, List.append_cancel_left h⟩
    | _ => cases hshape
  | bool b =>
    cases hj' with
    | bool b' => cases b <;> cases b' <;> simp [write] at h <;> exact ⟨rfl, h⟩
    | _ => cases hshape
  | int n => exact number_inj (.int n) hj' rfl hshape.symm hr hq h
  | float hx => exact number_inj (.float hx) hj' rfl hshape.symm hr hq h
  | string s =>
    cases hj' with
    | string s' =>
      rw [write, write] at h
      obtain ⟨rfl, hrest⟩ := writeString_inj h
      exact ⟨rfl, hrest⟩
    | _ => cases hshape
  | @array items hitems ih =>
    cases hj' with
    | @array items' hitems' =>
      rw [write_array, write_array] at h
      have hapart : ∀ x ∈ items, ∀ y ∈ items', Apart (itemText sp (depth + 1)) x y := by
        intro x hx y hy r q hr hq htext
        rw [itemText, itemText, List.append_assoc, List.append_assoc] at htext
        have htext := List.append_cancel_left htext
        exact ih x hx (hitems' y hy) hr hq htext ((hitems x hx).shape_eq (hitems' y hy) htext)
      have hfinite : ∀ x, x ∈ items ∨ x ∈ items' → x.Finite :=
        fun x hx => hx.elim (hitems x) (hitems' x)
      obtain ⟨rfl, hrest⟩ := bracketed_inj hapart
        (fun x hx => (hfinite x hx).itemText_ne hsp (depth + 1))
        (closes_line hsp depth (by decide)) h
      exact ⟨rfl, hrest⟩
    | _ => cases hshape
  | @object members hmembers ih =>
    cases hj' with
    | @object members' hmembers' =>
      rw [write_object, write_object] at h
      have hapart : ∀ m ∈ members, ∀ n ∈ members', Apart (memberText sp (depth + 1)) m n := by
        rintro ⟨k, v⟩ hm ⟨l, w⟩ hn r q hr hq htext
        rw [memberText, memberText, List.append_assoc, List.append_assoc] at htext
        have hmember := List.append_cancel_left htext
        simp only [writeMember, List.append_assoc] at hmember
        obtain ⟨rfl, hbody⟩ := writeString_inj hmember
        have hvalue := List.append_cancel_left hbody
        obtain ⟨rfl, hrest⟩ :=
          ih _ hm (hmembers' _ hn) hr hq hvalue ((hmembers _ hm).shape_eq (hmembers' _ hn) hvalue)
        exact ⟨rfl, hrest⟩
      obtain ⟨rfl, hrest⟩ := bracketed_inj hapart
        (fun m _ => memberText_ne hsp (depth + 1) m) (closes_line hsp depth (by decide)) h
      exact ⟨rfl, hrest⟩
    | _ => cases hshape

theorem Finite.pretty_inj {j j' : Json} (hj : j.Finite) (hj' : j'.Finite)
    (h : j.pretty = j'.pretty) : j = j' := by
  have htext : j.write .indented 0 ++ [] = j'.write .indented 0 ++ [] := by
    simpa [pretty] using congrArg String.toList h
  exact (hj.write_inj Spacing.blank_indented hj' ends_nil ends_nil htext).1

theorem Finite.compact_inj {j j' : Json} (hj : j.Finite) (hj' : j'.Finite)
    (h : j.compact = j'.compact) : j = j' := by
  have htext : j.write .tight 0 ++ [] = j'.write .tight 0 ++ [] := by
    simpa [compact] using congrArg String.toList h
  exact (hj.write_inj Spacing.blank_tight hj' ends_nil ends_nil htext).1

end BeanRules.Json
