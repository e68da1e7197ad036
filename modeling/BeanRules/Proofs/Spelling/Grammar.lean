import BeanRules.Proofs.Spelling.Brackets

/-!
How types are spelled in full, by the parts that a spelling is put together from. Paths go with or
without parameters; around them stand tuples, arrays, slices, references, pointers, functions and
trait objects. Every spelling closes the brackets that it opens.
-/
namespace BeanRules.Spelling

open Text (Balanced IsEnding isBracket closing?)

/-- Of other scripts than ASCII any character does: no mark of a spelling is among them. -/
def startsWord (c : Char) : Bool := c.isAlpha || c == '_' || decide (0x80 ≤ c.toNat)

def continuesWord (c : Char) : Bool := startsWord c || c.isDigit

def isWord : List Char → Bool
  | [] => false
  | c :: rest => startsWord c && rest.all continuesWord

/-- What has no identifier of its own, such as a closure, is named by its sort. -/
inductive Segment : List Char → Prop where
  | named {w : List Char} (word : isWord w = true) : Segment w
  | unnamed {w : List Char} (word : isWord w = true) :
      Segment ('\x7b' :: ('\x7b' :: (w ++ ['\x7d']) ++ ['\x7d']))

inductive PathOf (part : List Char → Prop) : List Char → Prop where
  | nil : PathOf part []
  | cons {w p : List Char} (first : part w) (rest : PathOf part p) :
      PathOf part (w ++ ':' :: ':' :: p)

def ModulePath : List Char → Prop := PathOf fun w => isWord w = true

def commas (l : List (List Char)) : List Char := [',', ' '].intercalate l

/-- What stands behind the name of a function: parameters, possibly open-ended, and a result. -/
structure Prototype where
  params : List (List Char)
  variadic : Bool
  result : Option (List Char)

namespace Prototype

def types (k : Prototype) : List (List Char) := k.params ++ k.result.toList

def arguments (k : Prototype) : List Char :=
  commas (k.params ++ if k.variadic then [['.', '.', '.']] else [])

def arrow (k : Prototype) : List Char :=
  match k.result with
  | none => []
  | some r => [' ', '-', '>', ' '] ++ r

def text (k : Prototype) : List Char := '(' :: (k.arguments ++ ')' :: k.arrow)

end Prototype

inductive FunctionHead : List Char → Prop where
  | native : FunctionHead "fn".toList
  | foreign {convention : List Char} (present : convention ≠ [])
      (chars : ∀ c ∈ convention, continuesWord c = true ∨ c = '-') :
      FunctionHead ("extern \"".toList ++ (convention ++ "\" fn".toList))

def safetyWords : List (List Char) := [[], "unsafe ".toList]

def pointerWords : List (List Char) :=
  ["&".toList, "&mut ".toList, "*const ".toList, "*mut ".toList]

/-- A tuple of one is told from brackets by a comma. -/
def tupleItems : List (List Char) → List Char
  | [s] => s ++ [',']
  | items => commas items

/-- With a path in front, as the traits of an object are always spelled. -/
def Qualified (s : List Char) : Prop := ∃ w rest, Segment w ∧ s = w ++ ':' :: ':' :: rest

/-- A type as it is spelled in full. Callable is the trait of a function with the types of it. -/
inductive TypeText : List Char → Prop where
  | never : TypeText ['!']
  | named {p n : List Char} (path : PathOf Segment p) (name : Segment n) : TypeText (p ++ n)
  | applied {p n : List Char} {args : List (List Char)} (path : PathOf Segment p)
      (name : Segment n) (present : args ≠ []) (types : ∀ a ∈ args, TypeText a) :
      TypeText (p ++ n ++ '<' :: (commas args ++ ['>']))
  | callable {p n : List Char} {k : Prototype} (path : PathOf Segment p) (name : Segment n)
      (types : ∀ a ∈ k.types, TypeText a) : TypeText (p ++ n ++ k.text)
  | function {safety head : List Char} {k : Prototype} (safe : safety ∈ safetyWords)
      (keyword : FunctionHead head) (types : ∀ a ∈ k.types, TypeText a) :
      TypeText (safety ++ head ++ k.text)
  | pointer {w s : List Char} (word : w ∈ pointerWords) (target : TypeText s) : TypeText (w ++ s)
  | object {bounds : List (List Char)} (present : bounds ≠ [])
      (types : ∀ a ∈ bounds, TypeText a) (qualified : ∀ a ∈ bounds, Qualified a) :
      TypeText ("dyn ".toList ++ [' ', '+', ' '].intercalate bounds)
  | tuple {items : List (List Char)} (types : ∀ a ∈ items, TypeText a) :
      TypeText ('(' :: (tupleItems items ++ [')']))
  | slice {s : List Char} (item : TypeText s) : TypeText ('[' :: (s ++ [']']))
  | array {s length : List Char} (item : TypeText s) (present : length ≠ [])
      (digits : ∀ c ∈ length, c.isDigit = true) :
      TypeText ('[' :: (s ++ ([';', ' '] ++ length) ++ [']']))

section Parts

variable {s w p n a b : List Char} {c : Char}

def isBare (c : Char) : Bool := c != ':' && !isBracket c

def Bare (s : List Char) : Prop := s.all isBare = true

theorem mem_marks_of_not_isBare (h : isBare c = false) :
    c ∈ [':', '(', ')', '[', ']', '\x7b', '\x7d'] := by
  unfold isBare isBracket Text.isClosing closing? at h
  grind

theorem isBare_of_continuesWord (h : continuesWord c = true) : isBare c = true := by
  by_contra hmark
  have hmem := mem_marks_of_not_isBare (Bool.eq_false_iff.mpr hmark)
  simp only [List.mem_cons, List.not_mem_nil, or_false] at hmem
  rcases hmem with rfl | rfl | rfl | rfl | rfl | rfl | rfl <;> cases h

theorem Bare.append (ha : Bare a) (hb : Bare b) : Bare (a ++ b) := by
  unfold Bare
  rw [List.all_append, ha, hb]
  rfl

theorem Bare.balanced (h : Bare s) : Balanced s := by
  apply Text.balanced_of_plain
  intro c hc
  simpa using (Bool.and_eq_true_iff.mp (List.all_eq_true.mp h c hc)).2

theorem Bare.colon_not_mem (h : Bare s) : ':' ∉ s := by
  intro hc
  cases List.all_eq_true.mp h ':' hc

theorem bare_of_continuesWord (h : ∀ c ∈ s, continuesWord c = true) : Bare s :=
  List.all_eq_true.mpr fun c hc => isBare_of_continuesWord (h c hc)

theorem bare_of_isWord (h : isWord w = true) : Bare w := by
  cases w with
  | nil => cases h
  | cons c rest =>
    obtain ⟨hc, hrest⟩ := Bool.and_eq_true_iff.mp h
    apply bare_of_continuesWord
    exact List.forall_mem_cons.mpr ⟨by simp [continuesWord, hc], List.all_eq_true.mp hrest⟩

theorem bare_of_isDigit (h : ∀ c ∈ s, c.isDigit = true) : Bare s :=
  bare_of_continuesWord fun c hc => by simp [continuesWord, h c hc]

theorem FunctionHead.bare (h : FunctionHead s) : Bare s := by
  cases h with
  | native => rfl
  | foreign present chars =>
    have hconvention := List.all_eq_true.mpr fun c hc =>
      (chars c hc).elim isBare_of_continuesWord fun hdash => by rw [hdash]; rfl
    exact Bare.append rfl (Bare.append hconvention rfl)

theorem bare_of_mem_safetyWords : ∀ s ∈ safetyWords, Bare s := by
  unfold Bare
  decide

theorem bare_of_mem_pointerWords : ∀ s ∈ pointerWords, Bare s := by
  unfold Bare
  decide

theorem Segment.balanced (h : Segment n) : Balanced n := by
  cases h with
  | named word => exact (bare_of_isWord word).balanced
  | unnamed word => exact ((bare_of_isWord word).balanced.enclosed rfl).enclosed rfl

theorem Segment.colon_not_mem (h : Segment n) : ':' ∉ n := by
  cases h with
  | named word => exact (bare_of_isWord word).colon_not_mem
  | unnamed word => simpa using (bare_of_isWord word).colon_not_mem

theorem PathOf.balanced {part : List Char → Prop} (h : PathOf part p)
    (parts : ∀ w, part w → Balanced w) : Balanced p := by
  induction h with
  | nil => exact Text.balanced_nil
  | cons first rest ih => exact (parts _ first).append ih

theorem PathOf.balanced_of_segments (h : PathOf Segment p) : Balanced p :=
  h.balanced fun _ => Segment.balanced

theorem PathOf.eq_nil_or {part : List Char → Prop} (h : PathOf part p) :
    p = [] ∨ ∃ q, p = q ++ [':', ':'] := by
  induction h with
  | nil => exact .inl rfl
  | @cons w p first rest ih =>
    rcases ih with rfl | ⟨q, rfl⟩
    · exact .inr ⟨w, rfl⟩
    · exact .inr ⟨w ++ ':' :: ':' :: q, by simp⟩

theorem ModulePath.balanced (h : ModulePath p) : Balanced p :=
  PathOf.balanced h fun _ word => (bare_of_isWord word).balanced

end Parts

section Lasting

/-- A property that texts without marks have and that is not lost when texts are put together. -/
structure Lasting (holds : List Char → Prop) : Prop where
  bare : ∀ s, Bare s → holds s
  append : ∀ a b, holds a → holds b → holds (a ++ b)

variable {holds : List Char → Prop} {l : List (List Char)} {k : Prototype}

theorem Lasting.intercalate (h : Lasting holds) {sep : List Char} (separator : Bare sep)
    (items : ∀ a ∈ l, holds a) : holds (sep.intercalate l) :=
  Text.intercalate_of_append (h.bare [] rfl) (h.bare sep separator) h.append items

theorem Lasting.commas (h : Lasting holds) (items : ∀ a ∈ l, holds a) :
    holds (Spelling.commas l) :=
  h.intercalate rfl items

theorem Lasting.tupleItems (h : Lasting holds) (items : ∀ a ∈ l, holds a) :
    holds (Spelling.tupleItems l) := by
  unfold Spelling.tupleItems
  split
  · exact h.append _ _ (items _ List.mem_cons_self) (h.bare _ rfl)
  · exact h.commas items

theorem Lasting.arguments (h : Lasting holds) (types : ∀ a ∈ k.types, holds a) :
    holds k.arguments := by
  apply h.commas
  intro a ha
  rcases List.mem_append.mp ha with hparam | hmore
  · exact types a (List.mem_append_left _ hparam)
  · split at hmore
    · cases List.mem_singleton.mp hmore
      exact h.bare _ rfl
    · cases hmore

theorem Lasting.arrow (h : Lasting holds) (types : ∀ a ∈ k.types, holds a) : holds k.arrow := by
  unfold Prototype.arrow
  split
  · exact h.bare _ rfl
  next r hresult =>
    have hr : r ∈ k.types := List.mem_append_right _ (by simp [hresult])
    exact h.append _ _ (h.bare _ rfl) (types r hr)

end Lasting

section Balance

variable {s : List Char} {l : List (List Char)} {k : Prototype}

theorem lasting_balanced : Lasting Balanced := ⟨fun _ => Bare.balanced, fun _ _ => Balanced.append⟩

theorem lasting_isEnding : Lasting IsEnding :=
  ⟨fun _ h => h.balanced.isEnding, fun _ _ => IsEnding.append⟩

theorem Prototype.text_eq (k : Prototype) : k.text = '(' :: (k.arguments ++ [')']) ++ k.arrow := by
  simp [text]

theorem Prototype.balanced_text (h : ∀ a ∈ k.types, Balanced a) : Balanced k.text := by
  rw [text_eq]
  exact ((lasting_balanced.arguments h).enclosed rfl).append (lasting_balanced.arrow h)

theorem TypeText.balanced (h : TypeText s) : Balanced s := by
  induction h with
  | never => rfl
  | named path name => exact path.balanced_of_segments.append name.balanced
  | applied path name present types ih =>
    have hargs := (lasting_balanced.commas ih).append (b := ['>']) rfl
    exact (path.balanced_of_segments.append name.balanced).append
      (Balanced.append (a := ['<']) rfl hargs)
  | callable path name types ih =>
    exact (path.balanced_of_segments.append name.balanced).append (Prototype.balanced_text ih)
  | function safe keyword types ih =>
    have hfront := (bare_of_mem_safetyWords _ safe).append keyword.bare
    exact hfront.balanced.append (Prototype.balanced_text ih)
  | pointer word target ih => exact (bare_of_mem_pointerWords _ word).balanced.append ih
  | object present types qualified ih =>
    exact Balanced.append rfl (lasting_balanced.intercalate rfl ih)
  | tuple types ih => exact (lasting_balanced.tupleItems ih).enclosed rfl
  | slice item ih => exact ih.enclosed rfl
  | array item present digits ih =>
    have hlength := Bare.append (a := [';', ' ']) rfl (bare_of_isDigit digits)
    exact (ih.append hlength.balanced).enclosed rfl

end Balance

end BeanRules.Spelling
