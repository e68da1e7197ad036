/-!
Sets of characters, as brackets and class escapes denote them. A set is a list of spans of code
points in ascending order, none of which touches the next.
-/
namespace BeanRules.Pattern

structure Span where
  lo : Nat
  hi : Nat
deriving DecidableEq

namespace Span

def ofChars (lo hi : Char) : Span := ⟨lo.toNat, hi.toNat⟩

def mem (s : Span) (c : Char) : Bool := decide (s.lo ≤ c.toNat) && decide (c.toNat ≤ s.hi)

def hull (s t : Span) : Span := ⟨min s.lo t.lo, max s.hi t.hi⟩

def meet? (s t : Span) : Option Span :=
  let both : Span := ⟨max s.lo t.lo, min s.hi t.hi⟩
  if both.lo ≤ both.hi then some both else none

/-- The lower-case ASCII letters of the span in upper case. A span without any gives its upper-case
letters in lower case. -/
def otherCase? (s : Span) : Option Span :=
  match s.meet? (ofChars 'a' 'z') with
  | some t => some ⟨t.lo - 32, t.hi - 32⟩
  | none => (s.meet? (ofChars 'A' 'Z')).map fun t => ⟨t.lo + 32, t.hi + 32⟩

end Span

structure CharSet where
  spans : List Span
deriving DecidableEq

/-- None of the spans is empty, and the first starts at `lo` or later and each other behind the one
before it. -/
def Ascending (lo : Nat) : List Span → Prop
  | [] => True
  | s :: r => lo ≤ s.lo ∧ s.lo ≤ s.hi ∧ Ascending (s.hi + 1) r

theorem Ascending.of_le {lo lo' : Nat} {l : List Span} (h : Ascending lo l) (hle : lo' ≤ lo) :
    Ascending lo' l := by
  cases l with
  | nil => trivial
  | cons s r => exact ⟨Nat.le_trans hle h.1, h.2⟩

theorem Ascending.le_of_mem {lo : Nat} {l : List Span} (h : Ascending lo l) (c : Char)
    (hc : l.any (·.mem c)) : lo ≤ c.toNat := by
  induction l generalizing lo with
  | nil => simp at hc
  | cons s r ih =>
    have := h.1
    have := h.2.1
    have := ih h.2.2
    rw [List.any_cons] at hc
    generalize r.any (·.mem c) = q at *
    cases q <;> grind [Span.mem]

/-- Spans that overlap or touch become one. -/
def insertSpan (s : Span) : List Span → List Span
  | [] => [s]
  | t :: r =>
    if s.hi + 1 < t.lo then s :: t :: r
    else if t.hi + 1 < s.lo then t :: insertSpan s r
    else insertSpan (s.hull t) r

theorem any_mem_insertSpan (s : Span) (l : List Span) (c : Char) :
    (insertSpan s l).any (·.mem c) = (s.mem c || l.any (·.mem c)) := by
  induction l generalizing s with
  | nil => rfl
  | cons t r ih =>
    rw [insertSpan]
    split
    · rfl
    · split
      · rw [List.any_cons, List.any_cons, ih, Bool.or_left_comm]
      · rw [ih, List.any_cons, ← Bool.or_assoc]
        congr 1
        grind [Span.mem, Span.hull]

theorem ascending_insertSpan {lo : Nat} {s : Span} {l : List Span} (hs : lo ≤ s.lo ∧ s.lo ≤ s.hi)
    (hl : Ascending lo l) : Ascending lo (insertSpan s l) := by
  induction l generalizing s lo with
  | nil => exact ⟨hs.1, hs.2, trivial⟩
  | cons t r ih =>
    obtain ⟨h₁, h₂, h₃⟩ := hl
    rw [insertSpan]
    split
    · exact ⟨hs.1, hs.2, by omega, h₂, h₃⟩
    · split
      · exact ⟨h₁, h₂, ih ⟨by omega, hs.2⟩ h₃⟩
      · refine ih (by grind [Span.hull]) (h₃.of_le (by omega))

def gapsFrom (lo : Nat) : List Span → List Span
  | [] => if lo ≤ 0x10FFFF then [⟨lo, 0x10FFFF⟩] else []
  | s :: r => if lo < s.lo then ⟨lo, s.lo - 1⟩ :: gapsFrom (s.hi + 1) r else gapsFrom (s.hi + 1) r

theorem any_mem_gapsFrom {lo : Nat} {l : List Span} (h : Ascending lo l) (c : Char) :
    (gapsFrom lo l).any (·.mem c) = (decide (lo ≤ c.toNat) && !l.any (·.mem c)) := by
  induction l generalizing lo with
  | nil =>
    have : c.toNat ≤ 0x10FFFF := by have := c.valid; rw [Char.toNat]; grind
    rw [gapsFrom]
    split
    · simp [Span.mem, this]
    · simp; omega
  | cons s r ih =>
    have hr := ih h.2.2
    have hc := h.2.2.le_of_mem c
    have := h.1
    have := h.2.1
    rw [gapsFrom, List.any_cons]
    split
    · rw [List.any_cons, hr]
      generalize r.any (·.mem c) = q at *
      cases q <;> grind [Span.mem]
    · rw [hr]
      generalize r.any (·.mem c) = q at *
      cases q <;> grind [Span.mem]

namespace CharSet

def mem (a : CharSet) (c : Char) : Bool := a.spans.any (·.mem c)

def nothing : CharSet := ⟨[]⟩

def range (lo hi : Char) : CharSet := ⟨[.ofChars lo hi]⟩

def single (c : Char) : CharSet := range c c

def addSpans (a : CharSet) (l : List Span) : CharSet := ⟨l.foldr insertSpan a.spans⟩

theorem mem_addSpans (a : CharSet) (l : List Span) (c : Char) :
    (a.addSpans l).mem c = (l.any (·.mem c) || a.mem c) := by
  induction l with
  | nil => rfl
  | cons s r ih =>
    rw [List.any_cons, Bool.or_assoc, ← ih]
    exact any_mem_insertSpan s _ c

theorem ascending_addSpans {a : CharSet} {l : List Span} (ha : Ascending 0 a.spans)
    (hl : ∀ s ∈ l, s.lo ≤ s.hi) : Ascending 0 (a.addSpans l).spans := by
  induction l with
  | nil => exact ha
  | cons s r ih =>
    exact ascending_insertSpan ⟨Nat.zero_le _, hl s (by simp)⟩ (ih fun t ht => hl t (by simp [ht]))

def union (a b : CharSet) : CharSet := a.addSpans b.spans

theorem mem_union (a b : CharSet) (c : Char) : (a.union b).mem c = (a.mem c || b.mem c) := by
  rw [union, mem_addSpans, Bool.or_comm]
  rfl

def ofRanges (l : List (Char × Char)) : CharSet :=
  nothing.addSpans (l.map fun (lo, hi) => .ofChars lo hi)

def compl (a : CharSet) : CharSet := ⟨gapsFrom 0 a.spans⟩

theorem mem_compl {a : CharSet} (h : Ascending 0 a.spans) (c : Char) :
    a.compl.mem c = !a.mem c := by
  rw [mem, compl, any_mem_gapsFrom h]
  simp [mem]

/-- Each span brings one case of its letters only, so what a set gains depends on which of its
members have become one span. -/
def anyCase (a : CharSet) : CharSet := a.addSpans (a.spans.filterMap Span.otherCase?)

def digit : CharSet := range '0' '9'

def word : CharSet := ofRanges [('0', '9'), ('A', 'Z'), ('_', '_'), ('a', 'z')]

def space : CharSet := ofRanges [('\t', '\r'), (' ', ' ')]

def named? : String → Option CharSet
  | "alnum" => some (ofRanges [('0', '9'), ('A', 'Z'), ('a', 'z')])
  | "alpha" => some (ofRanges [('A', 'Z'), ('a', 'z')])
  | "ascii" => some (range '\x00' '\x7f')
  | "blank" => some (ofRanges [('\t', '\t'), (' ', ' ')])
  | "cntrl" => some (ofRanges [('\x00', '\x1f'), ('\x7f', '\x7f')])
  | "digit" => some digit
  | "graph" => some (range '!' '~')
  | "lower" => some (range 'a' 'z')
  | "print" => some (range ' ' '~')
  | "punct" => some (ofRanges [('!', '/'), (':', '@'), ('[', '\x60'), ('\x7b', '~')])
  | "space" => some space
  | "upper" => some (range 'A' 'Z')
  | "word" => some word
  | "xdigit" => some (ofRanges [('0', '9'), ('A', 'F'), ('a', 'f')])
  | _ => none

end CharSet

end BeanRules.Pattern
