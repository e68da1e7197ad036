import BeanRules.Pattern.Escape

/-!
Character classes in brackets, read from behind the opening bracket.
-/
namespace BeanRules.Pattern

open Text (Rest Tail)

/-- A named class, read from behind its bracket. What does not have the form of one is no class. -/
def posixClass? (s : List Char) : Option (CharSet × Tail s) :=
  match s with
  | ':' :: '^' :: r => (closed? r).map fun (set, t) => (set.compl, .cons ':' (.cons '^' t))
  | ':' :: r => (closed? r).map fun (set, t) => (set, .cons ':' t)
  | _ => none
where
  closed? (s : List Char) : Option (CharSet × Tail s) :=
    match Tail.dropWhile (· != ':') s with
    | ⟨':' :: ']' :: r, h⟩ =>
      (CharSet.named? (String.ofList (s.takeWhile (· != ':')))).map fun set =>
        (set, .of h (.cons ':' (.cons ']' (.whole r))))
    | _ => none

def bracketItem (f : Flags) (c : Char) (r : List Char) : Except Fault (Expr × Rest (c :: r)) :=
  if c = '\\' then do
    let (e, t) ← escape f r
    return (e, .cons c t)
  else .ok (.char c, .cons c (.whole r))

def bracketRange (a b : Expr) : Except Fault CharSet :=
  match a.toChar?, b.toChar? with
  | some lo, some hi => if lo ≤ hi then .ok (.range lo hi) else .error .classRangeReversed
  | _, _ => .error .classRangeSide

/-- An item, or a range if a dash follows that neither ends the class nor starts a difference. -/
def bracketMember (f : Flags) (c : Char) (r : List Char) :
    Except Fault (CharSet × Rest (c :: r)) := do
  let (a, t) ← bracketItem f c r
  let t := t.andThen (f.skipped t.text)
  let alone : Except Fault (CharSet × Rest (c :: r)) :=
    match a.toSet? with
    | none => .error .classAssertion
    | some set => .ok (set, t)
  match t with
  | ⟨[], _⟩ => .error .classItemUnclosed
  | ⟨'-' :: u, h⟩ =>
    if f.peek? u = some ']' ∨ f.peek? u = some '-' then alone
    else
      match h' : f.skip u with
      | [] => .error .classDashUnclosed
      | d :: v =>
        let (b, w) ← bracketItem f d v
        let set ← bracketRange a b
        return (set, .of h (.cons '-' (f.afterSkip h' w)))
  | _ => alone

def bracketBody (f : Flags) (held : CharSet) (s : List Char) : Except Fault (CharSet × Tail s) :=
  match h : f.skip s with
  | [] => .error .classUnclosed
  | ']' :: r => .ok (held, f.afterSkip h (.cons ']' (.whole r)))
  | '&' :: '&' :: _ => .error .classIntersection
  | '-' :: '-' :: _ => .error .classDifference
  | '~' :: '~' :: _ => .error .classSymmetricDifference
  | '[' :: r =>
    match posixClass? r with
    | none => .error .classNested
    | some (set, t) => do
      let (all, u) ← bracketBody f (held.union set) t.text
      return (all, f.afterSkip h (.cons '[' (t.andThen u)))
  | c :: r => do
    let (set, t) ← bracketMember f c r
    let (all, u) ← bracketBody f (held.union set) t.text
    return (all, f.afterSkip h (t.andThen u))
termination_by s.length
decreasing_by all_goals grind [Rest, Tail, → Flags.length_lt_of_skip]

def leadingDashes (f : Flags) (s : List Char) : Except Fault (Tail s) :=
  match s with
  | '-' :: r =>
    match h : f.skip r with
    | [] => .error .classDashUnclosed
    | c :: t => do
      let u ← leadingDashes f (c :: t)
      return .cons '-' (f.afterSkip h u)
  | s => .ok (.whole s)
termination_by s.length
decreasing_by grind [→ Flags.length_lt_of_skip]

/-- A closing bracket at the front is literal too, unless dashes stand before it. -/
def bracketMembers (f : Flags) (c : Char) (r : List Char) :
    Except Fault (CharSet × Tail (c :: r)) :=
  if c = '-' then do
    let t ← leadingDashes f (c :: r)
    let (set, u) ← bracketBody f (.single '-') t.text
    return (set, t.andThen u)
  else if c = ']' then
    match h : f.skip r with
    | [] => .error .classBracketUnclosed
    | d :: t => do
      let (set, u) ← bracketBody f (.single ']') (d :: t)
      return (set, .cons c (f.afterSkip h u))
  else bracketBody f .nothing (c :: r)

/-- Case is ignored in the members, before a negation takes the other characters. -/
def bracket (f : Flags) (s : List Char) : Except Fault (Expr × Tail s) := do
  let finish (negated : Bool) (members : CharSet) : Expr :=
    let set := if f.ignoreCase then members.anyCase else members
    .set (if negated then set.compl else set)
  match h : f.skip s with
  | [] => .error .classUnclosed
  | '^' :: r =>
    match h' : f.skip r with
    | [] => .error .classNegatedUnclosed
    | c :: t =>
      let (members, u) ← bracketMembers f c t
      return (finish true members, f.afterSkip h (.cons '^' (f.afterSkip h' u)))
  | c :: r =>
    let (members, t) ← bracketMembers f c r
    return (finish false members, f.afterSkip h t)

end BeanRules.Pattern
