import BeanRules.Pattern.Reader
import BeanRules.Pattern.Window

/-!
Searching a text. In each window, an expression takes a set of starts to the set of ends that are
reachable from any of them. Between two windows it keeps marks where a character before the border
was its last one. Within a window no loop answers a start twice, so each place in an expression is
visited at most once for each position, however deep the repetitions around it are nested.
-/
namespace BeanRules.Pattern

/-- An expression with its counted repetitions written out. Its tests are numbered. -/
inductive Plan where
  /-- A test that takes its character. -/
  | consume (test : Nat)
  | hold (test : Nat)
  | sequence (es : List Plan)
  | choice (es : List Plan)
  /-- Any number of the parts, from the first on. -/
  | upTo (es : List Plan)
  /-- One round or more. -/
  | loop (e : Plan)

mutual

/-- The tests of an expression besides those that are known. -/
def Expr.tests (known : List Test) : Expr → List Test
  | .empty => known
  | .char c => known.insert (.char c)
  | .set s => known.insert (.set s)
  | .look l => known.insert (.look l)
  | .times _ _ e => e.tests known
  | .group e => e.tests known
  | .sequence es => testsOfAll known es
  | .choice es => testsOfAll known es

def testsOfAll (known : List Test) : List Expr → List Test
  | [] => known
  | e :: r => testsOfAll (e.tests known) r

end

mutual

def Expr.plan (tests : List Test) : Expr → Plan
  | .empty => .sequence []
  | .char c => .consume (tests.idxOf (.char c))
  | .set s => .consume (tests.idxOf (.set s))
  | .look l => .hold (tests.idxOf (.look l))
  | .times min max e =>
    let once := e.plan tests
    match min, max with
    | 0, none => .upTo [.loop once]
    | n + 1, none => .sequence (List.replicate n once ++ [.loop once])
    | n, some m => .sequence (List.replicate n once ++ [.upTo (List.replicate (m - n) once)])
  | .group e => e.plan tests
  | .sequence es => .sequence (planAll tests es)
  | .choice es => .choice (planAll tests es)

def planAll (tests : List Test) : List Expr → List Plan
  | [] => []
  | e :: r => e.plan tests :: planAll tests r

end

/-- What a plan remembers. Of the window before, only marks count; what loops have answered counts
in their own window alone. -/
inductive Memory where
  | blank
  /-- The character across the border was consumed. -/
  | mark
  | parts (l : List Memory)
  /-- The positions from which rounds have started. -/
  | loop (starts : Nat) (body : Memory)

namespace Memory

def isBlank : Memory → Bool
  | blank => true
  | _ => false

def isMark : Memory → Bool
  | mark => true
  | _ => false

def toParts : Memory → List Memory
  | parts l => l
  | _ => []

/-- The parts from those at the front, latest first, and the others. Blanks at the end are left
out. -/
def ofParts (front others : List Memory) : Memory :=
  match others with
  | [] =>
    match front.dropWhile isBlank with
    | [] => blank
    | l => parts l.reverse
  | _ => parts (front.reverseAux others)

def split : List Memory → Memory × List Memory
  | [] => (blank, [])
  | m :: r => (m, r)

def ofLoop (starts : Nat) (body : Memory) : Memory :=
  if starts = 0 ∧ body.isBlank then blank else loop starts body

def toLoop : Memory → Nat × Memory
  | loop starts body => (starts, body)
  | _ => (0, blank)

end Memory

/-- Rounds of a loop, each from the ends of the one before that no round has started from yet. A
window is opened by a round even if there is nothing to start from, as its body may have marks. -/
def goRound (ask : Bool → Memory → Nat → Memory × Nat) :
    Nat → (opening : Bool) → (body : Memory) → (starts fresh ends : Nat) → Memory × Nat
  | 0, _, body, starts, _, ends => (.ofLoop starts body, ends)
  | n + 1, opening, body, starts, fresh, ends =>
    if fresh = 0 ∧ (!opening ∨ body.isBlank) then (.ofLoop starts body, ends)
    else
      let (body, reached) := ask opening body fresh
      let starts := starts ||| fresh
      goRound ask n false body starts (without reached starts) (ends ||| reached)

mutual

/-- The positions reachable from `starts`, less some of those that have been answered before in this
window. On `opening` a window, marks are starts behind their character. The tests are given by the
positions that pass. -/
def Plan.ask (passing : Array Nat) (opening : Bool) :
    Plan → Memory → (starts : Nat) → Memory × Nat
  | .consume test, m, starts =>
    let ends := 2 * (starts &&& passing.getD test 0)
    let crosses := wholeWindow < ends || !opening && m.isMark
    let across := if opening && m.isMark then 1 else 0
    (if crosses then .mark else .blank, (ends &&& wholeWindow) ||| across)
  | .hold test, m, starts => (m, starts &&& passing.getD test 0)
  | .sequence es, m, starts => askInTurn passing opening es m.toParts [] starts
  | .choice es, m, starts => askEach passing opening es m.toParts [] starts 0
  | .upTo es, m, starts => askUpTo passing opening es m.toParts [] starts starts
  | .loop e, m, starts =>
    let (before, body) := m.toLoop
    let before := if opening then 0 else before
    goRound (fun opening m starts => e.ask passing opening m starts) (windowWidth + 2) opening
      body before (without starts before) 0

def askInTurn (passing : Array Nat) (opening : Bool) :
    List Plan → (others front : List Memory) → (starts : Nat) → Memory × Nat
  | [], others, front, starts => (.ofParts front others, starts)
  | e :: es, others, front, starts =>
    if starts = 0 ∧ (!opening ∨ others.isEmpty) then (.ofParts front others, 0)
    else
      let (m, others) := Memory.split others
      let (m, ends) := e.ask passing opening m starts
      askInTurn passing opening es others (m :: front) ends

def askEach (passing : Array Nat) (opening : Bool) :
    List Plan → (others front : List Memory) → (starts ends : Nat) → Memory × Nat
  | [], others, front, _, ends => (.ofParts front others, ends)
  | e :: es, others, front, starts, ends =>
    if starts = 0 ∧ (!opening ∨ others.isEmpty) then (.ofParts front others, ends)
    else
      let (m, others) := Memory.split others
      let (m, reached) := e.ask passing opening m starts
      askEach passing opening es others (m :: front) starts (ends ||| reached)

/-- A position that an earlier part has reached has the more parts before it. -/
def askUpTo (passing : Array Nat) (opening : Bool) :
    List Plan → (others front : List Memory) → (fresh ends : Nat) → Memory × Nat
  | [], others, front, _, ends => (.ofParts front others, ends)
  | e :: es, others, front, fresh, ends =>
    if fresh = 0 ∧ (!opening ∨ others.isEmpty) then (.ofParts front others, ends)
    else
      let (m, others) := Memory.split others
      let (m, reached) := e.ask passing opening m fresh
      askUpTo passing opening es others (m :: front) (without reached ends) (ends ||| reached)

end

/-- Whether a match that starts in these windows or is under way ends in them. -/
def Plan.endsIn (e : Plan) (tests : List Test) (m : Memory) : List (List Place) → Bool
  | [] => false
  | window :: r =>
    let passing := (tests.map fun t => positions t.passes window).toArray
    let everywhere := positions (fun _ => true) window
    let (m, ends) := e.ask passing true m everywhere
    ends != 0 || e.endsIn tests m r

def Expr.occursIn (e : Expr) (text : String) : Bool :=
  let tests := e.tests []
  (e.plan tests).endsIn tests .blank (windows (places text.toList))

end BeanRules.Pattern
