import BeanRules.Json.Skip
import BeanRules.Policy

/-!
Reading a policy from JSON. It is an object, of which unknown members are skipped, or a list of the
choices in their usual order. Either may leave choices out.
-/
namespace BeanRules.Policy

open Json (Stop Found skipSpace afterSpace length_lt_of_skipSpace)
open Text (Rest Tail)

structure Draft where
  indexCheck : Option IndexCheck
  strictAttributes : Option Bool
  validatePatterns : Option Bool

def Draft.empty : Draft := ⟨none, none, none⟩

def Draft.complete (d : Draft) : Policy :=
  ⟨d.indexCheck.getD .eager, d.strictAttributes.getD true, d.validatePatterns.getD true⟩

/-- What stands at the front, as far as it takes to describe it: a scalar is read, a list or object
is only looked at. -/
def found (s : List Char) : Except Stop (Found × List Char) :=
  match s with
  | [] => .error (.here .valueExpected [])
  | c :: r => do
    match c with
    | 'n' => return (.null, (← Json.word ['u', 'l', 'l'] r).text)
    | 't' => return (.bool true, (← Json.word ['r', 'u', 'e'] r).text)
    | 'f' => return (.bool false, (← Json.word ['a', 'l', 's', 'e'] r).text)
    | '-' => Json.readNumber true r
    | '"' =>
      let (text, rest) ← Json.stringBody r
      return (.string (String.ofList text), rest.text)
    | '[' => return (.sequence, s)
    | '\x7b' => return (.map, s)
    | c => if c.isDigit then Json.readNumber false s else .error (.here .valueExpected s)

def wrongType (expected : String) (s : List Char) : Stop :=
  match found s with
  | .ok (f, rest) => .behind (.wrongType f expected) rest
  | .error stop => stop

def readFlag (s : List Char) : Except Stop (Bool × Rest s) :=
  match h : skipSpace s with
  | [] => .error (.here .valueEnds [])
  | 't' :: r => (Json.word ['r', 'u', 'e'] r).map fun t => (true, afterSpace h (.cons 't' t))
  | 'f' :: r => (Json.word ['a', 'l', 's', 'e'] r).map fun t => (false, afterSpace h (.cons 'f' t))
  | t => .error (wrongType "a boolean" t)

def readIndexCheckName (s : List Char) : Except Stop (IndexCheck × Rest s) := do
  let (text, rest) ← Json.stringBody s
  match String.ofList text with
  | "eager" => return (.eager, rest)
  | "deferred" => return (.deferred, rest)
  | name => .error (.behind (.unknownVariant name ["eager", "deferred"]) rest.text)

def readNull (s : List Char) : Except Stop (Rest s) :=
  match h : skipSpace s with
  | [] => .error (.here .valueEnds [])
  | 'n' :: r => (Json.word ['u', 'l', 'l'] r).map fun t => afterSpace h (.cons 'n' t)
  | t => .error (wrongType "unit" t)

def readBrace (s : List Char) : Except Stop (Rest s) :=
  match h : skipSpace s with
  | [] => .error (.here .objectEnds [])
  | '\x7d' :: r => .ok (afterSpace h (.cons '\x7d' (.whole r)))
  | t => .error (.behind .valueExpected t)

/-- The name as the only key of an object that holds null, read from behind the brace. -/
def readIndexCheckKey (s : List Char) : Except Stop (IndexCheck × Rest s) :=
  match h : skipSpace s with
  | [] => .error (.here .objectEnds [])
  | '"' :: r => do
    let (check, t) ← readIndexCheckName r
    let u ← Json.colon t.text
    let v ← readNull u.text
    let w ← readBrace v.text
    return (check, afterSpace h (.cons '"' (t.andThen (u.andThen (v.andThen w)))))
  | '\x7d' :: r => .error (.here .valueExpected ('\x7d' :: r))
  | t => .error (.here .keyExpected t)

def readIndexCheck (s : List Char) : Except Stop (IndexCheck × Rest s) :=
  match h : skipSpace s with
  | [] => .error (.here .valueEnds [])
  | '"' :: r => do
    let (check, t) ← readIndexCheckName r
    return (check, afterSpace h (.cons '"' t))
  | '\x7b' :: r => do
    let (check, t) ← readIndexCheckKey r
    return (check, afterSpace h (.cons '\x7b' t))
  | t => .error (.here .valueExpected t)

/-- A choice made twice. The object is left before the fault is located. -/
def duplicate (name : String) (s : List Char) : Stop :=
  match skipSpace s with
  | '\x7d' :: r => .behind (.duplicateField name) r
  | t => .behind (.duplicateField name) t

def readMember (d : Draft) (s : List Char) : Except Stop (Draft × Rest s) := do
  let (text, t) ← Json.stringBody s
  match String.ofList text with
  | "index_check" =>
    if d.indexCheck.isSome then .error (duplicate "index_check" t.text)
    let u ← Json.colon t.text
    let (check, v) ← readIndexCheck u.text
    return ({ d with indexCheck := some check }, t.andThen (u.andThen v))
  | "strict_attributes" =>
    if d.strictAttributes.isSome then .error (duplicate "strict_attributes" t.text)
    let u ← Json.colon t.text
    let (b, v) ← readFlag u.text
    return ({ d with strictAttributes := some b }, t.andThen (u.andThen v))
  | "validate_patterns" =>
    if d.validatePatterns.isSome then .error (duplicate "validate_patterns" t.text)
    let u ← Json.colon t.text
    let (b, v) ← readFlag u.text
    return ({ d with validatePatterns := some b }, t.andThen (u.andThen v))
  | _ =>
    let u ← Json.colon t.text
    let v ← Json.skipValue u.text
    return (d, t.andThen (u.andThen v))

def readMoreMembers (d : Draft) (s : List Char) : Except Stop (Draft × List Char) :=
  match _h : skipSpace s with
  | [] => .error (.here .objectEnds [])
  | '\x7d' :: r => .ok (d, r)
  | ',' :: r =>
    match _h' : skipSpace r with
    | [] => .error (.here .valueEnds [])
    | '"' :: t => do
      let (d, u) ← readMember d t
      readMoreMembers d u.text
    | '\x7d' :: t => .error (.here .trailingComma ('\x7d' :: t))
    | t => .error (.here .keyExpected t)
  | t => .error (.here .objectCommaExpected t)
termination_by s.length
decreasing_by grind [Rest, → length_lt_of_skipSpace]

def readMembers (s : List Char) : Except Stop (Draft × List Char) := do
  match skipSpace s with
  | [] => .error (.here .objectEnds [])
  | '\x7d' :: r => return (.empty, r)
  | '"' :: r =>
    let (d, rest) ← readMember .empty r
    readMoreMembers d rest.text
  | t => .error (.here .keyExpected t)

def nextItem? (first : Bool) (s : List Char) : Except Stop (Option (List Char)) :=
  match skipSpace s with
  | [] => .error (.here .listEnds [])
  | ']' :: _ => .ok none
  | c :: r =>
    if first then .ok (some (c :: r))
    else if c = ',' then
      match skipSpace r with
      | [] => .error (.here .valueEnds [])
      | ']' :: t => .error (.here .trailingComma (']' :: t))
      | t => .ok (some t)
    else .error (.here .listCommaExpected (c :: r))

def listEnd (s : List Char) : Except Stop (List Char) :=
  match skipSpace s with
  | [] => .error (.here .listEnds [])
  | ']' :: r => .ok r
  | ',' :: r =>
    match skipSpace r with
    | ']' :: t => .error (.here .trailingComma (']' :: t))
    | t => .error (.here .trailingCharacters t)
  | t => .error (.here .trailingCharacters t)

def readItems (s : List Char) : Except Stop (Draft × List Char) := do
  let some s ← nextItem? true s | return (.empty, ← listEnd s)
  let (check, rest) ← readIndexCheck s
  let some s ← nextItem? false rest.text
    | return (⟨some check, none, none⟩, ← listEnd rest.text)
  let (strict, rest) ← readFlag s
  let some s ← nextItem? false rest.text
    | return (⟨some check, some strict, none⟩, ← listEnd rest.text)
  let (validate, rest) ← readFlag s
  return (⟨some check, some strict, some validate⟩, ← listEnd rest.text)

def readDocument (s : List Char) : Except Stop Policy := do
  let (d, rest) ← match skipSpace s with
    | [] => .error (.here .valueEnds [])
    | '[' :: r => readItems r
    | '\x7b' :: r => readMembers r
    | t => .error (wrongType "struct MappingConfig" t)
  match skipSpace rest with
  | [] => return d.complete
  | t => .error (.here .trailingCharacters t)

def ofJson (text : String) : Except Json.Fault Policy :=
  (readDocument text.toList).mapError (·.locate text.toList)

end BeanRules.Policy
