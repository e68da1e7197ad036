import BeanRules.Json.Number

/-!
Values that nobody asked for. They have to be well-formed, to any depth of nesting, but what they
say is not looked at.
-/
namespace BeanRules.Json

open Text (Rest Tail)

def colon (s : List Char) : Except Stop (Rest s) :=
  match h : skipSpace s with
  | ':' :: r => .ok (afterSpace h (.cons ':' (.whole r)))
  | [] => .error (.here .objectEnds [])
  | t => .error (.here .colonExpected t)

def skipKey (s : List Char) : Except Stop (Rest s) :=
  match h : skipSpace s with
  | '"' :: r => do
    let t ← skipString r
    let u ← colon t.text
    return afterSpace h (.cons '"' (t.andThen u))
  | [] => .error (.here .objectEnds [])
  | t => .error (.here .keyExpected t)

mutual

def skipValue (s : List Char) : Except Stop (Rest s) :=
  match h : skipSpace s with
  | [] => .error (.here .valueEnds [])
  | 'n' :: r => (word ['u', 'l', 'l'] r).map fun t => afterSpace h (.cons 'n' t)
  | 't' :: r => (word ['r', 'u', 'e'] r).map fun t => afterSpace h (.cons 't' t)
  | 'f' :: r => (word ['a', 'l', 's', 'e'] r).map fun t => afterSpace h (.cons 'f' t)
  | '"' :: r => (skipString r).map fun t => afterSpace h (.cons '"' t)
  | '-' :: r => (skipNumber r).map fun t => afterSpace h (.cons '-' t)
  | '[' :: r =>
    match h' : skipSpace r with
    | [] => .error (.here .listEnds [])
    | ']' :: t => .ok (afterSpace h (.cons '[' (afterSpace h' (.cons ']' (.whole t)))))
    | _ => do
      let t ← skipValue r
      let u ← skipItems t.text
      return afterSpace h (.cons '[' (t.andThen u))
  | '\x7b' :: r =>
    match h' : skipSpace r with
    | [] => .error (.here .objectEnds [])
    | '\x7d' :: t => .ok (afterSpace h (.cons '\x7b' (afterSpace h' (.cons '\x7d' (.whole t)))))
    | _ => do
      let t ← skipKey r
      let u ← skipValue t.text
      let v ← skipMembers u.text
      return afterSpace h (.cons '\x7b' (t.andThen (u.andThen v)))
  | c :: r =>
    if c.isDigit then do
      let t ← skipNumber (c :: r)
      return afterSpace h t
    else .error (.here .valueExpected (c :: r))
termination_by s.length
decreasing_by all_goals grind [Rest, → length_lt_of_skipSpace]

def skipItems (s : List Char) : Except Stop (Rest s) :=
  match h : skipSpace s with
  | [] => .error (.here .listEnds [])
  | ']' :: r => .ok (afterSpace h (.cons ']' (.whole r)))
  | ',' :: r => do
    let t ← skipValue r
    let u ← skipItems t.text
    return afterSpace h (.cons ',' (t.andThen u))
  | t => .error (.here .listCommaExpected t)
termination_by s.length
decreasing_by all_goals grind [Rest, → length_lt_of_skipSpace]

def skipMembers (s : List Char) : Except Stop (Rest s) :=
  match h : skipSpace s with
  | [] => .error (.here .objectEnds [])
  | '\x7d' :: r => .ok (afterSpace h (.cons '\x7d' (.whole r)))
  | ',' :: r => do
    let t ← skipKey r
    let u ← skipValue t.text
    let v ← skipMembers u.text
    return afterSpace h (.cons ',' (t.andThen (u.andThen v)))
  | t => .error (.here .objectCommaExpected t)
termination_by s.length
decreasing_by all_goals grind [Rest, → length_lt_of_skipSpace]

end

end BeanRules.Json
