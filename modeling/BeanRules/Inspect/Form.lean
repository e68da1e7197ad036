import BeanRules.Text.Quoted

/-!
Values as they are shown to developers: every part under its name, text in quotes, all on one line.
-/
namespace BeanRules.Inspect

inductive Form where
  /-- Shown as it is. -/
  | word (text : String)
  | text (s : String)
  /-- A partial record does not show all of its parts. -/
  | record (name : String) (fields : List (String × Form)) (partially : Bool)
  | wrapped (name : String) (inner : Form)
  | list (items : List Form)
  | map (entries : List (String × Form))

namespace Form

def ofOption (f : α → Form) : Option α → Form
  | none => word "None"
  | some a => wrapped "Some" (f a)

def ofNat (n : Nat) : Form := word (toString n)

def ofBool (b : Bool) : Form := word (if b then "true" else "false")

mutual

def render : Form → String
  | word w => w
  | text s => Text.quoted s
  | record name fields partially =>
    let parts := renderFields fields ++ if partially then [".."] else []
    name ++ " \x7b " ++ ", ".intercalate parts ++ " \x7d"
  | wrapped name inner => name ++ "(" ++ render inner ++ ")"
  | list items => "[" ++ ", ".intercalate (renderItems items) ++ "]"
  | map entries => "\x7b" ++ ", ".intercalate (renderEntries entries) ++ "\x7d"

def renderItems : List Form → List String
  | [] => []
  | f :: r => render f :: renderItems r

def renderFields : List (String × Form) → List String
  | [] => []
  | f :: r => renderField f :: renderFields r

def renderField : String × Form → String
  | (name, f) => name ++ ": " ++ render f

def renderEntries : List (String × Form) → List String
  | [] => []
  | e :: r => renderEntry e :: renderEntries r

def renderEntry : String × Form → String
  | (key, f) => Text.quoted key ++ ": " ++ render f

end

end Form

end BeanRules.Inspect
