import BeanRules.Declaration

/-!
The result of a session, indexed by bean. For each bean the index keeps the positions of its
declarations, beans in the order of their first declaration, so that a look-up of one bean tests
nothing that belongs to others.
-/
namespace BeanRules

abbrev BeanIndex := List (TypeRef × Array Nat)

namespace BeanIndex

def positions (index : BeanIndex) (bean : TypeRef) : List Nat :=
  match index.find? (·.1 == bean) with
  | some (_, ps) => ps.toList
  | none => []

/-- A position behind all others of its bean. A bean without any goes to the end. -/
def add (bean : TypeRef) (position : Nat) : BeanIndex → BeanIndex
  | [] => [(bean, #[position])]
  | (b, ps) :: r =>
    if b = bean then (b, ps.push position) :: r else (b, ps) :: add bean position r

theorem positions_add (index : BeanIndex) (bean other : TypeRef) (position : Nat) :
    (index.add bean position).positions other =
      if bean = other then index.positions other ++ [position] else index.positions other := by
  induction index with
  | nil => by_cases h : bean = other <;> simp [add, positions, h]
  | cons e r ih =>
    obtain ⟨b, ps⟩ := e
    simp only [positions] at ih ⊢
    by_cases hb : b = bean
    · subst hb; by_cases h : b = other <;> simp [add, h]
    · by_cases h : b = other
      · subst h; simp [add, hb, Ne.symm hb]
      · simp [add, hb, h, ih]

def ofDeclarations (ds : List Declaration) : BeanIndex :=
  ds.zipIdx.foldl (fun index e => index.add e.1.location.owner e.2) []

end BeanIndex

/-- Default group sequences by bean, in the order in which beans first got one. -/
abbrev GroupSequences := List (TypeRef × List TypeRef)

namespace GroupSequences

def get? (s : GroupSequences) (bean : TypeRef) : Option (List TypeRef) :=
  (s.find? (·.1 == bean)).map (·.2)

/-- A bean that has a sequence keeps its place. -/
def set (bean : TypeRef) (groups : List TypeRef) : GroupSequences → GroupSequences
  | [] => [(bean, groups)]
  | (b, old) :: r => if b = bean then (b, groups) :: r else (b, old) :: set bean groups r

theorem get?_set (s : GroupSequences) (bean other : TypeRef) (groups : List TypeRef) :
    (s.set bean groups).get? other = if bean = other then some groups else s.get? other := by
  induction s with
  | nil => by_cases h : bean = other <;> simp [set, get?, h]
  | cons e r ih =>
    obtain ⟨b, old⟩ := e
    simp only [get?] at ih ⊢
    by_cases hb : b = bean
    · subst hb; by_cases h : b = other <;> simp [set, h]
    · by_cases h : b = other
      · subst h; simp [set, hb, Ne.symm hb]
      · simp [set, hb, h, ih]

def json (s : GroupSequences) : Json :=
  .array (s.map fun e => .object [("bean", e.1.json), ("groups", .types e.2)])

end GroupSequences

structure Mapping where
  declarations : List Declaration
  index : BeanIndex
  sequences : GroupSequences

namespace Mapping

def ofDeclarations (ds : List Declaration) (sequences : GroupSequences) : Mapping :=
  ⟨ds, .ofDeclarations ds, sequences⟩

/-- Beans with declarations, and after them those that only have a group sequence. -/
def beans (m : Mapping) : List TypeRef :=
  let declared := m.index.map (·.1)
  m.sequences.foldl (fun l e => if l.contains e.1 then l else l ++ [e.1]) declared

def declarationsFor (m : Mapping) (bean : TypeRef) : List Declaration :=
  let ds := m.declarations.toArray
  (m.index.positions bean).filterMap fun i => ds[i]?

def constraintsFor (m : Mapping) (bean : TypeRef) : List Declaration :=
  (m.declarationsFor bean).filter (!·.isCascade)

def cascadesFor (m : Mapping) (bean : TypeRef) : List Declaration :=
  (m.declarationsFor bean).filter (·.isCascade)

def constraintsAt (m : Mapping) (location : Location) : List Constraint :=
  ((m.declarationsFor location.owner).filter (·.location == location)).filterMap (·.constraint?)

def isCascaded (m : Mapping) (location : Location) : Bool :=
  (m.cascadesFor location.owner).any (·.location == location)

def methodDeclarations (m : Mapping) (signature : Signature) : List Declaration :=
  (m.declarationsFor signature.bean).filter (·.location.signature? == some signature)

def defaultGroups? (m : Mapping) (bean : TypeRef) : Option (List TypeRef) :=
  m.sequences.get? bean

def json (m : Mapping) : Json :=
  .object [("declarations", .array (m.declarations.map Declaration.json)),
    ("group_sequences", m.sequences.json)]

end Mapping

end BeanRules
