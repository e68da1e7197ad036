/-!
Collections with one entry per name, kept in ascending order of the names. Attribute maps, catalogs
and the handles of a session are all of this shape, and each lists its entries in name order
whatever order they were put in.
-/
namespace BeanRules

/-- Entries in strictly ascending order of their names, so each name occurs at most once. -/
structure ByName {α : Type} (name : α → String) where
  entries : List α
  ascending : entries.Pairwise fun a b => name a < name b

namespace ByName

variable {α : Type} {name : α → String}

@[ext] theorem ext {m n : ByName name} (h : m.entries = n.entries) : m = n := by
  cases m; cases n; simp_all

def empty : ByName name := ⟨[], .nil⟩

instance : Inhabited (ByName name) := ⟨empty⟩

instance [DecidableEq α] : DecidableEq (ByName name) := fun m n =>
  decidable_of_iff (m.entries = n.entries) ⟨ext, fun h => h ▸ rfl⟩

/-- The entry goes before the first greater name and takes the place of an equal one. -/
def place (name : α → String) (a : α) : List α → List α
  | [] => [a]
  | b :: r =>
    if name a < name b then a :: b :: r
    else if name a = name b then a :: r
    else b :: place name a r

theorem mem_place {a x : α} {l : List α} : x ∈ place name a l → x = a ∨ x ∈ l := by
  induction l with
  | nil => simp [place]
  | cons b r ih => rw [place]; grind

theorem pairwise_place {a : α} {l : List α} (h : l.Pairwise fun x y => name x < name y) :
    (place name a l).Pairwise fun x y => name x < name y := by
  induction l with
  | nil => simp [place]
  | cons b r ih =>
    rw [place]
    have hr := List.pairwise_cons.mp h
    split
    next lt =>
      refine List.pairwise_cons.mpr ⟨fun x hx => ?_, h⟩
      rcases List.mem_cons.mp hx with rfl | hx
      · exact lt
      · exact String.lt_trans lt (hr.1 x hx)
    next nlt =>
      split
      next eq => exact List.pairwise_cons.mpr ⟨fun x hx => eq ▸ hr.1 x hx, hr.2⟩
      next ne =>
        refine List.pairwise_cons.mpr ⟨fun x hx => ?_, ih hr.2⟩
        rcases mem_place hx with rfl | hx
        · exact Std.lt_of_le_of_ne (String.not_lt.mp nlt) (Ne.symm ne)
        · exact hr.1 x hx

def insert (m : ByName name) (a : α) : ByName name :=
  ⟨place name a m.entries, pairwise_place m.ascending⟩

/-- Later entries win over earlier ones of the same name. -/
def ofList (l : List α) : ByName name := l.foldl insert empty

def find? (m : ByName name) (key : String) : Option α := m.entries.find? (name · == key)

def contains (m : ByName name) (key : String) : Bool := (m.find? key).isSome

def erase (m : ByName name) (key : String) : ByName name :=
  ⟨m.entries.filter (name · != key), m.ascending.filter _⟩

def names (m : ByName name) : List String := m.entries.map name

theorem names_ascending (m : ByName name) : m.names.Pairwise (· < ·) :=
  List.pairwise_map.mpr m.ascending

theorem find?_empty (key : String) : (empty : ByName name).find? key = none := rfl

theorem name_of_find? {m : ByName name} {key : String} {a : α} (h : m.find? key = some a) :
    name a = key := by
  simpa using List.find?_some h

theorem find?_place (a : α) (l : List α) (key : String) :
    (place name a l).find? (name · == key) =
      if name a = key then some a else l.find? (name · == key) := by
  induction l with
  | nil => by_cases h : name a = key <;> simp [place, h]
  | cons b r ih =>
    rw [place]
    split
    · by_cases h : name a = key <;> simp [h]
    · split
      next eq => by_cases h : name a = key <;> simp [h, ← eq]
      next ne =>
        by_cases hb : name b = key
        · have : ¬name a = key := fun h => ne (h.trans hb.symm)
          simp [hb, this]
        · simp [hb, ih]

theorem find?_insert (m : ByName name) (a : α) (key : String) :
    (m.insert a).find? key = if name a = key then some a else m.find? key :=
  find?_place a m.entries key

theorem find?_erase (m : ByName name) (gone key : String) :
    (m.erase gone).find? key = if gone = key then none else m.find? key := by
  simp only [find?, erase, List.find?_filter]
  by_cases h : gone = key
  · subst h; simp
  · simp only [h, if_false]
    congr 1
    funext a
    by_cases ha : name a = key <;> simp [ha, Ne.symm h]

end ByName

end BeanRules
