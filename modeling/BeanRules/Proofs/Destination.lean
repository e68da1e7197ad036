import BeanRules.Navigation

/-!
Where a move leads, apart from the checks that can refuse it. A move that succeeds leads to its
destination, under every policy.
-/
namespace BeanRules.Location

theorem toMethod_eq (l : Location) (name : String) (parameterTypes : List TypeRef) :
    l.toMethod name parameterTypes =
      if h : isIdentifier name = true then
        .ok (.method ⟨l.owner, name, parameterTypes, h⟩ .returnValue)
      else .error (.malformedMethodName l.owner name) := by
  unfold toMethod Signature.declare
  split <;> rfl

theorem toParameter_eq (p : Policy) (s : Signature) (index : Nat) :
    toParameter p s index =
      if p.indexCheck = .eager ∧ s.arity ≤ index then .error (.indexOutOfRange s index)
      else .ok (.method s (.parameter index)) := by
  unfold toParameter Signature.checkIndex
  cases p.indexCheck with
  | deferred => rfl
  | eager =>
    by_cases h : index < s.arity
    · rw [if_pos h, if_neg (by omega)]
      rfl
    · rw [if_neg h, if_pos ⟨rfl, by omega⟩]
      rfl

def destination? (l : Location) : Move → Option Location
  | .bean b => some (.bean b)
  | .property name access => some (.property l.owner name access)
  | .method name parameterTypes =>
    if h : isIdentifier name = true then
      some (.method ⟨l.owner, name, parameterTypes, h⟩ .returnValue)
    else none
  | .parameter index => l.signature?.map fun s => .method s (.parameter index)
  | .returnValue => l.signature?.map fun s => .method s .returnValue
  | .stay => some l

theorem destination?_of_move? {p : Policy} {l l' : Location} {m : Move}
    (h : l.move? p m = some (.ok l')) : l.destination? m = some l' := by
  cases m with
  | bean | stay =>
    cases h
    rfl
  | property name access =>
    simp only [move?, toProperty] at h
    split at h
    · cases h
    · cases h
      rfl
  | method name parameterTypes =>
    simp only [move?, toMethod_eq] at h
    split at h
    · rename_i hname
      cases h
      exact dif_pos hname
    · cases h
  | parameter index =>
    obtain ⟨s, hs, h⟩ := Option.map_eq_some_iff.mp h
    rw [toParameter_eq] at h
    split at h
    · cases h
    · cases h
      unfold destination?
      rw [hs]
      rfl
  | returnValue =>
    obtain ⟨s, hs, h⟩ := Option.map_eq_some_iff.mp h
    cases h
    unfold destination?
    rw [hs]
    rfl

end BeanRules.Location
