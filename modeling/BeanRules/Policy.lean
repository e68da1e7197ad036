import BeanRules.Json.Basic

/-!
What a session checks, and when. A missing choice is always the strict one.
-/
namespace BeanRules

/-- Whether a parameter index is checked when a cursor moves to it, or when the session ends. -/
inductive IndexCheck where
  | eager
  | deferred
deriving DecidableEq

def IndexCheck.word : IndexCheck → String
  | .eager => "eager"
  | .deferred => "deferred"

structure Policy where
  indexCheck : IndexCheck
  /-- Attributes that a kind does not declare are refused. -/
  strictAttributes : Bool
  /-- Attributes that hold a pattern are read as one. -/
  validatePatterns : Bool
deriving DecidableEq

namespace Policy

def strict : Policy := ⟨.eager, true, true⟩

def lenient : Policy := ⟨.deferred, false, false⟩

instance : Inhabited Policy := ⟨strict⟩

/-- At most as strict: what `p` does not check, `q` does not check either. -/
def Relaxes (q p : Policy) : Prop :=
  (q.strictAttributes = true → p.strictAttributes = true) ∧
  (q.validatePatterns = true → p.validatePatterns = true) ∧
  (q.indexCheck = .eager → p.indexCheck = .eager)

theorem Relaxes.refl (p : Policy) : p.Relaxes p := ⟨id, id, id⟩

theorem lenient_relaxes (p : Policy) : lenient.Relaxes p :=
  ⟨nofun, nofun, nofun⟩

theorem relaxes_strict (p : Policy) : p.Relaxes strict := ⟨fun _ => rfl, fun _ => rfl, fun _ => rfl⟩

def json (p : Policy) : Json :=
  .object [("index_check", .string p.indexCheck.word),
    ("strict_attributes", .bool p.strictAttributes),
    ("validate_patterns", .bool p.validatePatterns)]

end Policy

end BeanRules
