import BeanRules.Proofs.Freeze
import Mathlib.Data.List.Basic

/-!
Looking things up by bean gives what a scan of all declarations gives. The index is built in one
pass, which keeps for each bean the positions of the declarations read so far; a location and its
signature have the same owner, so look-ups of either read the positions of that owner only.
-/
namespace BeanRules

namespace BeanIndex

/-- After any number of entries, the positions of a bean are those it had and then its new ones. -/
theorem positions_foldl_add (index : BeanIndex) (entries : List (Declaration × Nat))
    (bean : TypeRef) :
    (entries.foldl (fun index e => index.add e.1.location.owner e.2) index).positions bean =
      index.positions bean ++
        (entries.filter fun e => e.1.location.owner == bean).map (·.2) := by
  induction entries generalizing index with
  | nil => simp
  | cons e rest ih =>
    rw [List.foldl_cons, ih, positions_add]
    by_cases h : e.1.location.owner = bean <;> simp [h]

theorem positions_ofDeclarations (ds : List Declaration) (bean : TypeRef) :
    (ofDeclarations ds).positions bean =
      (ds.zipIdx.filter fun e => e.1.location.owner == bean).map (·.2) := by
  unfold ofDeclarations
  rw [positions_foldl_add]
  rfl

/-- Every position of the index is that of a declaration on the bean it is kept for. -/
def PointsInto (index : BeanIndex) (ds : List Declaration) : Prop :=
  ∀ bean ps, (bean, ps) ∈ index → ∀ i ∈ ps, ∃ h : i < ds.length, ds[i].location.owner = bean

theorem PointsInto.add {index : BeanIndex} {ds : List Declaration} (h : index.PointsInto ds)
    {i : Nat} (hi : i < ds.length) : (index.add ds[i].location.owner i).PointsInto ds := by
  induction index with
  | nil =>
    intro bean ps hmem j hj
    obtain ⟨rfl, rfl⟩ := Prod.mk.inj (List.mem_singleton.mp hmem)
    cases Array.mem_singleton.mp hj
    exact ⟨hi, rfl⟩
  | cons e rest ih =>
    obtain ⟨b, old⟩ := e
    have hrest : PointsInto rest ds := fun bean ps hmem => h bean ps (List.mem_cons_of_mem _ hmem)
    have hold := h b old List.mem_cons_self
    intro bean ps hmem j hj
    rw [BeanIndex.add] at hmem
    split at hmem
    · rename_i hb
      rcases List.mem_cons.mp hmem with heq | hmem
      · obtain ⟨rfl, rfl⟩ := Prod.mk.inj heq
        rcases Array.mem_push.mp hj with hj | rfl
        · exact hold j hj
        · exact ⟨hi, hb.symm⟩
      · exact hrest bean ps hmem j hj
    · rcases List.mem_cons.mp hmem with heq | hmem
      · obtain ⟨rfl, rfl⟩ := Prod.mk.inj heq
        exact hold j hj
      · exact ih hrest bean ps hmem j hj

theorem pointsInto_ofDeclarations (ds : List Declaration) : (ofDeclarations ds).PointsInto ds := by
  unfold ofDeclarations
  have hentries : ∀ e ∈ ds.zipIdx, ∃ h : e.2 < ds.length, ds[e.2] = e.1 := fun e he =>
    List.getElem?_eq_some_iff.mp (List.mem_zipIdx_iff_getElem?.mp he)
  -- The entries still to come are read off the whole list, so only the index is generalised.
  generalize ds.zipIdx = entries at hentries
  have hnil : PointsInto [] ds := fun _ _ => nofun
  generalize ([] : BeanIndex) = index at hnil
  induction entries generalizing index with
  | nil => exact hnil
  | cons e rest ih =>
    rw [List.foldl_cons]
    apply ih
    · exact fun e' he' => hentries e' (List.mem_cons_of_mem _ he')
    · obtain ⟨hlt, hd⟩ := hentries e List.mem_cons_self
      rw [← hd]
      exact hnil.add hlt

end BeanIndex

theorem Location.owner_of_signature? {l : Location} {s : Signature} (h : l.signature? = some s) :
    l.owner = s.bean := by
  cases l with
  | bean | property => cases h
  | method s' target =>
    cases h
    rfl

namespace Mapping

variable (ds : List Declaration) (sequences : GroupSequences)

theorem declarationsFor_ofDeclarations (bean : TypeRef) :
    (ofDeclarations ds sequences).declarationsFor bean =
      ds.filter fun d => d.location.owner == bean := by
  have hread : (ds.zipIdx.filter fun e => e.1.location.owner == bean).filterMap
      (fun e => ds[e.2]?) =
        (ds.zipIdx.filter fun e => e.1.location.owner == bean).map (·.1) := by
    rw [← List.filterMap_eq_map]
    apply List.filterMap_congr
    intro e he
    exact List.mem_zipIdx_iff_getElem?.mp (List.mem_filter.mp he).1
  calc (ofDeclarations ds sequences).declarationsFor bean
      = ((BeanIndex.ofDeclarations ds).positions bean).filterMap (ds[·]?) := by
        simp [declarationsFor, ofDeclarations]
    _ = (ds.zipIdx.filter fun e => e.1.location.owner == bean).filterMap fun e => ds[e.2]? := by
        rw [BeanIndex.positions_ofDeclarations, List.filterMap_map]
        rfl
    _ = (ds.zipIdx.map (·.1)).filter fun d => d.location.owner == bean := by
        rw [hread, List.filter_map]
        rfl
    _ = ds.filter fun d => d.location.owner == bean := by
        rw [List.zipIdx_map_fst]

/-- Whatever only holds at locations of one owner can be looked for among its declarations. -/
theorem filter_declarationsFor_ofDeclarations {bean : TypeRef} {p : Declaration → Bool}
    (hp : ∀ d, p d = true → d.location.owner = bean) :
    ((ofDeclarations ds sequences).declarationsFor bean).filter p = ds.filter p := by
  rw [declarationsFor_ofDeclarations, List.filter_filter]
  congr 1
  funext d
  cases h : p d with
  | false => rfl
  | true => simp [hp d h]

theorem isCascaded_ofDeclarations (l : Location) :
    (ofDeclarations ds sequences).isCascaded l = true ↔ .cascade l ∈ ds := by
  unfold isCascaded cascadesFor
  rw [declarationsFor_ofDeclarations, List.any_eq_true]
  constructor
  · rintro ⟨d, hd, hl⟩
    obtain ⟨hd, hcascade⟩ := List.mem_filter.mp hd
    cases d with
    | constraint => cases hcascade
    | cascade l' =>
      cases beq_iff_eq.mp hl
      exact (List.mem_filter.mp hd).1
  · intro hmem
    refine ⟨_, List.mem_filter.mpr ⟨List.mem_filter.mpr ⟨hmem, ?_⟩, rfl⟩, ?_⟩
    · simp [Declaration.location]
    · simp [Declaration.location]

/-- Every look-up of a mapping answers what a scan of its declarations in order of submission
answers, for whatever bean, location or method is asked for. Types are the same only if they are
identical: one name can stand for several. No position in the index is out of range. -/
theorem lookups_scan {r : Registry} {m : Mapping} (h : r.freeze = .ok m) :
    (∀ bean, m.declarationsFor bean = m.declarations.filter (·.location.owner = bean)) ∧
      (∀ bean, m.constraintsFor bean =
        m.declarations.filter fun d => d.location.owner = bean ∧ d.isCascade = false) ∧
      (∀ bean, m.cascadesFor bean =
        m.declarations.filter fun d => d.location.owner = bean ∧ d.isCascade = true) ∧
      (∀ l, m.constraintsAt l =
        (m.declarations.filter (·.location = l)).filterMap Declaration.constraint?) ∧
      (∀ l, m.isCascaded l = true ↔ .cascade l ∈ m.declarations) ∧
      (∀ s, m.methodDeclarations s =
        m.declarations.filter (·.location.signature? = some s)) ∧
      m.index.PointsInto m.declarations := by
  obtain ⟨-, rfl⟩ := Registry.freeze_eq_ok_iff.mp h
  refine ⟨?_, ?_, ?_, ?_, ?_, ?_, ?_⟩
  · intro bean
    exact declarationsFor_ofDeclarations _ _ bean
  · intro bean
    rw [constraintsFor, declarationsFor_ofDeclarations, List.filter_filter]
    simp [Bool.beq_eq_decide_eq, Bool.and_comm, ofDeclarations]
  · intro bean
    rw [cascadesFor, declarationsFor_ofDeclarations, List.filter_filter]
    simp [Bool.beq_eq_decide_eq, Bool.and_comm, ofDeclarations]
  · intro l
    rw [constraintsAt, filter_declarationsFor_ofDeclarations]
    · rfl
    · intro d hd
      rw [beq_iff_eq.mp hd]
  · exact isCascaded_ofDeclarations _ _
  · intro s
    rw [methodDeclarations, filter_declarationsFor_ofDeclarations]
    · simp only [Bool.beq_eq_decide_eq]
      rfl
    · intro d hd
      exact Location.owner_of_signature? (beq_iff_eq.mp hd)
  · exact BeanIndex.pointsInto_ofDeclarations _

def namesakes : Registry :=
  let order : TypeRef := ⟨"shop::Order", 0⟩
  let other : TypeRef := ⟨"shop::Order", 1⟩
  (((Registry.new .strict).addCascade (.property order "lines" .field)).addCascade
    (.bean other)).addCascade (.property order "lines" .field)

theorem lookups_scan_namesakes :
    let order : TypeRef := ⟨"shop::Order", 0⟩
    let other : TypeRef := ⟨"shop::Order", 1⟩
    ∃ m, namesakes.freeze = .ok m ∧
      m.declarationsFor order =
        [.cascade (.property order "lines" .field), .cascade (.property order "lines" .field)] ∧
      m.declarationsFor other = [.cascade (.bean other)] ∧
      m.isCascaded (.bean other) = true ∧ ¬m.isCascaded (.bean order) = true ∧
      m.index.PointsInto m.declarations := by
  intro order other
  have hfreeze : namesakes.freeze =
      .ok (.ofDeclarations namesakes.declarations namesakes.sequences) := rfl
  obtain ⟨hfor, -, -, -, hcascaded, -, hindex⟩ := lookups_scan hfreeze
  refine ⟨_, hfreeze, ?_, ?_, ?_, ?_, hindex⟩
  · rw [hfor]
    rfl
  · rw [hfor]
    rfl
  · rw [hcascaded]
    simp [ofDeclarations, namesakes, Registry.addCascade, Registry.new, other]
  · rw [hcascaded]
    simp [ofDeclarations, namesakes, Registry.addCascade, Registry.new, order]

end Mapping

end BeanRules
