import BeanRules.Proofs.Lookup
import BeanRules.Proofs.Sequences
import Mathlib.Algebra.GroupWithZero.Nat
import Mathlib.Data.List.Nodup
import Mathlib.Data.Option.Basic

/-!
A mapping lists every configured bean once: those with declarations in the order of their first
one, then those that only have a group sequence. Each declaration is found under exactly one of
them, and within a bean as a constraint or a cascade and under the signature of its method.
-/
namespace BeanRules

namespace BeanIndex

theorem beans_add (index : BeanIndex) (bean : TypeRef) (position : Nat) :
    (index.add bean position).map (·.1) = addNew (index.map (·.1)) bean := by
  induction index with
  | nil => rfl
  | cons e rest ih =>
    obtain ⟨b, ps⟩ := e
    rw [add]
    by_cases hb : b = bean
    · simp [addNew, hb]
    · rw [if_neg hb, List.map_cons, ih, List.map_cons, addNew_cons_of_ne (Ne.symm hb)]

theorem beans_foldl_add (index : BeanIndex) (entries : List (Declaration × Nat)) :
    (entries.foldl (fun index e => index.add e.1.location.owner e.2) index).map (·.1) =
      (entries.map (·.1.location.owner)).foldl addNew (index.map (·.1)) := by
  induction entries generalizing index with
  | nil => rfl
  | cons e rest ih =>
    rw [List.foldl_cons, ih, beans_add]
    rfl

theorem beans_ofDeclarations (ds : List Declaration) :
    (ofDeclarations ds).map (·.1) = (ds.map (·.location.owner)).eraseDups := by
  have howners : ds.zipIdx.map (·.1.location.owner) = ds.map (·.location.owner) := by
    conv_rhs => rw [← List.zipIdx_map_fst 0 ds, List.map_map]
    rfl
  unfold ofDeclarations
  rw [beans_foldl_add, howners]
  exact foldl_addNew_nil _

end BeanIndex

namespace Mapping

theorem beans_eq (m : Mapping) :
    m.beans = (m.sequences.map (·.1)).foldl addNew (m.index.map (·.1)) := by
  rw [List.foldl_map]
  simp only [beans, addNew, List.contains_iff_mem]

variable (ds : List Declaration) (sequences : GroupSequences)

theorem nodup_beans_ofDeclarations : (ofDeclarations ds sequences).beans.Nodup := by
  rw [beans_eq]
  apply nodup_foldl_addNew
  exact BeanIndex.beans_ofDeclarations ds ▸ nodup_eraseDups _

theorem beans_ofDeclarations :
    (ofDeclarations ds sequences).beans =
      (ds.map (·.location.owner)).eraseDups ++
        (sequences.map (·.1)).eraseDups.filter (· ∉ ds.map (·.location.owner)) := by
  have hindex : (ofDeclarations ds sequences).index.map (·.1) =
      (ds.map (·.location.owner)).eraseDups := BeanIndex.beans_ofDeclarations ds
  rw [beans_eq, hindex, foldl_addNew]
  simp only [List.mem_eraseDups]
  rfl

theorem declarationsFor_perm :
    ((ofDeclarations ds sequences).beans.flatMap
      (ofDeclarations ds sequences).declarationsFor).Perm ds := by
  have hcovered : ∀ d ∈ ds, d.location.owner ∈ (ofDeclarations ds sequences).beans := by
    intro d hd
    rw [beans_ofDeclarations]
    exact List.mem_append_left _ (List.mem_eraseDups.mpr (List.mem_map_of_mem hd))
  have hfor : (ofDeclarations ds sequences).declarationsFor =
      fun bean => ds.filter (·.location.owner = bean) := by
    funext bean
    exact declarationsFor_ofDeclarations ds sequences bean
  rw [hfor]
  exact flatMap_filter_perm (nodup_beans_ofDeclarations ds sequences) hcovered

theorem length_declarationsFor :
    ((ofDeclarations ds sequences).beans.map fun bean =>
      ((ofDeclarations ds sequences).declarationsFor bean).length).sum = ds.length := by
  rw [← List.length_flatMap]
  exact (declarationsFor_perm ds sequences).length_eq

theorem constraintsFor_append_cascadesFor_perm (m : Mapping) (bean : TypeRef) :
    (m.constraintsFor bean ++ m.cascadesFor bean).Perm (m.declarationsFor bean) := by
  have hperm := List.filter_append_perm (fun d => !d.isCascade) (m.declarationsFor bean)
  simp only [Bool.not_not] at hperm
  exact hperm

def methodsOf (m : Mapping) (bean : TypeRef) : List Signature :=
  ((m.declarationsFor bean).filterMap (·.location.signature?)).eraseDups

theorem methodDeclarations_perm (bean : TypeRef) :
    let m := ofDeclarations ds sequences
    ((m.methodsOf bean).flatMap m.methodDeclarations).Perm
      ((m.declarationsFor bean).filter (·.location.isMethod)) := by
  intro m
  have hnodup : ((m.methodsOf bean).map some).Nodup :=
    List.Nodup.map (Option.some_injective _) (nodup_eraseDups _)
  have hcovered : ∀ d ∈ (m.declarationsFor bean).filter (·.location.isMethod),
      d.location.signature? ∈ (m.methodsOf bean).map some := by
    intro d hd
    obtain ⟨hd, hmethod⟩ := List.mem_filter.mp hd
    obtain ⟨s, hs⟩ := Option.isSome_iff_exists.mp hmethod
    rw [hs]
    apply List.mem_map_of_mem
    exact List.mem_eraseDups.mpr (List.mem_filterMap.mpr ⟨d, hd, hs⟩)
  have hperm := flatMap_filter_perm hnodup hcovered
  rw [List.flatMap_map] at hperm
  -- A method of the bean has its declarations among those of the bean.
  have hgroup : ∀ s ∈ m.methodsOf bean, m.methodDeclarations s =
      ((m.declarationsFor bean).filter (·.location.isMethod)).filter
        (·.location.signature? = some s) := by
    intro s hs
    obtain ⟨d, hd, hsignature⟩ := List.mem_filterMap.mp (List.mem_eraseDups.mp hs)
    have howner : s.bean = bean := by
      rw [declarationsFor_ofDeclarations] at hd
      rw [← Location.owner_of_signature? hsignature]
      exact beq_iff_eq.mp (List.mem_filter.mp hd).2
    rw [methodDeclarations, howner, List.filter_filter]
    apply List.filter_congr
    intro d _
    by_cases h : d.location.signature? = some s <;> simp [Location.isMethod, h]
  rwa [List.flatMap_congr hgroup]

/-- A frozen mapping lists each of its beans once: first those that something is declared on, in
the order of their first declarations, then those with nothing but a group sequence, in the order
of the sequences, which is that of the first one accepted for each. The look-ups by bean share out
all declarations. Those of one bean are shared out once more, between its constraints and its
cascades, and those on its methods between the methods; repeated ones stay repeated. -/
theorem beans_partition {r : Registry} {m : Mapping} (h : r.freeze = .ok m) :
    m.beans.Nodup ∧
      m.beans = (m.declarations.map (·.location.owner)).eraseDups ++
        (m.sequences.map (·.1)).eraseDups.filter (· ∉ m.declarations.map (·.location.owner)) ∧
      (∀ p catalog requests, let s := Session.start (.empty p catalog)
        r = (s.serveAll requests).registry →
          m.sequences.map (·.1) = ((s.accepted requests).map (·.1)).eraseDups) ∧
      (∀ bean, bean ∈ m.beans ↔ (∃ d ∈ m.declarations, d.location.owner = bean) ∨
        ∃ groups, (bean, groups) ∈ m.sequences) ∧
      (m.beans.flatMap m.declarationsFor).Perm m.declarations ∧
      (m.beans.map fun bean => (m.declarationsFor bean).length).sum = m.declarations.length ∧
      ∀ bean,
        (m.constraintsFor bean ++ m.cascadesFor bean).Perm (m.declarationsFor bean) ∧
        (∀ d ∈ m.constraintsFor bean, d.isCascade = false) ∧
        (∀ d ∈ m.cascadesFor bean, d.isCascade = true) ∧
        ((m.methodsOf bean).flatMap m.methodDeclarations).Perm
          ((m.declarationsFor bean).filter (·.location.isMethod)) := by
  obtain ⟨-, rfl⟩ := Registry.freeze_eq_ok_iff.mp h
  have hbeans := beans_ofDeclarations r.declarations r.sequences
  refine ⟨nodup_beans_ofDeclarations _ _, hbeans, ?_, ?_, declarationsFor_perm _ _,
    length_declarationsFor _ _, ?_⟩
  · rintro p catalog requests s rfl
    have hsequences : (s.serveAll requests).registry.sequences =
        .ofEntries (s.accepted requests) := Session.sequences_serveAll s requests
    rw [← GroupSequences.beans_ofEntries, ← hsequences]
    rfl
  · intro bean
    rw [hbeans, List.mem_append, List.mem_filter, List.mem_eraseDups, List.mem_eraseDups]
    simp only [List.mem_map, decide_eq_true_eq, ofDeclarations]
    grind
  · intro bean
    refine ⟨constraintsFor_append_cascadesFor_perm _ bean, ?_, ?_, methodDeclarations_perm _ _ bean⟩
    · intro d hd
      simpa using (List.mem_filter.mp hd).2
    · intro d hd
      exact (List.mem_filter.mp hd).2

def alternating : Registry :=
  let order : TypeRef := ⟨"shop::Order", 0⟩
  let line : TypeRef := ⟨"shop::Line", 0⟩
  let stock : TypeRef := ⟨"shop::Stock", 0⟩
  let weigh : Signature := ⟨order, "weigh", [⟨"f64", 0⟩], rfl⟩
  { Registry.new .strict with
    declarations := [.cascade (.property line "goods" .field),
      .cascade (.method weigh (.parameter 0)), .constraint (.bean line) (.bare "NotNull"),
      .constraint (.method weigh .returnValue) (.bare "NotNull"),
      .cascade (.method weigh (.parameter 0))]
    sequences := [(stock, [line]), (order, [order, line])] }

theorem beans_partition_alternating :
    let order : TypeRef := ⟨"shop::Order", 0⟩
    let line : TypeRef := ⟨"shop::Line", 0⟩
    let stock : TypeRef := ⟨"shop::Stock", 0⟩
    ∃ m, alternating.freeze = .ok m ∧ m.beans = [line, order, stock] ∧ m.beans.Nodup ∧
      (m.beans.flatMap m.declarationsFor).Perm m.declarations ∧
      (m.beans.map fun bean => (m.declarationsFor bean).length).sum = 5 ∧
      ((m.methodsOf order).flatMap m.methodDeclarations).length = 3 := by
  intro order line stock
  have hfreeze : alternating.freeze =
      .ok (.ofDeclarations alternating.declarations alternating.sequences) := rfl
  obtain ⟨hnodup, hbeans, -, -, hperm, hlength, hwithin⟩ := beans_partition hfreeze
  refine ⟨_, hfreeze, ?_, hnodup, hperm, hlength, ?_⟩
  · rw [hbeans]
    decide +kernel
  · rw [(hwithin order).2.2.2.length_eq]
    decide +kernel

end Mapping

end BeanRules
