import MacDispatch.Proofs.Collecting
import Mathlib.Data.List.Induction

/-! # Offers

An assembly may be offered modules that it refuses. Main statement: whatever it was offered, an
assembly holds the first module offered for each feature, and the offers that it refused might as
well not have been made. -/

namespace MacDispatch

open List

variable {σ : Type}

namespace FeatureModule

/-! ## The first of each feature -/

/-- The modules before which none of the same feature stands, in order. -/
def firstOfEach (modules : List (FeatureModule σ)) : List (FeatureModule σ) :=
  (modules.zipIdx.filter fun offered =>
    (modules.take offered.2).all (·.feature != offered.1.feature)).map Prod.fst

theorem firstOfEach_sublist (modules : List (FeatureModule σ)) :
    firstOfEach modules <+ modules := by
  have h := (filter_sublist (l := modules.zipIdx) (p := fun offered =>
    (modules.take offered.2).all (·.feature != offered.1.feature))).map Prod.fst
  rwa [zipIdx_map_fst] at h

/-- A module at the end is one more, unless its feature has occurred. -/
theorem firstOfEach_concat (modules : List (FeatureModule σ)) (module : FeatureModule σ) :
    firstOfEach (modules ++ [module]) =
      firstOfEach modules ++
        if module.feature ∈ modules.map feature then [] else [module] := by
  have hfront : (modules.zipIdx.filter fun offered =>
      ((modules ++ [module]).take offered.2).all (·.feature != offered.1.feature)) =
        modules.zipIdx.filter fun offered =>
          (modules.take offered.2).all (·.feature != offered.1.feature) := by
    refine filter_congr fun offered hmem => ?_
    have hlt : offered.2 < modules.length := (mem_zipIdx' hmem).1
    rw [take_append_of_le_length (Nat.le_of_lt hlt)]
  rw [firstOfEach, zipIdx_append, filter_append, map_append, hfront, firstOfEach]
  congr 1
  by_cases h : module.feature ∈ modules.map feature
  · obtain ⟨earlier, hmem, he⟩ := mem_map.mp h
    rw [if_pos h, map_eq_nil_iff, filter_eq_nil_iff]
    simpa using ⟨earlier, hmem, he⟩
  · have hnew : ∀ earlier ∈ modules, earlier.feature ≠ module.feature :=
      fun earlier hmem he => h (mem_map.mpr ⟨earlier, hmem, he⟩)
    rw [if_neg h, filter_eq_self.mpr]
    · rfl
    · simpa using hnew

theorem mem_map_feature_firstOfEach {modules : List (FeatureModule σ)} {f : Feature} :
    f ∈ (firstOfEach modules).map feature ↔ f ∈ modules.map feature := by
  induction modules using List.reverseRecOn with
  | nil => rfl
  | append_singleton modules module ih =>
    rw [firstOfEach_concat, map_append, map_append, mem_append, mem_append, ih]
    split
    · rename_i hseen
      simp only [map_nil, not_mem_nil, or_false, map_cons, mem_singleton]
      exact ⟨.inl, fun h => h.elim id fun he => he ▸ hseen⟩
    · rfl

theorem nodup_map_feature_firstOfEach (modules : List (FeatureModule σ)) :
    ((firstOfEach modules).map feature).Nodup := by
  induction modules using List.reverseRecOn with
  | nil => exact nodup_nil
  | append_singleton modules module ih =>
    rw [firstOfEach_concat]
    split
    · rwa [append_nil]
    · rename_i hnew
      rw [map_append, nodup_append]
      refine ⟨ih, by simp, ?_⟩
      rintro f hf g hg rfl
      rw [map_singleton, mem_singleton] at hg
      exact hnew (hg ▸ mem_map_feature_firstOfEach.mp hf)

end FeatureModule

namespace Assembly

/-! ## Offers, one after another -/

/-- The assembly after a module was offered to it, whether it took the module or not. -/
def offer (assembly : Assembly σ) (module : FeatureModule σ) : Assembly σ :=
  (assembly.add module).value.2

def offerAll (assembly : Assembly σ) (modules : List (FeatureModule σ)) : Assembly σ :=
  modules.foldl offer assembly

theorem offerAll_append (assembly : Assembly σ) (front back : List (FeatureModule σ)) :
    assembly.offerAll (front ++ back) = (assembly.offerAll front).offerAll back :=
  foldl_append

/-- A module is refused exactly if its feature has one. -/
theorem value_add_eq_error_iff {assembly : Assembly σ} {module : FeatureModule σ}
    {fault : AssemblyFault} :
    (assembly.add module).value.1 = .error fault ↔
      module.feature ∈ assembly.modules.map FeatureModule.feature ∧
        fault = .repeatedModule module.feature := by
  by_cases h : module.feature ∈ assembly.modules.map FeatureModule.feature
  · rw [value_add_of_has h, Except.error.injEq]
    exact ⟨fun he => ⟨h, he.symm⟩, fun he => he.2.symm⟩
  · simp [value_add_of_not_has h, h]

/-- An offer that is refused changes nothing. -/
theorem offer_of_refused {assembly : Assembly σ} {module : FeatureModule σ}
    {fault : AssemblyFault} (h : (assembly.add module).value.1 = .error fault) :
    assembly.offer module = assembly := by
  rw [offer, value_add_of_has (value_add_eq_error_iff.mp h).1]

theorem offer_eq (assembly : Assembly σ) (module : FeatureModule σ) :
    assembly.offer module =
      { assembly with modules := assembly.modules ++
          if module.feature ∈ assembly.modules.map FeatureModule.feature then []
          else [module] } := by
  by_cases h : module.feature ∈ assembly.modules.map FeatureModule.feature
  · simp [offer, value_add_of_has h, h]
  · simp [offer, value_add_of_not_has h, h]

/-- What is left of offers are the first modules of each feature. -/
theorem offerAll_empty (features : FeatureSet) (modules : List (FeatureModule σ)) :
    (empty features).offerAll modules = ⟨features, FeatureModule.firstOfEach modules⟩ := by
  induction modules using List.reverseRecOn with
  | nil => rfl
  | append_singleton modules module ih =>
    rw [offerAll_append, ih, FeatureModule.firstOfEach_concat]
    simp only [offerAll, foldl_cons, foldl_nil, offer_eq,
      FeatureModule.mem_map_feature_firstOfEach]

/-- The features of an assembly are those of the modules that it took when they were offered. -/
theorem mem_map_feature_offerAll_iff {features : FeatureSet} {modules : List (FeatureModule σ)}
    {feature : Feature} :
    feature ∈ ((empty features).offerAll modules).modules.map FeatureModule.feature ↔
      ∃ front earlier back, modules = front ++ earlier :: back ∧
        (((empty features).offerAll front).add earlier).value.1 = .ok () ∧
          earlier.feature = feature := by
  rw [offerAll_empty, FeatureModule.mem_map_feature_firstOfEach]
  constructor
  · intro h
    obtain ⟨before, after, hsplit, hnew⟩ := eq_append_cons_of_mem h
    obtain ⟨front, rest, rfl, rfl, hrest⟩ := map_eq_append_iff.mp hsplit
    obtain ⟨earlier, back, rfl, hfeature, -⟩ := map_eq_cons_iff.mp hrest
    refine ⟨front, earlier, back, rfl, congrArg Prod.fst (value_add_of_not_has ?_), hfeature⟩
    rwa [offerAll_empty, FeatureModule.mem_map_feature_firstOfEach, hfeature]
  · rintro ⟨front, earlier, back, rfl, -, rfl⟩
    simp

/-- Modules that are all added are an assembly's offers. -/
theorem eq_offerAll_of_value_addAll {assembly grown : Assembly σ}
    {modules : List (FeatureModule σ)} (h : (assembly.addAll modules).value = .ok grown) :
    grown = assembly.offerAll modules := by
  induction modules generalizing assembly with
  | nil =>
    cases h
    rfl
  | cons module rest ih =>
    rw [addAll, Traced.value_bind, value_withModule] at h
    cases hadd : (assembly.add module).value.1 with
    | error fault =>
      rw [hadd] at h
      cases h
    | ok _ =>
      rw [hadd] at h
      exact ih h

/-- Modules are all added exactly if no two are of one feature. -/
theorem exists_value_addAll_iff {features : FeatureSet} {modules : List (FeatureModule σ)} :
    (∃ grown, ((empty features).addAll modules).value = .ok grown) ↔
      (modules.map FeatureModule.feature).Nodup := by
  constructor
  · rintro ⟨grown, h⟩
    have hall : FeatureModule.firstOfEach modules = modules := by
      have he := (eq_offerAll_of_value_addAll h).symm.trans (eq_of_value_addAll h)
      rw [offerAll_empty] at he
      exact congrArg Assembly.modules he
    rw [← hall]
    exact FeatureModule.nodup_map_feature_firstOfEach modules
  · exact fun h => ⟨_, value_addAll_of_nodup h⟩

/-! ## What an assembly tells of its modules -/

theorem moduleFeatures_perm (assembly : Assembly σ) :
    assembly.moduleFeatures ~ assembly.modules.map FeatureModule.feature :=
  Feature.sort_perm _

theorem pairwise_moduleFeatures {assembly : Assembly σ}
    (h : (assembly.modules.map FeatureModule.feature).Nodup) :
    assembly.moduleFeatures.Pairwise (Feature.rank · < Feature.rank ·) :=
  (Feature.pairwise_lt_iff_nodup (Feature.pairwise_sort _)).mpr
    (assembly.moduleFeatures_perm.nodup_iff.mpr h)

theorem missing_eq (assembly : Assembly σ) :
    assembly.missing = Feature.all.filter fun feature =>
      !feature.isOptional && feature ∉ assembly.moduleFeatures := by
  refine filter_congr fun feature _ => ?_
  have hhas : assembly.has feature = decide (feature ∈ assembly.moduleFeatures) := by
    rw [Bool.eq_iff_iff, decide_eq_true_iff, assembly.moduleFeatures_perm.mem_iff, mem_map, has,
      any_eq_true]
    simp only [beq_iff_eq]
  rw [hhas, decide_not]

structure OffersSpec (features : FeatureSet) (modules : List (FeatureModule σ))
    (assembly : Assembly σ) : Prop where
  features_eq : assembly.features = features
  modules_eq : assembly.modules = FeatureModule.firstOfEach modules
  /-- A module is refused exactly if one of its feature was taken before. -/
  refused_iff : ∀ module, (∃ fault, (assembly.add module).value.1 = .error fault) ↔
    ∃ front earlier back, modules = front ++ earlier :: back ∧
      (((empty features).offerAll front).add earlier).value.1 = .ok () ∧
        earlier.feature = module.feature
  /-- A module that is refused leaves the assembly as it was. -/
  unchanged : ∀ module fault, (assembly.add module).value.1 = .error fault →
    (assembly.add module).value.2 = assembly
  failure_eq : ∀ module fault, (assembly.add module).value.1 = .error fault →
    fault.failure = ⟨.validation,
      "a module for feature '" ++ module.feature.name ++ "' is already added", none⟩
  /-- What comes later is as if a module that is refused had not been offered. -/
  forgotten : ∀ module fault, (assembly.add module).value.1 = .error fault → ∀ later,
    (empty features).offerAll (modules ++ module :: later) =
      (empty features).offerAll (modules ++ later)
  ranked : assembly.moduleFeatures.Pairwise (Feature.rank · < Feature.rank ·)
  listed : assembly.moduleFeatures ~ assembly.modules.map FeatureModule.feature
  missing_eq : assembly.missing = Feature.all.filter fun feature =>
    !feature.isOptional && feature ∉ assembly.moduleFeatures
  /-- To insist on each module is to offer it, as long as none is refused. -/
  chain_iff : (∃ grown, ((empty features).addAll modules).value = .ok grown) ↔
    (modules.map FeatureModule.feature).Nodup
  chain_eq : ∀ grown, ((empty features).addAll modules).value = .ok grown → grown = assembly

/-- Whatever it is offered, an assembly keeps one module for each feature, the first. -/
theorem offers_keep_first (features : FeatureSet) (modules : List (FeatureModule σ)) :
    OffersSpec features modules ((empty features).offerAll modules) where
  features_eq := by rw [offerAll_empty]
  modules_eq := by rw [offerAll_empty]
  refused_iff module := by
    simp only [value_add_eq_error_iff, exists_and_left, exists_eq, and_true,
      mem_map_feature_offerAll_iff]
  unchanged _ _ h := offer_of_refused h
  failure_eq module fault h := by
    obtain ⟨-, rfl⟩ := value_add_eq_error_iff.mp h
    rfl
  forgotten module fault h later := by
    calc
      (empty features).offerAll (modules ++ module :: later) =
          (((empty features).offerAll modules).offer module).offerAll later :=
        offerAll_append _ _ _
      _ = (empty features).offerAll (modules ++ later) := by
        rw [offer_of_refused h, offerAll_append]
  ranked := by
    apply pairwise_moduleFeatures
    rw [offerAll_empty]
    exact FeatureModule.nodup_map_feature_firstOfEach modules
  listed := moduleFeatures_perm _
  missing_eq := missing_eq _
  chain_iff := exists_value_addAll_iff
  chain_eq _ := eq_offerAll_of_value_addAll

end Assembly

end MacDispatch
