import CameraService.Heic.KeyMap

/-! `SurfaceMap` and the two operations on it of `AidlCamera3SharedDevice`, stated through the
(stream, surface) pairs a map targets. -/

namespace CameraService.Shared

abbrev SurfaceMap := KeyMap (List Nat)

def mergeSurfaceMaps (map1 map2 : SurfaceMap) : SurfaceMap :=
  map2.entries.foldl (fun mergedMap (key, value) => mergedMap.modify key (· ++ value)) map1

def removeSurfaces (resultMap : SurfaceMap) : Int × List Nat → SurfaceMap
  | (key, value2) =>
    match resultMap.find? key with
    | some value1 =>
      let value1 := value2.foldl (fun value1 val2 => value1.filter (· != val2)) value1
      if value1.isEmpty then resultMap.erase key else resultMap.insert key value1
    | none => resultMap

def removeClientSurfaceMap (map1 map2 : SurfaceMap) : SurfaceMap :=
  map2.entries.foldl removeSurfaces map1

def SurfaceMap.single (streamId : Int) (surfaces : List Nat) : SurfaceMap :=
  ⟨[(streamId, surfaces)], List.pairwise_singleton _ _⟩

def targets (m : SurfaceMap) (streamId : Int) (surfaceId : Nat) : Bool :=
  ((m.find? streamId).getD []).contains surfaceId

section
variable (k : Int) (x : Nat)

theorem contains_lookup :
    ∀ {l : List (Int × List Nat)}, l.Pairwise (fun a b => a.1 < b.1) →
      ((KeyMap.lookup k l).getD []).contains x = l.any fun p => p.1 == k && p.2.contains x
  | [], _ => rfl
  | (j, v) :: rest, hl => by
    obtain ⟨hj, hrest⟩ := List.pairwise_cons.1 hl
    by_cases h : j = k
    · subst h
      have hnone : (rest.any fun p => p.1 == j && p.2.contains x) = false :=
        List.any_eq_false.2 fun p hp => by simp [Int.ne_of_gt (hj p hp)]
      simp only [KeyMap.lookup, ↓reduceIte, Option.getD_some, List.any_cons, beq_self_eq_true,
        Bool.true_and, hnone, Bool.or_false]
    · rw [KeyMap.lookup, if_neg h, List.any_cons, contains_lookup hrest]
      simp [h]

theorem targets_eq_any (m : SurfaceMap) :
    targets m k x = m.entries.any fun p => p.1 == k && p.2.contains x :=
  contains_lookup k x m.sorted

theorem targets_modify_append (m : SurfaceMap) (key : Int) (value : List Nat) :
    targets (m.modify key (· ++ value)) k x = (targets m k x || (key == k && value.contains x)) := by
  by_cases h : key = k
  · subst h
    simp [targets, show (default : List Nat) = [] from rfl]
  · simp [targets, KeyMap.find?_modify_ne _ _ (Ne.symm h), h]

theorem targets_foldl_modify :
    ∀ (l : List (Int × List Nat)) (acc : SurfaceMap),
      targets (l.foldl (fun mergedMap (key, value) => mergedMap.modify key (· ++ value)) acc) k x =
        (targets acc k x || l.any fun p => p.1 == k && p.2.contains x)
  | [], _ => by simp
  | (key, value) :: rest, acc => by
    rw [List.foldl_cons, targets_foldl_modify rest, targets_modify_append, List.any_cons,
      Bool.or_assoc]

theorem targets_mergeSurfaceMaps (map1 map2 : SurfaceMap) :
    targets (mergeSurfaceMaps map1 map2) k x = (targets map1 k x || targets map2 k x) := by
  rw [mergeSurfaceMaps, targets_foldl_modify, targets_eq_any k x map2]

theorem contains_foldl_filter :
    ∀ (value2 value1 : List Nat),
      (value2.foldl (fun value1 val2 => value1.filter (· != val2)) value1).contains x =
        (value1.contains x && !value2.contains x)
  | [], _ => by simp
  | y :: rest, value1 => by
    rw [List.foldl_cons, contains_foldl_filter rest]
    by_cases h : x = y <;> simp [h, List.mem_filter]

theorem targets_removeSurfaces (m : SurfaceMap) (key : Int) (value2 : List Nat) :
    targets (removeSurfaces m (key, value2)) k x =
      (targets m k x && !(key == k && value2.contains x)) := by
  simp only [removeSurfaces]
  split
  · rename_i value1 hfound
    have hc := contains_foldl_filter x value2 value1
    by_cases h : key = k
    · subst h
      split_ifs with hempty
      · rw [List.isEmpty_iff.1 hempty] at hc
        simpa [targets, hfound] using hc.symm
      · simpa [targets, hfound] using hc
    · split_ifs <;> simp [targets, KeyMap.find?_insert_ne _ _ (Ne.symm h), h, Ne.symm h]
  · rename_i hfound
    by_cases h : key = k
    · subst h
      simp [targets, hfound]
    · simp [h]

theorem targets_foldl_removeSurfaces :
    ∀ (l : List (Int × List Nat)) (acc : SurfaceMap),
      targets (l.foldl removeSurfaces acc) k x =
        (targets acc k x && !l.any fun p => p.1 == k && p.2.contains x)
  | [], _ => by simp
  | (key, value2) :: rest, acc => by
    rw [List.foldl_cons, targets_foldl_removeSurfaces rest, targets_removeSurfaces, List.any_cons,
      Bool.not_or, Bool.and_assoc]

theorem targets_removeClientSurfaceMap (map1 map2 : SurfaceMap) :
    targets (removeClientSurfaceMap map1 map2) k x = (targets map1 k x && !targets map2 k x) := by
  rw [removeClientSurfaceMap, targets_foldl_removeSurfaces, targets_eq_any k x map2]

end

section
variable (k : Int)

theorem find?_foldl_modify :
    ∀ {l : List (Int × List Nat)}, l.Pairwise (fun a b => a.1 < b.1) → ∀ acc : SurfaceMap,
      (l.foldl (fun mergedMap (key, value) => mergedMap.modify key (· ++ value)) acc).find? k =
        match KeyMap.lookup k l with
        | some value => some ((acc.find? k).getD [] ++ value)
        | none => acc.find? k
  | [], _, _ => rfl
  | (key, value) :: rest, hl, acc => by
    rw [List.foldl_cons, find?_foldl_modify (List.pairwise_cons.1 hl).2]
    by_cases h : key = k
    · subst h
      rw [KeyMap.lookup_eq_none_of_lt (List.pairwise_cons.1 hl).1]
      simp [KeyMap.lookup, show (default : List Nat) = [] from rfl]
    · simp only [KeyMap.lookup, h, if_false, KeyMap.find?_modify_ne _ _ (Ne.symm h)]

theorem find?_mergeSurfaceMaps (map1 map2 : SurfaceMap) :
    (mergeSurfaceMaps map1 map2).find? k =
      match map2.find? k with
      | some value => some ((map1.find? k).getD [] ++ value)
      | none => map1.find? k :=
  find?_foldl_modify k map2.sorted map1

theorem foldl_filter_eq (value2 value1 : List Nat) :
    value2.foldl (fun value1 val2 => value1.filter (· != val2)) value1 =
      value1.filter fun x => !value2.contains x := by
  induction value2 generalizing value1 with
  | nil => simp
  | cons y rest ih =>
    rw [List.foldl_cons, ih, List.filter_filter]
    congr 1
    funext x
    by_cases h : x = y <;> simp [h]

def remaining (value2 value1 : List Nat) : Option (List Nat) :=
  let value1 := value1.filter fun x => !value2.contains x
  if value1.isEmpty then none else some value1

theorem find?_removeSurfaces (m : SurfaceMap) (key : Int) (value2 : List Nat) :
    (removeSurfaces m (key, value2)).find? k =
      if key = k then (m.find? k).bind (remaining value2) else m.find? k := by
  simp only [removeSurfaces]
  split
  · rename_i value1 hfound
    rw [foldl_filter_eq]
    by_cases h : key = k
    · subst h
      split_ifs <;> simp_all [remaining]
    · split_ifs <;> simp [h, Ne.symm h]
  · rename_i hfound
    split_ifs with h
    · subst h; simp [hfound]
    · rfl

theorem find?_foldl_removeSurfaces :
    ∀ {l : List (Int × List Nat)}, l.Pairwise (fun a b => a.1 < b.1) → ∀ acc : SurfaceMap,
      (l.foldl removeSurfaces acc).find? k =
        match KeyMap.lookup k l with
        | some value2 => (acc.find? k).bind (remaining value2)
        | none => acc.find? k
  | [], _, _ => rfl
  | (key, value2) :: rest, hl, acc => by
    rw [List.foldl_cons, find?_foldl_removeSurfaces (List.pairwise_cons.1 hl).2,
      find?_removeSurfaces]
    by_cases h : key = k
    · subst h
      rw [KeyMap.lookup_eq_none_of_lt (List.pairwise_cons.1 hl).1]
      simp [KeyMap.lookup]
    · simp only [KeyMap.lookup, h, if_false]

theorem find?_removeClientSurfaceMap (map1 map2 : SurfaceMap) :
    (removeClientSurfaceMap map1 map2).find? k =
      match map2.find? k with
      | some value2 => (map1.find? k).bind (remaining value2)
      | none => map1.find? k :=
  find?_foldl_removeSurfaces k map2.sorted map1

end

theorem removeClientSurfaceMap_mergeSurfaceMaps (a b : SurfaceMap)
    (hdisj : ∀ p ∈ a.entries, ∀ q ∈ b.entries, p.1 = q.1 → ∀ x ∈ q.2, x ∉ p.2)
    (hne : ∀ q ∈ b.entries, q.2 ≠ []) :
    removeClientSurfaceMap (mergeSurfaceMaps a b) a = b := by
  refine KeyMap.ext_find? _ fun k => ?_
  rw [find?_removeClientSurfaceMap, find?_mergeSurfaceMaps]
  cases ha : a.find? k with
  | none => cases b.find? k <;> simp
  | some va =>
    have hself : (va.filter fun x => !va.contains x) = [] := by simp
    cases hb : b.find? k with
    | none => simp [remaining, hself]
    | some vb =>
      have hkeep : (vb.filter fun x => !va.contains x) = vb := List.filter_eq_self.2 fun x hx => by
        simpa using hdisj _ ((KeyMap.find?_eq_some_iff _ _).1 ha) _
          ((KeyMap.find?_eq_some_iff _ _).1 hb) rfl x hx
      have hvb : vb.isEmpty = false := by
        simpa [List.isEmpty_iff] using hne _ ((KeyMap.find?_eq_some_iff _ _).1 hb)
      simp only [Option.some_bind, Option.getD_some, remaining, List.filter_append, hself, hkeep,
        List.nil_append, hvb, Bool.false_eq_true, if_false]

theorem removeClientSurfaceMap_mergeSurfaceMaps_single :
    (∀ p ∈ (SurfaceMap.single 0 [0]).entries, ∀ q ∈ (SurfaceMap.single 0 [1, 2]).entries,
        p.1 = q.1 → ∀ x ∈ q.2, x ∉ p.2) ∧
      (∀ q ∈ (SurfaceMap.single 0 [1, 2]).entries, q.2 ≠ []) ∧
      removeClientSurfaceMap (mergeSurfaceMaps (.single 0 [0]) (.single 0 [1, 2])) (.single 0 [0]) =
        .single 0 [1, 2] :=
  ⟨by decide, by decide, removeClientSurfaceMap_mergeSurfaceMaps _ _ (by decide) (by decide)⟩

end CameraService.Shared
