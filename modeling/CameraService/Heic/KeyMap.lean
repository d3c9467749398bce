import Mathlib.Data.List.Basic

/-! `std::map<int64_t, V>` as sorted entries, with `operator[]` inserting a default value. -/

namespace CameraService

structure KeyMap (α : Type) where
  entries : List (Int × α)
  sorted : entries.Pairwise (fun a b => a.1 < b.1)

namespace KeyMap
variable {α β : Type}

instance [DecidableEq α] : DecidableEq (KeyMap α) := fun m n =>
  decidable_of_iff (m.entries = n.entries) (by cases m; cases n; simp)

def alter (k : Int) (f : Option α → α) : List (Int × α) → List (Int × α)
  | [] => [(k, f none)]
  | (j, v) :: rest =>
    if k < j then (k, f none) :: (j, v) :: rest
    else if k = j then (k, f (some v)) :: rest
    else (j, v) :: alter k f rest

theorem key_mem_alter {k : Int} {f : Option α → α} {l : List (Int × α)} {p : Int × α}
    (hp : p ∈ alter k f l) : p.1 = k ∨ ∃ q ∈ l, q.1 = p.1 := by
  induction l with
  | nil => simp_all [alter]
  | cons q rest ih =>
    obtain ⟨j, v⟩ := q
    simp only [alter] at hp
    split_ifs at hp with h₁ h₂ <;> simp only [List.mem_cons] at hp
    · rcases hp with rfl | rfl | hp
      · exact .inl rfl
      · exact .inr ⟨_, List.mem_cons_self _ _, rfl⟩
      · exact .inr ⟨p, List.mem_cons_of_mem _ hp, rfl⟩
    · rcases hp with rfl | hp
      · exact .inl rfl
      · exact .inr ⟨p, List.mem_cons_of_mem _ hp, rfl⟩
    · rcases hp with rfl | hp
      · exact .inr ⟨_, List.mem_cons_self _ _, rfl⟩
      · rcases ih hp with h | ⟨q, hq, he⟩
        · exact .inl h
        · exact .inr ⟨q, List.mem_cons_of_mem _ hq, he⟩

theorem sorted_alter (k : Int) (f : Option α → α) {l : List (Int × α)}
    (hl : l.Pairwise (fun a b => a.1 < b.1)) : (alter k f l).Pairwise (fun a b => a.1 < b.1) := by
  induction l with
  | nil => simp [alter]
  | cons q rest ih =>
    obtain ⟨j, v⟩ := q
    rw [List.pairwise_cons] at hl
    simp only [alter]
    split_ifs with h₁ h₂
    · refine List.Pairwise.cons (fun p hp => ?_) (List.Pairwise.cons hl.1 hl.2)
      rcases List.mem_cons.1 hp with rfl | hp
      · exact h₁
      · have := hl.1 p hp; simp only at this ⊢; omega
    · subst h₂; exact List.Pairwise.cons hl.1 hl.2
    · refine List.Pairwise.cons (fun p hp => ?_) (ih hl.2)
      rcases key_mem_alter hp with h | ⟨q, hq, he⟩
      · rw [h]; omega
      · rw [← he]; exact hl.1 q hq

def lookup (k : Int) : List (Int × α) → Option α
  | [] => none
  | (j, v) :: rest => if j = k then some v else lookup k rest

theorem lookup_map (f : α → β) (k : Int) :
    ∀ l : List (Int × α), lookup k (l.map fun p => (p.1, f p.2)) = (lookup k l).map f
  | [] => rfl
  | (j, v) :: rest => by
    simp only [List.map_cons, lookup]
    split
    · rfl
    · exact lookup_map f k rest

theorem lookup_eq_none_of_lt {k : Int} {l : List (Int × α)} (h : ∀ p ∈ l, k < p.1) :
    lookup k l = none := by
  induction l with
  | nil => rfl
  | cons q rest ih =>
    have hq := h q (List.mem_cons_self _ _)
    simp only [lookup, if_neg (Int.ne_of_gt hq)]
    exact ih fun p hp => h p (List.mem_cons_of_mem _ hp)

theorem lookup_alter_self (k : Int) (g : Option α → α) {l : List (Int × α)}
    (hl : l.Pairwise (fun a b => a.1 < b.1)) : lookup k (alter k g l) = some (g (lookup k l)) := by
  induction l with
  | nil => simp [alter, lookup]
  | cons q rest ih =>
    obtain ⟨j, v⟩ := q
    rw [List.pairwise_cons] at hl
    simp only [alter]
    split_ifs with h₁ h₂
    · have : lookup k rest = none := lookup_eq_none_of_lt fun p hp => by
        have := hl.1 p hp; simp only at this; omega
      simp [lookup, this, Int.ne_of_gt h₁]
    · subst h₂; simp [lookup]
    · simp [lookup, Ne.symm h₂, ih hl.2]

theorem lookup_alter_ne {j k : Int} (h : j ≠ k) (g : Option α → α) (l : List (Int × α)) :
    lookup j (alter k g l) = lookup j l := by
  induction l with
  | nil => simp [alter, lookup, Ne.symm h]
  | cons q rest ih =>
    obtain ⟨i, v⟩ := q
    simp only [alter]
    split_ifs with h₁ h₂
    · simp [lookup, Ne.symm h]
    · subst h₂; simp [lookup, Ne.symm h]
    · simp [lookup, ih]

theorem lookup_filter_ne (j k : Int) (l : List (Int × α)) :
    lookup j (l.filter (·.1 != k)) = if j = k then none else lookup j l := by
  induction l with
  | nil => simp [lookup]
  | cons q rest ih =>
    obtain ⟨i, v⟩ := q
    by_cases hi : i = k <;> by_cases hj : j = k <;> by_cases hij : i = j <;>
      simp_all [lookup, List.filter_cons]

theorem filter_ne_of_lt {k : Int} {l : List (Int × α)} (h : ∀ p ∈ l, k < p.1) :
    l.filter (·.1 != k) = l :=
  List.filter_eq_self.2 fun p hp => by have := h p hp; simp only [bne_iff_ne]; omega

variable (p : α → Option β)

theorem filterMap_perm_lookup (k : Int) {l : List (Int × α)}
    (hl : l.Pairwise (fun a b => a.1 < b.1)) :
    (l.filterMap (p ·.2)).Perm
      (((lookup k l).bind p).toList ++ (l.filter (·.1 != k)).filterMap (p ·.2)) := by
  induction l with
  | nil => simp [lookup]
  | cons q rest ih =>
    obtain ⟨j, v⟩ := q
    rw [List.pairwise_cons] at hl
    by_cases hj : j = k
    · subst hj
      have hr : rest.filter (·.1 != j) = rest := filter_ne_of_lt hl.1
      cases hv : p v <;> simp [lookup, hv, hr, List.filterMap_cons]
    · have hf : ((j, v) :: rest).filter (·.1 != k) = (j, v) :: rest.filter (·.1 != k) :=
        List.filter_cons_of_pos (by simpa using hj)
      have hk : lookup k ((j, v) :: rest) = lookup k rest := if_neg hj
      rw [hf, hk, List.filterMap_cons, List.filterMap_cons]
      cases p v with
      | none => exact ih hl.2
      | some b => exact ((ih hl.2).cons b).trans List.perm_middle.symm

theorem filter_alter_ne (k : Int) (g : Option α → α) (l : List (Int × α)) :
    (alter k g l).filter (·.1 != k) = l.filter (·.1 != k) := by
  induction l with
  | nil => simp [alter]
  | cons q rest ih =>
    obtain ⟨j, v⟩ := q
    simp only [alter]
    split_ifs with h₁ h₂
    · simp [List.filter_cons, Int.ne_of_gt h₁]
    · subst h₂; simp [List.filter_cons]
    · simp [List.filter_cons, Ne.symm h₂, ih]

theorem filterMap_alter_perm (k : Int) (g : Option α → α) {l : List (Int × α)}
    (hl : l.Pairwise (fun a b => a.1 < b.1)) :
    ((alter k g l).filterMap (p ·.2)).Perm
      ((p (g (lookup k l))).toList ++ (l.filter (·.1 != k)).filterMap (p ·.2)) := by
  have h := filterMap_perm_lookup p k (sorted_alter k g hl)
  rwa [lookup_alter_self k g hl, filter_alter_ne] at h

theorem filterMap_alter_of_eq (k : Int) (g : Option α → α) (l : List (Int × α))
    (h : ∀ o, p (g o) = o.bind p) : (alter k g l).filterMap (p ·.2) = l.filterMap (p ·.2) := by
  induction l with
  | nil => simp [alter, h]
  | cons q rest ih =>
    obtain ⟨j, v⟩ := q
    simp only [alter]
    split_ifs <;> simp [List.filterMap_cons, h, ih]

theorem lookup_eq_some_of_mem {k : Int} {v : α} {l : List (Int × α)}
    (hl : l.Pairwise (fun a b => a.1 < b.1)) (h : (k, v) ∈ l) : lookup k l = some v := by
  induction l with
  | nil => cases h
  | cons q rest ih =>
    obtain ⟨j, w⟩ := q
    rw [List.pairwise_cons] at hl
    rcases List.mem_cons.1 h with h | h
    · cases h; simp [lookup]
    · have := hl.1 _ h
      simp only [lookup, if_neg (Int.ne_of_lt this)]
      exact ih hl.2 h

theorem mem_of_lookup_eq_some {k : Int} {v : α} {l : List (Int × α)} (h : lookup k l = some v) :
    (k, v) ∈ l := by
  induction l with
  | nil => cases h
  | cons q rest ih =>
    obtain ⟨j, w⟩ := q
    simp only [lookup] at h
    split_ifs at h with hj
    · cases h; subst hj; exact List.mem_cons_self _ _
    · exact List.mem_cons_of_mem _ (ih h)

theorem lookup_filter_snd (k : Int) (q : α → Bool) {l : List (Int × α)}
    (hl : l.Pairwise (fun a b => a.1 < b.1)) :
    lookup k (l.filter (q ·.2)) = (lookup k l).filter q := by
  induction l with
  | nil => rfl
  | cons e rest ih =>
    obtain ⟨j, w⟩ := e
    rw [List.pairwise_cons] at hl
    by_cases hj : j = k
    · subst hj
      have hr : lookup j rest = none := lookup_eq_none_of_lt hl.1
      by_cases hw : q w <;> simp [List.filter_cons, lookup, hw, ih hl.2, hr, Option.filter]
    · by_cases hw : q w <;> simp [List.filter_cons, lookup, hw, hj, ih hl.2]

theorem head_key_le {j j' : Int} {v v' : α} {rest rest' : List (Int × α)}
    (hl' : ((j', v') :: rest').Pairwise (fun a b => a.1 < b.1))
    (h : ∀ k, lookup k ((j, v) :: rest) = lookup k ((j', v') :: rest')) : j' ≤ j := by
  refine Int.not_lt.1 fun hlt => ?_
  have hnone : lookup j ((j', v') :: rest') = none := lookup_eq_none_of_lt fun p hp => by
    rcases List.mem_cons.1 hp with rfl | hp
    · exact hlt
    · exact Int.lt_trans hlt ((List.pairwise_cons.1 hl').1 p hp)
  have := h j
  rw [hnone] at this
  simp [lookup] at this

theorem eq_of_lookup_eq : ∀ {l l' : List (Int × α)}, l.Pairwise (fun a b => a.1 < b.1) →
    l'.Pairwise (fun a b => a.1 < b.1) → (∀ k, lookup k l = lookup k l') → l = l'
  | [], [], _, _, _ => rfl
  | [], (j, _) :: _, _, _, h => by simpa [lookup] using h j
  | (j, _) :: _, [], _, _, h => by simpa [lookup] using h j
  | (j, v) :: rest, (j', v') :: rest', hl, hl', h => by
    obtain rfl : j = j' := Int.le_antisymm (head_key_le hl (fun k => (h k).symm)) (head_key_le hl' h)
    obtain rfl : v = v' := by simpa [lookup] using h j
    have hrest : ∀ k, lookup k rest = lookup k rest' := fun k => by
      by_cases hk : j = k
      · subst hk
        rw [lookup_eq_none_of_lt (List.pairwise_cons.1 hl).1,
          lookup_eq_none_of_lt (List.pairwise_cons.1 hl').1]
      · simpa [lookup, hk] using h k
    rw [eq_of_lookup_eq (List.pairwise_cons.1 hl).2 (List.pairwise_cons.1 hl').2 hrest]

def empty : KeyMap α := ⟨[], List.Pairwise.nil⟩

def find? (m : KeyMap α) (k : Int) : Option α := lookup k m.entries

def contains (m : KeyMap α) (k : Int) : Bool := (m.find? k).isSome

def size (m : KeyMap α) : Nat := m.entries.length

def modify [Inhabited α] (m : KeyMap α) (k : Int) (g : α → α) : KeyMap α :=
  ⟨alter k (fun o => g (o.getD default)) m.entries, sorted_alter _ _ m.sorted⟩

def insert (m : KeyMap α) (k : Int) (v : α) : KeyMap α :=
  ⟨alter k (fun _ => v) m.entries, sorted_alter _ _ m.sorted⟩

def emplace (m : KeyMap α) (k : Int) (v : α) : KeyMap α :=
  ⟨alter k (fun o => o.getD v) m.entries, sorted_alter _ _ m.sorted⟩

def erase (m : KeyMap α) (k : Int) : KeyMap α :=
  ⟨m.entries.filter (·.1 != k), m.sorted.filter _⟩

def map (f : α → β) (m : KeyMap α) : KeyMap β :=
  ⟨m.entries.map fun p => (p.1, f p.2), List.pairwise_map.2 m.sorted⟩

def holders (m : KeyMap α) : List β := m.entries.filterMap (p ·.2)

variable {p} (m : KeyMap α) (k : Int)

@[simp] theorem find?_insert_self (v : α) : (m.insert k v).find? k = some v :=
  lookup_alter_self k _ m.sorted

@[simp] theorem find?_insert_ne {j : Int} (h : j ≠ k) (v : α) : (m.insert k v).find? j = m.find? j :=
  lookup_alter_ne h _ _

@[simp] theorem find?_erase (j : Int) : (m.erase k).find? j = if j = k then none else m.find? j :=
  lookup_filter_ne j k _

@[simp] theorem find?_map (f : α → β) : (m.map f).find? k = (m.find? k).map f :=
  lookup_map f k m.entries

@[simp] theorem find?_empty : (empty : KeyMap α).find? k = none := rfl

@[simp] theorem contains_empty : (empty : KeyMap α).contains k = false := rfl

theorem find?_insert (v : α) (j : Int) : (m.insert k v).find? j = if j = k then some v else m.find? j := by
  split_ifs with h
  · subst h; exact find?_insert_self m j v
  · exact find?_insert_ne m k h v

@[simp] theorem find?_emplace_self (v : α) : (m.emplace k v).find? k = some ((m.find? k).getD v) :=
  lookup_alter_self k _ m.sorted

@[simp] theorem find?_emplace_ne {j : Int} (h : j ≠ k) (v : α) : (m.emplace k v).find? j = m.find? j :=
  lookup_alter_ne h _ _

theorem find?_foldl_erase (keys : List Int) (j : Int) :
    (keys.foldl erase m).find? j = if j ∈ keys then none else m.find? j := by
  induction keys generalizing m with
  | nil => simp
  | cons key rest ih =>
    rw [List.foldl_cons, ih, find?_erase]
    by_cases h₁ : j ∈ rest <;> by_cases h₂ : j = key <;> simp [h₁, h₂]

@[simp] theorem contains_insert (v : α) (j : Int) :
    (m.insert k v).contains j = (j == k || m.contains j) := by
  by_cases h : j = k
  · subst h; simp [contains]
  · simp [contains, h]

@[simp] theorem contains_erase (j : Int) : (m.erase k).contains j = (!(j == k) && m.contains j) := by
  by_cases h : j = k <;> simp [contains, h]

theorem find?_eq_some_iff {v : α} : m.find? k = some v ↔ (k, v) ∈ m.entries :=
  ⟨mem_of_lookup_eq_some, lookup_eq_some_of_mem m.sorted⟩

theorem ext_find? {n : KeyMap α} (h : ∀ j, m.find? j = n.find? j) : m = n := by
  obtain ⟨l, hl⟩ := m
  obtain ⟨l', hl'⟩ := n
  obtain rfl := eq_of_lookup_eq hl hl' h
  rfl

theorem insert_emplace (v w : α) : (m.emplace k v).insert k w = m.insert k w :=
  ext_find? _ fun j => by
    by_cases h : j = k
    · subst h; simp
    · simp [find?_insert, h]

theorem holders_eq_nil_iff : m.holders p = [] ↔ ∀ j a, m.find? j = some a → p a = none := by
  simp only [holders, List.filterMap_eq_nil_iff, find?_eq_some_iff]
  exact ⟨fun h j a ha => h _ ha, fun h e he => h e.1 e.2 he⟩

theorem holders_perm_erase :
    (m.holders p).Perm (((m.find? k).bind p).toList ++ (m.erase k).holders p) :=
  filterMap_perm_lookup p k m.sorted

theorem holders_insert_perm (v : α) :
    ((m.insert k v).holders p).Perm ((p v).toList ++ (m.erase k).holders p) :=
  filterMap_alter_perm p k _ m.sorted

theorem holders_insert_perm_self (v : α) (hp : p v = (m.find? k).bind p) :
    ((m.insert k v).holders p).Perm (m.holders p) := by
  refine (holders_insert_perm m k v).trans ?_
  rw [hp]
  exact (holders_perm_erase m k).symm

variable [Inhabited α]

theorem bind_find?_eq (hd : p default = none) : (m.find? k).bind p = p ((m.find? k).getD default) := by
  cases m.find? k <;> simp [hd]

@[simp] theorem find?_modify_self (g : α → α) :
    (m.modify k g).find? k = some (g ((m.find? k).getD default)) :=
  lookup_alter_self k _ m.sorted

@[simp] theorem find?_modify_ne {j : Int} (h : j ≠ k) (g : α → α) :
    (m.modify k g).find? j = m.find? j :=
  lookup_alter_ne h _ _

@[simp] theorem contains_modify (g : α → α) (j : Int) :
    (m.modify k g).contains j = (j == k || m.contains j) := by
  by_cases h : j = k
  · subst h; simp [contains]
  · simp [contains, h]

theorem holders_modify_perm (g : α → α) :
    ((m.modify k g).holders p).Perm
      ((p (g ((m.find? k).getD default))).toList ++ (m.erase k).holders p) :=
  filterMap_alter_perm p k _ m.sorted

theorem holders_modify (g : α → α) (h : ∀ a, p (g a) = p a) (hd : p default = none) :
    (m.modify k g).holders p = m.holders p :=
  filterMap_alter_of_eq p k _ _ fun o => by cases o <;> simp [h, hd]

end KeyMap
end CameraService
