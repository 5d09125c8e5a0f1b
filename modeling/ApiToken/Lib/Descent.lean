import ApiToken.Lib.Table

/-!
# Recursive queries

`WITH RECURSIVE` over a table whose rows link to a parent row: level by
level from a root, following the links downwards and never back onto the
path that led there. The query ends when a level is empty, at the latest
after as many levels as the table has rows, since a path repeats no key.

Read deepest level first, the result lists every row after all of its
children (`childrenFirst`), as long as the links have no cycle.
-/

namespace ApiToken.Descent

universe u v

variable {n fuel : Nat}

variable {κ : Type u} {ρ : Type v} [DecidableEq κ] (link : ρ → Option κ)

/-- The children of `k` that are not on the path, each with its own path. -/
def step (t : Table κ ρ) (x : κ × List κ) : List (κ × List κ) :=
  (t.rows.filter (fun y => decide (link y.2 = some x.1) && !x.2.contains y.1)).map
    (fun y => (y.1, x.2 ++ [y.1]))

/-- At most `fuel` levels, the given one first. -/
def levels (t : Table κ ρ) : Nat → List (κ × List κ) → List (List κ)
  | 0, _ => []
  | fuel + 1, level => level.map Prod.fst :: levels t fuel (level.flatMap (step link t))

def tree (t : Table κ ρ) (root : κ) : List (List κ) :=
  match t.find? root with
  | none => []
  | some _ => levels link t t.rows.length [(root, [root])]

/-- `ORDER BY depth`. -/
def rootFirst (t : Table κ ρ) (root : κ) : List κ := (tree link t root).flatten

/-- `ORDER BY depth DESC`. -/
def leafFirst (t : Table κ ρ) (root : κ) : List κ := (tree link t root).reverse.flatten

/-- `c` is the key of a row that links to `k`. -/
def IsChild (t : Table κ ρ) (k c : κ) : Prop :=
  ∃ r, t.find? c = some r ∧ link r = some k

/-- `k` is the root or below it. -/
def Under (t : Table κ ρ) (root k : κ) : Prop :=
  Relation.ReflTransGen (IsChild link t) root k

/-- The links have no cycle: some rank grows along all of them. -/
def Acyclic (t : Table κ ρ) : Prop :=
  ∃ rank : κ → Nat, ∀ k c, IsChild link t k c → rank k < rank c

variable {link} {t : Table κ ρ} {root : κ}

/-! ## Paths -/

inductive Path (link : ρ → Option κ) (t : Table κ ρ) (root : κ) : κ → List κ → Prop where
  | root : Path link t root root [root]
  | child {k c : κ} {p : List κ} (path : Path link t root k p)
      (child : IsChild link t k c) (fresh : c ∉ p) : Path link t root c (p ++ [c])

variable {k c : κ} {p : List κ} {level : List (κ × List κ)}

theorem Path.root_mem (h : Path link t root k p) : root ∈ p := by
  induction h with
  | root => exact mem_singleton_self _
  | child _ _ _ ih => exact mem_append_left _ ih

theorem Path.nodup (h : Path link t root k p) : p.Nodup := by
  induction h with
  | root => exact List.nodup_singleton _
  | child _ _ hfresh ih =>
    rw [nodup_append]
    refine ⟨ih, List.nodup_singleton _, ?_⟩
    intro a ha b hb hab
    rw [mem_singleton] at hb
    subst hb
    exact hfresh (hab ▸ ha)

theorem Path.under (h : Path link t root k p) : Under link t root k := by
  induction h with
  | root => exact .refl
  | child _ hchild _ ih => exact ih.tail hchild

theorem Path.unique {p' : List κ} (h : Path link t root k p) (h' : Path link t root k p') :
    p = p' := by
  induction h generalizing p' with
  | root =>
    cases h' with
    | root => rfl
    | child hp _ hfresh => exact absurd hp.root_mem hfresh
  | child hp hchild hfresh ih =>
    cases h' with
    | root => exact absurd hp.root_mem hfresh
    | child hp' hchild' =>
      obtain ⟨r, hr, hlink⟩ := hchild
      obtain ⟨r', hr', hlink'⟩ := hchild'
      obtain rfl : r = r' := some.inj (hr.symm.trans hr')
      obtain rfl := some.inj (hlink.symm.trans hlink')
      rw [ih hp']

theorem Path.keys (h : Path link t root k p) (hroot : root ∈ t.rows.map Prod.fst) :
    ∀ x ∈ p, x ∈ t.rows.map Prod.fst := by
  induction h with
  | root =>
    intro x hx
    rw [mem_singleton] at hx
    rw [hx]
    exact hroot
  | child _ hchild _ ih =>
    intro x hx
    rcases mem_append.mp hx with hx | hx
    · exact ih x hx
    · rw [mem_singleton] at hx
      obtain ⟨r, hr, -⟩ := hchild
      rw [hx]
      exact mem_map_of_mem (mem_of_find? hr)

theorem Path.length_le (h : Path link t root k p) (hroot : root ∈ t.rows.map Prod.fst) :
    p.length ≤ t.rows.length := by
  have hsub := List.subperm_of_subset h.nodup (h.keys hroot)
  simpa using hsub.length_le

theorem Path.fresh (h : Path link t root k p) (hacyclic : Acyclic link t)
    (hchild : IsChild link t k c) : c ∉ p := by
  obtain ⟨rank, hrank⟩ := hacyclic
  have hle : ∀ x ∈ p, rank x ≤ rank k := by
    clear hchild
    induction h with
    | root =>
      intro x hx
      rw [mem_singleton] at hx
      rw [hx]
    | child _ hchild _ ih =>
      intro x hx
      rcases mem_append.mp hx with hx | hx
      · exact (ih x hx).trans (hrank _ _ hchild).le
      · rw [mem_singleton] at hx
        rw [hx]
  intro hc
  have := hle c hc
  have := hrank k c hchild
  omega

theorem mem_step {x : κ × List κ} :
    (c, p) ∈ step link t x ↔ IsChild link t x.1 c ∧ c ∉ x.2 ∧ p = x.2 ++ [c] := by
  simp only [step, mem_map, mem_filter, guard_iffs, List.contains_eq_mem, Prod.mk.injEq]
  constructor
  · rintro ⟨⟨c', r⟩, ⟨hmem, hlink, hfresh⟩, rfl, rfl⟩
    exact ⟨⟨r, find?_eq_some_iff.mpr hmem, hlink⟩, hfresh, rfl⟩
  · rintro ⟨⟨r, hr, hlink⟩, hfresh, rfl⟩
    exact ⟨(c, r), ⟨mem_of_find? hr, hlink, hfresh⟩, rfl, rfl⟩

/-! ## Levels -/

def LevelOf (link : ρ → Option κ) (t : Table κ ρ) (root : κ) (n : Nat)
    (level : List (κ × List κ)) : Prop :=
  ∀ x ∈ level, Path link t root x.1 x.2 ∧ x.2.length = n

theorem LevelOf.next (h : LevelOf link t root n level) :
    LevelOf link t root (n + 1) (level.flatMap (step link t)) := by
  rintro ⟨c, p⟩ hx
  obtain ⟨x, hlevel, hstep⟩ := mem_flatMap.mp hx
  obtain ⟨hchild, hfresh, rfl⟩ := mem_step.mp hstep
  obtain ⟨hpath, hlen⟩ := h x hlevel
  exact ⟨.child hpath hchild hfresh, by simp [hlen]⟩

theorem LevelOf.singleton : LevelOf link t root 1 [(root, [root])] := by
  intro x hx
  rw [mem_singleton] at hx
  rw [hx]
  exact ⟨.root, rfl⟩

theorem mem_levels (h : LevelOf link t root n level)
    (hk : k ∈ (levels link t fuel level).flatten) :
    ∃ p, Path link t root k p ∧ n ≤ p.length := by
  induction fuel generalizing n level with
  | zero => cases hk
  | succ _ ih =>
    rw [levels, flatten_cons, mem_append] at hk
    rcases hk with hk | hk
    · obtain ⟨x, hx, rfl⟩ := mem_map.mp hk
      exact ⟨x.2, (h x hx).1, (h x hx).2.ge⟩
    · obtain ⟨p, hp, hn⟩ := ih h.next hk
      exact ⟨p, hp, by omega⟩

theorem mem_tree_under (h : k ∈ (tree link t root).flatten) : Under link t root k := by
  unfold tree at h
  split at h
  · cases h
  · obtain ⟨p, hp, -⟩ := mem_levels .singleton h
    exact hp.under

theorem under_of_mem_leafFirst (h : k ∈ leafFirst link t root) : Under link t root k := by
  refine mem_tree_under ?_
  simpa [leafFirst] using h

theorem exists_row_of_mem_leafFirst (h : k ∈ leafFirst link t root) :
    ∃ r, t.find? k = some r := by
  have hunder := under_of_mem_leafFirst h
  cases hunder with
  | refl =>
    unfold leafFirst tree at h
    split at h
    · cases h
    · rename_i r hr
      exact ⟨r, hr⟩
  | tail _ hchild =>
    obtain ⟨r, hr, -⟩ := hchild
    exact ⟨r, hr⟩

theorem mem_leafFirst_iff : k ∈ leafFirst link t root ↔ k ∈ rootFirst link t root := by
  simp [leafFirst, rootFirst]

theorem rootFirst_eq_cons {r : ρ} (h : t.find? root = some r) :
    rootFirst link t root = root :: (rootFirst link t root).tail := by
  have hpos : 0 < t.rows.length := List.length_pos_of_mem (mem_of_find? h)
  obtain ⟨n, hn⟩ := Nat.exists_eq_succ_of_ne_zero hpos.ne'
  simp [rootFirst, tree, h, hn, levels]

theorem root_mem_rootFirst {r : ρ} (h : t.find? root = some r) :
    root ∈ rootFirst link t root := by
  rw [rootFirst_eq_cons h]
  exact mem_cons_self ..

def ChildrenFirst (link : ρ → Option κ) (t : Table κ ρ) (l : List κ) : Prop :=
  ∀ l₁ k l₂, l = l₁ ++ k :: l₂ → ∀ c, IsChild link t k c → c ∈ l₁

theorem mem_next_level (h : LevelOf link t root n level) (hroot : root ∈ t.rows.map Prod.fst)
    (hfuel : n + fuel = t.rows.length) (hacyclic : Acyclic link t) (hk : k ∈ level.map Prod.fst)
    (hchild : IsChild link t k c) :
    c ∈ (levels link t fuel (level.flatMap (step link t))).reverse.flatten := by
  obtain ⟨x, hx, rfl⟩ := mem_map.mp hk
  obtain ⟨hpath, hlen⟩ := h x hx
  have hfresh := hpath.fresh hacyclic hchild
  have hc : (c, x.2 ++ [c]) ∈ level.flatMap (step link t) :=
    mem_flatMap.mpr ⟨x, hx, mem_step.mpr ⟨hchild, hfresh, rfl⟩⟩
  have hle := (hpath.child hchild hfresh).length_le hroot
  rw [length_append, hlen, List.length_singleton] at hle
  obtain ⟨m, rfl⟩ := Nat.exists_eq_succ_of_ne_zero (by omega : fuel ≠ 0)
  simp only [levels, List.reverse_cons, List.flatten_append, mem_append]
  have hmem : c ∈ (level.flatMap (step link t)).map Prod.fst := mem_map.mpr ⟨_, hc, rfl⟩
  exact .inr (by simpa only [List.flatten_singleton] using hmem)

theorem levels_childrenFirst (h : LevelOf link t root n level)
    (hroot : root ∈ t.rows.map Prod.fst) (hfuel : n + fuel = t.rows.length + 1)
    (hacyclic : Acyclic link t) :
    ChildrenFirst link t (levels link t fuel level).reverse.flatten := by
  induction fuel generalizing n level with
  | zero =>
    intro l1 k l2 hsplit
    simp [levels] at hsplit
  | succ fuel ih =>
    intro l1 k l2 hsplit c hchild
    simp only [levels, List.reverse_cons, List.flatten_append, flatten_cons,
      List.flatten_nil, append_nil] at hsplit
    rcases List.append_eq_append_iff.mp hsplit with ⟨l, hl1, hlevel⟩ | ⟨l, hnext, hl⟩
    · -- `k` stands in the level itself, so its children are in the next one
      have hk : k ∈ level.map Prod.fst := by
        rw [hlevel]
        simp
      rw [hl1]
      exact mem_append_left _ (mem_next_level h hroot (by omega) hacyclic hk hchild)
    · cases l with
      | nil =>
        have hk : k ∈ level.map Prod.fst := by
          rw [nil_append] at hl
          rw [← hl]
          exact mem_cons_self ..
        have hc : c ∈ (levels link t fuel (level.flatMap (step link t))).reverse.flatten :=
          mem_next_level h hroot (by omega) hacyclic hk hchild
        rw [hnext, append_nil] at hc
        exact hc
      | cons k' l =>
        rw [cons_append, List.cons.injEq] at hl
        exact ih h.next (by omega) l1 k' l hnext c (hl.1 ▸ hchild)

theorem leafFirst_childrenFirst (hacyclic : Acyclic link t) :
    ChildrenFirst link t (leafFirst link t root) := by
  unfold leafFirst tree
  split
  · intro l1 k l2 hsplit
    simp at hsplit
  · rename_i r hr
    exact levels_childrenFirst .singleton (mem_map_of_mem (mem_of_find? hr)) (by omega) hacyclic

theorem mem_leafFirst_of_child (hacyclic : Acyclic link t) (hk : k ∈ leafFirst link t root)
    (hchild : IsChild link t k c) :
    c ∈ leafFirst link t root := by
  obtain ⟨l1, l2, hsplit⟩ := List.append_of_mem hk
  rw [hsplit]
  exact mem_append_left _ (leafFirst_childrenFirst hacyclic l1 k l2 hsplit c hchild)

theorem rank_le_of_under {rank : κ → Nat} (hrank : ∀ k c, IsChild link t k c → rank k < rank c)
    (h : Under link t root k) : rank root ≤ rank k := by
  induction h with
  | refl => exact le_refl _
  | tail _ hchild ih => exact ih.trans (hrank _ _ hchild).le

theorem not_under_child (hacyclic : Acyclic link t) (hchild : IsChild link t k c) :
    ¬ Under link t c k := by
  intro hunder
  obtain ⟨rank, hrank⟩ := hacyclic
  have := rank_le_of_under hrank hunder
  have := hrank k c hchild
  omega

/-! ## No row twice -/

theorem step_nodup (x : κ × List κ) : (step link t x).Nodup := by
  refine List.Nodup.of_map Prod.fst ?_
  rw [step, List.map_map]
  exact Table.nodup_filter _ t.nodup

theorem flatMap_step_nodup (h : level.Nodup) : (level.flatMap (step link t)).Nodup := by
  refine List.nodup_flatMap.mpr ⟨fun x _ => step_nodup x, ?_⟩
  refine h.imp ?_
  rintro ⟨k, p⟩ ⟨k', p'⟩ hne ⟨c, q⟩ hx hy
  obtain ⟨⟨r, hr, hlink⟩, -, hq⟩ := mem_step.mp hx
  obtain ⟨⟨r', hr', hlink'⟩, -, hq'⟩ := mem_step.mp hy
  obtain rfl : r = r' := some.inj (hr.symm.trans hr')
  obtain rfl : k = k' := some.inj (hlink.symm.trans hlink')
  obtain rfl : p = p' := List.append_cancel_right (hq.symm.trans hq')
  exact hne rfl

theorem levels_nodup (h : LevelOf link t root n level) (hnodup : level.Nodup) :
    (levels link t fuel level).flatten.Nodup := by
  induction fuel generalizing n level with
  | zero => exact nodup_nil
  | succ _ ih =>
    rw [levels, flatten_cons, nodup_append]
    refine ⟨?_, ih h.next (flatMap_step_nodup hnodup), ?_⟩
    · -- the path of an entry is determined by its key
      refine hnodup.map_on ?_
      rintro ⟨k, p⟩ hx ⟨k', p'⟩ hy hk
      cases hk
      exact Prod.ext rfl ((h _ hx).1.unique (h _ hy).1)
    · -- deeper levels have longer paths
      rintro k hk k' hk' rfl
      obtain ⟨x, hx, rfl⟩ := mem_map.mp hk
      obtain ⟨p, hp, hlen⟩ := mem_levels h.next hk'
      have hlen' := (h x hx).2
      rw [(h x hx).1.unique hp] at hlen'
      omega

theorem rootFirst_nodup (link : ρ → Option κ) (t : Table κ ρ) (root : κ) :
    (rootFirst link t root).Nodup := by
  unfold rootFirst tree
  split
  · exact nodup_nil
  · exact levels_nodup .singleton (List.nodup_singleton _)

theorem leafFirst_nodup (link : ρ → Option κ) (t : Table κ ρ) (root : κ) :
    (leafFirst link t root).Nodup := by
  refine List.Perm.nodup ?_ (rootFirst_nodup link t root)
  exact (List.reverse_perm _).symm.flatten

/-! ## Parents first -/

def ParentsFirst (link : ρ → Option κ) (t : Table κ ρ) (root : κ) (l : List κ) : Prop :=
  ∀ l₁ c l₂, l = l₁ ++ c :: l₂ → c ≠ root → ∃ k ∈ l₁, IsChild link t k c

theorem levels_parentsFirst {l : List κ}
    (hlevel : ∀ c ∈ level.map Prod.fst, c ≠ root → ∃ k ∈ l, IsChild link t k c)
    (hl : ParentsFirst link t root l) :
    ParentsFirst link t root (l ++ (levels link t fuel level).flatten) := by
  induction fuel generalizing level l with
  | zero => simpa [levels] using hl
  | succ _ ih =>
    rw [levels, flatten_cons, ← append_assoc]
    refine ih ?_ ?_
    · intro c hc _
      obtain ⟨⟨c', p⟩, hmem, rfl⟩ := mem_map.mp hc
      obtain ⟨x, hx, hstep⟩ := mem_flatMap.mp hmem
      exact ⟨x.1, mem_append_right _ (mem_map_of_mem hx), (mem_step.mp hstep).1⟩
    · intro l1 c l2 hsplit hne
      rcases List.append_eq_append_iff.mp hsplit with ⟨m, hl1, hm⟩ | ⟨m, hl', hm⟩
      · obtain ⟨k, hk, hchild⟩ := hlevel c (by rw [hm]; simp) hne
        exact ⟨k, by rw [hl1]; exact mem_append_left _ hk, hchild⟩
      · cases m with
        | nil =>
          rw [append_nil] at hl'
          obtain ⟨k, hk, hchild⟩ := hlevel c (by rw [nil_append] at hm; rw [← hm]; simp) hne
          exact ⟨k, hl' ▸ hk, hchild⟩
        | cons _ m =>
          rw [cons_append, List.cons.injEq] at hm
          obtain rfl := hm.1
          exact hl l1 c m hl' hne

theorem rootFirst_parentsFirst : ParentsFirst link t root (rootFirst link t root) := by
  unfold rootFirst tree
  split
  · intro l1 c l2 hsplit
    simp at hsplit
  · rw [← nil_append (levels link t _ _).flatten]
    refine levels_parentsFirst ?_ ?_
    · intro c hc hne
      simp only [map_cons, map_nil, mem_singleton] at hc
      exact absurd hc hne
    · intro l1 c l2 hsplit
      simp at hsplit

end ApiToken.Descent
