import Mathlib.Data.List.Sort
import Mathlib.Algebra.Order.BigOperators.Group.List
import Mathlib.Tactic.Ring
import ApiToken.Lib.Basic

/-!
# Keyed tables

A relational table with a primary key: an ordered list of `(key, row)`
pairs whose keys are distinct. The distinctness is a field, so a table
with two rows of one key cannot be built. Four operations cover what a
SQL statement does to one table: a point read (`find?`), an ordered, bounded
scan (`select`), an insert-or-replace of one row (`put`) and a
`DELETE … WHERE` (`delete`). Aggregates are sums of a weight over the rows
(`sumBy`).
-/

namespace ApiToken

universe u v

/-- Rows in insertion order, no two with the same key. -/
structure Table (κ : Type u) (ρ : Type v) where
  rows : List (κ × ρ)
  nodup : (rows.map Prod.fst).Nodup

namespace Table

variable {κ : Type u} {ρ : Type v}

def empty : Table κ ρ := ⟨[], nodup_nil⟩

instance : Inhabited (Table κ ρ) := ⟨empty⟩

instance [DecidableEq κ] [DecidableEq ρ] : DecidableEq (Table κ ρ) :=
  fun s t => decidable_of_iff (s.rows = t.rows) (by cases s; cases t; simp)

variable [DecidableEq κ]

/-- The row stored at `k` in a row list. -/
def findIn (k : κ) : List (κ × ρ) → Option ρ
  | [] => none
  | (k', r) :: rest => if k' = k then some r else findIn k rest

/-- Replace the row at `k`, or append it when there is none. -/
def putIn (k : κ) (r : ρ) : List (κ × ρ) → List (κ × ρ)
  | [] => [(k, r)]
  | (k', r') :: rest => if k' = k then (k, r) :: rest else (k', r') :: putIn k r rest

theorem keys_putIn (k : κ) (r : ρ) (l : List (κ × ρ)) :
    (putIn k r l).map Prod.fst =
      if k ∈ l.map Prod.fst then l.map Prod.fst else l.map Prod.fst ++ [k] := by
  induction l with
  | nil => simp [putIn]
  | cons x _ ih =>
    obtain ⟨k', r'⟩ := x
    by_cases hk : k' = k
    · subst hk; simp [putIn]
    · have hk' : ¬ k = k' := fun h => hk h.symm
      simp only [putIn, hk, if_false, map_cons, ih, mem_cons, hk', false_or]
      split <;> simp

variable {l : List (κ × ρ)} {k : κ} {r r0 : ρ} {t : Table κ ρ} {p : κ → ρ → Bool}

theorem nodup_putIn (k : κ) (r : ρ) (h : (l.map Prod.fst).Nodup) :
    ((putIn k r l).map Prod.fst).Nodup := by
  rw [keys_putIn]
  split
  · exact h
  · rename_i hk
    rw [nodup_append]
    refine ⟨h, List.nodup_singleton k, ?_⟩
    intro a ha b hb hab
    rw [mem_singleton] at hb
    subst hab; subst hb
    exact hk ha

/-- Point read by primary key. -/
def find? (t : Table κ ρ) (k : κ) : Option ρ := findIn k t.rows

/-- Insert-or-replace of the row at `k`. -/
def put (t : Table κ ρ) (k : κ) (r : ρ) : Table κ ρ :=
  ⟨putIn k r t.rows, nodup_putIn k r t.nodup⟩

omit [DecidableEq κ] in
theorem nodup_filter (p : κ × ρ → Bool) {l : List (κ × ρ)}
    (h : (l.map Prod.fst).Nodup) : ((l.filter p).map Prod.fst).Nodup :=
  h.sublist (List.Sublist.map _ filter_sublist)

/-- `DELETE` of every row the predicate selects. -/
def delete (t : Table κ ρ) (p : κ → ρ → Bool) : Table κ ρ :=
  ⟨t.rows.filter (fun x => !p x.1 x.2), nodup_filter _ t.nodup⟩

/-- `UPDATE … SET … WHERE`: the key stays. -/
def update (t : Table κ ρ) (p : κ → ρ → Bool) (f : ρ → ρ) : Table κ ρ :=
  ⟨t.rows.map (fun x => (x.1, if p x.1 x.2 then f x.2 else x.2)),
    by simpa [List.map_map, Function.comp_def] using t.nodup⟩

/-- An `UPDATE` whose new values depend on the row's key. -/
def mapRows (t : Table κ ρ) (f : κ → ρ → ρ) : Table κ ρ :=
  ⟨t.rows.map (fun x => (x.1, f x.1 x.2)),
    by simpa [List.map_map, Function.comp_def] using t.nodup⟩

/-- Is there a row the predicate selects? -/
def any (t : Table κ ρ) (p : κ → ρ → Bool) : Bool :=
  t.rows.any (fun x => p x.1 x.2)

/-- `SELECT … WHERE p ORDER BY le LIMIT n`. -/
def select (t : Table κ ρ) (p : κ → ρ → Bool)
    (le : κ × ρ → κ × ρ → Bool) (n : Nat) : List (κ × ρ) :=
  ((t.rows.filter (fun x => p x.1 x.2)).insertionSort (fun x y => le x y = true)).take n

/-- The total weight of the rows. -/
def sumBy (t : Table κ ρ) (w : κ → ρ → Int) : Int :=
  (t.rows.map (fun x => w x.1 x.2)).sum

/-! ## Point reads -/

theorem findIn_eq_some_iff (h : (l.map Prod.fst).Nodup) : findIn k l = some r ↔ (k, r) ∈ l := by
  induction l with
  | nil => simp [findIn]
  | cons x rest ih =>
    obtain ⟨k', r'⟩ := x
    simp only [map_cons, nodup_cons] at h
    by_cases hk : k' = k
    · subst hk
      have hnot : (k', r) ∉ rest := fun hm => h.1 (mem_map.mpr ⟨_, hm, rfl⟩)
      simp only [findIn, if_true, some.injEq, mem_cons, Prod.mk.injEq, true_and]
      constructor
      · intro e; exact Or.inl e.symm
      · rintro (e | hm)
        · exact e.symm
        · exact absurd hm hnot
    · have hk' : ¬ k = k' := fun e => hk e.symm
      simp [findIn, hk, hk', ih h.2]

theorem find?_eq_some_iff : t.find? k = some r ↔ (k, r) ∈ t.rows :=
  findIn_eq_some_iff t.nodup

theorem mem_of_find? (h : t.find? k = some r) : (k, r) ∈ t.rows :=
  find?_eq_some_iff.mp h

@[simp] theorem find?_empty (k : κ) : (empty : Table κ ρ).find? k = none := rfl

theorem findIn_putIn (k k' : κ) (r : ρ) (l : List (κ × ρ)) :
    findIn k' (putIn k r l) = if k = k' then some r else findIn k' l := by
  induction l with
  | nil => simp [putIn, findIn]
  | cons x _ ih =>
    obtain ⟨k0, r0⟩ := x
    by_cases h0 : k0 = k
    · subst h0
      by_cases h1 : k0 = k' <;> simp [putIn, findIn, h1]
    · simp only [putIn, h0, if_false, findIn, ih]
      by_cases h1 : k0 = k'
      · have : ¬ k = k' := fun e => h0 (h1.trans e.symm)
        simp [h1, this]
      · simp [h1]

theorem find?_put (t : Table κ ρ) (k k' : κ) (r : ρ) :
    (t.put k r).find? k' = if k = k' then some r else t.find? k' :=
  findIn_putIn k k' r t.rows

@[simp] theorem find?_put_self (t : Table κ ρ) (k : κ) (r : ρ) :
    (t.put k r).find? k = some r := by simp [find?_put]

theorem put_of_find? (h : t.find? k = some r) : t.put k r = t := by
  suffices hrows : putIn k r t.rows = t.rows by
    cases t
    simp only [put] at hrows ⊢
    congr
  unfold find? at h
  generalize t.rows = l at h
  induction l with
  | nil => cases h
  | cons x _ ih =>
    obtain ⟨k', r'⟩ := x
    by_cases hk : k' = k
    · simp only [findIn, if_pos hk, some.injEq] at h
      simp [putIn, hk, h]
    · simp only [findIn, if_neg hk] at h
      simp [putIn, hk, ih h]

theorem find?_put_cases {k' : κ} {r' : ρ} (h : (t.put k r).find? k' = some r') :
    (k' = k ∧ r' = r) ∨ t.find? k' = some r' := by
  rw [find?_put] at h
  split at h
  · rename_i hk
    exact .inl ⟨hk.symm, (some.inj h).symm⟩
  · exact .inr h

theorem putIn_absent (r : ρ) (h : findIn k l = none) : putIn k r l = l ++ [(k, r)] := by
  induction l with
  | nil => rfl
  | cons x rest ih =>
    obtain ⟨k', r'⟩ := x
    simp only [findIn] at h
    split at h
    · cases h
    · rename_i hk
      simp [putIn, hk, ih h]

theorem rows_put_new (r : ρ) (h : t.find? k = none) : (t.put k r).rows = t.rows ++ [(k, r)] :=
  putIn_absent r h

theorem find?_put_ne (t : Table κ ρ) {k' : κ} (r : ρ) (h : k ≠ k') :
    (t.put k r).find? k' = t.find? k' := by simp [find?_put, h]

theorem find?_delete : (t.delete p).find? k = some r ↔ t.find? k = some r ∧ p k r = false := by
  rw [find?_eq_some_iff, find?_eq_some_iff]
  simp [delete]

omit [DecidableEq κ] in
theorem delete_none (t : Table κ ρ) : t.delete (fun _ _ => false) = t := by
  cases t
  simp [delete]

theorem findIn_map (f : κ → ρ → ρ) (k : κ) (l : List (κ × ρ)) :
    findIn k (l.map (fun x => (x.1, f x.1 x.2))) = (findIn k l).map (f k) := by
  induction l with
  | nil => rfl
  | cons x _ ih =>
    obtain ⟨k', r'⟩ := x
    by_cases hk : k' = k
    · subst hk; simp [findIn]
    · simp [findIn, hk, ih]

@[simp] theorem find?_mapRows (t : Table κ ρ) (f : κ → ρ → ρ) (k : κ) :
    (t.mapRows f).find? k = (t.find? k).map (f k) :=
  findIn_map f k t.rows

theorem find?_update (t : Table κ ρ) (p : κ → ρ → Bool) (f : ρ → ρ) (k : κ) :
    (t.update p f).find? k = (t.find? k).map (fun r => if p k r then f r else r) :=
  findIn_map (fun k r => if p k r then f r else r) k t.rows

theorem any_eq_true_iff : t.any p = true ↔ ∃ k r, t.find? k = some r ∧ p k r = true := by
  simp only [any, List.any_eq_true]
  constructor
  · rintro ⟨⟨k, r⟩, hm, hp⟩
    exact ⟨k, r, find?_eq_some_iff.mpr hm, hp⟩
  · rintro ⟨k, r, hf, hp⟩
    exact ⟨(k, r), mem_of_find? hf, hp⟩

theorem any_eq_false_iff : t.any p = false ↔ ∀ k r, t.find? k = some r → p k r = false := by
  rw [← Bool.not_eq_true, any_eq_true_iff]
  simp

theorem mem_select {le : κ × ρ → κ × ρ → Bool} {n : Nat} (h : (k, r) ∈ t.select p le n) :
    t.find? k = some r ∧ p k r = true := by
  have hsort := List.mem_of_mem_take h
  rw [List.mem_insertionSort, mem_filter] at hsort
  exact ⟨find?_eq_some_iff.mpr hsort.1, hsort.2⟩

omit [DecidableEq κ] in
theorem nodup_select (t : Table κ ρ) (p : κ → ρ → Bool)
    (le : κ × ρ → κ × ρ → Bool) (n : Nat) : ((t.select p le n).map Prod.fst).Nodup := by
  have hrows := nodup_filter (fun x => p x.1 x.2) t.nodup
  have hsort := ((t.rows.filter (fun x => p x.1 x.2)).perm_insertionSort
    (fun x y => le x y = true)).map Prod.fst
  exact (hsort.nodup_iff.mpr hrows).sublist ((List.take_sublist _ _).map _)

/-! ## Aggregates -/

theorem sum_putIn (w : κ → ρ → Int) (k : κ) (r : ρ) (l : List (κ × ρ)) :
    ((putIn k r l).map (fun x => w x.1 x.2)).sum =
      (l.map (fun x => w x.1 x.2)).sum - (findIn k l).elim 0 (w k) + w k r := by
  induction l with
  | nil => simp [putIn, findIn]
  | cons x _ ih =>
    obtain ⟨k', r'⟩ := x
    by_cases hk : k' = k
    · subst hk; simp only [putIn, findIn, if_true, map_cons, sum_cons, elim_some]; ring
    · simp only [putIn, findIn, hk, if_false, map_cons, sum_cons, ih]; ring

omit [DecidableEq κ] in
@[simp] theorem sumBy_empty (w : κ → ρ → Int) :
    (empty : Table κ ρ).sumBy w = 0 := rfl

omit [DecidableEq κ] in
theorem sumBy_add (t : Table κ ρ) (w w' : κ → ρ → Int) :
    t.sumBy (fun k r => w k r + w' k r) = t.sumBy w + t.sumBy w' :=
  List.sum_map_add

theorem sumBy_put_new (w : κ → ρ → Int) (r : ρ) (h : t.find? k = none) :
    (t.put k r).sumBy w = t.sumBy w + w k r := by
  have hs := sum_putIn w k r t.rows
  have hn : findIn k t.rows = none := h
  rw [hn] at hs
  simpa [sumBy, put] using hs

/-- Replacing a row moves the aggregate by the difference of the weights. -/
theorem sumBy_put (w : κ → ρ → Int) (r : ρ) (h : t.find? k = some r0) :
    (t.put k r).sumBy w = t.sumBy w - w k r0 + w k r := by
  have hs := sum_putIn w k r t.rows
  have hn : findIn k t.rows = some r0 := h
  rw [hn] at hs
  simpa [sumBy, put] using hs

theorem sumBy_nonneg {w : κ → ρ → Int} (h : ∀ k r, t.find? k = some r → 0 ≤ w k r) :
    0 ≤ t.sumBy w := by
  apply List.sum_nonneg
  intro x hx
  obtain ⟨⟨k, r⟩, hmem, rfl⟩ := mem_map.mp hx
  exact h k r (find?_eq_some_iff.mpr hmem)

omit [DecidableEq κ] in
theorem sum_filter_eq {l : List (κ × ρ)} (w : κ → ρ → Int)
    (p : κ → ρ → Bool) (h : ∀ k r, (k, r) ∈ l → p k r = true → w k r = 0) :
    ((l.filter (fun x => !p x.1 x.2)).map (fun x => w x.1 x.2)).sum =
      (l.map (fun x => w x.1 x.2)).sum := by
  induction l with
  | nil => rfl
  | cons x _ ih =>
    obtain ⟨k, r⟩ := x
    have hrest := ih (fun k r hm => h k r (mem_cons_of_mem _ hm))
    cases hp : p k r with
    | false => simp [hp, hrest]
    | true =>
      have h0 := h k r (by simp) hp
      simp [hp, h0, hrest]

theorem sumBy_delete (w : κ → ρ → Int) (p : κ → ρ → Bool)
    (h : ∀ k r, t.find? k = some r → p k r = true → w k r = 0) :
    (t.delete p).sumBy w = t.sumBy w :=
  sum_filter_eq w p (fun k r hm => h k r (find?_eq_some_iff.mpr hm))

omit [DecidableEq κ] in
theorem sum_filter_le {l : List (κ × ρ)} (w : κ → ρ → Int)
    (p : κ → ρ → Bool) (h : ∀ k r, (k, r) ∈ l → 0 ≤ w k r) :
    ((l.filter (fun x => !p x.1 x.2)).map (fun x => w x.1 x.2)).sum ≤
      (l.map (fun x => w x.1 x.2)).sum := by
  induction l with
  | nil => exact le_refl _
  | cons x _ ih =>
    obtain ⟨k, r⟩ := x
    have hrest := ih (fun k r hm => h k r (mem_cons_of_mem _ hm))
    have h0 := h k r (mem_cons_self ..)
    cases hp : p k r <;> simp [hp] <;> omega

section

variable (w : κ → ρ → Int)
include w

variable {t : Table κ ρ} {k : κ}

theorem sumBy_delete_le (p : κ → ρ → Bool) (h : ∀ k r, t.find? k = some r → 0 ≤ w k r) :
    (t.delete p).sumBy w ≤ t.sumBy w :=
  sum_filter_le w p (fun k r hm => h k r (find?_eq_some_iff.mpr hm))

theorem sum_except (h : (l.map Prod.fst).Nodup) :
    (l.map (fun x => w x.1 x.2)).sum =
      (l.map (fun x => if x.1 = k then 0 else w x.1 x.2)).sum + (findIn k l).elim 0 (w k) := by
  induction l with
  | nil => rfl
  | cons x rest ih =>
    obtain ⟨k', r'⟩ := x
    rw [map_cons, nodup_cons] at h
    by_cases hk : k' = k
    · subst hk
      have hnone : findIn k' rest = none := by
        cases hf : findIn k' rest with
        | none => rfl
        | some => exact absurd (mem_map_of_mem ((findIn_eq_some_iff h.2).mp hf)) h.1
      have hrest := ih h.2
      rw [hnone] at hrest
      simp only [elim_none, add_zero] at hrest
      simp only [map_cons, sum_cons, findIn, if_true, elim_some, hrest]
      ring
    · simp only [map_cons, sum_cons, findIn, hk, if_false, ih h.2]
      ring

theorem sumBy_except (h : t.find? k = some r) :
    t.sumBy w = t.sumBy (fun k' r' => if k' = k then 0 else w k' r') + w k r := by
  have hs := sum_except (k := k) w t.nodup
  have hf : findIn k t.rows = some r := h
  rw [hf] at hs
  exact hs

theorem weight_le_sumBy (hw : ∀ k r, 0 ≤ w k r) (h : t.find? k = some r) : w k r ≤ t.sumBy w := by
  rw [sumBy_except w h]
  have hrest : 0 ≤ t.sumBy (fun k' r' => if k' = k then 0 else w k' r') := by
    apply sumBy_nonneg
    intro k' r' _
    split
    · exact le_refl _
    · exact hw k' r'
  omega

theorem weights_le_sumBy {k' : κ} {r' : ρ} (hw : ∀ k r, 0 ≤ w k r) (h : t.find? k = some r)
    (h' : t.find? k' = some r') (hne : k' ≠ k) :
    w k r + w k' r' ≤ t.sumBy w := by
  rw [sumBy_except w h]
  have hother := weight_le_sumBy (fun k1 r1 => if k1 = k then 0 else w k1 r1)
    (by intro k1 r1; split; exacts [le_refl _, hw k1 r1]) h'
  simp only [hne, if_false] at hother
  omega

theorem sumBy_remove (h : t.find? k = some r) :
    (t.delete (fun k' _ => k' == k)).sumBy w = t.sumBy w - w k r := by
  have hothers : (t.delete (fun k' _ => k' == k)).sumBy w =
      (t.delete (fun k' _ => k' == k)).sumBy (fun k' r' => if k' = k then 0 else w k' r') := by
    refine congrArg List.sum (map_congr_left fun x hx => ?_)
    have hne : x.1 ≠ k := by simpa using (mem_filter.mp hx).2
    exact (if_neg hne).symm
  rw [hothers, sumBy_delete, sumBy_except w h]
  · ring
  · intro k' r' _ hk
    rw [if_pos (by simpa using hk)]

end

/-! ## The rows under a view -/

/-- The rows in order, each with what `f` shows of it. -/
def view {ν : Type v} (t : Table κ ρ) (f : ρ → ν) : List (κ × ν) :=
  t.rows.map (fun x => (x.1, f x.2))

section View

variable {ν : Type v} {f : ρ → ν}

theorem view_putIn (h : findIn k l = some r0) (hr : f r = f r0) :
    (putIn k r l).map (fun x => (x.1, f x.2)) = l.map (fun x => (x.1, f x.2)) := by
  induction l with
  | nil => cases h
  | cons x _ ih =>
    obtain ⟨k', r'⟩ := x
    by_cases hk : k' = k
    · subst hk
      simp only [findIn, if_true, some.injEq] at h
      simp [putIn, hr, h]
    · simp only [findIn, hk, if_false] at h
      simp [putIn, hk, ih h]

theorem view_put (h : t.find? k = some r0) (hr : f r = f r0) : (t.put k r).view f = t.view f :=
  view_putIn h hr

theorem findIn_view (k : κ) (l : List (κ × ρ)) :
    findIn k (l.map (fun x => (x.1, f x.2))) = (findIn k l).map f := by
  induction l with
  | nil => rfl
  | cons x _ ih =>
    obtain ⟨k', r'⟩ := x
    by_cases hk : k' = k
    · simp [findIn, hk]
    · simp [findIn, hk, ih]

theorem find?_of_view {u : Table κ ρ} (h : t.view f = u.view f) (k : κ) :
    (t.find? k).map f = (u.find? k).map f := by
  rw [find?, find?, ← findIn_view, ← findIn_view]
  exact congrArg (findIn k) h

end View

/-! ## Two tables under one view -/

variable {ρ' : Type v} {ν : Type v}

def SameView (f : ρ → ν) (g : ρ' → ν) (t : Table κ ρ) (u : Table κ ρ') :
    Prop :=
  ∀ k, (t.find? k).map f = (u.find? k).map g

variable {f : ρ → ν} {g : ρ' → ν} {t : Table κ ρ} {u : Table κ ρ'}

section

variable (h : SameView f g t u)
include h

theorem SameView.put (k : κ) {r' : ρ'} (hr : f r = g r') :
    SameView f g (t.put k r) (u.put k r') := by
  intro k'
  rw [find?_put, find?_put]
  by_cases hk : k = k'
  · simp [hk, hr]
  · simp [hk, h k']

theorem SameView.row (hr : t.find? k = some r) : ∃ r', u.find? k = some r' ∧ f r = g r' := by
  have hk := h k
  rw [hr, map_some] at hk
  obtain ⟨r', hr', hview⟩ := map_eq_some_iff.mp hk.symm
  exact ⟨r', hr', hview.symm⟩

theorem SameView.symm : SameView g f u t :=
  fun k => (h k).symm

theorem SameView.none (hr : t.find? k = none) : u.find? k = none := by
  have hk := h k
  rw [hr] at hk
  exact Option.map_eq_none_iff.mp hk.symm

theorem SameView.put_left (hr0 : t.find? k = some r0) (hr : f r = f r0) :
    SameView f g (t.put k r) u := by
  intro k'
  rw [find?_put]
  by_cases hk : k = k'
  · subst hk
    rw [if_pos rfl, map_some, hr, ← h k, hr0, map_some]
  · rw [if_neg hk, h k']

theorem SameView.put_right {r0 r : ρ'} (hr0 : u.find? k = some r0) (hr : g r = g r0) :
    SameView f g t (u.put k r) := by
  intro k'
  rw [find?_put]
  by_cases hk : k = k'
  · subst hk
    rw [if_pos rfl, map_some, hr, h k, hr0, map_some]
  · rw [if_neg hk, h k']

end

end Table

export Table (find?_put find?_put_ne find?_put_self find?_put_cases find?_delete
  any_eq_false_iff find?_eq_some_iff mem_select mem_of_find? sumBy_put_new rows_put_new
  find?_mapRows sumBy_put find?_update nodup_select any_eq_true_iff find?_empty find?_of_view)

end ApiToken
