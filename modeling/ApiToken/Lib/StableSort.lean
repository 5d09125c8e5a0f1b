import Mathlib.Data.List.Sort

/-!
# Stable sorting by a key

A stable sort by a natural key puts the elements of each key together, in
the order they came in, and the keys in increasing order. So its result is
the concatenation of the key classes of its input.
-/

namespace ApiToken

universe u

variable {α : Type u} (key : α → Nat)

def sortByKey (l : List α) : List α := l.insertionSort (fun a b => key a ≤ key b)

/-- The elements of each key below `n`, key by key. -/
def classes (n : Nat) (l : List α) : List α :=
  (List.range n).flatMap (fun k => l.filter (fun a => decide (key a = k)))

variable {key}

theorem filter_orderedInsert (a : α) (l : List α) (k : Nat) :
    (l.orderedInsert (fun a b => key a ≤ key b) a).filter (fun b => decide (key b = k)) =
      (a :: l).filter (fun b => decide (key b = k)) := by
  induction l with
  | nil => rfl
  | cons b l ih =>
    rw [List.orderedInsert]
    split
    · rfl
    · rename_i hlt
      rw [List.filter_cons, ih]
      by_cases ha : key a = k
      · have hb : key b ≠ k := by omega
        simp [ha, hb]
      · simp [List.filter_cons, ha]

theorem filter_sortByKey (l : List α) (k : Nat) :
    (sortByKey key l).filter (fun a => decide (key a = k)) =
      l.filter (fun a => decide (key a = k)) := by
  unfold sortByKey
  induction l with
  | nil => rfl
  | cons a l ih =>
    rw [List.insertionSort_cons, filter_orderedInsert, List.filter_cons, ih, List.filter_cons]

theorem sorted_sortByKey (l : List α) : (sortByKey key l).Pairwise (fun a b => key a ≤ key b) :=
  List.pairwise_insertionSort (fun a b => key a ≤ key b) l

theorem perm_sortByKey (l : List α) : (sortByKey key l).Perm l :=
  List.perm_insertionSort _ l

theorem mem_sortByKey {l : List α} {a : α} : a ∈ sortByKey key l ↔ a ∈ l :=
  List.mem_insertionSort _

theorem sorted_split {l : List α} (h : l.Pairwise (fun a b => key a ≤ key b)) (n : Nat) :
    l.filter (fun a => decide (key a < n)) ++ l.filter (fun a => decide (n ≤ key a)) = l := by
  induction h with
  | nil => rfl
  | @cons a l hle _ ih =>
    by_cases ha : key a < n
    · have hnot : ¬ n ≤ key a := by omega
      simpa [ha, hnot] using ih
    · have hge : n ≤ key a := by omega
      have hnone : l.filter (fun b => decide (key b < n)) = [] := by
        rw [List.filter_eq_nil_iff]
        intro b hb
        have hab := hle b hb
        simp only [decide_eq_true_eq]
        omega
      rw [hnone, List.nil_append] at ih
      simp [ha, hge, hnone, ih]

theorem classes_of_sorted {n : Nat} {l : List α}
    (h : l.Pairwise (fun a b => key a ≤ key b)) (hn : ∀ a ∈ l, key a < n) :
    classes key n l = l := by
  induction n generalizing l with
  | zero =>
    have hnil : l = [] := List.eq_nil_iff_forall_not_mem.mpr
      (fun a ha => absurd (hn a ha) (Nat.not_lt_zero _))
    rw [hnil]
    rfl
  | succ n ih =>
    have hlow := ih (h.sublist List.filter_sublist)
      (l := l.filter (fun a => decide (key a < n))) (fun a ha => by
        simpa using (List.mem_filter.mp ha).2)
    have hsame : classes key n (l.filter (fun a => decide (key a < n))) =
        classes key n l := by
      unfold classes
      rw [List.flatMap_congr]
      intro k hk
      rw [List.filter_filter]
      refine List.filter_congr fun a _ => ?_
      have hkn : k < n := List.mem_range.mp hk
      by_cases ha : key a = k
      · simp [ha, hkn]
      · simp [ha]
    have htop : l.filter (fun a => decide (key a = n)) =
        l.filter (fun a => decide (n ≤ key a)) := by
      refine List.filter_congr fun a ha => ?_
      have := hn a ha
      rw [decide_eq_decide]
      omega
    rw [hsame] at hlow
    calc classes key (n + 1) l
        = classes key n l ++ l.filter (fun a => decide (key a = n)) := by
          simp [classes, List.range_succ]
      _ = l := by rw [hlow, htop, sorted_split h]

theorem sortByKey_eq_classes {n : Nat} {l : List α} (hn : ∀ a ∈ l, key a < n) :
    sortByKey key l = classes key n l := by
  have hsorted := classes_of_sorted (@sorted_sortByKey _ key l)
    (fun a ha => hn a (mem_sortByKey.mp ha))
  rw [← hsorted]
  unfold classes
  rw [List.flatMap_congr]
  intro k _
  exact filter_sortByKey l k

end ApiToken
