/-!
# Names and rewrites used throughout

The lemmas on lists and options that most proofs use stand without their prefix, and the
equations that take a check apart stand together.
-/

namespace ApiToken

universe u

export List (mem_cons_self mem_singleton mem_cons_of_mem mem_cons mem_append mem_filter
  not_mem_nil mem_map map_cons mem_append_left mem_map_of_mem foldlM_cons foldl_cons
  append_assoc append_nil nodup_cons length_cons cons_append nil_append map_append
  forall_mem_cons mem_append_right length_append count_append sum_cons mem_of_find?_eq_some
  lookup_cons all_eq_true any_cons nodup_append flatMap_cons map_nil nodup_nil
  filterMap_cons_none filter_sublist find?_some mem_singleton_self pairwise_cons filter_append
  filterMap_cons_some mem_flatMap sum_nil prefix_append suffix_rfl count_cons filter_eq_nil_iff
  flatten_cons count_nil pairwise_append mem_of_getElem? length_nil append_cancel_left_eq
  subset_cons_self append_inj_right length_drop foldl_append mem_filterMap take_succ_cons
  append_inj_left any_append flatMap_nil cons_ne_nil any_nil append_cancel_left count_pos_iff
  all_cons perm_iff_count map_congr_left mapM_cons foldl_nil)

export Option (some.inj some.injEq map_some map_eq_some_iff bind_eq_some_iff isSome_iff_exists
  bind_some all_some isNone_iff_eq_none getD_some filter_eq_some_iff any_some isSome_none
  isSome_eq_false_iff elim_some bind_eq_bind isSome_some map_none elim_none getD_none
  isSome_iff_ne_none not_isSome_iff_eq_none mem_toList some_or none_or mem_def bind_none
  isSome_map)

/-- What a check that is written with `Bool` operators says. -/
theorem guard_iffs :
    (∀ {a b : Bool}, (a && b) = true ↔ a = true ∧ b = true) ∧
    (∀ {a b : Bool}, (a || b) = true ↔ a = true ∨ b = true) ∧
    (∀ {a b : Bool}, (a || b) = false ↔ a = false ∧ b = false) ∧
    (∀ {a : Bool}, (!a) = true ↔ a = false) ∧
    (∀ {a : Bool}, (!a) = false ↔ a = true) ∧
    (∀ {p : Prop} [Decidable p], decide p = true ↔ p) ∧
    (∀ {p : Prop} [Decidable p], decide p = false ↔ ¬ p) ∧
    (∀ {α : Type} [BEq α] [LawfulBEq α] {a b : α}, (a == b) = true ↔ a = b) ∧
    (∀ {α : Type} [BEq α] [LawfulBEq α] {a b : α}, (a != b) = false ↔ a = b) := by
  refine ⟨?_, ?_, ?_, ?_, ?_, ?_, ?_, ?_, ?_⟩ <;> intros <;> simp

theorem if_bool :
    (∀ {α : Sort u} {a b : α}, (if true = true then a else b) = a) ∧
    (∀ {α : Sort u} {a b : α}, (if false = true then a else b) = b) := by
  simp

end ApiToken
