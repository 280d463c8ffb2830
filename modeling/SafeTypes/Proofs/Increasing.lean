import Mathlib.Data.List.Sort
import SafeTypes.NameSet
import SafeTypes.Proofs.LastWrite

/-! What is listed by increasing name. Such a list is determined by its members, so the
listing of a table depends on its values alone, and not on the order in which they came. -/
namespace SafeTypes

/-- The strict order on names leaves one way only to list given items. -/
theorem eq_of_increasing {Item : Type} (name : Item → String) {first second : List Item}
    (hFirst : first.Pairwise fun a b => name a < name b)
    (hSecond : second.Pairwise fun a b => name a < name b)
    (h : ∀ item, item ∈ first ↔ item ∈ second) : first = second := by
  have : Std.Irrefl fun a b : Item => name a < name b :=
    ⟨fun a hLt => String.lt_irrefl (name a) hLt⟩
  have : Std.Antisymm fun a b : Item => name a < name b :=
    ⟨fun a b hLt hGt => (String.lt_irrefl (name a) (String.lt_trans hLt hGt)).elim⟩
  exact hFirst.eq_of_mem_iff hSecond h

theorem NameSet.names_injective : Function.Injective NameSet.names := by
  intro first second h
  cases first
  cases second
  cases h
  rfl

/-- Sets of names are equal if their members are. -/
theorem NameSet.eq_of_mem_iff {first second : NameSet}
    (h : ∀ name, name ∈ first ↔ name ∈ second) : first = second :=
  NameSet.names_injective (eq_of_increasing id first.increasing second.increasing h)

namespace Table

variable {Value : Type}

theorem mem_sorted_iff {table : Table Value} {entry : String × Value} :
    entry ∈ table.sorted ↔ table.get? entry.1 = some entry.2 :=
  (List.mergeSort_perm _ _).mem_iff.trans mem_entries_iff

/-- A listing is strictly increasing, since a table gives each name one value. -/
theorem pairwise_sorted (table : Table Value) :
    table.sorted.Pairwise fun a b => a.1 < b.1 := by
  have hOrder : table.sorted.Pairwise fun a b => a.1 ≤ b.1 := by
    have hTrans (a b c : String × Value) (hFirst : decide (a.1 ≤ b.1) = true)
        (hSecond : decide (b.1 ≤ c.1) = true) : decide (a.1 ≤ c.1) = true :=
      decide_eq_true (String.le_trans (of_decide_eq_true hFirst) (of_decide_eq_true hSecond))
    have hTotal (a b : String × Value) : (decide (a.1 ≤ b.1) || decide (b.1 ≤ a.1)) = true := by
      rw [Bool.or_eq_true, decide_eq_true_eq, decide_eq_true_eq]
      exact String.le_total a.1 b.1
    exact (List.pairwise_mergeSort hTrans hTotal table.entries).imp of_decide_eq_true
  have hDistinct : (table.sorted.map Prod.fst).Nodup :=
    ((List.mergeSort_perm _ _).map Prod.fst).nodup_iff.2 table.nodup_names
  refine (hOrder.and (List.pairwise_map.1 hDistinct)).imp ?_
  rintro a b ⟨hLe, hNe⟩
  exact Decidable.byContradiction fun hNotLt =>
    hNe (String.le_antisymm hLe (String.not_lt.1 hNotLt))

/-- Tables with the same values have the same listing. -/
theorem sorted_congr {first second : Table Value}
    (h : ∀ name, first.get? name = second.get? name) : first.sorted = second.sorted := by
  refine eq_of_increasing Prod.fst first.pairwise_sorted second.pairwise_sorted ?_
  intro entry
  rw [mem_sorted_iff, mem_sorted_iff, h]

theorem length_sorted (table : Table Value) : table.sorted.length = table.size :=
  List.length_mergeSort _

/-- A listing has one entry for a name that has a value, and no entry for any other. -/
theorem filter_sorted (table : Table Value) (name : String) :
    (table.sorted.filter fun entry => entry.1 = name) =
      ((table.get? name).map fun value => (name, value)).toList := by
  refine eq_of_increasing Prod.fst (table.pairwise_sorted.filter _) ?_ ?_
  · cases table.get? name <;> simp
  · rintro ⟨other, value⟩
    rw [List.mem_filter, mem_sorted_iff, decide_eq_true_eq, Option.mem_toList,
      Option.map_eq_some_iff]
    constructor
    · rintro ⟨hValue, rfl⟩
      exact ⟨value, hValue, rfl⟩
    · rintro ⟨found, hFound, hEq⟩
      cases hEq
      exact ⟨hFound, rfl⟩

end Table

end SafeTypes
