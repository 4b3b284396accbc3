import SubscriptionSaas.Portal.ListOrdering
import Mathlib.Data.Int.ConditionallyCompleteOrder
import Mathlib.Order.SuccPred.IntervalSucc

/-!
# Pages of a list in buckets

The plan of a page reads the part of the joined buckets that the page stands for (`planSlices_read`),
so that the pages one after the other are the whole list. The comparison of two keys is that of their
ranks in a lexicographic order.
-/

namespace SubscriptionSaas.Portal

variable {ι α β : Type}

/-! ## The order of the keys -/

section Order

variable [LinearOrder ι]

/-- A key without a deadline comes after those that have one. -/
def deadlineRank : Option Int → WithTop Int
  | none => ⊤
  | some deadline => deadline

/-- The priority, the deadline, the times from the latest on, and the id. -/
def PortalListSortKey.rank (k : PortalListSortKey ι) :
    Int ×ₗ WithTop Int ×ₗ Intᵒᵈ ×ₗ Intᵒᵈ ×ₗ ι :=
  toLex (k.priority, toLex (deadlineRank k.deadlineAt,
    toLex (OrderDual.toDual k.updatedAt, toLex (OrderDual.toDual k.createdAt, k.id))))

theorem localeCompare_neg {a b : ι} : localeCompare a b < 0 ↔ a < b := by
  unfold localeCompare
  split_ifs <;> simp_all

theorem compareTimes_neg {a b : PortalListSortKey ι} : compareTimes a b < 0 ↔
    toLex (OrderDual.toDual a.updatedAt, toLex (OrderDual.toDual a.createdAt, a.id)) <
      toLex (OrderDual.toDual b.updatedAt, toLex (OrderDual.toDual b.createdAt, b.id)) := by
  unfold compareTimes
  simp only [Prod.Lex.toLex_lt_toLex, OrderDual.toDual_lt_toDual, OrderDual.toDual_inj]
  split_ifs with hu hc
  · omega
  · omega
  · rw [localeCompare_neg]
    constructor
    · exact fun h => .inr ⟨by omega, .inr ⟨by omega, h⟩⟩
    · rintro (h | ⟨-, h | ⟨-, h⟩⟩)
      · omega
      · omega
      · exact h

/-- The comparison of two keys is that of their ranks. -/
theorem comparePortalListSortKeys_neg {a b : PortalListSortKey ι} :
    comparePortalListSortKeys a b < 0 ↔ a.rank < b.rank := by
  unfold comparePortalListSortKeys PortalListSortKey.rank
  rw [Prod.Lex.toLex_lt_toLex, Prod.Lex.toLex_lt_toLex, ← compareTimes_neg]
  by_cases hpriority : a.priority = b.priority
  · rw [if_neg (not_not.2 hpriority)]
    rcases a.deadlineAt with _ | x <;> rcases b.deadlineAt with _ | y
    · simp [deadlineRank, hpriority]
    · simp [deadlineRank, hpriority]
    · simp [deadlineRank, hpriority]
    · simp only [deadlineRank, hpriority, lt_irrefl, true_and, false_or, WithTop.coe_lt_coe,
        WithTop.coe_inj]
      split_ifs with hdeadline <;> omega
  · rw [if_pos hpriority]
    simp only [hpriority, false_and, or_false]
    omega

theorem localeCompare_swap (a b : ι) : localeCompare b a = -localeCompare a b := by
  unfold localeCompare
  rcases lt_trichotomy a b with h | rfl | h
  · simp [h, h.not_gt]
  · simp
  · simp [h, h.not_gt]

theorem comparePortalListSortKeys_swap (a b : PortalListSortKey ι) :
    comparePortalListSortKeys b a = -comparePortalListSortKeys a b := by
  have htimes : compareTimes b a = -compareTimes a b := by
    unfold compareTimes
    simp only [localeCompare_swap a.id b.id]
    split_ifs <;> omega
  unfold comparePortalListSortKeys
  simp only [htimes]
  rcases a.deadlineAt with _ | x <;> rcases b.deadlineAt with _ | y <;> simp only [] <;>
    split_ifs <;> omega

omit [LinearOrder ι] in
/-- Keys of one rank have one id. -/
theorem PortalListSortKey.rank_id {a b : PortalListSortKey ι} (h : a.rank = b.rank) : a.id = b.id :=
  congrArg (fun r => (ofLex (ofLex (ofLex (ofLex r).2).2).2).2) h

theorem comparePortalListSortKeys_self (a : PortalListSortKey ι) :
    comparePortalListSortKeys a a = 0 := by
  have h := comparePortalListSortKeys_swap a a
  omega

theorem comparePortalListSortKeys_trans {a b c : PortalListSortKey ι}
    (hab : comparePortalListSortKeys a b < 0) (hbc : comparePortalListSortKeys b c < 0) :
    comparePortalListSortKeys a c < 0 := by
  rw [comparePortalListSortKeys_neg] at *
  exact hab.trans hbc

/-- Of two keys with different ids one comes first. -/
theorem comparePortalListSortKeys_total {a b : PortalListSortKey ι} (h : a.id ≠ b.id) :
    comparePortalListSortKeys a b < 0 ∨ comparePortalListSortKeys b a < 0 := by
  rw [comparePortalListSortKeys_neg, comparePortalListSortKeys_neg]
  exact lt_or_gt_of_ne fun hrank => h (PortalListSortKey.rank_id hrank)

end Order

/-! ## Pages -/

/-- With `skip` and `take` left over, the plan reads as much of the buckets that are left. -/
theorem planSlices_read (rows : β → List α) (buckets : List β) {skip take : Int} (hskip : 0 ≤ skip)
    (htake : 0 ≤ take) :
    (planSlices (buckets.map fun bucket => ⟨bucket, (rows bucket).length⟩) skip take).flatMap
        (readSlice rows) =
      ((buckets.flatMap rows).drop skip.toNat).take take.toNat := by
  induction buckets generalizing skip take with
  | nil => simp [planSlices]
  | cons bucket buckets ih =>
    rw [List.map_cons, planSlices, List.flatMap_cons, List.drop_append]
    by_cases hzero : take = 0
    · simp [hzero]
    rw [if_neg hzero]
    by_cases hover : ((rows bucket).length : Int) ≤ skip
    · have hnone : (rows bucket).drop skip.toNat = [] := List.drop_eq_nil_of_le (by omega)
      rw [if_pos hover, ih (by omega) htake, hnone, List.nil_append]
      congr 2
      omega
    · rw [if_neg hover]
      simp only []
      rw [List.flatMap_cons, ih le_rfl (by omega), readSlice, List.take_append]
      have hdrop : skip.toNat - (rows bucket).length = 0 := by omega
      have hlen : ((rows bucket).drop skip.toNat).length = (rows bucket).length - skip.toNat :=
        List.length_drop
      rw [hdrop, hlen]
      congr 1
      · -- the bucket ends before the page does, or the page before the bucket
        rcases le_total ((rows bucket).length - skip) take with h | h
        · rw [min_eq_left h, List.take_of_length_le (by simp only [hlen]; omega),
            List.take_of_length_le (by omega)]
        · rw [min_eq_right h]
      · congr 1
        omega

theorem listPage_eq (rows : β → List α) (buckets : List β) {page pageSize : Int} (hpage : 0 < page)
    (hsize : 0 < pageSize) : listPage rows buckets page pageSize =
      ((buckets.flatMap rows).drop ((page - 1) * pageSize).toNat).take pageSize.toNat := by
  have hskip : 0 ≤ (page - 1) * pageSize := Int.mul_nonneg (by omega) hsize.le
  rw [listPage, planPortalBucketPage, if_neg (by omega)]
  exact planSlices_read rows buckets hskip hsize.le

/-- The first pages are the beginning of the list. -/
theorem listPages_eq (rows : β → List α) (buckets : List β) {pageSize : Int} (hsize : 0 < pageSize)
    (n : Nat) : (List.range n).flatMap (fun k : Nat => listPage rows buckets (k + 1) pageSize) =
      (buckets.flatMap rows).take (n * pageSize.toNat) := by
  induction n with
  | zero => simp
  | succ n ih =>
    have hskip : (((n : Int) + 1 - 1) * pageSize).toNat = n * pageSize.toNat := by
      rw [Int.add_sub_cancel]
      exact Int.toNat_mul (Int.natCast_nonneg n) hsize.le
    rw [List.range_succ, List.flatMap_append, ih, List.flatMap_cons, List.flatMap_nil,
      List.append_nil, listPage_eq rows buckets (by omega) hsize, hskip, Nat.succ_mul,
      List.take_add]

/-- A page is the part of the joined buckets with its numbers, and the pages together are the whole
list; the order of the keys is strict, and total on different ids. -/
theorem pages_partition [LinearOrder ι] (rows : β → List α) (buckets : List β) (pageSize : Int)
    (hsize : 0 < pageSize) :
    (∀ page, 0 < page → listPage rows buckets page pageSize =
      ((buckets.flatMap rows).drop ((page - 1) * pageSize).toNat).take pageSize.toNat) ∧
    (∀ n : Nat, (buckets.flatMap rows).length ≤ n * pageSize.toNat →
      (List.range n).flatMap (fun k : Nat => listPage rows buckets (k + 1) pageSize) =
        buckets.flatMap rows) ∧
    (∀ a : PortalListSortKey ι, comparePortalListSortKeys a a = 0) ∧
    (∀ a b : PortalListSortKey ι,
      comparePortalListSortKeys b a = -comparePortalListSortKeys a b) ∧
    (∀ a b c : PortalListSortKey ι, comparePortalListSortKeys a b < 0 →
      comparePortalListSortKeys b c < 0 → comparePortalListSortKeys a c < 0) ∧
    ∀ a b : PortalListSortKey ι, a.id ≠ b.id →
      comparePortalListSortKeys a b < 0 ∨ comparePortalListSortKeys b a < 0 := by
  refine ⟨fun page hpage => listPage_eq rows buckets hpage hsize, fun n hn => ?_,
    comparePortalListSortKeys_self, comparePortalListSortKeys_swap,
    fun _ _ _ => comparePortalListSortKeys_trans, fun _ _ => comparePortalListSortKeys_total⟩
  rw [listPages_eq rows buckets hsize, List.take_of_length_le hn]

/-- Three buckets of three, no and four items in pages of two. -/
def itemsOf : Nat → List Nat
  | 0 => [1, 2, 3]
  | 2 => [4, 5, 6, 7]
  | _ => []

theorem pages_partition_two :
    listPage itemsOf [0, 1, 2] 2 2 = [3, 4] ∧
      (List.range 4).flatMap (fun k : Nat => listPage itemsOf [0, 1, 2] (k + 1) 2) =
        [1, 2, 3, 4, 5, 6, 7] := by
  obtain ⟨hpage, hpages, -⟩ :=
    pages_partition (ι := Nat) itemsOf [0, 1, 2] 2 (by decide)
  exact ⟨hpage 2 (by decide), hpages 4 (by decide)⟩

end SubscriptionSaas.Portal
