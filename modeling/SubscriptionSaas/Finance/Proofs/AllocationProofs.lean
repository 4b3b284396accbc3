import SubscriptionSaas.Finance.Proofs.LedgerProofs

/-!
# What one transaction books on one bill

A transaction of moves takes from a bill at most what remained of it when the transaction locked it,
never touches a cancelled bill, and collects a deposit bill at most once.
-/

namespace SubscriptionSaas.Finance

open Transaction

/-- The live write-offs among the writes that pay the bill. -/
def receivedBy (ws : List Write) (billId : Id) : List PaymentWriteOff :=
  (ws.filterMap Write.writeOff?).filter fun w => w.billId == billId && w.deletedAt.isNone

/-- The deposit rows among the writes that name the bill. -/
def ledgerOf (ws : List Write) (billId : Id) : List DepositLedger :=
  (ws.filterMap Write.ledger?).filter fun l => l.billId == some billId

/-- Neither a payment nor a deposit row names the bill. -/
def ReceivesNothing (ws : List Write) (billId : Id) : Prop :=
  (∀ w ∈ ws.filterMap Write.writeOff?, w.billId ≠ billId) ∧
    ∀ l ∈ ws.filterMap Write.ledger?, l.billId ≠ some billId

theorem ReceivesNothing.append {ws ws' : List Write} {id : Id} (h : ReceivesNothing ws id)
    (h' : ReceivesNothing ws' id) : ReceivesNothing (ws ++ ws') id := by
  refine ⟨fun w hw => ?_, fun l hl => ?_⟩
  · rw [List.filterMap_append] at hw
    exact (List.mem_append.mp hw).elim (h.1 w) (h'.1 w)
  · rw [List.filterMap_append] at hl
    exact (List.mem_append.mp hl).elim (h.2 l) (h'.2 l)

theorem patchBill_amount (b : ReceivableBill) (w : Write) : (w.patchBill b).amount = b.amount := by
  cases w with
  | updateBill id p =>
    simp only [Write.patchBill]
    split <;> rfl
  | _ => rfl

theorem patchBills_amount (ws : List Write) (b : ReceivableBill) :
    (patchBills ws b).amount = b.amount := by
  induction ws generalizing b with
  | nil => rfl
  | cons w ws ih => exact (ih _).trans (patchBill_amount b w)

/-- An update of another bill. -/
theorem patchBills_other {b b' : ReceivableBill} (h : b'.id ≠ b.id) (p : BillPatch)
    (ws : List Write) : patchBills (.updateBill b'.id p :: ws) b = patchBills ws b := by
  have hne : ¬ b.id = b'.id := fun hc => h hc.symm
  show patchBills ws (if b.id == b'.id then p.apply b else b) = patchBills ws b
  rw [if_neg (by simpa using hne)]

/-- A cancelled bill stays as it is and receives nothing. -/
theorem Moves.cancelled {seen : Seen} {before : Db} {ws : List Write} (h : Moves seen before ws)
    {b : ReceivableBill} (hb : before.bill? b.id = some b) (hc : b.billStatus = .cancelled) :
    patchBills ws b = b ∧ ReceivesNothing ws b.id := by
  induction h with
  | nil => exact ⟨rfl, fun _ hw => absurd hw List.not_mem_nil, fun _ hl => absurd hl List.not_mem_nil⟩
  | addPayment _ _ _ _ _ ih =>
    obtain ⟨h1, h2⟩ := ih
    rw [patchBills_append, h1]
    exact ⟨rfl, h2.append ⟨fun _ hw => absurd hw List.not_mem_nil,
      fun _ hl => absurd hl List.not_mem_nil⟩⟩
  | @pay ws ref bill amount at_ _ hbill _ ih =>
    obtain ⟨h1, h2⟩ := ih
    have hne : bill.id ≠ b.id := by
      intro heq
      have hcur := hbill.current
      rw [heq, view_bill?, hb, Option.map_some, h1] at hcur
      rw [← Option.some.inj hcur] at hbill
      exact hbill.open_ hc
    rw [patchBills_append, h1, patchBills_other hne]
    refine ⟨rfl, h2.append ⟨fun w hw => ?_, fun l hl => absurd hl List.not_mem_nil⟩⟩
    rw [show w = _ from List.mem_singleton.mp hw]
    exact hne
  | @collect ws ref bill snap id occurredAt createdAt _ hbill _ _ hpaid _ _ _ _ ih =>
    obtain ⟨h1, h2⟩ := ih
    have hne : bill.id ≠ b.id := by
      intro heq
      rw [heq, view_bill?, hb, Option.map_some, h1] at hbill
      rw [← Option.some.inj hbill, hc] at hpaid
      cases hpaid
    rw [patchBills_append, h1]
    refine ⟨rfl, h2.append ⟨fun w hw => absurd hw List.not_mem_nil, fun l hl => ?_⟩⟩
    rw [show l = _ from List.mem_singleton.mp hl]
    exact fun heq => hne (Option.some.inj heq)
  | @deduct ws order bill amount snap id now createdAt _ hbill _ _ _ _ ih =>
    obtain ⟨h1, h2⟩ := ih
    have hne : bill.id ≠ b.id := by
      intro heq
      have hcur := hbill.current
      rw [heq, view_bill?, hb, Option.map_some, h1] at hcur
      rw [← Option.some.inj hcur] at hbill
      exact hbill.open_ hc
    rw [patchBills_append, h1]
    refine ⟨patchBills_other hne _ [], h2.append ⟨fun w hw => absurd hw List.not_mem_nil, fun l hl => ?_⟩⟩
    rw [show l = _ from List.mem_singleton.mp hl]
    exact fun heq => hne (Option.some.inj heq)
  | refund _ _ _ _ _ ih =>
    obtain ⟨h1, h2⟩ := ih
    rw [patchBills_append, h1]
    refine ⟨rfl, h2.append ⟨fun w hw => absurd hw List.not_mem_nil, fun l hl => ?_⟩⟩
    rw [show l = _ from List.mem_singleton.mp hl]
    exact nofun
  | @other ws w _ hw ih =>
    obtain ⟨h1, h2⟩ := ih
    rw [patchBills_append, h1]
    cases w with
    | insertPayment p => exact hw.elim
    | insertWriteOff w => exact hw.elim
    | insertLedger l => exact hw.elim
    | updateBill id p => exact hw.elim
    | _ => exact ⟨rfl, h2.append ⟨fun _ hw => absurd hw List.not_mem_nil,
        fun _ hl => absurd hl List.not_mem_nil⟩⟩

/-- A deposit row that collects the bill. -/
def isCollect (l : DepositLedger) : Bool := l.transactionType == .collect

/-- A bill is collected at most once, and every deposit row that is booked counts. -/
theorem Moves.collected_once {seen : Seen} {before : Db} {ws : List Write}
    (h : Moves seen before ws) (billId : Id) :
    ((ledgerOf ws billId).filter isCollect).length ≤ 1 ∧
      ∀ l ∈ ws.filterMap Write.ledger?, l.deletedAt = none := by
  have hkeep : ∀ {ws ws' : List Write}, ws'.filterMap Write.ledger? = [] →
      (((ledgerOf ws billId).filter isCollect).length ≤ 1 ∧
        ∀ l ∈ ws.filterMap Write.ledger?, l.deletedAt = none) →
      ((ledgerOf (ws ++ ws') billId).filter isCollect).length ≤ 1 ∧
        ∀ l ∈ (ws ++ ws').filterMap Write.ledger?, l.deletedAt = none := by
    intro ws ws' hnone hold
    unfold ledgerOf
    rw [List.filterMap_append, hnone, List.append_nil]
    exact hold
  have hspend : ∀ {ws ws' : List Write} {l : DepositLedger}, ws'.filterMap Write.ledger? = [l] →
      isCollect l = false → l.deletedAt = none →
      (((ledgerOf ws billId).filter isCollect).length ≤ 1 ∧
        ∀ l ∈ ws.filterMap Write.ledger?, l.deletedAt = none) →
      ((ledgerOf (ws ++ ws') billId).filter isCollect).length ≤ 1 ∧
        ∀ l ∈ (ws ++ ws').filterMap Write.ledger?, l.deletedAt = none := by
    intro ws ws' l hone hno hlive hold
    refine ⟨?_, fun x hx => ?_⟩
    · unfold ledgerOf
      rw [List.filterMap_append, hone, List.filter_append, List.filter_append]
      have hnil : ([l].filter fun l => l.billId == some billId).filter isCollect = [] := by
        rw [List.filter_filter]
        simp [hno]
      rw [hnil, List.append_nil]
      exact hold.1
    · rw [List.filterMap_append, hone] at hx
      rcases List.mem_append.mp hx with hx | hx
      · exact hold.2 x hx
      · rw [List.mem_singleton.mp hx]
        exact hlive
  induction h with
  | nil => exact ⟨Nat.zero_le 1, fun _ hl => absurd hl List.not_mem_nil⟩
  | addPayment _ _ _ _ _ ih => exact hkeep rfl ih
  | pay _ _ _ ih => exact hkeep rfl ih
  | deduct _ _ _ _ _ _ ih => exact hspend rfl rfl rfl ih
  | refund _ _ _ _ _ ih => exact hspend rfl rfl rfl ih
  | @other ws w _ hw ih =>
    refine hkeep ?_ ih
    cases w with
    | insertLedger l => exact hw.elim
    | _ => rfl
  | @collect ws ref bill snap id occurredAt createdAt _ _ _ _ _ hfirst _ _ _ ih =>
    refine ⟨?_, fun x hx => ?_⟩
    · unfold ledgerOf
      rw [List.filterMap_append, List.filter_append, List.filter_append, List.length_append]
      by_cases hid : bill.id = billId
      · have hnone : (ledgerOf ws billId).filter isCollect = [] := by
          refine List.filter_eq_nil_iff.mpr fun l hl hcol => ?_
          obtain ⟨hmem, hbill⟩ := List.mem_filter.mp hl
          refine hfirst l ?_ (by simpa [isCollect] using hcol)
          rw [view_billLedger, hid]
          refine List.mem_append_right _ (List.mem_filter.mpr ⟨hmem, ?_⟩)
          simpa [ih.2 l hmem] using hbill
        rw [show (List.filter _ _).filter isCollect = [] from hnone, List.length_nil, Nat.zero_add]
        exact (List.length_filter_le _ _).trans (List.length_filter_le _ _)
      · have hnil : ([collectRow ref bill (balanceOf ((view ws snap).confirmedLedger ref.customerId
            ref.orderId)) id occurredAt createdAt].filter
              fun l => l.billId == some billId).filter isCollect = [] := by
          simp [collectRow, hid]
        rw [show [Write.insertLedger _].filterMap Write.ledger? = [_] from rfl, hnil]
        exact ih.1
    · rw [List.filterMap_append] at hx
      rcases List.mem_append.mp hx with hx | hx
      · exact ih.2 x hx
      · rw [show x = _ from List.mem_singleton.mp hx]
        rfl

/-- A transaction without deductions takes from a bill at most what remains of it. -/
theorem Moves.within_remaining {seen : Seen} {before : Db} {ws : List Write}
    (h : Moves seen before ws) (hok : BillsOk before)
    (hcollect : ∀ l ∈ ws.filterMap Write.ledger?, l.transactionType = .collect)
    {b : ReceivableBill} (hb : before.bill? b.id = some b) :
    sumWriteOffAmount (receivedBy ws b.id) ≤ b.remainingAmount := by
  have hbefore := hok b.id b hb
  have hafter := h.billsOk hok b.id (patchBills ws b) (by rw [view_bill?, hb]; rfl)
  have hoffs : sumWriteOffAmount ((view ws before).billWriteOffs b.id) =
      sumWriteOffAmount (before.billWriteOffs b.id) + sumWriteOffAmount (receivedBy ws b.id) := by
    rw [view_billWriteOffs, sumWriteOffAmount_append]
    rfl
  have hded : (view ws before).deducted b.id = before.deducted b.id := by
    have hnone : ((ws.filterMap Write.ledger?).filter fun l =>
        l.billId == some b.id && l.deletedAt.isNone).filter
          (fun l => l.transactionType == .deduct) = [] := by
      refine List.filter_eq_nil_iff.mpr fun l hl hded => ?_
      have htype := hcollect l (List.mem_filter.mp hl).1
      rw [htype] at hded
      cases hded
    unfold Db.deducted
    rw [view_billLedger, List.filter_append, hnone, List.append_nil]
  have h1 := hbefore.balanced
  have h2 := hbefore.booked
  have h3 := hafter.balanced
  have h4 := hafter.booked
  have h5 := hafter.remaining
  rw [patchBills_id, hoffs, hded] at h4
  rw [patchBills_amount] at h3
  omega

end SubscriptionSaas.Finance
