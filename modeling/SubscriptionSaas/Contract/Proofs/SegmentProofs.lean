import SubscriptionSaas.Contract.Segments
import SubscriptionSaas.Lib.Tables
import SubscriptionSaas.Billing.Proofs.CalendarProofs

/-!
# Billing cycles and contract segments

The segments of an order are consecutive terms of whole months, each counted from its own first day
(`SegmentsOk`); the billing cycles are months counted from the delivery. A term that begins with a
cycle ends with one exactly when `KeepsAnchor` holds of it: once a term has ended in a month that is
too short for the delivery's day, the extensions after it have lost that day.
-/

namespace SubscriptionSaas.Contract

open Calendar Billing

/-! ## The calendars of the segments -/

@[simp] theorem addMonthsClampedUtc_eq (value months : Int) :
    addMonthsClampedUtc value months = addMonths value months := clampedMonth_eq value months

@[simp] theorem addDaysUtc_eq (value days : Int) : addDaysUtc value days = value + days :=
  addDays_eq value days

@[simp] theorem addCalendarMonths_eq (value months : Int) :
    addCalendarMonths value months = addMonths value months := by
  have hmod : ((getUTCMonth value + months).tmod 12 + 12).tmod 12 =
      (getUTCMonth value + months) % 12 := by
    generalize getUTCMonth value + months = k
    have hk := Int.tmod_eq_emod (a := k) (b := 12)
    have hnonneg : 0 ≤ k.tmod 12 + 12 := by split_ifs at hk <;> omega
    rw [Int.tmod_eq_emod_of_nonneg hnonneg, hk]
    split_ifs <;> omega
  have hmonth : ∀ k, dateUTC (getUTCFullYear value + (getUTCMonth value + months) / 12)
      ((getUTCMonth value + months) % 12 + k) = dateUTC (getUTCFullYear value)
        (getUTCMonth value + months + k) := by
    intro k
    funext day
    unfold dateUTC
    congr 3
    omega
  have hfirst := hmonth 0
  rw [add_zero, add_zero] at hfirst
  unfold addCalendarMonths
  simp only [hmod, hmonth 1, hfirst, getUTCDate_lastDay, dateUTC_month]
  rfl

theorem deriveOriginalSubscriptionPeriod_eq {activatedAt periodMonths : Int}
    (h : 0 < periodMonths) : deriveOriginalSubscriptionPeriod activatedAt periodMonths =
      .ok (toBillingBusinessDate activatedAt,
        addMonths (toBillingBusinessDate activatedAt) periodMonths - 1) := by
  rw [deriveOriginalSubscriptionPeriod, if_neg (by omega)]
  simp only [addDaysUtc_eq, addMonthsClampedUtc_eq, Int.sub_eq_add_neg]
  rfl

/-! ## Consecutive terms -/

/-- The first and the last days of consecutive terms of the given months. -/
def terms (start : Int) : List Int → List (Int × Int)
  | [] => []
  | m :: ms => (start, addMonths start m - 1) :: terms (addMonths start m) ms

/-- The day after the last term. -/
def termsEnd (start : Int) (ms : List Int) : Int := ms.foldl addMonths start

theorem terms_concat (start : Int) (ms : List Int) (m : Int) : terms start (ms ++ [m]) =
    terms start ms ++ [(termsEnd start ms, addMonths (termsEnd start ms) m - 1)] := by
  induction ms generalizing start with
  | nil => rfl
  | cons k ms ih => exact congrArg (_ :: ·) (ih (addMonths start k))

theorem addMonths_zero (d : Int) : addMonths d 0 = d := by
  have hday := dayOfMonth_bounds d
  have heq := day_eq d
  unfold addMonths
  rw [add_zero]
  omega

theorem lt_addMonths {m : Int} (d : Int) (hm : 0 < m) : d < addMonths d m := by
  have hlt := addMonths_strictMono d hm
  rwa [addMonths_zero] at hlt

/-- The terms lie between their beginning and their end. -/
theorem mem_terms {start : Int} {ms : List Int} (hms : ∀ m ∈ ms, 0 < m) {t : Int × Int}
    (ht : t ∈ terms start ms) : start ≤ t.1 ∧ t.1 ≤ t.2 ∧ t.2 < termsEnd start ms := by
  induction ms generalizing start with
  | nil => cases ht
  | cons m ms ih =>
    have hstart := lt_addMonths start (hms m List.mem_cons_self)
    have hend : ∀ ms : List Int, (∀ m ∈ ms, 0 < m) → ∀ s, s ≤ termsEnd s ms := by
      intro ms
      induction ms with
      | nil => exact fun _ s => le_refl s
      | cons k ms ih =>
        intro hpos s
        have hk := lt_addMonths s (hpos k List.mem_cons_self)
        exact hk.le.trans (ih (fun m hm => hpos m (List.mem_cons_of_mem _ hm)) (addMonths s k))
    have hrest : ∀ k ∈ ms, 0 < k := fun k hk => hms k (List.mem_cons_of_mem _ hk)
    rcases List.mem_cons.1 ht with rfl | ht
    · have hlast := hend ms hrest (addMonths start m)
      show start ≤ start ∧ start ≤ addMonths start m - 1 ∧
        addMonths start m - 1 < termsEnd (addMonths start m) ms
      omega
    · obtain ⟨hfirst, hmid, hlast⟩ := ih hrest ht
      exact ⟨hstart.le.trans hfirst, hmid, hlast⟩

/-! ## Terms and cycles -/

/-- The term from the month `a` after the delivery to the month `b` keeps the day of the delivery: the
month it begins in has that day, or is at least as long as the month it ends in. -/
def KeepsAnchor (anchor a b : Int) : Prop :=
  dayOfMonth anchor ≤ monthLength (monthOf anchor + a) ∨
    monthLength (monthOf anchor + b) ≤ monthLength (monthOf anchor + a)

instance (anchor a b : Int) : Decidable (KeepsAnchor anchor a b) :=
  inferInstanceAs (Decidable (_ ∨ _))

/-- Every one of the terms from the month `a` on keeps the day of the delivery. -/
def TermsKeepAnchor (anchor : Int) : Int → List Int → Prop
  | _, [] => True
  | a, m :: ms => KeepsAnchor anchor a (a + m) ∧ TermsKeepAnchor anchor (a + m) ms

instance instDecidableTermsKeepAnchor (anchor : Int) :
    ∀ (a : Int) (ms : List Int), Decidable (TermsKeepAnchor anchor a ms)
  | _, [] => isTrue trivial
  | a, m :: ms =>
    have := instDecidableTermsKeepAnchor anchor (a + m) ms
    inferInstanceAs (Decidable (_ ∧ _))

/-- A term that begins with a cycle ends with one exactly if it keeps the day of the delivery; it
ends after the cycle before in any case. -/
theorem addMonths_cycleStart (anchor a m : Int) :
    (addMonths (cycleStart anchor a) m = cycleStart anchor (a + m) ↔ KeepsAnchor anchor a (a + m)) ∧
      addMonths (cycleStart anchor a) m ≤ cycleStart anchor (a + m) ∧
        cycleStart anchor (a + m - 1) < addMonths (cycleStart anchor a) m := by
  have hmonth : monthOf (cycleStart anchor a) + m = monthOf anchor + (a + m) := by
    rw [cycleStart, monthOf_addMonths]
    omega
  have hprev := (addMonths_day anchor (a + m - 1)).2
  have hnext := monthStart_succ (monthOf anchor + (a + m - 1))
  have hfirst := (addMonths_day (cycleStart anchor a) m).1
  rw [show monthOf anchor + (a + m - 1) + 1 = monthOf anchor + (a + m) by omega] at hnext
  have hterm : addMonths (cycleStart anchor a) m = monthStart (monthOf anchor + (a + m)) +
      min (min (dayOfMonth anchor) (monthLength (monthOf anchor + a)))
        (monthLength (monthOf anchor + (a + m))) - 1 := by
    rw [addMonths, hmonth, cycleStart, dayOfMonth_addMonths]
  have hcycle : cycleStart anchor (a + m) = monthStart (monthOf anchor + (a + m)) +
      min (dayOfMonth anchor) (monthLength (monthOf anchor + (a + m))) - 1 := rfl
  have hbefore : cycleStart anchor (a + m - 1) = monthStart (monthOf anchor + (a + m - 1)) +
      min (dayOfMonth anchor) (monthLength (monthOf anchor + (a + m - 1))) - 1 := rfl
  rw [hmonth, cycleStart, dayOfMonth_addMonths] at hfirst
  rw [hterm, hcycle, hbefore]
  unfold KeepsAnchor
  omega

/-- A cycle that begins in the interval ends in it. -/
def Inside (anchor : Int) (t : Int × Int) : Prop :=
  ∀ n, 0 < n → t.1 ≤ cycleStart anchor n → cycleStart anchor n ≤ t.2 →
    cycleStart anchor (n + 1) - 1 ≤ t.2

/-- Terms that keep the day of the delivery are made of cycles. -/
theorem terms_cycles {anchor a : Int} {ms : List Int} (h : TermsKeepAnchor anchor a ms)
    {t : Int × Int} (ht : t ∈ terms (cycleStart anchor a) ms) :
    ∃ b c, t = (cycleStart anchor b, cycleStart anchor c - 1) := by
  induction ms generalizing a with
  | nil => cases ht
  | cons m ms ih =>
    have hend := (addMonths_cycleStart anchor a m).1.2 h.1
    rw [terms, hend] at ht
    rcases List.mem_cons.1 ht with rfl | ht
    · exact ⟨a, a + m, rfl⟩
    · exact ih h.2 ht

theorem inside_cycles (anchor b c : Int) :
    Inside anchor (cycleStart anchor b, cycleStart anchor c - 1) := by
  intro n _ _ hn
  have hlt : n < c := (cycleStart_strictMono anchor).lt_iff_lt.1 (by simp only at hn; omega)
  have hle : cycleStart anchor (n + 1) ≤ cycleStart anchor c :=
    (cycleStart_strictMono anchor).monotone (by omega)
  simp only
  omega

/-- The first term that loses the day of the delivery is crossed by its last cycle. -/
theorem terms_inside {anchor a : Int} {ms : List Int} (ha : 0 ≤ a) (hms : ∀ m ∈ ms, 0 < m) :
    (∀ t ∈ terms (cycleStart anchor a) ms, Inside anchor t) ↔ TermsKeepAnchor anchor a ms := by
  constructor
  · intro h
    induction ms generalizing a with
    | nil => trivial
    | cons m ms ih =>
      have hm := hms m List.mem_cons_self
      obtain ⟨hkeep, hle, hbefore⟩ := addMonths_cycleStart anchor a m
      have hfirst : KeepsAnchor anchor a (a + m) := by
        by_contra hlost
        have hpos : 0 < a := by
          rcases ha.eq_or_lt with rfl | hpos
          · have hday := (dayOfMonth_bounds anchor).2
            exact absurd (.inl (by rwa [add_zero])) hlost
          · exact hpos
        have hlt := lt_of_le_of_ne hle fun heq => hlost (hkeep.1 heq)
        have hbegin : cycleStart anchor a ≤ cycleStart anchor (a + m - 1) :=
          (cycleStart_strictMono anchor).monotone (by omega)
        have hcross := h (cycleStart anchor a, addMonths (cycleStart anchor a) m - 1)
          List.mem_cons_self (a + m - 1) (by omega) hbegin (by simp only; omega)
        rw [Int.sub_add_cancel] at hcross
        simp only at hcross
        omega
      refine ⟨hfirst, ih (by omega) (fun k hk => hms k (List.mem_cons_of_mem _ hk)) ?_⟩
      rw [← hkeep.2 hfirst]
      exact fun t ht => h t (List.mem_cons_of_mem _ ht)
  · intro h t ht
    obtain ⟨b, c, rfl⟩ := terms_cycles h ht
    exact inside_cycles anchor b c

/-! ## The base term -/

/-- The days of the months before month `n` are those before the first cycle and those of the cycles
before month `n`. -/
theorem before_cycle (anchor d : Int) {n : Int} (hn : 0 < n) :
    d < cycleStart anchor n ↔ d < cycleStart anchor 1 ∨
      ∃ k, 0 < k ∧ k < n ∧ cycleStart anchor k ≤ d ∧ d < cycleStart anchor (k + 1) := by
  have hmono := (cycleStart_strictMono anchor).monotone
  constructor
  · intro hd
    rcases lt_or_ge d (cycleStart anchor 1) with hfirst | hfirst
    · exact .inl hfirst
    · obtain ⟨k, hk, hstart, hend⟩ := exists_cycle 1 hfirst
      have hlt : k < n := (cycleStart_strictMono anchor).lt_iff_lt.1 (lt_of_le_of_lt hstart hd)
      exact .inr ⟨k, by omega, hlt, hstart, hend⟩
  · rintro (hfirst | ⟨k, -, hk, -, hend⟩)
    · exact lt_of_lt_of_le hfirst (hmono (by omega))
    · exact lt_of_lt_of_le hend (hmono (by omega))

/-- The segments are the terms of the given months, the last one has the highest number, and none is
cancelled. -/
structure SegmentsOk (start : Int) (ms : List Int) (rows : List ContractSegment) : Prop where
  dates : rows.map (fun s => (s.startDate, s.endDate)) = terms start ms
  effective : ∀ s ∈ rows, s.status ≠ .cancelled
  last : ∃ init last, rows = init ++ [last] ∧ last.endDate = termsEnd start ms - 1 ∧
    ∀ s ∈ init, s.sequenceNo < last.sequenceNo

theorem effective_iff {s : ContractSegment} : effective s = true ↔ s.status ≠ .cancelled := by
  simp [Contract.effective]

theorem findLast_mem {p : ContractSegment → Bool} {rows : List ContractSegment}
    {s : ContractSegment} (h : findLast p rows = some s) : s ∈ rows ∧ p s = true :=
  List.mem_filter.1 ((List.mem_insertionSort _).1 (List.mem_of_mem_head? h))

/-- No number is higher than that of the row found. -/
theorem findLast_le {p : ContractSegment → Bool} {rows : List ContractSegment}
    {last s : ContractSegment} (h : findLast p rows = some last) (hs : s ∈ rows) (hp : p s = true) :
    s.sequenceNo ≤ last.sequenceNo :=
  Tables.le_head?_insertionSort h (List.mem_filter.2 ⟨hs, hp⟩)

theorem findLast_max {p : ContractSegment → Bool} {rows : List ContractSegment}
    {last : ContractSegment} (hlast : last ∈ rows) (hp : p last = true)
    (hmax : ∀ s ∈ rows, p s = true → s ≠ last → s.sequenceNo < last.sequenceNo) :
    findLast p rows = some last := by
  refine Tables.head?_insertionSort (List.mem_filter.2 ⟨hlast, hp⟩) fun s hs hle => ?_
  obtain ⟨hs, hps⟩ := List.mem_filter.1 hs
  by_contra hne
  have hlt := hmax s hs hps hne
  omega

theorem SegmentsOk.findLast {start : Int} {ms : List Int} {rows : List ContractSegment}
    (h : SegmentsOk start ms rows) : ∃ last ∈ rows, findLast Contract.effective rows = some last ∧
      last.endDate = termsEnd start ms - 1 ∧ ∀ s ∈ rows, s.sequenceNo < last.sequenceNo + 1 := by
  obtain ⟨init, last, rfl, hend, hseq⟩ := h.last
  have hcase : ∀ s ∈ init ++ [last], s ≠ last → s.sequenceNo < last.sequenceNo := by
    intro s hs hne
    rcases List.mem_append.1 hs with hs | hs
    · exact hseq s hs
    · exact absurd (List.mem_singleton.1 hs) hne
  have hlast : last ∈ init ++ [last] := by simp
  refine ⟨last, hlast, ?_, hend, fun s hs => ?_⟩
  · exact findLast_max hlast (effective_iff.2 (h.effective last hlast)) fun s hs _ => hcase s hs
  · by_cases heq : s = last
    · rw [heq]
      omega
    · have hlt := hcase s hs heq
      omega

theorem SegmentsOk.mem_terms {start : Int} {ms : List Int} {rows : List ContractSegment}
    (h : SegmentsOk start ms rows) {s : ContractSegment} (hs : s ∈ rows) :
    (s.startDate, s.endDate) ∈ terms start ms :=
  h.dates ▸ List.mem_map_of_mem (f := fun s => (s.startDate, s.endDate)) hs

/-- An extension of a positive number of months is accepted. -/
theorem SegmentsOk.createExtension {start m : Int} {ms : List Int} {rows : List ContractSegment}
    (h : SegmentsOk start ms rows) (hms : ∀ m ∈ ms, 0 < m) (hm : 0 < m) :
    ∃ last ∈ rows, createExtension rows m =
      .ok (last, termsEnd start ms, addMonths (termsEnd start ms) m - 1) ∧
        ∀ s ∈ rows, s.sequenceNo < last.sequenceNo + 1 := by
  obtain ⟨last, hlast, hfind, hend, hseq⟩ := h.findLast
  have hlt := lt_addMonths (termsEnd start ms) hm
  have hearlier : ∀ s ∈ rows, s.endDate < termsEnd start ms :=
    fun s hs => (Contract.mem_terms hms (h.mem_terms hs)).2.2
  have hnone : (rows.any fun s => termsEnd start ms ≤ s.endDate && s.id != last.id &&
      s.startDate ≤ addMonths (termsEnd start ms) m - 1 && Contract.effective s) = false := by
    rw [List.any_eq_false]
    intro s hs
    have hbefore := hearlier s hs
    simp only [Bool.and_eq_true, decide_eq_true_eq, not_and]
    omega
  refine ⟨last, hlast, ?_, hseq⟩
  rw [Contract.createExtension, if_neg (by omega), hfind]
  simp only [addUtcDays, addCalendarMonths_eq, hend, Int.sub_add_cancel,
    assertAppendableExtension, hfind, effective_iff.2 (h.effective last hlast), Bool.not_true,
    Int.add_neg_one]
  rw [if_neg (by omega), if_neg (by simp), if_neg (by simp), if_neg (by omega), if_neg (by omega),
    if_neg (by rw [hnone]; exact Bool.false_ne_true)]
  rfl

theorem SegmentsOk.setStatus {start : Int} {ms : List Int} {rows : List ContractSegment}
    (h : SegmentsOk start ms rows) (id : Id) {status : SegmentStatus} (hstatus : status ≠ .cancelled) :
    SegmentsOk start ms (setStatus id status rows) := by
  have hrow : ∀ s : ContractSegment, ∀ s', (if s.id == id then { s with status := status } else s) =
      s' → s'.startDate = s.startDate ∧ s'.endDate = s.endDate ∧ s'.sequenceNo = s.sequenceNo := by
    rintro s s' rfl
    split_ifs <;> exact ⟨rfl, rfl, rfl⟩
  obtain ⟨init, last, rfl, hend, hseq⟩ := h.last
  refine ⟨?_, ?_, Contract.setStatus id status init, _, List.map_append, ?_, ?_⟩
  · rw [← h.dates, Contract.setStatus, List.map_map]
    refine List.map_congr_left fun s _ => ?_
    obtain ⟨hstart, hend, -⟩ := hrow s _ rfl
    exact Prod.ext hstart hend
  · intro s' hs'
    obtain ⟨s, hs, rfl⟩ := List.mem_map.1 hs'
    split_ifs
    · exact hstatus
    · exact h.effective s hs
  · exact (hrow last _ rfl).2.1.trans hend
  · intro s' hs'
    obtain ⟨s, hs, rfl⟩ := List.mem_map.1 hs'
    rw [(hrow s _ rfl).2.2, (hrow last _ rfl).2.2]
    exact hseq s hs

theorem extensionMonths_pos {evs : List SegmentEvent} : ∀ m ∈ extensionMonths evs, 0 < m := by
  intro m hm
  obtain ⟨e, -, he⟩ := List.mem_filterMap.1 hm
  cases e with
  | extend _ k _ =>
    simp only at he
    split_ifs at he with hk
    exact Option.some.inj he ▸ hk
  | activate _ => cases he
  | complete _ => cases he

theorem SegmentsOk.step {start : Int} {ms : List Int} {rows : List ContractSegment}
    (h : SegmentsOk start ms rows) (hms : ∀ m ∈ ms, 0 < m) (e : SegmentEvent) :
    SegmentsOk start (ms ++ extensionMonths [e]) (segmentStep rows e) := by
  cases e with
  | extend changeOrderId m fee =>
    by_cases hm : 0 < m
    · obtain ⟨last, hlast, hcreate, hseq⟩ := h.createExtension hms hm
      have hmonths : extensionMonths [.extend changeOrderId m fee] = [m] := by
        simp [extensionMonths, hm]
      rw [hmonths, segmentStep, hcreate]
      refine ⟨?_, ?_, rows, _, rfl, ?_, hseq⟩
      · rw [List.map_append, h.dates, terms_concat]
        rfl
      · intro s hs
        rcases List.mem_append.1 hs with hs | hs
        · exact h.effective s hs
        · rw [List.mem_singleton.1 hs]
          exact SegmentStatus.noConfusion
      · rw [show termsEnd start (ms ++ [m]) = addMonths (termsEnd start ms) m from
          List.foldl_append]
        rfl
    · have hmonths : extensionMonths [.extend changeOrderId m fee] = [] := by
        simp [extensionMonths, hm]
      rw [hmonths, List.append_nil, segmentStep, Contract.createExtension, if_pos (by omega)]
      exact h
  | activate segmentId =>
    rw [show extensionMonths [.activate segmentId] = [] from rfl, List.append_nil, segmentStep]
    split
    · split
      · split_ifs
        · exact (h.setStatus _ SegmentStatus.noConfusion).setStatus _ SegmentStatus.noConfusion
        · exact h
      · exact h
    · exact h
  | complete segmentId =>
    rw [show extensionMonths [.complete segmentId] = [] from rfl, List.append_nil, segmentStep]
    split_ifs
    · exact h.setStatus _ SegmentStatus.noConfusion
    · exact h

theorem SegmentsOk.run {start : Int} {ms : List Int} {rows : List ContractSegment}
    (h : SegmentsOk start ms rows) (hms : ∀ m ∈ ms, 0 < m) (evs : List SegmentEvent) :
    SegmentsOk start (ms ++ extensionMonths evs) (evs.foldl segmentStep rows) := by
  induction evs generalizing ms rows with
  | nil => rwa [show extensionMonths [] = [] from rfl, List.append_nil]
  | cons e evs ih =>
    have hpos : ∀ m ∈ ms ++ extensionMonths [e], 0 < m := by
      intro m hm
      rcases List.mem_append.1 hm with hm | hm
      · exact hms m hm
      · exact extensionMonths_pos m hm
    have hsplit : extensionMonths (e :: evs) = extensionMonths [e] ++ extensionMonths evs :=
      List.filterMap_append (l := [e])
    rw [hsplit, ← List.append_assoc]
    exact ih (h.step hms e) hpos

/-- The table of an order that was activated for a positive number of months. -/
theorem segmentRun_ok (activatedAt fee : Int) {periodMonths : Int} (hperiod : 0 < periodMonths)
    (evs : List SegmentEvent) : ∃ rows, segmentRun activatedAt periodMonths fee evs = .ok rows ∧
      SegmentsOk (toBillingBusinessDate activatedAt) (periodMonths :: extensionMonths evs) rows := by
  have hbase : SegmentsOk (toBillingBusinessDate activatedAt) [periodMonths]
      [baseSegment (toBillingBusinessDate activatedAt)
        (addMonths (toBillingBusinessDate activatedAt) periodMonths - 1) fee] := by
    refine ⟨rfl, ?_, [], _, rfl, rfl, by simp⟩
    intro s hs
    rw [List.mem_singleton.1 hs]
    exact SegmentStatus.noConfusion
  have hpos : ∀ m ∈ [periodMonths], 0 < m := by simpa using hperiod
  refine ⟨_, ?_, hbase.run hpos evs⟩
  rw [segmentRun, deriveOriginalSubscriptionPeriod_eq hperiod]
  rfl

/-! ## Agreement -/

/-- The billing cycles of a delivery and the segments agree: a cycle that begins in a segment ends in
it, so that the segment of a cycle is never found to be crossed by it, and every day of a segment
from the first cycle on lies in a cycle within the segment. -/
structure CyclesAgree (actualDeliveryAt : Int) (rows : List ContractSegment) : Prop where
  inside : ∀ n cycle, buildBillingCycleForDelivery actualDeliveryAt n = .ok cycle →
    ∀ s ∈ rows, s.status ≠ .cancelled → s.startDate ≤ cycle.periodStart →
      cycle.periodStart ≤ s.endDate → cycle.periodEnd ≤ s.endDate
  resolved : ∀ n cycle, buildBillingCycleForDelivery actualDeliveryAt n = .ok cycle →
    ∀ e, resolveSegmentForPeriod rows cycle.periodStart (some cycle.periodEnd) = .error e →
      e.code ≠ .billingPeriodCrossesSegment
  covered : ∀ first, buildInitialBillingCycle actualDeliveryAt = .ok first →
    ∀ s ∈ rows, s.status ≠ .cancelled → ∀ d, s.startDate ≤ d → d ≤ s.endDate →
      first.periodStart ≤ d → ∃ n cycle, buildBillingCycleForDelivery actualDeliveryAt n = .ok cycle ∧
        cycle.periodStart ≤ d ∧ d ≤ cycle.periodEnd ∧ s.startDate ≤ cycle.periodStart ∧
          cycle.periodEnd ≤ s.endDate

/-- A segment is reported as crossed only by a period that begins in it and ends after it. -/
theorem resolveSegmentForPeriod_crosses {rows : List ContractSegment} {periodStart periodEnd : Int}
    {e : ContractSegmentError}
    (h : resolveSegmentForPeriod rows periodStart (some periodEnd) = .error e)
    (hcode : e.code = .billingPeriodCrossesSegment) : ∃ s ∈ rows, s.status ≠ .cancelled ∧
      s.startDate ≤ periodStart ∧ periodStart ≤ s.endDate ∧ s.endDate < periodEnd := by
  unfold resolveSegmentForPeriod at h
  split at h
  · obtain rfl := Except.error.inj h
    cases hcode
  split at h
  · obtain rfl := Except.error.inj h
    cases hcode
  · rename_i s hfind
    obtain ⟨hs, hp⟩ := findLast_mem hfind
    simp only [Bool.and_eq_true, decide_eq_true_eq] at hp
    simp only at h
    split_ifs at h with hlt
    exact ⟨s, hs, effective_iff.1 hp.2, hp.1.2, hp.1.1, hlt⟩

theorem cyclesAgree_iff {activatedAt : Int} {ms : List Int} {rows : List ContractSegment}
    (h : SegmentsOk (toBillingBusinessDate activatedAt) ms rows) (hms : ∀ m ∈ ms, 0 < m) :
    CyclesAgree activatedAt rows ↔ TermsKeepAnchor (toBillingBusinessDate activatedAt) 0 ms := by
  set anchor := toBillingBusinessDate activatedAt with hanchor
  have hzero : cycleStart anchor 0 = anchor := addMonths_zero anchor
  have hterms : (∀ t ∈ terms (cycleStart anchor 0) ms, Inside anchor t) ↔
      TermsKeepAnchor anchor 0 ms := terms_inside le_rfl hms
  rw [hzero] at hterms
  constructor
  · intro hagree
    refine hterms.1 fun t ht n hn hbegin hin => ?_
    rw [← h.dates] at ht
    obtain ⟨s, hs, rfl⟩ := List.mem_map.1 ht
    have hcycle : buildBillingCycleForDelivery activatedAt n = .ok _ := buildBillingCycle_eq hn
    exact hagree.inside n _ hcycle s hs (h.effective s hs) hbegin hin
  · intro hkeep
    have hinside : ∀ n cycle, buildBillingCycleForDelivery activatedAt n = .ok cycle →
        ∀ s ∈ rows, s.status ≠ .cancelled → s.startDate ≤ cycle.periodStart →
          cycle.periodStart ≤ s.endDate → cycle.periodEnd ≤ s.endDate := by
      intro n cycle hcycle s hs _ hbegin hin
      obtain ⟨hn, hstart, hend⟩ := buildBillingCycle_ok hcycle
      rw [hstart] at hbegin hin
      rw [hend]
      exact hterms.2 hkeep _ (h.mem_terms hs) n hn hbegin hin
    refine ⟨hinside, ?_, ?_⟩
    · intro n cycle hcycle e he hcode
      obtain ⟨s, hs, heff, hbegin, hin, hcross⟩ := resolveSegmentForPeriod_crosses he hcode
      have hle := hinside n cycle hcycle s hs heff hbegin hin
      omega
    · intro first hfirst s hs _ d hbegin hin hd
      obtain ⟨-, hstart, -⟩ := buildBillingCycle_ok (n := 1) hfirst
      rw [hstart] at hd
      rw [← hzero] at h
      obtain ⟨b, c, hbc⟩ := terms_cycles hkeep (h.mem_terms hs)
      obtain ⟨hb, hc⟩ := Prod.mk.inj hbc
      have hlow : cycleStart anchor (max b 1) ≤ d := by
        rcases max_choice b 1 with hmax | hmax
        · rw [hmax, ← hb]
          exact hbegin
        · rw [hmax]
          exact hd
      obtain ⟨n, hn, hnd, hdn⟩ := exists_cycle (max b 1) hlow
      have hnc : n < c := (cycleStart_strictMono anchor).lt_iff_lt.1 (by omega)
      have hbn : cycleStart anchor b ≤ cycleStart anchor n :=
        (cycleStart_strictMono anchor).monotone (by omega)
      have hcn : cycleStart anchor (n + 1) ≤ cycleStart anchor c :=
        (cycleStart_strictMono anchor).monotone (by omega)
      have hcycle : buildBillingCycleForDelivery activatedAt n = .ok _ :=
        buildBillingCycle_eq (by omega)
      refine ⟨n, _, hcycle, hnd, ?_, ?_, ?_⟩
      · show d ≤ cycleStart anchor (n + 1) - 1
        omega
      · rw [hb]
        exact hbn
      · rw [hc]
        show cycleStart anchor (n + 1) - 1 ≤ cycleStart anchor c - 1
        omega

/-- The billing cycles of a delivery agree with the base segment and its extensions exactly if every
term keeps the day of the delivery. -/
theorem cycles_agree_with_segments (activatedAt periodMonths fee : Int)
    (hperiod : 0 < periodMonths) (evs : List SegmentEvent) :
    ∃ rows, segmentRun activatedAt periodMonths fee evs = .ok rows ∧
      (CyclesAgree activatedAt rows ↔ TermsKeepAnchor (toBillingBusinessDate activatedAt) 0
        (periodMonths :: extensionMonths evs)) := by
  obtain ⟨rows, hrun, hok⟩ := segmentRun_ok activatedAt fee hperiod evs
  have hpos : ∀ m ∈ periodMonths :: extensionMonths evs, 0 < m := by
    intro m hm
    rcases List.mem_cons.1 hm with rfl | hm
    · exact hperiod
    · exact extensionMonths_pos m hm
  exact ⟨rows, hrun, cyclesAgree_iff hok hpos⟩

/-- From a day that every month has, all terms agree with the cycles. -/
theorem cycles_agree_with_segments_midmonth : ∃ rows,
    segmentRun 1736906400000 6 500000 [.extend 1 1 500000, .extend 2 12 480000] = .ok rows ∧
      CyclesAgree 1736906400000 rows := by
  obtain ⟨rows, hrun, hagree⟩ := cycles_agree_with_segments 1736906400000 6 500000 (by decide)
    [.extend 1 1 500000, .extend 2 12 480000]
  exact ⟨rows, hrun, hagree.2 (by decide)⟩

/-- From the 31st of January 2025: a month that ends with the 27th of February is extended by a month
that ends with the 27th of March, and the first cycle, which begins with the extension, ends with the
30th of March. -/
theorem cycles_cross_segments_january :
    segmentRun 1738288800000 1 500000 [.extend 1 1 500000] =
      .ok [⟨0, 1, .active, 20119, 20146, 500000, none, none⟩,
        ⟨1, 2, .scheduled, 20147, 20174, 500000, some 1, some 0⟩] ∧
    resolveSegmentForPeriod [⟨0, 1, .active, 20119, 20146, 500000, none, none⟩,
      ⟨1, 2, .scheduled, 20147, 20174, 500000, some 1, some 0⟩] 20147 (some 20177) =
        .error ⟨.billingPeriodCrossesSegment,
          "The billing period crosses a contract segment boundary.", none, some 1⟩ ∧
    ¬ CyclesAgree 1738288800000 [⟨0, 1, .active, 20119, 20146, 500000, none, none⟩,
      ⟨1, 2, .scheduled, 20147, 20174, 500000, some 1, some 0⟩] := by
  refine ⟨by decide +kernel, by decide +kernel, fun hagree => ?_⟩
  have hcycle : buildBillingCycleForDelivery 1738288800000 1 =
      .ok ⟨20119, 1, 20147, 20144, 20152, 20177, 20147⟩ := by decide +kernel
  have hend := hagree.inside 1 _ hcycle
    ⟨1, 2, .scheduled, 20147, 20174, 500000, some 1, some 0⟩
    (by decide) (by decide) (by decide) (by decide)
  exact absurd hend (by decide)

end SubscriptionSaas.Contract
