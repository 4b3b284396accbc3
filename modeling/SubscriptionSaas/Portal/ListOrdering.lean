import Mathlib.Data.List.Sort
import Mathlib.Data.Prod.Lex
import Mathlib.Order.WithBot

/-!
# The order of portal lists

The portal orders its lists by `comparePortalListSortKeys`. A list that the database keeps in several
buckets is read a page at a time: the buckets are counted, `planPortalBucketPage` says which part of
which bucket the page needs, and the parts are read and joined.
-/

namespace SubscriptionSaas.Portal

variable {ι α β : Type}

/-- Instants are milliseconds. The ids are UUIDs. -/
structure PortalListSortKey (ι : Type) where
  createdAt : Int
  deadlineAt : Option Int
  id : ι
  priority : Int
  updatedAt : Int
  deriving DecidableEq

/-- A linear order as a comparison; the locale orders the ids. -/
def localeCompare [LinearOrder ι] (left right : ι) : Int :=
  if left < right then -1 else if right < left then 1 else 0

/-- The last three comparisons of `comparePortalListSortKeys`. -/
def compareTimes [LinearOrder ι] (left right : PortalListSortKey ι) : Int :=
  let updatedDiff := right.updatedAt - left.updatedAt
  if updatedDiff ≠ 0 then updatedDiff
  else
    let createdDiff := right.createdAt - left.createdAt
    if createdDiff ≠ 0 then createdDiff else localeCompare left.id right.id

def comparePortalListSortKeys [LinearOrder ι] (left right : PortalListSortKey ι) : Int :=
  if left.priority ≠ right.priority then left.priority - right.priority
  else
    match left.deadlineAt, right.deadlineAt with
    | some leftDeadline, some rightDeadline =>
      let deadlineDiff := leftDeadline - rightDeadline
      if deadlineDiff ≠ 0 then deadlineDiff else compareTimes left right
    | some _, none => -1
    | none, some _ => 1
    | none, none => compareTimes left right

def sortByPortalListOrder [LinearOrder ι] (items : List α) (keyOf : α → PortalListSortKey ι) :
    List α :=
  items.insertionSort fun left right => comparePortalListSortKeys (keyOf left) (keyOf right) ≤ 0

structure PortalBucketCount (β : Type) where
  bucket : β
  count : Nat

structure PortalBucketSlice (β : Type) where
  bucket : β
  skip : Int
  take : Int
  deriving DecidableEq

/-- The loop of `planPortalBucketPage`. -/
def planSlices : List (PortalBucketCount β) → Int → Int → List (PortalBucketSlice β)
  | [], _, _ => []
  | ⟨bucket, count⟩ :: buckets, remainingSkip, remainingTake =>
    if remainingTake = 0 then []
    else if count ≤ remainingSkip then planSlices buckets (remainingSkip - count) remainingTake
    else
      let bucketTake := min (count - remainingSkip) remainingTake
      ⟨bucket, remainingSkip, bucketTake⟩ :: planSlices buckets 0 (remainingTake - bucketTake)

def planPortalBucketPage (buckets : List (PortalBucketCount β)) (skip take : Int) :
    List (PortalBucketSlice β) :=
  if skip < 0 ∨ take ≤ 0 then [] else planSlices buckets skip take

/-- `findMany` of a bucket with `skip` and `take`. -/
def readSlice (rows : β → List α) (slice : PortalBucketSlice β) : List α :=
  ((rows slice.bucket).drop slice.skip.toNat).take slice.take.toNat

/-- A page of the list that the portal keeps in the buckets. -/
def listPage (rows : β → List α) (buckets : List β) (page pageSize : Int) : List α :=
  (planPortalBucketPage (buckets.map fun bucket => ⟨bucket, (rows bucket).length⟩)
    ((page - 1) * pageSize) pageSize).flatMap (readSlice rows)

end SubscriptionSaas.Portal
