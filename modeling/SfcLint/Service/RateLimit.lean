/-
# Limiting the rate of calls

Every client has a bucket of tokens, full at first, and each call that is allowed takes one. Tokens
come back at a steady rate up to the capacity of the bucket, and a clock that goes backwards brings
none. The arithmetic rounds as it is told to: not at all, or to binary numbers of double width.
-/

import SfcLint.Number.Binary64

namespace SfcLint

/-- How results of arithmetic are rounded. -/
abbrev Rounding := Rat → Rat

namespace Rounding

/-- Results are kept as they are. -/
def exact : Rounding := id

/-- Results are taken to the nearest binary number of double width. One beyond all of these counts
as the least power of two beyond them. -/
def binary : Rounding := fun r =>
  match Binary64.ofRat r with
  | .infinite negative => (if negative then -1 else 1) * Binary64.twoPow 1024
  | x => x.toRat?.getD 0

end Rounding

/-- How many tokens come back in a minute, and how many a bucket can hold. -/
structure RateLimit where
  perMinute : Rat
  capacity : Rat
  deriving DecidableEq, Repr

/-- The tokens of a client, and when they were last counted. -/
structure Bucket where
  tokens : Rat
  counted : Rat
  deriving DecidableEq, Repr

/-- The buckets of the clients that have called. -/
abbrev Buckets := List (String × Bucket)

namespace RateLimit

/-- The limit with a rate of at least one. Without a size of its own, or with none at all, a bucket
holds the tokens of a minute. -/
def make (perMinute : Rat) (burst : Option Rat) : RateLimit :=
  let perMinute := if perMinute ≤ 1 then 1 else perMinute
  ⟨perMinute, (burst.filter (· ≠ 0)).getD perMinute⟩

/-- The tokens that come back while some time passes. -/
def regained (limit : RateLimit) (round : Rounding) (seconds : Rat) : Rat :=
  round (round (if seconds ≤ 0 then 0 else seconds) * round (round limit.perMinute / 60))

/-- The tokens of a bucket at a later time. -/
def refilled (limit : RateLimit) (round : Rounding) (bucket : Bucket) (now : Rat) : Rat :=
  let tokens := round (round bucket.tokens + limit.regained round (now - bucket.counted))
  if tokens ≤ limit.capacity then tokens else limit.capacity

/-- The bucket of a client that has not called before. -/
def fullBucket (limit : RateLimit) (now : Rat) : Bucket := ⟨limit.capacity, now⟩

/-- Whether a call is allowed, and the bucket after it. -/
def take (limit : RateLimit) (round : Rounding) (bucket : Bucket) (now : Rat) : Bool × Bucket :=
  let tokens := limit.refilled round bucket now
  if tokens < 1 then (false, ⟨tokens, now⟩) else (true, ⟨round (round tokens - 1), now⟩)

end RateLimit

namespace Buckets

/-- The buckets with that of one client replaced. -/
def put (client : String) (bucket : Bucket) : Buckets → Buckets
  | [] => [(client, bucket)]
  | (other, kept) :: rest =>
      if other = client then (client, bucket) :: rest else (other, kept) :: put client bucket rest

/-- Whether a call of a client is allowed, the tokens that are left, and the buckets after it. -/
def call (limit : RateLimit) (round : Rounding) (buckets : Buckets) (client : String) (now : Rat) :
    (Bool × Rat) × Buckets :=
  let bucket := (buckets.lookup client).getD (limit.fullBucket now)
  let (allowed, bucket) := limit.take round bucket now
  ((allowed, bucket.tokens), put client bucket buckets)

/-- What comes of some calls, one after the other. -/
def callAll (limit : RateLimit) (round : Rounding) :
    Buckets → List (String × Rat) → List (Bool × Rat)
  | _, [] => []
  | buckets, (client, now) :: calls =>
      let (outcome, buckets) := call limit round buckets client now
      outcome :: callAll limit round buckets calls

end Buckets

end SfcLint
