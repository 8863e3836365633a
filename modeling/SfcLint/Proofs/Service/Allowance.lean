/-
# How much a limit allows

With exact arithmetic a bucket never holds less than nothing or more than it can. While the clock
goes on, a client that starts from a bucket can take no more than the tokens in it and those that
come back. At the first call inside a window of time the bucket holds at most its capacity,
whatever happened before. So in every window a client gets no more calls than a full bucket and
the tokens of the window are worth.
-/

import Mathlib.Tactic.Linarith
import Mathlib.Tactic.NormNum
import Mathlib.Tactic.Positivity
import Mathlib.Tactic.Ring
import SfcLint.Proofs.Service.Independence

namespace SfcLint

namespace RateLimit

variable {limit : RateLimit} {bucket : Bucket} {now : Rat}

/-- Tokens come back, and a bucket has room for one. -/
structure Generous (limit : RateLimit) : Prop where
  rate : 0 ≤ limit.perMinute
  room : 1 ≤ limit.capacity

/-- The bucket holds neither less than nothing nor more than it can. -/
def Fits (limit : RateLimit) (bucket : Bucket) : Prop :=
  0 ≤ bucket.tokens ∧ bucket.tokens ≤ limit.capacity

theorem perMinute_make (perMinute : Rat) (burst : Option Rat) :
    (make perMinute burst).perMinute = max perMinute 1 := by
  rw [make, max_def]

/-- A size of its own that is not nothing is the capacity. -/
theorem capacity_make (perMinute : Rat) {burst : Option Rat} (large : ∀ size ∈ burst, 1 ≤ size) :
    (make perMinute burst).capacity = burst.getD (max perMinute 1) := by
  cases burst with
  | none => exact perMinute_make perMinute none
  | some size =>
    have whole : size ≠ 0 := by linarith [large size rfl]
    simp [make, Option.filter, whole]

theorem generous_make (perMinute : Rat) {burst : Option Rat} (large : ∀ size ∈ burst, 1 ≤ size) :
    (make perMinute burst).Generous where
  rate := by
    rw [perMinute_make]
    exact le_max_of_le_right zero_le_one
  room := by
    rw [capacity_make perMinute large]
    cases burst with
    | none => exact le_max_right _ _
    | some size => exact large size rfl

/-! ## One call -/

/-- Without rounding the tokens of the time that has passed are added, up to the capacity. -/
theorem refilled_exact (limit : RateLimit) (bucket : Bucket) (now : Rat) :
    limit.refilled .exact bucket now =
      min (bucket.tokens + max (now - bucket.counted) 0 * (limit.perMinute / 60))
        limit.capacity := by
  simp only [refilled, regained, Rounding.exact, id_eq, min_def, max_def]
  rfl

theorem Generous.refilled_nonneg (generous : limit.Generous) (fits : limit.Fits bucket) :
    0 ≤ limit.refilled .exact bucket now := by
  have rate := generous.rate
  have room := generous.room
  have tokens := fits.1
  rw [refilled_exact]
  refine le_min ?_ (by linarith)
  have back : 0 ≤ max (now - bucket.counted) 0 * (limit.perMinute / 60) :=
    mul_nonneg (le_max_right _ _) (by positivity)
  linarith

theorem refilled_le_capacity (limit : RateLimit) (bucket : Bucket) (now : Rat) :
    limit.refilled .exact bucket now ≤ limit.capacity := by
  rw [refilled_exact]
  exact min_le_right _ _

/-- On a clock that goes on no more comes back than the time that has passed is worth. -/
theorem refilled_le_of_le (limit : RateLimit) (onward : bucket.counted ≤ now) :
    limit.refilled .exact bucket now ≤
      bucket.tokens + (now - bucket.counted) * (limit.perMinute / 60) := by
  rw [refilled_exact, max_eq_left (sub_nonneg.mpr onward)]
  exact min_le_left _ _

theorem fits_fullBucket (generous : limit.Generous) : limit.Fits (limit.fullBucket now) :=
  ⟨zero_le_one.trans generous.room, le_rfl⟩

/-- How a call ends: it is refused, or it is allowed and takes a token that was there. -/
theorem take_exact_cases (limit : RateLimit) (bucket : Bucket) (now : Rat) :
    limit.take .exact bucket now = (false, ⟨limit.refilled .exact bucket now, now⟩) ∨
      1 ≤ limit.refilled .exact bucket now ∧
        limit.take .exact bucket now = (true, ⟨limit.refilled .exact bucket now - 1, now⟩) := by
  rw [take]
  split
  next => exact .inl rfl
  next enough => exact .inr ⟨not_lt.mp enough, rfl⟩

theorem counted_take : (limit.take .exact bucket now).2.counted = now := by
  rcases take_exact_cases limit bucket now with refused | ⟨-, allowed⟩
  · rw [refused]
  · rw [allowed]

/-- The token of an allowed call was there before, and no other one is lost or made. -/
theorem tokens_take (limit : RateLimit) (bucket : Bucket) (now : Rat) :
    (limit.take .exact bucket now).2.tokens + (limit.take .exact bucket now).1.toNat =
      limit.refilled .exact bucket now := by
  rcases take_exact_cases limit bucket now with refused | ⟨-, allowed⟩
  · simp [refused]
  · simp [allowed]

theorem Generous.fits_take (generous : limit.Generous) (fits : limit.Fits bucket) :
    limit.Fits (limit.take .exact bucket now).2 := by
  have lower : 0 ≤ limit.refilled .exact bucket now := generous.refilled_nonneg fits
  have upper : limit.refilled .exact bucket now ≤ limit.capacity := limit.refilled_le_capacity bucket now
  rcases take_exact_cases limit bucket now with refused | ⟨enough, allowed⟩
  · rw [refused]
    exact ⟨lower, upper⟩
  · rw [allowed]
    exact ⟨sub_nonneg.mpr enough, by linarith⟩

end RateLimit

namespace Buckets

variable {limit : RateLimit} {round : Rounding} {buckets : Buckets} {client caller : String}
  {now a b : Rat} {calls : List (String × Rat)}

/-- The buckets after some calls. -/
def after (limit : RateLimit) (round : Rounding) (buckets : Buckets)
    (calls : List (String × Rat)) : Buckets :=
  calls.foldl (fun buckets (client, now) => (call limit round buckets client now).2) buckets

/-- The bucket that a call of a client starts from. -/
def held (limit : RateLimit) (buckets : Buckets) (client : String) (now : Rat) : Bucket :=
  (buckets.lookup client).getD (limit.fullBucket now)

theorem lookup_call_self (limit : RateLimit) (round : Rounding) (buckets : Buckets)
    (client : String) (now : Rat) :
    (call limit round buckets client now).2.lookup client =
      some (limit.take round (held limit buckets client now) now).2 :=
  lookup_put_self _ _ _

theorem held_of_lookup {bucket : Bucket} (known : buckets.lookup client = some bucket) :
    held limit buckets client now = bucket := by
  rw [held, known, Option.getD_some]

/-- The bucket of a client fits, if it has one. -/
def Sound (limit : RateLimit) (buckets : Buckets) (client : String) : Prop :=
  ∀ bucket ∈ buckets.lookup client, limit.Fits bucket

theorem Sound.fits_held (sound : Sound limit buckets client) (generous : limit.Generous) :
    limit.Fits (held limit buckets client now) := by
  cases known : buckets.lookup client with
  | none =>
    rw [held, known]
    exact RateLimit.fits_fullBucket generous
  | some bucket =>
    rw [held_of_lookup known]
    exact sound bucket known

theorem Sound.call (sound : Sound limit buckets client) (generous : limit.Generous) :
    Sound limit (call limit .exact buckets caller now).2 client := by
  by_cases own : caller = client
  · subst own
    intro bucket known
    rw [lookup_call_self] at known
    obtain rfl := Option.some.inj known
    exact generous.fits_take (sound.fits_held generous)
  · rw [Sound, lookup_call_of_ne (Ne.symm own)]
    exact sound

theorem Sound.after (sound : Sound limit buckets client) (generous : limit.Generous)
    (calls : List (String × Rat)) : Sound limit (after limit .exact buckets calls) client := by
  induction calls generalizing buckets with
  | nil => exact sound
  | cons first calls ih => exact ih (sound.call generous)

/-! ## The clock of a client -/

/-- When the tokens of a client were counted, if they were, and the times of its calls from then
on. -/
def clock (buckets : Buckets) (client : String) (calls : List (String × Rat)) : List Rat :=
  ((buckets.lookup client).map Bucket.counted).toList ++ (callsOf client calls).map Prod.snd

/-- The clock never goes back between two calls of a client. -/
def Onward (buckets : Buckets) (client : String) (calls : List (String × Rat)) : Prop :=
  (clock buckets client calls).Pairwise (· ≤ ·)

theorem callsOf_cons_self :
    callsOf client ((client, now) :: calls) = (client, now) :: callsOf client calls :=
  List.filter_cons_of_pos (decide_eq_true rfl)

theorem callsOf_cons_of_ne (different : caller ≠ client) :
    callsOf client ((caller, now) :: calls) = callsOf client calls :=
  List.filter_cons_of_neg (by simpa using different)

/-- After a call of its own the tokens of a client have been counted at that time. -/
theorem clock_call_self :
    clock (call limit .exact buckets client now).2 client calls =
      now :: (callsOf client calls).map Prod.snd := by
  rw [clock, lookup_call_self, Option.map_some, RateLimit.counted_take]
  rfl

theorem Onward.call_self (onward : Onward buckets client ((client, now) :: calls)) :
    Onward (call limit .exact buckets client now).2 client calls := by
  rw [Onward, clock, callsOf_cons_self, List.map_cons] at onward
  rw [Onward, clock_call_self]
  exact onward.sublist (List.sublist_append_right _ _)

theorem Onward.call_of_ne (different : caller ≠ client)
    (onward : Onward buckets client ((caller, now) :: calls)) :
    Onward (call limit .exact buckets caller now).2 client calls := by
  rw [Onward, clock, callsOf_cons_of_ne different] at onward
  rwa [Onward, clock, lookup_call_of_ne (Ne.symm different)]

/-- The tokens of a client were counted before its next call. -/
theorem Onward.counted_le {bucket : Bucket} (known : buckets.lookup client = some bucket)
    (onward : Onward buckets client ((client, now) :: calls)) : bucket.counted ≤ now := by
  rw [Onward, clock, known, callsOf_cons_self, Option.map_some, Option.toList_some,
    List.map_cons] at onward
  exact List.rel_of_pairwise_cons onward List.mem_cons_self

/-- No later call of a client comes before its tokens were counted. -/
theorem Onward.counted_le_of_mem {bucket : Bucket} {time : Rat}
    (known : buckets.lookup client = some bucket) (onward : Onward buckets client calls)
    (later : (client, time) ∈ calls) : bucket.counted ≤ time := by
  rw [Onward, clock, known, Option.map_some, Option.toList_some] at onward
  refine List.rel_of_pairwise_cons onward (List.mem_map.mpr ⟨(client, time), ?_, rfl⟩)
  exact List.mem_filter.mpr ⟨later, decide_eq_true rfl⟩

/-! ## Windows of time -/

/-- The call is one of the client in a window of time, and it was allowed. -/
def counts (client : String) (a b : Rat) (call : String × Rat) (outcome : Bool × Rat) : Bool :=
  call.1 = client ∧ a ≤ call.2 ∧ call.2 ≤ b ∧ outcome.1

/-- How many calls of a client are allowed in a window of time, given what comes of each. -/
def allowedIn (client : String) (a b : Rat) (calls : List (String × Rat))
    (outcomes : List (Bool × Rat)) : Nat :=
  (calls.zip outcomes).countP fun told => counts client a b told.1 told.2

theorem allowedIn_cons (client : String) (a b : Rat) (first : String × Rat)
    (outcome : Bool × Rat) (calls : List (String × Rat)) (outcomes : List (Bool × Rat)) :
    allowedIn client a b (first :: calls) (outcome :: outcomes) =
      allowedIn client a b calls outcomes + (counts client a b first outcome).toNat := by
  simp only [allowedIn, List.zip_cons_cons, List.countP_cons]
  cases counts client a b first outcome <;> rfl

/-- A call outside the window does not count. -/
theorem allowedIn_callAll_of_outside {now : Rat} (outside : caller = client → now < a ∨ b < now) :
    allowedIn client a b ((caller, now) :: calls)
        (callAll limit .exact buckets ((caller, now) :: calls)) =
      allowedIn client a b calls
        (callAll limit .exact (call limit .exact buckets caller now).2 calls) := by
  have uncounted : counts client a b (caller, now) (call limit .exact buckets caller now).1 =
      false := by
    rw [counts, decide_eq_false_iff_not]
    rintro ⟨own, early, late, -⟩
    rcases outside own with before | behind
    · exact absurd early (not_le.mpr before)
    · exact absurd late (not_le.mpr behind)
  rw [callAll, allowedIn_cons, uncounted]
  rfl

/-- A call inside the window counts when it is allowed. -/
theorem allowedIn_callAll_of_inside (early : a ≤ now) (late : now ≤ b) :
    allowedIn client a b ((client, now) :: calls)
        (callAll limit .exact buckets ((client, now) :: calls)) =
      allowedIn client a b calls
          (callAll limit .exact (call limit .exact buckets client now).2 calls) +
        (limit.take .exact (held limit buckets client now) now).1.toNat := by
  have counted : counts client a b (client, now) (call limit .exact buckets client now).1 =
      (limit.take .exact (held limit buckets client now) now).1 := by
    rw [counts]
    simp only [early, late, true_and]
    exact Bool.decide_eq_true
  rw [callAll, allowedIn_cons, counted]

/-- Behind the end of a window no call counts. -/
theorem allowedIn_callAll_eq_zero {bucket : Bucket} (known : buckets.lookup client = some bucket)
    (onward : Onward buckets client calls) (behind : b < bucket.counted)
    (outcomes : List (Bool × Rat)) : allowedIn client a b calls outcomes = 0 := by
  rw [allowedIn, List.countP_eq_zero]
  rintro ⟨⟨caller, time⟩, outcome⟩ member counted
  obtain ⟨rfl, -, late, -⟩ := of_decide_eq_true counted
  have later : bucket.counted ≤ time := onward.counted_le_of_mem known (List.of_mem_zip member).1
  exact absurd (later.trans late) (not_le.mpr behind)

/-- From a bucket on a client can take the tokens that are in it and those that come back until the
end of the window. -/
theorem allowedIn_callAll_le_of_lookup {bucket : Bucket} (generous : limit.Generous)
    (known : buckets.lookup client = some bucket) (fits : limit.Fits bucket)
    (onward : Onward buckets client calls) (running : bucket.counted ≤ b) :
    (allowedIn client a b calls (callAll limit .exact buckets calls) : Rat) ≤
      bucket.tokens + (b - bucket.counted) * (limit.perMinute / 60) := by
  have worth (time : Rat) (before : time ≤ b) : 0 ≤ (b - time) * (limit.perMinute / 60) :=
    mul_nonneg (sub_nonneg.mpr before) (div_nonneg generous.rate (by norm_num))
  induction calls generalizing buckets bucket with
  | nil =>
    have nonneg := add_nonneg fits.1 (worth _ running)
    simpa [allowedIn] using nonneg
  | cons first calls ih =>
    obtain ⟨caller, now⟩ := first
    by_cases own : caller = client
    · subst own
      have start : held limit buckets caller now = bucket := held_of_lookup known
      have next := lookup_call_self limit .exact buckets caller now
      rw [start] at next
      rcases lt_or_ge b now with behind | before
      · -- The window is over, and so it is for all later calls.
        have none := allowedIn_callAll_eq_zero (a := a) next onward.call_self
          (by rwa [RateLimit.counted_take])
          (callAll limit .exact (call limit .exact buckets caller now).2 calls)
        rw [allowedIn_callAll_of_outside fun _ => .inr behind, none]
        exact_mod_cast add_nonneg fits.1 (worth _ running)
      · have rest := ih next (generous.fits_take fits) onward.call_self
          (by rwa [RateLimit.counted_take])
        rw [RateLimit.counted_take] at rest
        have most : (allowedIn caller a b ((caller, now) :: calls)
              (callAll limit .exact buckets ((caller, now) :: calls)) : Rat) ≤
            allowedIn caller a b calls
                (callAll limit .exact (call limit .exact buckets caller now).2 calls) +
              (limit.take .exact bucket now).1.toNat := by
          rcases lt_or_ge now a with early | inside
          · rw [allowedIn_callAll_of_outside fun _ => .inl early]
            exact le_add_of_nonneg_right (Nat.cast_nonneg _)
          · rw [allowedIn_callAll_of_inside inside before, start, Nat.cast_add]
        -- What the call takes was in the bucket or came back since its tokens were counted.
        have taken := limit.tokens_take bucket now
        have refill := limit.refilled_le_of_le (onward.counted_le known)
        linarith
    · -- The call of another client leaves the bucket alone and does not count.
      have kept : (call limit .exact buckets caller now).2.lookup client = some bucket :=
        (lookup_call_of_ne (Ne.symm own)).trans known
      rw [allowedIn_callAll_of_outside fun same => absurd same own]
      exact ih kept fits (onward.call_of_ne own) running

/-- In a window a client can take no more than a full bucket and what comes back until its end. -/
theorem allowedIn_callAll_le (generous : limit.Generous) (sound : Sound limit buckets client)
    (onward : Onward buckets client calls) (ordered : a ≤ b) :
    (allowedIn client a b calls (callAll limit .exact buckets calls) : Rat) ≤
      limit.capacity + (b - a) * (limit.perMinute / 60) := by
  have rate : 0 ≤ limit.perMinute / 60 := div_nonneg generous.rate (by norm_num)
  have worth : 0 ≤ limit.capacity + (b - a) * (limit.perMinute / 60) :=
    add_nonneg (zero_le_one.trans generous.room) (mul_nonneg (sub_nonneg.mpr ordered) rate)
  induction calls generalizing buckets with
  | nil => simpa [allowedIn] using worth
  | cons first calls ih =>
    obtain ⟨caller, now⟩ := first
    -- The calls of other clients and those before the window take nothing from the bound.
    by_cases own : caller = client
    · subst own
      by_cases inside : a ≤ now ∧ now ≤ b
      · -- The first call inside: its bucket holds at most the capacity.
        obtain ⟨early, late⟩ := inside
        have next := lookup_call_self limit .exact buckets caller now
        have rest := allowedIn_callAll_le_of_lookup (a := a) (b := b) generous next
          (generous.fits_take (sound.fits_held generous)) onward.call_self
          (by rwa [RateLimit.counted_take])
        rw [RateLimit.counted_take] at rest
        have taken := limit.tokens_take (held limit buckets caller now) now
        have full := limit.refilled_le_capacity (held limit buckets caller now) now
        have shorter : (b - now) * (limit.perMinute / 60) ≤ (b - a) * (limit.perMinute / 60) :=
          mul_le_mul_of_nonneg_right (by linarith) rate
        rw [allowedIn_callAll_of_inside early late, Nat.cast_add]
        linarith
      · rw [allowedIn_callAll_of_outside fun _ => ?_]
        · exact ih (sound.call generous) onward.call_self
        · rcases not_and_or.mp inside with early | late
          · exact .inl (not_le.mp early)
          · exact .inr (not_le.mp late)
    · rw [allowedIn_callAll_of_outside fun same => absurd same own]
      exact ih (sound.call generous) (onward.call_of_ne own)

/-- **The bound of a limit.** Whatever the rate, with no size of its own for a bucket or one that
has room for a token, and for a client whose clock never goes back: after any of the calls its
bucket holds at least nothing and at most the capacity, and in every window of time it gets at most
as many calls as the capacity and the tokens of the window come to. -/
theorem allowed_in_window (perMinute : Rat) (burst : Option Rat) (client : String)
    (calls : List (String × Rat)) (large : ∀ size ∈ burst, 1 ≤ size)
    (onward : ((callsOf client calls).map Prod.snd).Pairwise (· ≤ ·)) :
    let limit := RateLimit.make perMinute burst
    limit.capacity = burst.getD (max perMinute 1) ∧
    (∀ (n : Nat), ∀ bucket ∈ (after limit .exact [] (calls.take n)).lookup client,
      0 ≤ bucket.tokens ∧ bucket.tokens ≤ limit.capacity) ∧
    ∀ a b : Rat, a ≤ b →
      (allowedIn client a b calls (callAll limit .exact [] calls) : Rat) ≤
        limit.capacity + (b - a) * max perMinute 1 / 60 := by
  intro limit
  have generous : limit.Generous := RateLimit.generous_make perMinute large
  have sound : Sound limit [] client := by
    intro bucket known
    contradiction
  refine ⟨RateLimit.capacity_make perMinute large, fun n => ?_, fun a b ordered => ?_⟩
  · exact sound.after generous (calls.take n)
  · have bound := allowedIn_callAll_le (a := a) (b := b) generous sound onward ordered
    rwa [RateLimit.perMinute_make, ← mul_div_assoc] at bound

/-- Calls of two clients, of which the second one goes back in time. -/
def busyMinute : List (String × Rat) :=
  [("a", 0), ("b", 100), ("a", 0), ("a", 10), ("b", 0), ("a", 40), ("a", 41)]

/-- With two tokens in a minute and room for two, a client gets two calls at once and another one
when half a minute has passed. -/
theorem allowed_in_window_busyMinute :
    ((callsOf "a" busyMinute).map Prod.snd).Pairwise (· ≤ ·) ∧
      allowedIn "a" 0 40 busyMinute (callAll (.make 2 (some 2)) .exact [] busyMinute) = 3 ∧
        ((3 : Nat) : Rat) ≤ (RateLimit.make 2 (some 2)).capacity + (40 - 0) * max 2 1 / 60 := by
  have onward : ((callsOf "a" busyMinute).map Prod.snd).Pairwise (· ≤ ·) := by decide +kernel
  have count : allowedIn "a" 0 40 busyMinute (callAll (.make 2 (some 2)) .exact [] busyMinute) =
      3 := by decide +kernel
  obtain ⟨-, -, bound⟩ := allowed_in_window 2 (some 2) "a" busyMinute
    (by intro size given; obtain rfl := Option.some.inj given; norm_num) onward
  refine ⟨onward, count, ?_⟩
  rw [← count]
  exact bound 0 40 (by norm_num)

end Buckets

end SfcLint
