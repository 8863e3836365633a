/-
# Clients do not disturb each other

A call reads the bucket of its own client and replaces that bucket alone, and a client without a
bucket is taken to have a full one. So what a client is told, and the tokens that it is left with,
come from its own calls: in any mixture of calls of many clients they are what the calls of this
client come to when nobody else calls.
-/

import SfcLint.Service.RateLimit

namespace SfcLint.Buckets

variable {limit : RateLimit} {round : Rounding} {buckets : Buckets} {client other : String}
  {bucket : Bucket} {now : Rat}

/-! ## One call -/

@[simp] theorem lookup_put_self (client : String) (bucket : Bucket) (buckets : Buckets) :
    (put client bucket buckets).lookup client = some bucket := by
  induction buckets with
  | nil => simp [put]
  | cons entry rest ih =>
    obtain ⟨holder, kept⟩ := entry
    rw [put]
    split
    · exact List.lookup_cons_self
    next different =>
      rw [List.lookup_cons, beq_false_of_ne (Ne.symm different)]
      exact ih

theorem lookup_put_of_ne (different : other ≠ client) :
    (put client bucket buckets).lookup other = buckets.lookup other := by
  induction buckets with
  | nil => simp [put, List.lookup_cons, beq_false_of_ne different]
  | cons entry rest ih =>
    obtain ⟨holder, kept⟩ := entry
    rw [put]
    split
    next same =>
      rw [same, List.lookup_cons, List.lookup_cons, beq_false_of_ne different]
    · rw [List.lookup_cons, List.lookup_cons, ih]

/-- A call leaves the buckets of all other clients as they are. -/
theorem lookup_call_of_ne (different : other ≠ client) :
    (call limit round buckets client now).2.lookup other = buckets.lookup other :=
  lookup_put_of_ne different

/-- A call sees nothing but the bucket of its client. -/
theorem call_congr (limit : RateLimit) (round : Rounding) (now : Rat) {others : Buckets}
    (agree : others.lookup client = buckets.lookup client) :
    (call limit round others client now).1 = (call limit round buckets client now).1 ∧
      (call limit round others client now).2.lookup client =
        (call limit round buckets client now).2.lookup client := by
  simp only [call, agree, lookup_put_self, and_self]

/-! ## Mixtures of calls -/

/-- What a client is told in the course of some calls, given what comes of each. -/
def toldTo (client : String) (calls : List (String × Rat)) (outcomes : List (Bool × Rat)) :
    List (Bool × Rat) :=
  ((calls.zip outcomes).filter fun (call, _) => call.1 = client).map fun (_, outcome) => outcome

/-- The calls of one client, with their times. -/
def callsOf (client : String) (calls : List (String × Rat)) : List (String × Rat) :=
  calls.filter fun call => call.1 = client

theorem length_callAll (buckets : Buckets) (calls : List (String × Rat)) :
    (callAll limit round buckets calls).length = calls.length := by
  induction calls generalizing buckets with
  | nil => rfl
  | cons call calls ih => exact congrArg (· + 1) (ih _)

/-- Where some buckets agree on a client, the calls of others make no difference to it. -/
theorem toldTo_callAll {alone : Buckets} (agree : buckets.lookup client = alone.lookup client)
    (calls : List (String × Rat)) :
    toldTo client calls (callAll limit round buckets calls) =
      callAll limit round alone (callsOf client calls) := by
  induction calls generalizing buckets alone with
  | nil => rfl
  | cons first calls ih =>
    obtain ⟨caller, now⟩ := first
    rw [callAll, toldTo, List.zip_cons_cons, callsOf, List.filter_cons, List.filter_cons]
    by_cases own : caller = client
    · -- The client itself calls: it is told the same, and its buckets still agree.
      subst own
      obtain ⟨told, left⟩ := call_congr limit round now agree
      rw [if_pos (decide_eq_true rfl), if_pos (decide_eq_true rfl), List.map_cons, callAll]
      exact List.cons_eq_cons.mpr ⟨told, ih left⟩
    · -- Somebody else calls, and the bucket of the client is not touched.
      rw [if_neg (by simpa using own), if_neg (by simpa using own)]
      exact ih ((lookup_call_of_ne (Ne.symm own)).trans agree)

/-- In every mixture of calls under a limit, a client is told what it is told when its own calls are
all there are, at the same times, and is left with the same tokens; so two mixtures in which it
makes the same calls are one to it. Every call has an outcome. -/
theorem toldTo_of_mixture (perMinute : Rat) (burst : Option Rat) (round : Rounding)
    (calls : List (String × Rat)) (client : String) :
    let limit := RateLimit.make perMinute burst
    (callAll limit round [] calls).length = calls.length ∧
    toldTo client calls (callAll limit round [] calls) =
      callAll limit round [] (callsOf client calls) ∧
    ∀ mixture : List (String × Rat), callsOf client mixture = callsOf client calls →
      toldTo client mixture (callAll limit round [] mixture) =
        toldTo client calls (callAll limit round [] calls) := by
  intro limit
  refine ⟨length_callAll [] calls, toldTo_callAll rfl calls, fun mixture same => ?_⟩
  rw [toldTo_callAll rfl mixture, toldTo_callAll rfl calls, same]

end SfcLint.Buckets
