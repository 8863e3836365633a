/-
# Small letters

No partner of a letter in the tables has a partner in turn, and a capital sigma is the only
character whose small form depends on its neighbours. So a text in small letters stays as it is when
it is written in small letters again, and the texts that a text in small letters can come from are
those that are the same but for case.

What has no case is its own small form, and a sign of the seven-bit range is the small form of
nothing else. A word of seven-bit letters is met letter by letter, unless it has a `k`, which is
also the small form of the kelvin sign.
-/

import SfcLint.Text.Case

namespace SfcLint

namespace Text

/-- The character is its own lower-case form. -/
def IsSmall (c : Char) : Prop := lowerChar c = [c]

instance : DecidablePred IsSmall := fun _ => inferInstanceAs (Decidable (_ = _))

/-- A character of the seven-bit range that is no letter. -/
def IsSign (c : Char) : Prop := c.toNat < 128 ∧ c.isAlpha = false

instance : DecidablePred IsSign := fun _ => inferInstanceAs (Decidable (_ ∧ _))

/-- The two texts agree in small letters. -/
def SameButCase (s t : Text) : Prop := s.lower = t.lower

instance (s t : Text) : Decidable (s.SameButCase t) := inferInstanceAs (Decidable (_ = _))

/-! ## Tables -/

namespace CaseRun

/-- The partner of the first code point. -/
def leastPartner (run : CaseRun) : Nat := (run.first + run.shift).toNat

/-- The partner of the last code point. -/
def greatestPartner (run : CaseRun) : Nat := (run.last + run.shift).toNat

/-- A test that no partner of the run belongs to the other run: they lie before it, behind it, or
between its code points. -/
def avoids (run other : CaseRun) : Bool :=
  Nat.blt run.greatestPartner other.first || Nat.blt other.last run.leastPartner ||
    (run.first == run.last || run.stride == 2) && other.stride == 2 &&
      (run.leastPartner + other.first) % 2 == 1

/-- The partners of the run are characters above the seven-bit range without a lower-case partner
of their own. -/
structure Final (run : CaseRun) : Prop where
  above : 128 ≤ run.leastPartner
  valid : run.greatestPartner < 0xd800 ∨
    0xdfff < run.leastPartner ∧ run.greatestPartner < 0x110000
  long : ∀ entry ∈ lowerLong, run.greatestPartner < entry.1 ∨ entry.1 < run.leastPartner
  runs : lowerRuns.all run.avoids = true

instance (run : CaseRun) : Decidable run.Final :=
  decidable_of_iff (128 ≤ run.leastPartner ∧
      (run.greatestPartner < 0xd800 ∨
        0xdfff < run.leastPartner ∧ run.greatestPartner < 0x110000) ∧
      (∀ entry ∈ lowerLong, run.greatestPartner < entry.1 ∨ entry.1 < run.leastPartner) ∧
      lowerRuns.all run.avoids = true)
    ⟨fun ⟨above, valid, long, runs⟩ => ⟨above, valid, long, runs⟩,
      fun ⟨above, valid, long, runs⟩ => ⟨above, valid, long, runs⟩⟩

/-- All runs of the table are final but that of the kelvin sign, which leads to a `k`. -/
theorem final_of_mem_lowerRuns : ∀ run ∈ lowerRuns,
    run.Final ∨ run.first = 0x212a ∧ run.last = 0x212a ∧ run.shift = -8383 := by
  decide +kernel

variable {run other : CaseRun} {code partner : Nat}

theorem partner?_eq_some_iff : run.partner? code = some partner ↔
    (run.first ≤ code ∧ code ≤ run.last ∧ (code - run.first) % run.stride = 0) ∧
      (code + run.shift).toNat = partner := by
  rw [partner?, Option.ite_none_right_eq_some, Option.some_inj]

theorem partner?_between (above : 128 ≤ run.leastPartner)
    (leads : run.partner? code = some partner) :
    run.leastPartner ≤ partner ∧ partner ≤ run.greatestPartner := by
  obtain ⟨⟨least, most, -⟩, rfl⟩ := partner?_eq_some_iff.mp leads
  rw [leastPartner] at above ⊢
  rw [greatestPartner]
  omega

theorem partner?_eq_none_of_avoids (avoids : run.avoids other = true)
    (above : 128 ≤ run.leastPartner) (leads : run.partner? code = some partner) :
    other.partner? partner = none := by
  obtain ⟨low, high⟩ := partner?_between above leads
  rw [Option.eq_none_iff_forall_ne_some]
  intro next again
  obtain ⟨⟨least', most', step'⟩, -⟩ := partner?_eq_some_iff.mp again
  simp only [CaseRun.avoids, Bool.or_eq_true, Bool.and_eq_true, Nat.blt_eq, beq_iff_eq] at avoids
  rcases avoids with (before | behind) | ⟨⟨single | spaced, spaced'⟩, between⟩
  · omega
  · omega
  -- The code points of the other run lie two apart, and the partner is an odd step from them.
  · rw [spaced'] at step'
    rw [leastPartner] at low between
    rw [greatestPartner, ← single] at high
    omega
  · obtain ⟨⟨least, most, step⟩, rfl⟩ := partner?_eq_some_iff.mp leads
    rw [spaced] at step
    rw [spaced'] at step'
    rw [leastPartner] at above between
    omega

end CaseRun

variable {c d : Char} {s t form : Text}

theorem toNat_ofNat {code : Nat} (valid : code.isValidChar) : (Char.ofNat code).toNat = code := by
  rw [Char.ofNat, dif_pos valid]
  rfl

theorem partner_eq_self {long : List (Nat × List Nat)} {runs : List CaseRun}
    (short : long.lookup c.toNat = none) (alone : ∀ run ∈ runs, run.partner? c.toNat = none) :
    partner long runs c = [c] := by
  rw [partner, short, List.findSome?_eq_none_iff.mpr alone]
  simp

theorem CaseRun.Final.isSmall {run : CaseRun} (final : run.Final) {code partner : Nat}
    (leads : run.partner? code = some partner) :
    128 ≤ (Char.ofNat partner).toNat ∧ IsSmall (Char.ofNat partner) := by
  have above := final.above
  obtain ⟨low, high⟩ := partner?_between above leads
  have valid : partner.isValidChar := by
    rcases final.valid with low | high
    · exact .inl (by omega)
    · exact .inr (by omega)
  rw [IsSmall, lowerChar, toNat_ofNat valid, if_neg (by omega)]
  refine ⟨by omega, partner_eq_self ?_ ?_⟩
  · rw [toNat_ofNat valid, List.lookup_eq_none_iff]
    intro entry listed
    have apart := final.long entry listed
    rw [bne_iff_ne]
    omega
  · intro other listed
    rw [toNat_ofNat valid]
    exact partner?_eq_none_of_avoids (List.all_eq_true.mp final.runs other listed) above leads

/-! ## Forms of a character -/

/-- What can be written for a character in small letters: a seven-bit character has the small form
of its letter, the kelvin sign a `k`, a capital `i` with a dot the letter and the dot, and any other
character one that stays. -/
inductive LowerForm : Char → Text → Prop
  | sevenBit {c : Char} (below : c.toNat < 128) : LowerForm c [c.toLower]
  | kelvin : LowerForm '\u212a' ['k']
  | dotted : LowerForm '\u0130' ['i', '\u0307']
  | above {c d : Char} (start : 128 ≤ c.toNat) (stop : 128 ≤ d.toNat) (small : IsSmall d) :
      LowerForm c [d]

theorem lowerForm_lowerChar (c : Char) : LowerForm c (lowerChar c) := by
  by_cases below : c.toNat < 128
  · rw [lowerChar, if_pos below]
    exact .sevenBit below
  have start : 128 ≤ c.toNat := Nat.le_of_not_lt below
  cases found : lowerLong.lookup c.toNat with
  | some codes =>
    -- The table has one entry.
    obtain ⟨before, after, split, -⟩ := List.lookup_eq_some_iff.mp found
    have listed : (c.toNat, codes) ∈ lowerLong := by simp [split]
    obtain ⟨code, rfl⟩ := Prod.mk.inj (List.mem_singleton.mp listed)
    obtain rfl : '\u0130' = c := (congrArg Char.ofNat code).symm.trans (Char.ofNat_toNat c)
    exact .dotted
  | none =>
    cases led : lowerRuns.findSome? (·.partner? c.toNat) with
    | none =>
      have stays : IsSmall c := by
        rw [IsSmall, lowerChar, if_neg below]
        exact partner_eq_self found (List.findSome?_eq_none_iff.mp led)
      rw [show lowerChar c = [c] from stays]
      exact .above start start stays
    | some code =>
      have written : lowerChar c = [Char.ofNat code] := by
        rw [lowerChar, if_neg below, partner, found, led]
        rfl
      rw [written]
      obtain ⟨run, listed, leads⟩ := List.exists_of_findSome?_eq_some led
      rcases CaseRun.final_of_mem_lowerRuns run listed with final | ⟨first, last, shift⟩
      · obtain ⟨stop, small⟩ := final.isSmall leads
        exact .above start stop small
      · -- The run has this one character.
        obtain ⟨⟨least, most, -⟩, rfl⟩ := CaseRun.partner?_eq_some_iff.mp leads
        have kelvin : c.toNat = 0x212a := by omega
        obtain rfl : '\u212a' = c := (congrArg Char.ofNat kelvin).symm.trans (Char.ofNat_toNat c)
        rw [shift]
        exact .kelvin

/-- What holds of every seven-bit character can be checked one by one. -/
theorem of_sevenBit {P : Char → Prop} (checked : ∀ code < 128, P (Char.ofNat code))
    (below : c.toNat < 128) : P c := by
  have holds := checked c.toNat below
  rwa [Char.ofNat_toNat] at holds

theorem isSmall_toLower (below : c.toNat < 128) : IsSmall c.toLower :=
  of_sevenBit (P := fun c => IsSmall c.toLower) (by decide) below

theorem toNat_toLower_lt (below : c.toNat < 128) : c.toLower.toNat < 128 :=
  of_sevenBit (P := fun c => c.toLower.toNat < 128) (by decide) below

theorem isAlpha_toLower (below : c.toNat < 128) : c.toLower.isAlpha = c.isAlpha :=
  of_sevenBit (P := fun c => c.toLower.isAlpha = c.isAlpha) (by decide) below

theorem IsSign.toLower_eq (sign : IsSign c) : c.toLower = c :=
  of_sevenBit (P := fun c => c.isAlpha = false → c.toLower = c) (by decide) sign.1 sign.2

theorem toLower_eq_self_of_above (above : 128 ≤ c.toNat) : c.toLower = c := by
  have small : ¬ (c.val ≥ 'A'.val ∧ c.val ≤ 'Z'.val) := by
    rw [ge_iff_le, UInt32.le_iff_toNat_le, UInt32.le_iff_toNat_le]
    change ¬ (65 ≤ c.toNat ∧ c.toNat ≤ 90)
    omega
  exact dif_neg small

theorem IsSign.isSmall (sign : IsSign c) : IsSmall c :=
  sign.toLower_eq ▸ isSmall_toLower sign.1

theorem not_isSmall_sigma : ¬ IsSmall 'Σ' := by decide +kernel

namespace LowerForm

theorem ne_nil (written : LowerForm c form) : form ≠ [] := by
  cases written <;> exact List.cons_ne_nil _ _

theorem isSmall (written : LowerForm c form) : ∀ d ∈ form, IsSmall d := by
  cases written with
  | sevenBit below => exact List.forall_mem_singleton.mpr (isSmall_toLower below)
  | kelvin => exact List.forall_mem_singleton.mpr (by decide)
  | dotted =>
    exact List.forall_mem_cons.mpr ⟨by decide, List.forall_mem_singleton.mpr (by decide +kernel)⟩
  | above start stop small => exact List.forall_mem_singleton.mpr small

/-- A sign is written for no other character. -/
theorem eq_of_isSign (written : LowerForm c form) (member : d ∈ form) (sign : IsSign d) :
    c = d ∧ form = [d] := by
  cases written with
  | sevenBit below =>
    obtain rfl := List.mem_singleton.mp member
    have own : IsSign c := ⟨below, (isAlpha_toLower below).symm.trans sign.2⟩
    exact ⟨own.toLower_eq.symm, rfl⟩
  | kelvin =>
    rw [List.mem_singleton.mp member] at sign
    exact absurd sign (by decide)
  | dotted =>
    rcases List.mem_cons.mp member with rfl | last
    · exact absurd sign (by decide)
    · rw [List.mem_singleton.mp last] at sign
      exact absurd sign (by decide)
  | above start stop small =>
    rw [List.mem_singleton.mp member] at sign
    exact absurd sign.1 (Nat.not_lt_of_le stop)

theorem eq_singleton_of_isSign (written : LowerForm c form) (sign : IsSign c) : form = [c] := by
  cases written with
  | sevenBit below => rw [sign.toLower_eq]
  | kelvin => exact absurd sign (by decide)
  | dotted => exact absurd sign (by decide)
  | above start stop small => exact absurd sign.1 (Nat.not_lt_of_le start)

/-- Seven-bit letters are written for themselves and their capitals alone, but for the `k`. -/
theorem below (written : LowerForm c form) (plain : ∀ d ∈ form, d.toNat < 128 ∧ d ≠ 'k') :
    c.toNat < 128 := by
  cases written with
  | sevenBit below => exact below
  | kelvin => exact absurd rfl (plain 'k' List.mem_cons_self).2
  | dotted => exact absurd (plain '\u0307' (by decide)).1 (by decide)
  | @above c d start stop small =>
    exact absurd (plain d List.mem_cons_self).1 (Nat.not_lt_of_le stop)

end LowerForm

/-! ## Texts -/

theorem exists_lowerForm (before : Text) (c : Char) (t : Text) : ∃ form, LowerForm c form ∧
    lowerAfter before (c :: t) = form ++ lowerAfter (c :: before) t := by
  rw [lowerAfter]
  split
  next sigma =>
    -- Both small forms of a capital sigma stay as they are.
    subst sigma
    split
    · exact ⟨['ς'], .above (by decide) (by decide) (by decide +kernel), rfl⟩
    · exact ⟨['σ'], .above (by decide) (by decide) (by decide +kernel), rfl⟩
  next => exact ⟨lowerChar c, lowerForm_lowerChar c, rfl⟩

theorem isSmall_of_mem_lowerAfter (before t : Text) : ∀ d ∈ lowerAfter before t, IsSmall d := by
  induction t generalizing before with
  | nil => exact List.forall_mem_nil _
  | cons c t ih =>
    obtain ⟨form, written, split⟩ := exists_lowerForm before c t
    rw [split]
    exact List.forall_mem_append.mpr ⟨written.isSmall, ih _⟩

/-- The rule for a capital sigma never applies to small characters. -/
theorem lowerAfter_eq_self (small : ∀ c ∈ t, IsSmall c) (before : Text) :
    lowerAfter before t = t := by
  induction t generalizing before with
  | nil => rfl
  | cons c t ih =>
    rw [List.forall_mem_cons] at small
    have noSigma : c ≠ 'Σ' := fun sigma => not_isSmall_sigma (sigma ▸ small.1)
    rw [lowerAfter, if_neg noSigma, ih small.2, show lowerChar c = [c] from small.1]
    rfl

theorem lower_eq_self_iff : t.lower = t ↔ ∀ c ∈ t, IsSmall c :=
  ⟨fun stays => stays ▸ isSmall_of_mem_lowerAfter [] t, fun small => lowerAfter_eq_self small []⟩

@[simp]
theorem lower_lower (t : Text) : t.lower.lower = t.lower :=
  lower_eq_self_iff.mpr (isSmall_of_mem_lowerAfter [] t)

/-- A text in small letters is `t` exactly if `t` is in small letters and the two texts are the same
but for case. -/
theorem lower_eq_iff : s.lower = t ↔ t.lower = t ∧ s.SameButCase t := by
  constructor
  · rintro rfl
    exact ⟨lower_lower s, (lower_lower s).symm⟩
  · rintro ⟨small, same⟩
    exact same.trans small

/-! ## Signs -/

theorem mem_lower_iff (sign : IsSign d) : d ∈ s.lower ↔ d ∈ s := by
  suffices after : ∀ before, d ∈ lowerAfter before s ↔ d ∈ s from after []
  induction s with
  | nil => exact fun _ => Iff.rfl
  | cons c s ih =>
    intro before
    obtain ⟨form, written, split⟩ := exists_lowerForm before c s
    have here : d ∈ form ↔ d = c := by
      constructor
      · exact fun member => (written.eq_of_isSign member sign).1.symm
      · rintro rfl
        rw [written.eq_singleton_of_isSign sign]
        exact List.mem_singleton_self d
    rw [split, List.mem_append, List.mem_cons, here, ih]

theorem head?_lower_iff (sign : IsSign d) : s.lower.head? = some d ↔ s.head? = some d := by
  cases s with
  | nil => exact Iff.rfl
  | cons c s =>
    obtain ⟨form, written, split⟩ := exists_lowerForm [] c s
    obtain ⟨first, more, rfl⟩ := List.exists_cons_of_ne_nil written.ne_nil
    rw [lower, split, List.cons_append, List.head?_cons, List.head?_cons, Option.some_inj,
      Option.some_inj]
    constructor
    · rintro rfl
      exact (written.eq_of_isSign List.mem_cons_self sign).1
    · rintro rfl
      exact (List.cons.inj (written.eq_singleton_of_isSign sign)).1

/-- A text of signs alone is the small form of nothing else. -/
theorem lower_eq_iff_of_signs (signs : ∀ d ∈ t, IsSign d) : s.lower = t ↔ s = t := by
  have stays (before : Text) (signs : ∀ d ∈ lowerAfter before s, IsSign d) :
      lowerAfter before s = s := by
    induction s generalizing before with
    | nil => rfl
    | cons c s ih =>
      obtain ⟨form, written, split⟩ := exists_lowerForm before c s
      rw [split, List.forall_mem_append] at signs
      -- What is written for the first character holds a sign, so it is this character alone.
      obtain ⟨d, member⟩ := List.exists_mem_of_ne_nil form written.ne_nil
      obtain ⟨rfl, rfl⟩ := written.eq_of_isSign member (signs.1 d member)
      rw [split, ih _ signs.2]
      rfl
  constructor
  · rintro rfl
    exact (stays [] signs).symm
  · rintro rfl
    exact lowerAfter_eq_self (fun d member => (signs d member).isSmall) []

/-! ## Seven-bit texts -/

theorem lowerAfter_of_sevenBit (below : ∀ c ∈ t, c.toNat < 128) (before : Text) :
    lowerAfter before t = t.map Char.toLower := by
  induction t generalizing before with
  | nil => rfl
  | cons c t ih =>
    rw [List.forall_mem_cons] at below
    have noSigma : c ≠ 'Σ' := by
      rintro rfl
      exact absurd below.1 (by decide)
    rw [lowerAfter, if_neg noSigma, lowerChar, if_pos below.1, ih below.2]
    rfl

theorem sevenBit_of_lowerAfter (before : Text)
    (plain : ∀ d ∈ lowerAfter before s, d.toNat < 128 ∧ d ≠ 'k') : ∀ c ∈ s, c.toNat < 128 := by
  induction s generalizing before with
  | nil => exact List.forall_mem_nil _
  | cons c s ih =>
    obtain ⟨form, written, split⟩ := exists_lowerForm before c s
    rw [split, List.forall_mem_append] at plain
    exact List.forall_mem_cons.mpr ⟨written.below plain.1, ih _ plain.2⟩

/-- The texts that are the same but for case as a seven-bit text without a `k` are its spellings
with small and capital letters, one for one. -/
theorem sameButCase_iff_map_toLower (plain : ∀ d ∈ t, d.toNat < 128 ∧ d.toLower ≠ 'k') :
    s.SameButCase t ↔ s.map Char.toLower = t.map Char.toLower := by
  have small : t.lower = t.map Char.toLower :=
    lowerAfter_of_sevenBit (fun d member => (plain d member).1) []
  have images : ∀ d ∈ t.map Char.toLower, d.toNat < 128 ∧ d ≠ 'k' := by
    intro image listed
    obtain ⟨d, member, rfl⟩ := List.mem_map.mp listed
    exact ⟨toNat_toLower_lt (plain d member).1, (plain d member).2⟩
  rw [SameButCase, small]
  constructor
  · intro same
    have below := sevenBit_of_lowerAfter [] (s := s) (by rwa [← same] at images)
    exact (lowerAfter_of_sevenBit below []).symm.trans same
  · intro same
    -- A character above the seven-bit range would stay as it is and be found among the letters.
    refine (lowerAfter_of_sevenBit (fun c member => ?_) []).trans same
    have image := images c.toLower (same ▸ List.mem_map_of_mem member)
    rcases Nat.lt_or_ge c.toNat 128 with below | above
    · exact below
    · rw [toLower_eq_self_of_above above] at image
      exact image.1

end Text

end SfcLint
