/-
# Numbers in size estimates

Where a script writes the size of an array as a number, the number is read only if it is not too
long. An estimate reads the number in the expression itself, or in the value of the variable that
the expression names.
-/

import SfcLint.Proofs.Text.Except
import SfcLint.Script.Size

namespace SfcLint.Script

variable {expression source digits t : Text}

/-- A number with more digits than are read. -/
def TooLong (digits : Text) : Prop := 4300 < digits.length

theorem fails_readNumeral_iff : (readNumeral digits).Fails ↔ TooLong digits := by
  rw [readNumeral, Except.fails_mapError_iff, Text.numeral, TooLong]
  split
  next long => exact iff_of_true Except.fails_error long
  next short => exact iff_of_false Except.not_fails_ok short

/-- The digits by which an expression that makes an array gives its length. -/
def arrayDigits? (expression : Text) : Option Text :=
  let t := Text.strip expression
  match wholeLiteralSize? t with
  | some _ => none
  | none => ((arrayFromLength.first? t).or (newArray.first? t)).map (·.group "size")

theorem fails_literalSize?_iff :
    (literalSize? expression).Fails ↔ ∃ digits ∈ arrayDigits? expression, TooLong digits := by
  rw [literalSize?, arrayDigits?]
  cases wholeLiteralSize? (Text.strip expression) with
  | some size => simp
  | none =>
    cases (arrayFromLength.first? (Text.strip expression)).or
      (newArray.first? (Text.strip expression)) with
    | none => simp
    | some hit =>
      have same : ((readNumeral (hit.group "size")).map some).Fails ↔
          (readNumeral (hit.group "size")).Fails := Except.fails_map_iff
      simp [same, fails_readNumeral_iff]

/-- The digits by which an expression, or the variable that it names, gives a size. -/
inductive ShowsDigits (expression t : Text) : Text → Prop
  | written {digits : Text} : arrayDigits? expression = some digits →
      ShowsDigits expression t digits
  | declared {digits value : Text} :
      literalSize? expression = .ok none → isIdentifier expression = true → t ≠ [] →
        declaredValue? (Text.strip expression) t = some value → value ≠ [] →
          arrayDigits? (unwrapped value) = some digits → ShowsDigits expression t digits

theorem fails_declaredSize?_iff {name : Text} :
    (declaredSize? name t).Fails ↔
      ∃ value digits, declaredValue? name t = some value ∧ value ≠ [] ∧
        arrayDigits? (unwrapped value) = some digits ∧ TooLong digits := by
  rw [declaredSize?]
  split
  next missing => simp [missing]
  next empty => simp [empty]
  next value some? found =>
    rw [fails_literalSize?_iff, found]
    constructor
    · rintro ⟨digits, said, long⟩
      exact ⟨value, digits, rfl, some?, said, long⟩
    · rintro ⟨value', digits, same, -, said, long⟩
      obtain rfl := Option.some.inj same
      exact ⟨digits, said, long⟩

theorem fails_shownSize?_iff :
    (shownSize? expression t).Fails ↔
      ∃ digits, ShowsDigits expression t digits ∧ TooLong digits := by
  rw [shownSize?, Except.fails_bind_iff, fails_literalSize?_iff]
  constructor
  · rintro (⟨digits, said, long⟩ | ⟨size, read, failed⟩)
    · exact ⟨digits, .written said, long⟩
    · cases size with
      | some size => exact absurd failed Except.not_fails_pure
      | none =>
        dsimp only at failed
        split at failed
        next named =>
          obtain ⟨value, digits, declared, some?, said, long⟩ := fails_declaredSize?_iff.mp failed
          exact ⟨digits, .declared read named.1 named.2 declared some? said, long⟩
        next => exact absurd failed Except.not_fails_pure
  · rintro ⟨digits, shows, long⟩
    cases shows with
    | written said => exact .inl ⟨digits, said, long⟩
    | declared read named code declared some? said =>
      refine .inr ⟨none, read, ?_⟩
      dsimp only
      rw [if_pos ⟨named, code⟩]
      exact fails_declaredSize?_iff.mpr ⟨_, digits, declared, some?, said, long⟩

/-- The digits that the estimate of a list reads: the source of the iteration is a number, or the
source shows one. -/
inductive ListDigits (source t : Text) : Text → Prop
  | number : Text.strip source ≠ [] → (Text.strip source).all Text.isDigit = true →
      ListDigits source t (Text.strip source)
  | shown {digits : Text} : ¬ (Text.strip source ≠ [] ∧ (Text.strip source).all Text.isDigit = true) →
      ShowsDigits (Text.strip source) t digits → ListDigits source t digits

theorem fails_listSize_iff :
    (listSize source t).Fails ↔ ∃ digits, ListDigits source t digits ∧ TooLong digits := by
  rw [listSize]
  dsimp only
  split
  next number =>
    rw [fails_readNumeral_iff]
    constructor
    · intro long
      exact ⟨_, .number number.1 number.2, long⟩
    · rintro ⟨digits, reads, long⟩
      cases reads with
      | number => exact long
      | shown other => exact absurd number other
  next other =>
    rw [Except.fails_bind_iff, fails_shownSize?_iff]
    constructor
    · rintro (⟨digits, shows, long⟩ | ⟨size, -, failed⟩)
      · exact ⟨digits, .shown other shows, long⟩
      · split at failed <;> exact absurd failed Except.not_fails_pure
    · rintro ⟨digits, reads, long⟩
      cases reads with
      | number some? all => exact absurd ⟨some?, all⟩ other
      | shown _ shows => exact .inl ⟨digits, shows, long⟩

theorem fails_dataSize_iff :
    (dataSize expression t).Fails ↔
      ∃ digits, ShowsDigits (Text.strip expression) t digits ∧ TooLong digits := by
  rw [dataSize]
  rw [Except.fails_bind_iff, fails_shownSize?_iff, or_iff_left]
  rintro ⟨size, -, failed⟩
  split at failed <;> exact absurd failed Except.not_fails_pure

theorem fails_watchedSize_iff :
    (watchedSize source t).Fails ↔
      ∃ digits, ShowsDigits (Text.strip source) t digits ∧ TooLong digits := by
  rw [watchedSize]
  rw [Except.fails_bind_iff, fails_shownSize?_iff, or_iff_left]
  rintro ⟨size, -, failed⟩
  split at failed <;> exact absurd failed Except.not_fails_pure

end SfcLint.Script
