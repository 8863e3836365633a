/-
# Members of objects

Setting a member leaves all others as they were, so the names of members that are set one after the
other are distinct. The reader makes every object in that way. In a value that was read no object
has two members of one name, however deep it lies.

Values are looked at along paths, which are rows of names that lead from object to object. Laid
over another value, a value has at every path what it had before, but where a path leads out of one
of its objects, because the object has no such member, there is what the lower value has there. So
the two say the same as the upper one alone exactly when the lower one has nothing on such paths.
-/

import SfcLint.Json.Value
import SfcLint.Json.Reader
import SfcLint.Proofs.Text.Except

namespace SfcLint.Json

variable {α : Type} {key name : String} {value : α} {members : List (String × α)}

/-! ## Setting members -/

theorem names_upsert (key : String) (value : α) (members : List (String × α)) :
    (upsert key value members).map (·.1) =
      if key ∈ members.map (·.1) then members.map (·.1) else members.map (·.1) ++ [key] := by
  induction members with
  | nil => rfl
  | cons member rest ih =>
    obtain ⟨name, kept⟩ := member
    rw [upsert]
    by_cases same : name = key
    · simp [same]
    · rw [if_neg same, List.map_cons, ih]
      split
      next known => simp [known]
      next fresh => simp [fresh, Ne.symm same]

theorem lookup_upsert (key name : String) (value : α) (members : List (String × α)) :
    (upsert key value members).lookup name =
      if name = key then some value else members.lookup name := by
  induction members with
  | nil => grind [upsert]
  | cons member rest ih =>
    obtain ⟨other, kept⟩ := member
    rw [upsert]
    grind

theorem nodup_upsert (once : (members.map (·.1)).Nodup) :
    ((upsert key value members).map (·.1)).Nodup := by
  rw [names_upsert]
  split
  next known => exact once
  next fresh => exact List.nodup_append.mpr ⟨once, by simp, by grind⟩

/-- A member was there before, or it has the value that is set. -/
theorem mem_upsert {member : String × α} (held : member ∈ upsert key value members) :
    member ∈ members ∨ member.2 = value := by
  induction members with
  | nil =>
    obtain rfl := List.mem_singleton.mp held
    exact .inr rfl
  | cons first rest ih =>
    obtain ⟨other, kept⟩ := first
    rw [upsert] at held
    grind

theorem nodup_upsertAll (members : List (String × α)) : ((upsertAll members).map (·.1)).Nodup := by
  rw [upsertAll]
  apply List.foldlRecOn members (motive := fun done : List (String × α) => (done.map (·.1)).Nodup)
  · exact List.nodup_nil
  · exact fun _ once _ _ => nodup_upsert once

theorem exists_of_mem_upsertAll {member : String × α} (held : member ∈ upsertAll members) :
    ∃ given ∈ members, given.2 = member.2 := by
  refine List.foldlRecOn members _
    (motive := fun done => ∀ member ∈ done, ∃ given ∈ members, given.2 = member.2)
    (by simp) ?_ member held
  intro done known given giving member held
  rcases mem_upsert held with before | same
  · exact known member before
  · exact ⟨given, giving, same.symm⟩

theorem mem_of_lookup (found : members.lookup name = some value) : (name, value) ∈ members := by
  obtain ⟨before, after, rfl, -⟩ := List.lookup_eq_some_iff.mp found
  simp

theorem lookup_eq_none (absent : name ∉ members.map (·.1)) : members.lookup name = none := by
  rw [List.lookup_eq_none_iff]
  intro member held
  refine bne_iff_ne.mpr ?_
  rintro rfl
  exact absent (List.mem_map_of_mem held)

/-! ## Values that are read -/

/-- No object in the value has two members of one name. -/
inductive Proper : Json → Prop
  | plain {value : Json} (plain : ∀ members, value ≠ object members) : Proper value
  | object {members : List (String × Json)} (once : (members.map (·.1)).Nodup)
      (inner : ∀ member ∈ members, member.2.Proper) : Proper (object members)

namespace Proper

variable {members : List (String × Json)} {value : Json}

theorem once (proper : (Json.object members).Proper) : (members.map (·.1)).Nodup := by
  cases proper with
  | plain plain => exact absurd rfl (plain members)
  | object once _ => exact once

theorem inner (proper : (Json.object members).Proper) {member : String × Json}
    (held : member ∈ members) : member.2.Proper := by
  cases proper with
  | plain plain => exact absurd rfl (plain members)
  | object _ inner => exact inner member held

theorem of_upsertAll (inner : ∀ member ∈ members, member.2.Proper) :
    (Json.object (upsertAll members)).Proper := by
  refine .object (nodup_upsertAll members) fun member held => ?_
  obtain ⟨given, giving, same⟩ := exists_of_mem_upsertAll held
  exact same ▸ inner given giving

end Proper

theorem proper_of_readScalar {t rest : Text} {value : Json}
    (done : readScalar t = .ok (value, rest)) : value.Proper := by
  refine .plain fun members same => ?_
  subst same
  rw [readScalar] at done
  split at done
  next found hit =>
    obtain rfl := Except.ok.inj done
    obtain ⟨word, listed, dropped⟩ := List.exists_of_findSome?_eq_some hit
    obtain ⟨after, -, same⟩ := Option.map_eq_some_iff.mp dropped
    -- None of the words stands for an object.
    simp only [words, List.mem_cons, List.not_mem_nil, or_false] at listed
    rcases listed with rfl | rfl | rfl | rfl | rfl | rfl <;> cases same
  next =>
    split at done
    next found hit =>
      obtain rfl := Except.ok.inj done
      simp only [readNumber?] at hit
      grind
    next => contradiction

/-- What was read before at a place is without doubled names. -/
inductive Expectation.Sound : Expectation → Prop
  | value : Sound .value
  | items (done : List Json) : Sound (.items done)
  | members {done : List (String × Json)} (inner : ∀ member ∈ done, member.2.Proper) :
      Sound (.members done)

/-- The induction is on the bound. What the reader has of an object goes on from member to
member. -/
theorem proper_of_readPart {fuel : Nat} {expected : Expectation} {t rest : Text} {value : Json}
    (sound : expected.Sound) (done : readPart fuel expected t = .ok (value, rest)) :
    value.Proper := by
  induction fuel generalizing expected t rest value with
  | zero => simp [readPart] at done
  | succ fuel ih =>
    cases expected with
    | value =>
      unfold readPart at done
      split at done
      next =>
        obtain ⟨⟨text, after⟩, -, read⟩ := Except.bind_eq_ok_iff.mp done
        cases read
        exact .plain nofun
      next =>
        split at done
        next =>
          cases done
          exact .plain nofun
        next => exact ih (.items []) done
      next =>
        split at done
        next =>
          cases done
          exact .object List.nodup_nil nofun
        next => exact ih (.members (by simp)) done
      next => exact proper_of_readScalar done
    | items before =>
      obtain ⟨⟨item, after⟩, -, done⟩ := Except.bind_eq_ok_iff.mp done
      dsimp only at done
      split at done
      next =>
        cases done
        exact .plain nofun
      next => exact ih (.items _) done
      next => contradiction
    | members before =>
      unfold readPart at done
      split at done
      next =>
        obtain ⟨⟨key, after⟩, -, done⟩ := Except.bind_eq_ok_iff.mp done
        dsimp only at done
        split at done
        next =>
          -- The value of the member is read first, and then it joins those before it.
          obtain ⟨⟨member, after⟩, read, done⟩ := Except.bind_eq_ok_iff.mp done
          obtain ⟨⟩ | ⟨⟩ | ⟨inner⟩ := sound
          have inner : ∀ entry ∈ (String.ofList key, member) :: before, entry.2.Proper :=
            List.forall_mem_cons.mpr ⟨ih .value read, inner⟩
          dsimp only at done
          split at done
          next =>
            cases done
            exact .of_upsertAll fun member held => inner member (List.mem_reverse.mp held)
          next => exact ih (.members inner) done
          next => contradiction
        next => contradiction
      next => contradiction

theorem proper_of_read {t : Text} {value : Json} (done : read t = .ok value) : value.Proper := by
  rw [read] at done
  split at done
  next => contradiction
  next =>
    split at done
    next => contradiction
    next value rest part =>
      split at done
      next =>
        obtain rfl := Except.ok.inj done
        exact proper_of_readPart .value part
      next => contradiction

/-! ## A value over another one -/

/-- What is found at the end of a path. -/
inductive Spot
  | empty
  | object
  | plain (value : Json)

/-- What a value has at the end of a path. Of an object only that it is one. -/
def spot : List String → Json → Spot
  | [], object _ => .object
  | [], value => .plain value
  | name :: path, value =>
      match value.get? name with
      | some inner => inner.spot path
      | none => .empty

/-- The path leads to an object that has no member for the next name. -/
def lacks : List String → Json → Bool
  | name :: path, object members =>
      match members.lookup name with
      | some inner => inner.lacks path
      | none => true
  | _, _ => false

/-- Two values are the same but for the order of members. -/
def Alike (value other : Json) : Prop := ∀ path, value.spot path = other.spot path

variable {lower upper : Json} {path : List String}

theorem spot_cons (value : Json) (name : String) (path : List String) :
    value.spot (name :: path) = ((value.get? name).map (spot path)).getD .empty := by
  rw [spot]
  cases value.get? name <;> rfl

theorem spot_nil_ne_empty (value : Json) : value.spot [] ≠ .empty := by
  cases value <;> nofun

theorem spot_of_lacks (lacking : upper.lacks path) : upper.spot path = .empty := by
  induction path generalizing upper with
  | nil => simp [lacks] at lacking
  | cons name path ih =>
    cases upper with
    | object members =>
      rw [lacks] at lacking
      rw [spot_cons, get?]
      cases found : members.lookup name with
      | none => rfl
      | some inner => exact ih (by simpa [found] using lacking)
    | _ => simp [lacks] at lacking

/-- A path that something lacks has a first name. -/
theorem spot_null (lacking : upper.lacks path) : null.spot path = .empty := by
  cases path with
  | nil => simp [lacks] at lacking
  | cons name path => rfl

theorem coveredBy_of_ne_object (plain : ∀ members, upper ≠ object members) (lower : Json) :
    lower.coveredBy upper = upper := by
  cases upper with
  | object members => exact absurd rfl (plain members)
  | _ =>
    rw [coveredBy]
    exact plain

theorem exists_object_coveredBy (lower : Json) (members : List (String × Json)) :
    ∃ covered, lower.coveredBy (object members) = object covered := by
  cases lower <;> simp [coveredBy]

@[simp]
theorem null_coveredBy (upper : Json) : null.coveredBy upper = upper := by
  cases upper <;> simp [coveredBy]

theorem membersCoveredBy_cons (below members : List (String × Json)) (key : String) (value : Json) :
    membersCoveredBy below ((key, value) :: members) =
      membersCoveredBy (upsert key (((below.lookup key).getD null).coveredBy value) below)
        members := by
  rw [membersCoveredBy]
  cases below.lookup key <;> simp

/-- Each member is laid over the one of its name, if there is one, and all others stay. -/
theorem lookup_membersCoveredBy {members : List (String × Json)}
    (once : (members.map (·.1)).Nodup) (below : List (String × Json)) (name : String) :
    (membersCoveredBy below members).lookup name =
      ((members.lookup name).map ((below.lookup name).getD null).coveredBy).or
        (below.lookup name) := by
  induction members generalizing below with
  | nil => simp [membersCoveredBy]
  | cons member rest ih =>
    obtain ⟨key, value⟩ := member
    obtain ⟨fresh, once⟩ := List.nodup_cons.mp once
    rw [membersCoveredBy_cons, ih once, lookup_upsert, List.lookup_cons]
    by_cases same : name = key
    · -- No later member has this name, so what is laid here stays.
      subst same
      simp [lookup_eq_none fresh]
    · simp [same, beq_false_of_ne same]

theorem get?_coveredBy {members : List (String × Json)} (once : (members.map (·.1)).Nodup)
    (lower : Json) (name : String) :
    (lower.coveredBy (object members)).get? name =
      ((members.lookup name).map ((lower.get? name).getD null).coveredBy).or
        (lower.get? name) := by
  cases lower with
  | object below =>
    rw [coveredBy]
    exact lookup_membersCoveredBy once below name
  | _ =>
    have same : null.coveredBy = id := funext null_coveredBy
    simp [coveredBy, get?, same]

/-- The induction is on the path. Step by step it leads into members of the upper value, and out of
it only where there is no such member. -/
theorem spot_coveredBy (proper : upper.Proper) (lower : Json) (path : List String) :
    (lower.coveredBy upper).spot path =
      if upper.lacks path then lower.spot path else upper.spot path := by
  induction path generalizing lower upper with
  | nil =>
    cases upper with
    | object members => cases lower <;> simp [coveredBy, spot, lacks]
    | _ => simp [coveredBy, lacks]
  | cons name path ih =>
    cases upper with
    | object members =>
      rw [spot_cons, spot_cons, spot_cons, get?_coveredBy proper.once, get?, lacks]
      cases found : members.lookup name with
      -- Here the path leads out of the upper value, and on into the lower one.
      | none => simp
      | some inner =>
        have inside : inner.Proper := proper.inner (mem_of_lookup found)
        have step := ih inside ((lower.get? name).getD null)
        simp only [Option.map_some, Option.some_or, Option.getD_some, step]
        split
        next lacking => cases lower.get? name <;> simp [spot_null lacking]
        next => rfl
    | _ => simp [coveredBy, lacks]

/-- Nothing of the lower value is left exactly when it has nothing where a path leads out of the
upper one. -/
theorem alike_coveredBy_iff (proper : upper.Proper) (lower : Json) :
    (lower.coveredBy upper).Alike upper ↔
      ∀ path, upper.lacks path = true → lower.spot path = .empty := by
  refine forall_congr' fun path => ?_
  rw [spot_coveredBy proper]
  split
  next lacking => simp [lacking, spot_of_lacks lacking]
  next within => simp [within]

end SfcLint.Json
