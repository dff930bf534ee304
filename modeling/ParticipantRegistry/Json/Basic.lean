import ParticipantRegistry.Number.Binary64
import ParticipantRegistry.Text.Basic

/-!
# JSON values

Integers and floating-point numbers are kept apart. An object is the list of its members in the
order in which their names first came up; `Json.ofMembers` builds it from members as they are
written, where the last value of a repeated name counts.
-/

namespace ParticipantRegistry

inductive Json where
  | null
  | bool (b : Bool)
  | int (i : Int)
  | float (x : Binary64)
  | string (t : Text)
  | array (items : List Json)
  | object (members : List (Text × Json))

namespace Json

abbrev Members := List (Text × Json)

/-- Gives a name a value: in place if the name is there, else at the end. -/
def setMember (name : Text) (value : Json) : Members → Members
  | [] => [(name, value)]
  | m :: ms => if m.1 = name then (name, value) :: ms else m :: setMember name value ms

def ofMembers (ms : Members) : Json :=
  .object (ms.foldl (fun done m => setMember m.1 m.2 done) [])

def names (ms : Members) : List Text := ms.map (·.1)

def members : Json → Members
  | .object ms => ms
  | _ => []

def ofNat (n : Nat) : Json := .int n

def ofText? (t : Option Text) : Json := (t.map Json.string).getD .null

def ofTexts (ts : List Text) : Json := .array (ts.map .string)

mutual

def same : Json → Json → Bool
  | .null, .null => true
  | .bool a, .bool b => a == b
  | .int a, .int b => a == b
  | .float a, .float b => decide (a = b)
  | .string a, .string b => a == b
  | .array as, .array bs => sameItems as bs
  | .object as, .object bs => sameMembers as bs
  | _, _ => false

def sameItems : List Json → List Json → Bool
  | [], [] => true
  | a :: as, b :: bs => same a b && sameItems as bs
  | _, _ => false

def sameMembers : Members → Members → Bool
  | [], [] => true
  | (m, a) :: as, (n, b) :: bs => m == n && same a b && sameMembers as bs
  | _, _ => false

end

mutual

theorem same_refl : ∀ a : Json, same a a = true
  | .null => rfl
  | .bool _ => by simp [same]
  | .int _ => by simp [same]
  | .float _ => by simp [same]
  | .string _ => by simp [same]
  | .array as => by simpa [same] using sameItems_refl as
  | .object ms => by simpa [same] using sameMembers_refl ms

theorem sameItems_refl : ∀ as : List Json, sameItems as as = true
  | [] => rfl
  | a :: as => by simp [sameItems, same_refl a, sameItems_refl as]

theorem sameMembers_refl : ∀ ms : Members, sameMembers ms ms = true
  | [] => rfl
  | (_, a) :: ms => by simp [sameMembers, same_refl a, sameMembers_refl ms]

end

mutual

theorem eq_of_same : ∀ {a b : Json}, same a b = true → a = b
  | a, b, h => by
    cases a <;> cases b <;> simp only [same, beq_iff_eq, decide_eq_true_eq, Bool.false_eq_true] at h
    · rfl
    · rw [h]
    · rw [h]
    · rw [h]
    · rw [h]
    · rw [eq_of_sameItems h]
    · rw [eq_of_sameMembers h]

theorem eq_of_sameItems : ∀ {as bs : List Json}, sameItems as bs = true → as = bs
  | [], [], _ => rfl
  | a :: as, b :: bs, h => by
    simp only [sameItems, Bool.and_eq_true] at h
    rw [eq_of_same h.1, eq_of_sameItems h.2]
  | [], _ :: _, h => by simp [sameItems] at h
  | _ :: _, [], h => by simp [sameItems] at h

theorem eq_of_sameMembers : ∀ {as bs : Members}, sameMembers as bs = true → as = bs
  | [], [], _ => rfl
  | (m, a) :: as, (n, b) :: bs, h => by
    simp only [sameMembers, Bool.and_eq_true, beq_iff_eq] at h
    rw [h.1.1, eq_of_same h.1.2, eq_of_sameMembers h.2]
  | [], _ :: _, h => by simp [sameMembers] at h
  | _ :: _, [], h => by simp [sameMembers] at h

end

instance : DecidableEq Json := fun a b =>
  if h : same a b = true then isTrue (eq_of_same h)
  else isFalse fun e => h (e ▸ same_refl a)

end Json

end ParticipantRegistry
