import ParticipantRegistry.Json.Basic

/-!
# Values that count as equal

Two values are alike if they are equal as quantities and collections: a whole number is the same as an
integer and as a floating-point number, a truth value counts as 1 or 0, and the members of an object
have no order. A value without a number is alike to itself, also the one that is no number.
-/

namespace ParticipantRegistry

def Binary64.whole? : Binary64 → Option Int
  | .finite negative m e _ =>
    let num := m <<< e.toNat
    let den := 1 <<< (-e).toNat
    if num % den = 0 then
      let n : Int := (num / den : Nat)
      some (if negative then -n else n)
    else none
  | _ => none

namespace Json

/-- The integer that a value counts as. -/
def whole? : Json → Option Int
  | .bool b => some (if b then 1 else 0)
  | .int i => some i
  | .float x => x.whole?
  | _ => none

def alikePlain (a b : Json) : Bool :=
  match a.whole?, b.whole? with
  | some i, some j => i == j
  | none, none => same a b
  | _, _ => false

mutual

def alike : Json → Json → Bool
  | .array as, .array bs => alikeItems as bs
  | .object ms, .object ns => ms.length == ns.length && alikeMembers ms ns
  | a, b => alikePlain a b

def alikeItems : List Json → List Json → Bool
  | [], [] => true
  | a :: as, b :: bs => alike a b && alikeItems as bs
  | _, _ => false

/-- Whether every member has an alike one of its name among others. -/
def alikeMembers : Members → Members → Bool
  | [], _ => true
  | (name, value) :: ms, ns =>
    (match ns.lookup name with
      | some other => alike value other
      | none => false) && alikeMembers ms ns

end

end Json

end ParticipantRegistry
