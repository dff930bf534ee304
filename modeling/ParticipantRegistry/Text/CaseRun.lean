import ParticipantRegistry.Text.Basic

/-!
# Case mappings

A case mapping is given by runs of letters that lie one or two apart and are moved by the same
distance, and by the few letters that become several code points.
-/

namespace ParticipantRegistry

/-- Letters from `first` to `last`, every `step`-th of which is moved by the same distance. -/
structure CaseRun where
  first : Nat
  last : Nat
  step : Nat
  target : Nat

namespace CaseRun

def of (entry : Nat × Nat × Nat × Nat) : CaseRun :=
  ⟨entry.1, entry.2.1, entry.2.2.1, entry.2.2.2⟩

def mapped? (run : CaseRun) (n : Nat) : Option Nat :=
  if run.first ≤ n ∧ n ≤ run.last ∧ (n - run.first) % run.step = 0 then
    some (run.target + (n - run.first))
  else none

end CaseRun

def CodePoint.mapCase (runs : List (Nat × Nat × Nat × Nat)) (sequences : List (Nat × List Nat))
    (c : CodePoint) : Text :=
  match sequences.lookup c.val with
  | some codes => codes.map CodePoint.ofNat
  | none =>
    match runs.findSome? fun entry => (CaseRun.of entry).mapped? c.val with
    | some n => [CodePoint.ofNat n]
    | none => [c]

def CodePoint.within (ranges : List (Nat × Nat)) (c : CodePoint) : Bool :=
  ranges.any fun range => range.1 ≤ c.val && c.val ≤ range.2

end ParticipantRegistry
