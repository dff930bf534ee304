import ParticipantRegistry.Calendar.DocumentDate
import ParticipantRegistry.Text.Blank
import ParticipantRegistry.Text.UpperCase

/-!
# Checking document values

`Checked α` is the outcome of checking a JSON value: a value of type `α` or all problems found, each
with its place, and besides them the objects that were accepted with members nobody asked for. It is
an applicative functor that goes on after a problem, so the members of an object are checked one by
one and every problem is told. A problem is shown as the array of its location and the name of what is
wrong there.
-/

namespace ParticipantRegistry.Document

/-- One step from a value to a value inside it. -/
inductive Step where
  | member (name : Text)
  | item (index : Nat)
  deriving DecidableEq

inductive Flaw where
  | missing
  | notText
  | notUnicode
  | tooShort
  | tooLong
  | notArray
  | notObject
  | otherVersion
  | date (problem : DocumentDate.Problem)
  deriving DecidableEq

structure Problem where
  location : List Step
  flaw : Flaw
  deriving DecidableEq

/-- The kinds of objects that documents are made of. -/
inductive ElementKind where
  | endpoint
  | redirect
  | serviceGroup
  | businessIdentifier
  | businessEntity
  | businessCard
  | envelope
  deriving DecidableEq

def ElementKind.name : ElementKind → Text
  | .endpoint => "EndpointElement"
  | .redirect => "RedirectElement"
  | .serviceGroup => "ServiceGroupElement"
  | .businessIdentifier => "BusinessIdentifierElement"
  | .businessEntity => "BusinessEntityElement"
  | .businessCard => "BusinessCardElement"
  | .envelope => "DocumentEnvelope"

/-- An accepted object with the names of its members that its kind does not have. -/
structure Sighting where
  kind : ElementKind
  names : List Text
  deriving DecidableEq

structure Checked (α : Type) where
  sightings : List Sighting
  result : Except (List Problem) α

namespace Checked

variable {α β : Type}

def valid (a : α) : Checked α := ⟨[], .ok a⟩

def flawed (flaw : Flaw) : Checked α := ⟨[], .error [⟨[], flaw⟩]⟩

def map (f : α → β) (c : Checked α) : Checked β := ⟨c.sightings, c.result.map f⟩

/-- Applies a checked function to a checked argument; the problems of both are kept. -/
def seq (f : Checked (α → β)) (c : Checked α) : Checked β :=
  ⟨f.sightings ++ c.sightings,
    match f.result, c.result with
    | .ok f, .ok a => .ok (f a)
    | .ok _, .error ps => .error ps
    | .error ps, .ok _ => .error ps
    | .error ps, .error qs => .error (ps ++ qs)⟩

instance : Applicative Checked where
  pure := valid
  map := map
  seq f c := seq f (c ())

def under (step : Step) (c : Checked α) : Checked α :=
  ⟨c.sightings, c.result.mapError (List.map fun p => ⟨step :: p.location, p.flaw⟩)⟩

def items (check : Json → Checked α) (index : Nat) : List Json → Checked (List α)
  | [] => valid []
  | item :: rest =>
    seq (map List.cons ((check item).under (.item index))) (items check (index + 1) rest)

def array (check : Json → Checked α) : Json → Checked (List α)
  | .array values => items check 0 values
  | _ => flawed .notArray

def required (name : Text) (check : Json → Checked α) (ms : Json.Members) : Checked α :=
  match ms.lookup name with
  | some value => (check value).under (.member name)
  | none => (flawed .missing).under (.member name)

def optional (name : Text) (default : α) (check : Json → Checked α) (ms : Json.Members) :
    Checked α :=
  match ms.lookup name with
  | some value => (check value).under (.member name)
  | none => valid default

/-- Checks an object through its members; an accepted one with members beyond `known` is sighted. A
name without an encoded form is the only problem that is told. -/
def object (kind : ElementKind) (known : List Text) (check : Json.Members → Checked α) :
    Json → Checked α
  | .object ms =>
    let c := check ms
    let unknown := (Json.names ms).filter fun name => !known.contains name
    if !unknown.all Text.isUnicode then ⟨c.sightings, (flawed .notUnicode).result⟩
    else
      match c.result with
      | .ok _ => if unknown = [] then c else ⟨c.sightings ++ [⟨kind, unknown⟩], c.result⟩
      | .error _ => c
  | _ => flawed .notObject

end Checked

open Checked

/-- Any text, even one without an encoded form. -/
def plainText : Json → Checked Text
  | .string t => valid t
  | _ => flawed .notText

def optionalText : Json → Checked (Option Text)
  | .null => valid none
  | value => (plainText value).map some

def trimmedText : Json → Checked Text
  | .string t =>
    if !t.isUnicode then flawed .notUnicode
    else if t.trim = [] then flawed .tooShort
    else valid t.trim
  | _ => flawed .notText

/-- A text that is trimmed, then two code points long, then written in capitals. -/
def countryCode : Json → Checked Text
  | .string t =>
    if !t.isUnicode then flawed .notUnicode
    else if t.trim.length < 2 then flawed .tooShort
    else if 2 < t.trim.length then flawed .tooLong
    else valid t.trim.upper
  | _ => flawed .notText

def dateFlaw : DocumentDate.Problem → Flaw
  | .notUnicode => .notUnicode
  | problem => .date problem

def optionalDate : Json → Checked (Option Date)
  | .null => valid none
  | value =>
    match DocumentDate.read value with
    | .ok date => valid (some date)
    | .error problem => flawed (dateFlaw problem)

def Flaw.name : Flaw → Text
  | .missing => "missing"
  | .notText => "string_type"
  | .notUnicode => "string_unicode"
  | .tooShort => "string_too_short"
  | .tooLong => "string_too_long"
  | .notArray => "list_type"
  | .notObject => "model_type"
  | .otherVersion => "literal_error"
  | .date .notADate => "date_type"
  | .date .unreadable => "date_from_datetime_parsing"
  | .date .notMidnight => "date_from_datetime_inexact"
  | .date .outOfRange => "date_parsing"
  | .date .notUnicode => "string_unicode"

def Step.toJson : Step → Json
  | .member name => .string name
  | .item index => .ofNat index

def Problem.toJson (p : Problem) : Json :=
  .array [.array (p.location.map Step.toJson), .string p.flaw.name]

end ParticipantRegistry.Document
