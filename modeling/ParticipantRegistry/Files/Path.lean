import ParticipantRegistry.Text.Basic

/-!
# Paths

A path is a root, which is empty for a relative path, and the names below it. Repeated slashes and
single dots carry no meaning and are dropped; two leading slashes are a root of their own.
-/

namespace ParticipantRegistry

structure Path where
  root : Text
  names : List Text
  deriving DecidableEq

namespace Path

def rootOf (t : Text) : Text :=
  match (t.takeWhile (· = ('/' : CodePoint))).length with
  | 0 => ""
  | 2 => "//"
  | _ => "/"

def read (t : Text) : Path :=
  ⟨rootOf t, (Text.splitOn '/' t).filter fun name => name ≠ [] && name ≠ "."⟩

def isAbsolute (p : Path) : Bool := p.root ≠ []

def toText (p : Path) : Text :=
  if p.root = [] ∧ p.names = [] then "." else p.root ++ List.intercalate "/" p.names

/-- The path below another one; an absolute path stays as it is. -/
def below (base p : Path) : Path := if p.isAbsolute then p else ⟨base.root, base.names ++ p.names⟩

def parent (p : Path) : Path := ⟨p.root, p.names.dropLast⟩

def enter (place : List Text) (name : Text) : List Text :=
  if name = ".." then place.dropLast else place ++ [name]

def placeFrom (start : List Text) (p : Path) : List Text :=
  p.names.foldl enter (if p.isAbsolute then [] else start)

def ofPlace (place : List Text) : Path := ⟨"/", place⟩

end Path

end ParticipantRegistry
