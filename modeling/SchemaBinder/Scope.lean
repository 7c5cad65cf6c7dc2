import SchemaBinder.Fault
import SchemaBinder.Naming
/-!
# Scopes of package scans

A scope is what one entry of `packages` stands for: a namespace, or a namespace and everything
below it when the entry ends in `.**`.

A namespace is a sequence of identifiers with dots between them.  A type is in a scope if its
namespace is the scope's, or starts with the scope's and a dot.
-/

namespace SchemaBinder

/-- A namespace to scan. -/
structure Scope where
  /-- The namespace. -/
  root : String
  /-- Does the scan go into the namespaces below? -/
  nested : Bool
deriving DecidableEq, Repr

namespace Scope

/-- The ending of a specifier that includes the namespaces below. -/
def nestedMark : String := ".**"

/-- Can an identifier start with a character? -/
def isIdentifierStart (c : Char) : Bool :=
  c.isAlpha || c == '_' || c == '$'

/-- Are characters an identifier? -/
def isIdentifier : List Char → Bool
  | [] => false
  | c :: cs => isIdentifierStart c && cs.all fun d => isIdentifierStart d || d.isDigit

/-- Is a text a sequence of identifiers with dots between them? -/
def isDotted (s : String) : Bool :=
  (Text.split '.' s.toList).all isIdentifier

/-- The scope that a specifier names.  Blanks around the specifier do not matter. -/
def parse (specifier : String) : Except Fault Scope :=
  let specifier := Text.trim specifier
  let scope : Scope := match Text.dropEnd? nestedMark specifier with
    | some root => ⟨root, true⟩
    | none => ⟨specifier, false⟩
  if isDotted scope.root then .ok scope
  else .error (.settings (.invalidSpecifier specifier))

theorem parse_eq_error {specifier : String} {e : Fault} (failed : parse specifier = .error e) :
    ∃ cause, e = .settings cause := by
  simp only [parse] at failed
  generalize isDotted _ = dotted at failed
  cases dotted with
  | true => simp at failed
  | false =>
    simp only [Bool.false_eq_true, if_false, Except.error.injEq] at failed
    exact ⟨_, failed.symm⟩

/-- Is a namespace in the scope? -/
def covers (scope : Scope) (space : String) : Bool :=
  space == scope.root || (scope.nested && Text.hasStart (scope.root ++ ".") space)

end Scope

end SchemaBinder
