import UaFlow.Text.Blank
import UaFlow.Float.Text
/-!
# Qualified names and localized text

A qualified name is a name inside a namespace. Its text is `N:name`, or a plain name in
namespace `0`: the text is cut at its first colon, and when the part before it, trimmed, is a
16-bit number, that is the namespace and the part after it (untrimmed) is the name; otherwise the
whole text is the name. A name may not be empty.

A localized text is a text with the locale it is written in.
-/

namespace UaFlow.Ua

/-- A name inside a namespace. -/
structure QualifiedName where
  namespaceIndex : Nat
  name : String
  deriving DecidableEq, Inhabited

/-- A text and its locale. -/
structure LocalizedText where
  locale : String
  text : String
  deriving DecidableEq, Inhabited

/-- The locale of a text that names none. -/
def defaultLocale : String := "en"

/-- Why a text is not a qualified name. -/
inductive QualifiedNameError where
  | emptyName
  deriving DecidableEq, Inhabited

/-- The message of a qualified-name error. -/
def QualifiedNameError.message : QualifiedNameError → String
  | .emptyName => "empty name"

/-- Reads a qualified name. -/
def QualifiedName.parse (s : String) : Except QualifiedNameError QualifiedName :=
  let cs := s.toList
  let before := cs.takeWhile (· ≠ ':')
  let split : Nat × String :=
    match cs.drop before.length with
    | ':' :: after =>
      match Float.readIntegerIn 0 (Int.pow 2 16 - 1) (Text.trim (String.ofList before)) with
      | some ns => (ns.toNat, String.ofList after)
      | none => (0, s)
    | _ => (0, s)
  if split.2.isEmpty then .error .emptyName else .ok ⟨split.1, split.2⟩

end UaFlow.Ua
