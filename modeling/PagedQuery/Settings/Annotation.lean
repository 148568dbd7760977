import PagedQuery.Coercion
import PagedQuery.Text.Fields
import PagedQuery.Value.Basic

/-!
# Annotations of settings

Each setting is annotated with the kind of value it holds.  The annotation
decides how the text of the setting is read: a list is a comma list, and an
annotation with a single argument is read as that argument; anything that is
not known is plain text.

Main results:

- Theorem `reading_list`: every list is read as a comma list of texts.
- Theorem `reading_optional`: an optional scalar is read as the scalar.
- Theorem `settingItems_eq`: the text of a list is a comma list.
-/

namespace PagedQuery
namespace Settings

open Text

/-- The kinds of value with a strict reading. -/
inductive Scalar where
  | bool
  | int
  | float
  | string
  deriving DecidableEq, Repr

/-- What a setting is said to hold. -/
inductive Annotation where
  | scalar (kind : Scalar)
  /-- Nothing; only useful as an alternative. -/
  | nothing
  | list (item : Annotation)
  /-- One of several alternatives. -/
  | oneOf (alternatives : List Annotation)
  /-- Any other kind with arguments. -/
  | applied (name : String) (arguments : List Annotation)
  /-- Any other kind. -/
  | other (name : String)
  deriving Inhabited

/-- How the text of a setting is read. -/
inductive SettingReading where
  | scalar (kind : Scalar)
  | commaList
  deriving DecidableEq, Repr

namespace Annotation

/-- The annotation is nothing. -/
def isNothing : Annotation → Bool
  | nothing => true
  | _ => false

/-- The arguments of an annotation, nothing apart. -/
def arguments : Annotation → List Annotation
  | oneOf alternatives => alternatives.filter fun a => !a.isNothing
  | applied _ arguments => arguments.filter fun a => !a.isNothing
  | _ => []

/-- The scalar that an annotation is, plain text if it is none. -/
def toScalar : Annotation → Scalar
  | scalar kind => kind
  | _ => .string

/-- How a setting with an annotation is read. -/
def reading (a : Annotation) : SettingReading :=
  match a with
  | list _ => .commaList
  | a =>
      match a.arguments with
      | [argument] => .scalar argument.toScalar
      | _ => .scalar a.toScalar

/-! ## Annotations as text -/

/-- Split a text at a mark outside of brackets. -/
def splitOutside (mark : Char) (depth : Nat) : List Char → List (List Char)
  | [] => [[]]
  | c :: cs =>
      if c == mark && depth == 0 then [] :: splitOutside mark depth cs
      else
        let depth := if c == '[' then depth + 1 else if c == ']' then depth - 1 else depth
        consPiece c (splitOutside mark depth cs)

/-- The annotation with a name. -/
def ofName (name : String) : Annotation :=
  match name with
  | "bool" => scalar .bool
  | "int" => scalar .int
  | "float" => scalar .float
  | "str" => scalar .string
  | "None" => nothing
  | name => other name

/-- The annotation with a name and arguments. -/
def ofApplication (name : String) (arguments : List Annotation) : Annotation :=
  match name, arguments with
  | "list", [item] => list item
  | "Optional", arguments => oneOf (arguments ++ [nothing])
  | "Union", arguments => oneOf arguments
  | name, arguments => applied name arguments

/-- Read an annotation that is nested at most `depth` deep. -/
def readNested : (depth : Nat) → List Char → Annotation
  | 0, cs => ofName (.ofList (stripChars cs))
  | depth + 1, cs =>
      match splitOutside '|' 0 cs with
      | [] | [_] =>
          let name := cs.takeWhile (· != '[')
          match cs.dropWhile (· != '[') with
          | [] => ofName (.ofList (stripChars cs))
          | _ :: rest =>
              let inner := (stripEnd rest).dropLast
              ofApplication (.ofList (stripChars name))
                ((splitOutside ',' 0 inner).map (readNested depth))
      | alternatives => oneOf (alternatives.map (readNested depth))

/-- Read an annotation. -/
def ofText (s : String) : Annotation := readNested s.length s.toList

@[simp]
theorem reading_list (item : Annotation) : reading (list item) = .commaList := rfl

theorem reading_optional (kind : Scalar) :
    reading (oneOf [scalar kind, nothing]) = .scalar kind := rfl

end Annotation

/-- What a setting reads of its text: the pieces between commas that are not blank, without the
blanks around them. -/
def settingItems (text : String) : List String :=
  ((splitOn ',' text.toList).filter fun piece => !(stripChars piece).isEmpty).map
    fun piece => .ofList (stripChars piece)

/-- A setting reads the items of a comma list. -/
@[simp]
theorem settingItems_eq (text : String) : settingItems text = commaFields text :=
  (commaFields_filter text).symm

/-- Read the text of a setting. -/
def SettingReading.read (r : SettingReading) (raw : String) :
    Except Coercion.Rejection Value :=
  match r with
  | scalar .bool => (Coercion.readBool raw).map .bool
  | scalar .int => (Coercion.readInt raw).map .int
  | scalar .float => (Coercion.readDouble raw).map .double
  | scalar .string => .ok (.text raw)
  | commaList => .ok (.list ((settingItems raw).map .text))

end Settings
end PagedQuery
