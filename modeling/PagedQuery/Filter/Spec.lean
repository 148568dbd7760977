import PagedQuery.Calendar.Reading
import PagedQuery.Coercion
import PagedQuery.Failure
import PagedQuery.Filter.Basic
import PagedQuery.Text.Search

/-!
# Filters as text

A filter is written as the name of its match type, the letter of its property
type and its property names, with low lines in between and `_OR_` between
several names; its value is a separate text.

Main results:

- Theorem `joinNames_splitNames`: writing the names that were read gives the
  text back.
- Theorem `splitNames_ne_nil`: there is always at least one name to read.
-/

namespace PagedQuery

open Text

namespace PropertyType

/-- Read a value of a property type. -/
def coerce (t : PropertyType) (raw : String) : Except Coercion.Rejection Value :=
  match t with
  | boolean => (Coercion.readBool raw).map .bool
  | integer | long => (Coercion.readInt raw).map .int
  | float | double => (Coercion.readDouble raw).map .double
  | string => .ok (.text raw)
  | date =>
      match Calendar.read? (stripChars raw.toList) with
      | some d => .ok (.date d)
      | none => .error .notDate

end PropertyType

namespace PropertyFilter

/-! ## Names -/

/-- The property names in the last part of a filter's text. -/
def splitNames : List Char → List (List Char)
  | [] => [[]]
  | '_' :: 'O' :: 'R' :: '_' :: rest => [] :: splitNames rest
  | c :: rest => consPiece c (splitNames rest)

/-- Property names written one after another. -/
def joinNames (names : List (List Char)) : List Char :=
  join ['_', 'O', 'R', '_'] names

theorem splitNames_ne_nil (cs : List Char) : splitNames cs ≠ [] := by
  unfold splitNames
  split <;> simp

theorem joinNames_splitNames (cs : List Char) : joinNames (splitNames cs) = cs := by
  fun_induction splitNames cs with
  | case1 => rfl
  | case2 rest ih =>
      match hs : splitNames rest, splitNames_ne_nil rest with
      | piece :: pieces, _ =>
          rw [hs] at ih
          simpa [joinNames, join] using ih
  | case3 c rest _ ih =>
      rw [joinNames, join_consPiece _ _ (splitNames_ne_nil rest)]
      exact congrArg (c :: ·) ih

/-! ## Reading -/

/-- Why a text is no filter. -/
inductive Rejection where
  | matchType (spec token : String)
  | propertyType (spec token : String)
  | propertyName (spec token : String)
  | noValue (spec : String) (wanted : PropertyType)
  | value (spec raw : String) (wanted : PropertyType)
  deriving DecidableEq, Repr

namespace Rejection

/-- The whole text that was rejected. -/
def spec : Rejection → String
  | matchType spec _ | propertyType spec _ | propertyName spec _ | noValue spec _
  | value spec _ _ => spec

/-- The part of the text that is to blame. -/
def token : Rejection → String
  | matchType _ token | propertyType _ token | propertyName _ token => token
  | noValue _ _ => ""
  | value _ raw _ => raw

/-- The code of a rejection. -/
def code : Rejection → String
  | matchType _ _ => "invalid_match_type"
  | propertyType _ _ => "invalid_property_type"
  | propertyName _ _ => "missing_property_name"
  | noValue _ _ | value _ _ _ => "invalid_value"

/-- The wording of a rejection. -/
def message : Rejection → String
  | matchType spec token =>
      "Filter '" ++ spec ++ "' has an invalid match type '" ++ token ++ "'"
  | propertyType spec token =>
      "Filter '" ++ spec ++ "' has an invalid property type '" ++ token ++ "'"
  | propertyName spec _ => "Filter '" ++ spec ++ "' is missing a property name"
  | noValue spec wanted =>
      "Filter '" ++ spec ++ "' has no value to convert to " ++ wanted.label
  | value spec raw wanted =>
      "Value '" ++ raw ++ "' of filter '" ++ spec ++ "' is not a valid " ++ wanted.label

/-- The details that a rejection adds to the text and the token. -/
def detail : Rejection → Entries
  | value _ _ wanted => [("target_type", .text wanted.label)]
  | _ => []

/-- A rejection as a failure of a call. -/
def failure (r : Rejection) : Failure :=
  .report (.make (.filterParse r.spec r.token) r.message (some r.code) r.detail none)

end Rejection

/-- Read the value of a filter, given as text or left out. -/
def readValue (spec : String) (t : PropertyType) (raw : Option String) :
    Except Rejection Value :=
  match raw with
  | none => .error (.noValue spec t)
  | some raw =>
      match t.coerce raw with
      | .ok value => .ok value
      | .error _ => .error (.value spec raw t)

/-- Read a filter from its text and the text of its value. -/
def parse (spec : String) (raw : Option String) : Except Rejection PropertyFilter :=
  let (matchToken, rest) := cutAt '_' spec.toList
  match MatchType.ofName? (.ofList matchToken) with
  | none => .error (.matchType spec (.ofList matchToken))
  | some matchType =>
      let (typeToken, namesPart) := cutAt '_' rest
      match PropertyType.ofLetter? (.ofList typeToken) with
      | none => .error (.propertyType spec (.ofList typeToken))
      | some propertyType =>
          let names := splitNames namesPart
          if names.any (·.isEmpty) then .error (.propertyName spec (.ofList namesPart))
          else
            match readValue spec propertyType raw with
            | .error rejection => .error rejection
            | .ok value =>
                .ok {
                  matchType := matchType
                  propertyType := propertyType
                  names := names.map String.ofList
                  value := value
                  names_ne_nil := by simp [names, splitNames_ne_nil] }

/-- A filter's text without its value. -/
def spec (f : PropertyFilter) : String :=
  f.matchType.name ++ "_" ++ f.propertyType.letter ++ "_" ++ joinTexts "_OR_" f.names

/-! ## Filters built directly -/

/-- A filter with the given parts; it needs at least one name. -/
def ofParts (matchType : MatchType) (propertyType : PropertyType) (names : List String)
    (value : Value) : Except Failure PropertyFilter :=
  match h : names with
  | [] => .error (.invalidArgument "PropertyFilter needs at least one property name" [])
  | name :: more =>
      .ok ⟨matchType, propertyType, name :: more, value, by simp⟩

/-- The only property name of a filter that names just one. -/
def onlyName (f : PropertyFilter) : Except Failure String :=
  match f.names with
  | [name] => .ok name
  | names =>
      .error (.invalidArgument
        ("Filter compares " ++ Numeric.natText names.length ++ " properties, not exactly one")
        [("property_names", .list (names.map .text))])

end PropertyFilter

end PagedQuery
