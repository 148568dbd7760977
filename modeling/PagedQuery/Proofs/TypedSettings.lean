import PagedQuery.Proofs.LoadedSettings
import PagedQuery.Proofs.ReadingAll

/-!
# Types of settings

A setting is declared with a type: a scalar, a list of a type, or a type or nothing.  What is
made of its text has this type when the type is a scalar, or a scalar or nothing.  Every list is
read as a list of texts, and a list that may be nothing as a single text, so that values of
other types come out of them where the declared type should be read, or the text refused.

Main results:

- Theorem `holds_of_readType`: what the strict reading of a type gives has this type.
- Theorem `reading_follows` and Theorem `reading_strays`: when the text of a setting is read as
  its type wants.
- Theorem `load_typed_iff`: when loaded settings have their types, and when unfit texts are
  reported.
-/

namespace PagedQuery
namespace Settings

open Coercion Text

/-- The types that settings are declared with. -/
inductive SettingType where
  | scalar (kind : Scalar)
  | list (item : SettingType)
  /-- A type, or nothing. -/
  | optional (type : SettingType)
  deriving DecidableEq, Repr

namespace SettingType

/-- Add nothing to the alternatives of an annotation, unless it is there. -/
def orNothing : Annotation → Annotation
  | .oneOf alternatives => .oneOf alternatives
  | a => .oneOf [a, .nothing]

/-- The annotation that declares a type. -/
def declaration : SettingType → Annotation
  | scalar kind => .scalar kind
  | list item => .list item.declaration
  | optional type => orNothing type.declaration

/-- The values of a type. -/
def Holds : SettingType → Value → Prop
  | scalar kind, v => kind.Holds v
  | list item, v => ∃ items, v = .list items ∧ ∀ i ∈ items, item.Holds i
  | optional type, v => v = .null ∨ type.Holds v

/-- The strict reading of a type: a scalar has its own, a list reads the items of a comma list
one by one, and a type or nothing is read as the type. -/
def readType : SettingType → String → Except Rejection Value
  | scalar kind, raw => (SettingReading.scalar kind).read raw
  | list item, raw => ((commaFields raw).mapM item.readType).map .list
  | optional type, raw => type.readType raw

/-- The type without the nothing that may be added to it. -/
def core : SettingType → SettingType
  | scalar kind => scalar kind
  | list item => list item
  | optional type => type.core

/-- The type holds texts. -/
def holdsTexts (type : SettingType) : Bool := type.core == .scalar .string

/-- The text of a setting is read as its type wants: the type is a scalar, a scalar or nothing,
or a list of texts, or else a list and the text has no items. -/
def IsFollowed : SettingType → String → Prop
  | scalar _, _ => True
  | list item, raw => item.holdsTexts = true ∨ commaFields raw = []
  | optional type, _ => ∃ kind, type.core = .scalar kind

/-! ## Strict readings -/

/-- What is read of a list of items is what each of them is read as. -/
theorem forall_of_forall₂ {α β : Type} {r : α → β → Prop} {p : β → Prop}
    (hread : ∀ a b, r a b → p b) {items : List α} {values : List β}
    (h : List.Forall₂ r items values) : ∀ v ∈ values, p v := by
  induction h with
  | nil => exact List.forall_mem_nil p
  | cons hfirst _ ih => exact List.forall_mem_cons.2 ⟨hread _ _ hfirst, ih⟩

/-- What the strict reading of a type gives has this type. -/
theorem holds_of_readType {type : SettingType} {raw : String} {v : Value}
    (h : type.readType raw = .ok v) : type.Holds v := by
  induction type generalizing raw v with
  | scalar kind => exact holds_of_read h
  | list item ih =>
      rw [readType] at h
      cases hitems : (commaFields raw).mapM item.readType with
      | error rejection =>
          rw [hitems] at h
          cases h
      | ok items =>
          rw [hitems] at h
          cases h
          have heach := mapM_eq_ok_iff.1 hitems
          exact ⟨items, rfl, forall_of_forall₂ (fun _ _ hread => ih hread) heach⟩
  | optional type ih => exact .inr (ih h)

/-- A type that is a scalar, or one with nothing added, reads as the scalar does. -/
theorem readType_of_core {type : SettingType} {kind : Scalar} (h : type.core = .scalar kind)
    (raw : String) : type.readType raw = (SettingReading.scalar kind).read raw := by
  induction type with
  | scalar other =>
      cases h
      rfl
  | list item => cases h
  | optional type ih => exact ih h

/-- A type that holds texts reads every text as itself. -/
theorem readType_of_holdsTexts {type : SettingType} (h : type.holdsTexts = true)
    (raw : String) : type.readType raw = .ok (.text raw) :=
  readType_of_core (beq_iff_eq.1 h) raw

/-- A type that holds texts reads every list of texts as itself. -/
theorem mapM_readType_of_holdsTexts {type : SettingType} (h : type.holdsTexts = true)
    (items : List String) : items.mapM type.readType = .ok (items.map .text) := by
  rw [mapM_eq_ok_iff, List.forall₂_map_right_iff]
  exact List.forall₂_same.2 fun s _ => readType_of_holdsTexts h s

/-- The types that have texts among their values are those that hold texts. -/
theorem holds_text_iff {type : SettingType} {s : String} :
    type.Holds (.text s) ↔ type.holdsTexts = true := by
  induction type with
  | scalar kind =>
      cases kind with
      | string => exact iff_of_true ⟨s, rfl⟩ rfl
      | bool | int | float =>
          refine iff_of_false ?_ Bool.false_ne_true
          rintro ⟨_, ⟨⟩⟩
  | list item =>
      refine iff_of_false ?_ Bool.false_ne_true
      rintro ⟨_, ⟨⟩, _⟩
  | optional type ih => exact (or_iff_right nofun).trans ih

/-! ## How declared types are read -/

/-- What is left of a type without its nothing is no such type again. -/
theorem core_ne_optional (type inner : SettingType) : type.core ≠ optional inner := by
  induction type with
  | scalar kind => exact nofun
  | list item => exact nofun
  | optional type ih => exact ih

/-- A type or nothing is declared by the annotation of the type, with nothing beside it. -/
theorem declaration_optional (type : SettingType) :
    (optional type).declaration = .oneOf [type.core.declaration, .nothing] := by
  induction type with
  | scalar kind => rfl
  | list item => rfl
  | optional type ih =>
      rw [declaration, ih]
      rfl

/-- A type or nothing is read as a scalar when the type is one, and otherwise as a text. -/
theorem reading_optional (type : SettingType) :
    (optional type).declaration.reading = .scalar type.core.declaration.toScalar := by
  rw [declaration_optional]
  cases hcore : type.core with
  | scalar kind => rfl
  | list item => rfl
  | optional inner => exact absurd hcore (core_ne_optional type inner)

/-- A text is read as the type wants where this is followed. -/
theorem reading_follows {type : SettingType} {raw : String} (h : type.IsFollowed raw) :
    type.declaration.reading.read raw = type.readType raw := by
  cases type with
  | scalar kind => rfl
  | list item =>
      change (SettingReading.commaList).read raw = _
      rw [SettingReading.read, settingItems_eq, readType]
      rcases h with htexts | hnone
      · rw [mapM_readType_of_holdsTexts htexts]
        rfl
      · rw [hnone]
        rfl
  | optional type =>
      obtain ⟨kind, hkind⟩ := h
      rw [reading_optional, hkind, readType, readType_of_core hkind]
      rfl

/-- Where a text is not read as the type wants, it is read as a value of another type. -/
theorem reading_strays {type : SettingType} {raw : String} (h : ¬type.IsFollowed raw) :
    ∃ v, type.declaration.reading.read raw = .ok v ∧ ¬type.Holds v := by
  cases type with
  | scalar kind => exact absurd trivial h
  | list item =>
      rw [IsFollowed, ← settingItems_eq, not_or] at h
      refine ⟨_, rfl, ?_⟩
      rintro ⟨_, ⟨⟩, hitems⟩
      obtain ⟨s, hs⟩ := List.exists_mem_of_ne_nil _ h.2
      exact h.1 (holds_text_iff.1 (hitems _ (List.mem_map_of_mem hs)))
  | optional type =>
      rw [reading_optional]
      cases hcore : type.core with
      | scalar kind => exact absurd ⟨kind, hcore⟩ h
      | list item =>
          refine ⟨.text raw, rfl, ?_⟩
          rintro (⟨⟨⟩⟩ | htext)
          rw [holds_text_iff, holdsTexts, hcore] at htext
          cases htext
      | optional inner => exact absurd hcore (core_ne_optional type inner)

/-- A value that is read from a text is of its type, and the one that the type's strict reading
gives, exactly where the text is read as the type wants. -/
theorem read_iff {type : SettingType} {raw : String} {v : Value}
    (h : type.declaration.reading.read raw = .ok v) :
    (type.Holds v ↔ type.IsFollowed raw) ∧ (type.readType raw = .ok v ↔ type.IsFollowed raw) := by
  have hread : type.IsFollowed raw → type.readType raw = .ok v :=
    fun hfollowed => (reading_follows hfollowed).symm.trans h
  have hstrays : type.Holds v → type.IsFollowed raw := by
    intro hholds
    by_contra hnot
    obtain ⟨other, hother, hnone⟩ := reading_strays hnot
    cases h.symm.trans hother
    exact hnone hholds
  exact ⟨⟨hstrays, fun hfollowed => holds_of_readType (hread hfollowed)⟩,
    ⟨fun hstrict => hstrays (holds_of_readType hstrict), hread⟩⟩

end SettingType

/-! ## Loaded settings -/

open SettingType

variable {c : SettingsClass} {environment : Environment} {type : Field → SettingType}

/-- The settings that are loaded have for each field that is set what its text is read as. -/
theorem lookup_of_load (hnames : (c.fields.map (·.name)).Nodup) {settings : Entries}
    (h : c.load environment = .ok settings) {f : Field} (hf : f ∈ c.fields) {raw : String}
    (hset : environment.lookup (variableName c.start f.name) = some raw) :
    ∃ v, settings.lookup f.name = some v ∧ f.annotation.reading.read raw = .ok v := by
  rcases values_or_failure c.start environment c.fields with
    ⟨value, hvalue⟩ | ⟨before, g, after, failure, hfields, hbefore, hfails⟩
  · rw [SettingsClass.load_of_values hnames hvalue] at h
    obtain ⟨rfl, -⟩ := SettingsClass.built_eq_ok h
    refine ⟨value f, ?_, ?_⟩
    · refine Value.lookup_of_mem ?_ (List.mem_map_of_mem hf)
      rw [List.map_map]
      exact hnames
    · cases hvalue f hf with
      | read hset' hread =>
          cases hset.symm.trans hset'
          exact hread
      | default hunset _ => cases hset.symm.trans hunset
  · rw [SettingsClass.load_of_fails hfields hbefore hfails] at h
    cases h

/-- When settings have the types that they are declared with.  In settings that are loaded, a
field that is set has a value of its type, and the one of the type's strict reading, exactly
when the type is a scalar, a scalar or nothing, or a list of texts, or a list and the text has
no items.  A text that does not stand for a value of the type is reported by the name of its
variable in the same cases, and read as a value of another type in all others. -/
theorem load_typed_iff (hnames : (c.fields.map (·.name)).Nodup)
    (htypes : ∀ f ∈ c.fields, f.annotation = (type f).declaration) (environment : Environment) :
    (∀ settings, c.load environment = .ok settings → ∀ f ∈ c.fields, ∀ raw,
      environment.lookup (variableName c.start f.name) = some raw →
        ∃ v, settings.lookup f.name = some v ∧ ((type f).Holds v ↔ (type f).IsFollowed raw) ∧
          ((type f).readType raw = .ok v ↔ (type f).IsFollowed raw)) ∧
    ∀ before f after raw rejection, c.fields = before ++ f :: after →
      (∀ g ∈ before, ∃ v, HasValue c.start environment g v) →
      environment.lookup (variableName c.start f.name) = some raw →
      (type f).readType raw = .error rejection →
        ((type f).IsFollowed raw → c.load environment = .error (.ofKind
          (.invalidSetting (variableName c.start f.name) (.text raw) rejection.message))) ∧
        (¬(type f).IsFollowed raw →
          ∃ v, HasValue c.start environment f v ∧ ¬(type f).Holds v) := by
  constructor
  · intro settings hload f hf raw hset
    obtain ⟨v, hlookup, hread⟩ := lookup_of_load hnames hload hf hset
    rw [htypes f hf] at hread
    exact ⟨v, hlookup, read_iff hread⟩
  · intro before f after raw rejection hfields hbefore hset hstrict
    have hdeclared : f.annotation = (type f).declaration :=
      htypes f (hfields ▸ List.mem_append_right before List.mem_cons_self)
    constructor
    · intro hfollowed
      apply SettingsClass.load_of_fails hfields hbefore
      refine .unfit hset ?_
      rw [hdeclared, reading_follows hfollowed, hstrict]
    · intro hnot
      obtain ⟨v, hread, hnone⟩ := reading_strays hnot
      exact ⟨v, .read hset (hdeclared ▸ hread), hnone⟩

/-- A class of settings with a field of each given type. -/
def typedClass (fields : List (String × SettingType)) : SettingsClass where
  name := "T"
  start := some "T"
  fields := fields.map fun field => ⟨field.1, field.2.declaration, none, true⟩
  check _ := .ok ()

/-- A number of tries that may be left out, and the names of tables. -/
def tuning : List (String × SettingType) :=
  [("tries", .optional (.scalar .int)), ("tables", .list (.scalar .string))]

/-- The type of a field of this tuning. -/
def tuningType (f : Field) : SettingType := (tuning.lookup f.name).getD (.scalar .string)

/-- A number of tries is loaded as a whole number, and a word for it is reported. -/
theorem load_typed_iff_tuning :
    (∃ settings v, (typedClass tuning).load [("T_TRIES", "3"), ("T_TABLES", "users, orders,")] =
        .ok settings ∧ settings.lookup "tries" = some v ∧
      (SettingType.optional (.scalar .int)).Holds v) ∧
    ∃ reason, (typedClass tuning).load [("T_TRIES", "many"), ("T_TABLES", "users")] =
      .error (.ofKind (.invalidSetting "T_TRIES" (.text "many") reason)) := by
  have hnames : ((typedClass tuning).fields.map (·.name)).Nodup := by decide
  have htypes : ∀ f ∈ (typedClass tuning).fields, f.annotation = (tuningType f).declaration := by
    intro f hf
    rcases List.mem_cons.1 hf with rfl | hf
    · rfl
    · rw [List.mem_singleton.1 hf]
      rfl
  have hvariable : variableName (typedClass tuning).start "tries" = "T_TRIES" := by
    decide +kernel
  have hfollowed : ∀ raw, (SettingType.optional (.scalar .int)).IsFollowed raw :=
    fun _ => ⟨.int, rfl⟩
  constructor
  · obtain ⟨v, hlookup, hholds, -⟩ := (load_typed_iff hnames htypes
      [("T_TRIES", "3"), ("T_TABLES", "users, orders,")]).1 _ rfl _ List.mem_cons_self "3" (by
        rw [hvariable]
        rfl)
    exact ⟨_, v, rfl, hlookup, hholds.2 (hfollowed "3")⟩
  · have hreported := ((load_typed_iff hnames htypes [("T_TRIES", "many"), ("T_TABLES", "users")]).2
      [] _ _ "many" (.notInteger "many") rfl (List.forall_mem_nil _) (by
        rw [hvariable]
        rfl) rfl).1 (hfollowed "many")
    exact ⟨_, hreported⟩

/-- A list of whole numbers. -/
def wholeNumbers : SettingType := .list (.scalar .int)

/-- Whole numbers in a list are loaded as texts. -/
theorem load_wholeNumbers_texts :
    (typedClass [("sizes", wholeNumbers)]).load [("T_SIZES", "1,2")] =
        .ok [("sizes", .list [.text "1", .text "2"])] ∧
      ¬wholeNumbers.Holds (.list [.text "1", .text "2"]) := by
  constructor
  · rfl
  · rintro ⟨_, ⟨⟩, hitems⟩
    obtain ⟨n, hn⟩ := hitems (.text "1") List.mem_cons_self
    cases hn

end Settings
end PagedQuery
