import Mathlib.Data.List.Find
import PagedQuery.Proofs.ValueEquality
import PagedQuery.Proofs.WrittenScalars
import PagedQuery.Settings.Paging

/-!
# Settings that are loaded

Settings are read from an environment field by field.  The first field that cannot be read
decides how loading fails; if there is none, every field has the value of its variable, or
its default, and the class makes settings of these values.  Of the settings of the query
layer only those are made that meet their requirements, and settings that are written out to
variables are loaded again.

Main results:

- Theorem `load_congr`: loading looks at the variables of the fields only.
- Theorem `load_of_fails` and Theorem `load_of_values`: how loading ends when a field cannot
  be read, and when all of them can.
- Theorem `checkPaging_iff`: the requirements of the query layer.
- Theorem `load_exact`: what is loaded, from every environment.
-/

namespace PagedQuery
namespace Settings

open Coercion Numeric Text

/-! ## Values of fields -/

section

variable (start : Option String) (environment : Environment) (f : Field)

/-- The value that a field has in an environment: what the text of its variable stands for,
or its default when the variable is not set. -/
inductive HasValue : Value → Prop
  | read {raw : String} {v : Value}
      (hset : environment.lookup (variableName start f.name) = some raw)
      (hread : f.annotation.reading.read raw = .ok v) : HasValue v
  | default {v : Value} (hunset : environment.lookup (variableName start f.name) = none)
      (hdefault : f.default = some v) : HasValue v

/-- How reading a field fails: its variable is not set, and there is no default, or the text
of its variable does not fit. -/
inductive FailsAs : Failure → Prop
  | missing (hunset : environment.lookup (variableName start f.name) = none)
      (hdefault : f.default = none) :
      FailsAs (.ofKind (.missingSetting (variableName start f.name)))
  | unfit {raw : String} {rejection : Rejection}
      (hset : environment.lookup (variableName start f.name) = some raw)
      (hread : f.annotation.reading.read raw = .error rejection) :
      FailsAs (.ofKind
        (.invalidSetting (variableName start f.name) (.text raw) rejection.message))

/-- The variable of a field is set. -/
def isSet (start : Option String) (environment : Environment) (name : String) : Bool :=
  (environment.lookup (variableName start name)).isSome

end

variable {start : Option String} {environment : Environment} {f : Field}

/-- A field has a value, or reading it fails. -/
theorem value_or_failure (start : Option String) (environment : Environment) (f : Field) :
    (∃ v, HasValue start environment f v) ∨ ∃ failure, FailsAs start environment f failure := by
  cases hlookup : environment.lookup (variableName start f.name) with
  | none =>
      cases hdefault : f.default with
      | none => exact .inr ⟨_, .missing hlookup hdefault⟩
      | some v => exact .inl ⟨v, .default hlookup hdefault⟩
  | some raw =>
      cases hread : f.annotation.reading.read raw with
      | ok v => exact .inl ⟨v, .read hlookup hread⟩
      | error rejection => exact .inr ⟨_, .unfit hlookup hread⟩

/-- A field with a value is read as this value when its variable is set. -/
theorem readField_of_value {v : Value} (h : HasValue start environment f v) :
    readField start environment f =
      .ok (if isSet start environment f.name then some v else none) := by
  cases h with
  | read hset hread => simp only [readField, hset, hread, isSet, Option.isSome_some, if_true]
  | default hunset hdefault =>
      simp only [readField, hunset, hdefault, isSet, Option.isSome_none, Bool.false_eq_true,
        if_false]

/-- Reading a field fails as it is said. -/
theorem readField_of_fails {failure : Failure} (h : FailsAs start environment f failure) :
    readField start environment f = .error failure := by
  cases h with
  | missing hunset hdefault => simp only [readField, hunset, hdefault]
  | unfit hset hread => simp only [readField, hset, hread]

/-! ## Reading all fields -/

/-- The first field that cannot be read decides. -/
theorem readFields_of_fails {before after : List Field} {failure : Failure}
    (hbefore : ∀ g ∈ before, ∃ v, HasValue start environment g v)
    (hfails : FailsAs start environment f failure) :
    readFields start environment (before ++ f :: after) = .error failure := by
  induction before with
  | nil => rw [List.nil_append, readFields, readField_of_fails hfails]
  | cons g before ih =>
      obtain ⟨v, hv⟩ := hbefore g List.mem_cons_self
      rw [List.cons_append, readFields, readField_of_value hv]
      simp only [ih fun other hother => hbefore other (List.mem_cons_of_mem g hother)]

/-- Fields with values are read as the values of those that are set. -/
theorem readFields_of_values {value : Field → Value} {fields : List Field}
    (h : ∀ f ∈ fields, HasValue start environment f (value f)) :
    readFields start environment fields =
      .ok ((fields.filter fun f => isSet start environment f.name).map
        fun f => (f.name, value f)) := by
  induction fields with
  | nil => rfl
  | cons f fields ih =>
      rw [readFields, readField_of_value (h f List.mem_cons_self),
        ih fun g hg => h g (List.mem_cons_of_mem f hg), List.filter_cons]
      cases isSet start environment f.name <;> rfl

/-- All fields have values, or there is a first one that cannot be read. -/
theorem values_or_failure (start : Option String) (environment : Environment)
    (fields : List Field) :
    (∃ value : Field → Value, ∀ f ∈ fields, HasValue start environment f (value f)) ∨
      ∃ before f after failure, fields = before ++ f :: after ∧
        (∀ g ∈ before, ∃ v, HasValue start environment g v) ∧
        FailsAs start environment f failure := by
  by_cases hall : ∀ f ∈ fields, ∃ v, HasValue start environment f v
  · choose! value hvalue using hall
    exact .inl ⟨value, hvalue⟩
  · right
    induction fields with
    | nil => exact absurd (List.forall_mem_nil _) hall
    | cons f fields ih =>
        rcases value_or_failure start environment f with hvalue | ⟨failure, hfails⟩
        · have hrest : ¬∀ g ∈ fields, ∃ v, HasValue start environment g v :=
            fun h => hall (List.forall_mem_cons.2 ⟨hvalue, h⟩)
          obtain ⟨before, g, after, failure, rfl, hbefore, hfails⟩ := ih hrest
          exact ⟨f :: before, g, after, failure, rfl,
            List.forall_mem_cons.2 ⟨hvalue, hbefore⟩, hfails⟩
        · exact ⟨[], f, fields, failure, rfl, List.forall_mem_nil _, hfails⟩

/-! ## Loading -/

namespace SettingsClass

variable {c : SettingsClass}

/-- Loading looks at the variables of the fields only. -/
theorem load_congr {other : Environment}
    (h : ∀ f ∈ c.fields, environment.lookup (variableName c.start f.name) =
      other.lookup (variableName c.start f.name)) : c.load environment = c.load other := by
  have hfields : ∀ fields : List Field, (∀ f ∈ fields,
      environment.lookup (variableName c.start f.name) =
        other.lookup (variableName c.start f.name)) →
      readFields c.start environment fields = readFields c.start other fields := by
    intro fields hsame
    induction fields with
    | nil => rfl
    | cons f fields ih =>
        rw [readFields, readFields, readField, readField, hsame f List.mem_cons_self,
          ih fun g hg => hsame g (List.mem_cons_of_mem f hg)]
  rw [load, load, hfields c.fields h]

/-- Loading fails as the first field that cannot be read does. -/
theorem load_of_fails {before after : List Field} {failure : Failure}
    (hfields : c.fields = before ++ f :: after)
    (hbefore : ∀ g ∈ before, ∃ v, HasValue c.start environment g v)
    (hfails : FailsAs c.start environment f failure) :
    c.load environment = .error failure := by
  rw [load, hfields, readFields_of_fails hbefore hfails]

/-- What the class makes of values for all its fields: a field that accepts no value must
not be set, and the class checks the values. -/
def built (c : SettingsClass) (environment : Environment) (values : Entries) :
    Except Failure Entries :=
  match c.fields.find? fun f => isSet c.start environment f.name && !f.accepted with
  | some f => .error (c.refusedField f.name)
  | none =>
      match c.check values with
      | .ok () => .ok values
      | .error .mismatch => .error (c.failedLoad (c.mismatchWording values))
      | .error failure => .error failure

/-- Among fields with different names, the first value that is refused is that of the first
field that is set and accepts none. -/
theorem firstRefused_of_values (hnames : (c.fields.map (·.name)).Nodup)
    (value : Field → Value) (set : String → Bool) :
    firstRefused c.fields ((c.fields.filter fun f => set f.name).map
        fun f => (f.name, value f)) =
      (c.fields.find? fun f => set f.name && !f.accepted).map (·.name) := by
  have haccepts : ∀ f ∈ c.fields,
      (c.fields.any fun g => g.accepted && g.name == f.name) = f.accepted := by
    intro f hf
    rw [Bool.eq_iff_iff, List.any_eq_true]
    constructor
    · rintro ⟨g, hg, hboth⟩
      rw [Bool.and_eq_true, beq_iff_eq] at hboth
      rw [← List.inj_on_of_nodup_map hnames hg hf hboth.2]
      exact hboth.1
    · intro haccepted
      exact ⟨f, hf, by rw [haccepted, beq_self_eq_true]; rfl⟩
  rw [firstRefused, List.find?_map, Option.map_map, List.find?_filter]
  congr 1
  apply List.find?_congr
  intro f hf
  simp only [Function.comp_apply, haccepts f hf]
  exact Bool.eq_iff_iff.2 (by simp)

/-- The value of a field among those that are set. -/
theorem lookup_of_values (hnames : (c.fields.map (·.name)).Nodup) (value : Field → Value)
    (set : String → Bool) {f : Field} (hf : f ∈ c.fields) :
    ((c.fields.filter fun f => set f.name).map fun f => (f.name, value f)).lookup f.name =
      if set f.name then some (value f) else none := by
  have hnodup : (((c.fields.filter fun f => set f.name).map
      fun f => (f.name, value f)).map Prod.fst).Nodup := by
    rw [List.map_map]
    exact hnames.sublist (List.filter_sublist.map _)
  split
  · rename_i hset
    exact Value.lookup_of_mem hnodup
      (List.mem_map_of_mem (List.mem_filter.2 ⟨hf, hset⟩))
  · rename_i hunset
    rw [List.lookup_eq_none_iff]
    intro entry hentry
    obtain ⟨g, hg, rfl⟩ := List.mem_map.1 hentry
    rw [List.mem_filter] at hg
    exact bne_iff_ne.2 fun hsame => hunset (hsame ▸ hg.2)

/-- A field whose variable is not set has its default. -/
theorem default_of_value {v : Value} (h : HasValue start environment f v)
    (hunset : isSet start environment f.name = false) : f.default = some v := by
  cases h with
  | read hset hread =>
      rw [isSet, hset] at hunset
      cases hunset
  | default _ hdefault => exact hdefault

/-- Loading makes settings of the values that all fields have. -/
theorem load_of_values (hnames : (c.fields.map (·.name)).Nodup) {value : Field → Value}
    (h : ∀ f ∈ c.fields, HasValue c.start environment f (value f)) :
    c.load environment = c.built environment (c.fields.map fun f => (f.name, value f)) := by
  have hrefused := firstRefused_of_values hnames value (isSet c.start environment)
  have hlookup := fun f hf =>
    lookup_of_values hnames value (isSet c.start environment) (f := f) hf
  rw [load, readFields_of_values h, built]
  generalize ((c.fields.filter fun f => isSet c.start environment f.name).map
    fun f => (f.name, value f)) = given at hrefused hlookup
  have hcovers : coversFields c.fields given = true := by
    rw [coversFields, List.all_eq_true]
    intro f hf
    rw [hlookup f hf]
    cases hset : isSet c.start environment f.name with
    | true => simp
    | false => simp [default_of_value (h f hf) hset]
  have hvalues : allValues c.fields given = c.fields.map fun f => (f.name, value f) := by
    rw [allValues]
    apply List.map_congr_left
    intro f hf
    rw [hlookup f hf]
    cases hset : isSet c.start environment f.name with
    | true => rfl
    | false => simp [default_of_value (h f hf) hset]
  simp only [hrefused]
  cases hfind : c.fields.find? fun f => isSet c.start environment f.name && !f.accepted with
  | some f => rfl
  | none =>
      rw [hfind, Option.map_none] at hrefused
      simp only [Option.map_none, create, hrefused, hcovers, hvalues, Option.isSome_none,
        Bool.not_true, Bool.or_self, Bool.false_eq_true, if_false]
      cases c.check (c.fields.map fun f => (f.name, value f)) with
      | ok _ => rfl
      | error failure => cases failure <;> rfl

/-- What is made of values is these values, which the class has accepted. -/
theorem built_eq_ok {values settings : Entries} (h : c.built environment values = .ok settings) :
    settings = values ∧ c.check values = .ok () := by
  rw [built] at h
  split at h
  · cases h
  · split at h
    · rename_i hcheck
      exact ⟨(Except.ok.inj h).symm, hcheck⟩
    · cases h
    · cases h

/-- Where all fields accept values, settings are made of those that the class accepts. -/
theorem built_of_check {values : Entries} (haccepted : ∀ f ∈ c.fields, f.accepted = true)
    (hcheck : c.check values = .ok ()) : c.built environment values = .ok values := by
  have hnone : (c.fields.find? fun f => isSet c.start environment f.name && !f.accepted) =
      none := by
    rw [List.find?_eq_none]
    intro f hf
    rw [haccepted f hf, Bool.not_true, Bool.and_false]
    exact Bool.false_ne_true
  rw [built, hnone]
  simp only [hcheck]

end SettingsClass

/-! ## Values written out -/

/-- A setting that holds a truth value is read from its text. -/
theorem read_plain_bool (b : Bool) :
    (SettingReading.scalar .bool).read (Value.bool b).plain = .ok (.bool b) := by
  rw [SettingReading.read, readBool_plain]
  rfl

/-- A setting that holds a whole number is read from its text. -/
theorem read_plain_int {n : Int} (h : (decimalDigits n.natAbs).length ≤ digitLimit) :
    (SettingReading.scalar .int).read (Value.int n).plain = .ok (.int n) := by
  have hplain : (Value.int n).plain = intText n := rfl
  rw [SettingReading.read, hplain, readInt_intText h]
  rfl

/-! ## Kinds of values -/

/-- A value of a kind with a strict reading. -/
def Scalar.Holds : Scalar → Value → Prop
  | .bool, v => ∃ b, v = .bool b
  | .int, v => ∃ n, v = .int n
  | .float, v => ∃ x, v = .double x
  | .string, v => ∃ s, v = .text s

/-- What is made of something that was read is made of a value. -/
theorem of_map_ok {α : Type} {x : Except Rejection α} {g : α → Value} {v : Value}
    (h : x.map g = .ok v) : ∃ a, v = g a := by
  cases x with
  | error rejection => cases h
  | ok a => exact ⟨a, (Except.ok.inj h).symm⟩

/-- What is read strictly is of the kind that was wanted. -/
theorem holds_of_read {kind : Scalar} {raw : String} {v : Value}
    (h : (SettingReading.scalar kind).read raw = .ok v) : kind.Holds v := by
  cases kind <;> rw [SettingReading.read] at h
  case bool => exact of_map_ok h
  case int => exact of_map_ok h
  case float => exact of_map_ok h
  case string => exact ⟨raw, (Except.ok.inj h).symm⟩

/-- A field that is annotated with such a kind, and whose default is of this kind, has values
of this kind. -/
theorem holds_of_value (kind : Scalar) (hkind : f.annotation = .scalar kind)
    (hdefault : ∀ v, f.default = some v → kind.Holds v) {v : Value}
    (h : HasValue start environment f v) : kind.Holds v := by
  cases h with
  | read _ hread =>
      rw [hkind] at hread
      exact holds_of_read hread
  | default _ hv => exact hdefault v hv

/-! ## Settings of the query layer -/

/-- The settings of the query layer. -/
structure Paging where
  databaseUrl : String
  echo : Bool
  size : Int
  greatest : Int
  filterStart : String

namespace Paging

/-- The settings as values of the fields of their class. -/
def entries (s : Paging) : Entries :=
  [("database_url", .text s.databaseUrl), ("echo", .bool s.echo),
    ("default_page_size", .int s.size), ("max_page_size", .int s.greatest),
    ("filter_prefix", .text s.filterStart)]

/-- Pages have room for a row, at most as many as the maximum says, and the names of filter
parameters have a start. -/
structure IsValid (s : Paging) : Prop where
  one_le_size : 1 ≤ s.size
  size_le_greatest : s.size ≤ s.greatest
  filterStart_ne : s.filterStart ≠ ""

end Paging

/-- A whole number is accepted when it is above a bound. -/
theorem refuseIf_atMost (name reason : String) (m n : Int) :
    refuseIf name (.int m) .atMost (.int n) reason =
      if n < m then .ok () else .error (.ofKind (.invalidSetting name (.int m) reason)) := by
  rcases Int.lt_trichotomy m n with h | h | h
  · rw [if_neg (Int.not_lt.2 (Int.le_of_lt h)), refuseIf, Value.standing_int,
      compare_lt_iff_lt.2 h]
    rfl
  · rw [if_neg (Int.not_lt.2 (Int.le_of_eq h)), refuseIf, Value.standing_int,
      compare_eq_iff_eq.2 h]
    rfl
  · rw [if_pos h, refuseIf, Value.standing_int, compare_gt_iff_gt.2 h]
    rfl

/-- A whole number is accepted when it is not below a bound. -/
theorem refuseIf_less (name reason : String) (m n : Int) :
    refuseIf name (.int m) .less (.int n) reason =
      if n ≤ m then .ok () else .error (.ofKind (.invalidSetting name (.int m) reason)) := by
  rcases Int.lt_trichotomy m n with h | h | h
  · rw [if_neg (Int.not_le.2 h), refuseIf, Value.standing_int, compare_lt_iff_lt.2 h]
    rfl
  · rw [if_pos (Int.le_of_eq h.symm), refuseIf, Value.standing_int, compare_eq_iff_eq.2 h]
    rfl
  · rw [if_pos (Int.le_of_lt h), refuseIf, Value.standing_int, compare_gt_iff_gt.2 h]
    rfl

/-- The requirements of the query layer. -/
theorem checkPaging_iff (s : Paging) : checkPaging s.entries = .ok () ↔ s.IsValid := by
  have hsize : (Value.mapping s.entries).property "default_page_size" = .int s.size := rfl
  have hgreatest : (Value.mapping s.entries).property "max_page_size" = .int s.greatest := rfl
  have hstart : (Value.mapping s.entries).property "filter_prefix" = .text s.filterStart := rfl
  simp only [checkPaging, hsize, hgreatest, hstart, refuseIf_atMost, refuseIf_less, isSomething]
  constructor
  · intro h
    split at h
    · cases h
    · rename_i hpositive
      split at h
      · cases h
      · rename_i hle
        split at h
        · rename_i hne
          exact ⟨by_contra fun hnot => by simp [show ¬0 < s.size by omega] at hpositive,
            by_contra fun hnot => by simp [hnot] at hle, bne_iff_ne.1 hne⟩
        · cases h
  · rintro ⟨hone, hle, hne⟩
    have hpositive : 0 < s.size := by omega
    have hsome : (s.filterStart != "") = true := bne_iff_ne.2 hne
    simp only [if_pos hpositive, if_pos hle, hsome, if_true]

/-- The fields of the settings of the query layer have different names. -/
theorem pagingSettings_nodup : (pagingSettings.fields.map (·.name)).Nodup := by
  decide

/-- Settings of the query layer that are loaded meet the requirements. -/
theorem isValid_of_load {values : Entries} (h : pagingSettings.load environment = .ok values) :
    ∃ s : Paging, s.IsValid ∧ values = s.entries := by
  rcases values_or_failure pagingSettings.start environment pagingSettings.fields with
    ⟨value, hvalue⟩ | ⟨before, f, after, failure, hfields, hbefore, hfails⟩
  · rw [SettingsClass.load_of_values pagingSettings_nodup hvalue] at h
    obtain ⟨rfl, hcheck⟩ := SettingsClass.built_eq_ok h
    simp only [pagingSettings, List.forall_mem_cons] at hvalue
    obtain ⟨hurl, hecho, hsize, hgreatest, hstart, -⟩ := hvalue
    obtain ⟨url, hurl⟩ := holds_of_value .string rfl (by simp [Scalar.Holds]) hurl
    obtain ⟨echo, hecho⟩ := holds_of_value .bool rfl (by simp [Scalar.Holds]) hecho
    obtain ⟨size, hsize⟩ := holds_of_value .int rfl (by simp [Scalar.Holds]) hsize
    obtain ⟨greatest, hgreatest⟩ := holds_of_value .int rfl (by simp [Scalar.Holds]) hgreatest
    obtain ⟨start, hstart⟩ := holds_of_value .string rfl (by simp [Scalar.Holds]) hstart
    have hentries : (pagingSettings.fields.map fun f => (f.name, value f)) =
        Paging.entries ⟨url, echo, size, greatest, start⟩ := by
      simp only [pagingSettings, List.map_cons, List.map_nil, hurl, hecho, hsize, hgreatest,
        hstart, Paging.entries]
    rw [hentries] at hcheck ⊢
    exact ⟨_, (checkPaging_iff _).1 hcheck, rfl⟩
  · rw [SettingsClass.load_of_fails hfields hbefore hfails] at h
    cases h

/-- Settings of the query layer that meet the requirements are loaded from the texts of their
values. -/
theorem load_of_isValid {s : Paging} (h : s.IsValid)
    (hsize : (decimalDigits s.size.natAbs).length ≤ digitLimit)
    (hgreatest : (decimalDigits s.greatest.natAbs).length ≤ digitLimit)
    (henvironment : ∀ entry ∈ s.entries, environment.lookup
      (variableName pagingSettings.start entry.1) = some entry.2.plain) :
    pagingSettings.load environment = .ok s.entries := by
  have hvalue : ∀ f ∈ pagingSettings.fields, HasValue pagingSettings.start environment f
      ((s.entries.lookup f.name).getD .null) := by
    simp only [Paging.entries, List.forall_mem_cons] at henvironment
    obtain ⟨hurl, hecho, hsizeset, hgreatestset, hstart, -⟩ := henvironment
    simp only [pagingSettings, List.forall_mem_cons]
    exact ⟨.read hurl rfl, .read hecho (read_plain_bool s.echo),
      .read hsizeset (read_plain_int hsize), .read hgreatestset (read_plain_int hgreatest),
      .read hstart rfl, List.forall_mem_nil _⟩
  rw [SettingsClass.load_of_values pagingSettings_nodup hvalue]
  apply SettingsClass.built_of_check
  · decide
  · exact (checkPaging_iff s).2 h

/-! ## Loading from every environment -/

/-- Loading depends on the variables of the fields only.  Either there is a first field that
cannot be read, whose failure is that of loading, or every field has the value of its
variable or its default, and the class makes settings of these values.  Settings of the query
layer meet their requirements when they are loaded, and those that meet them, with numbers of
a length that can be read, are loaded from the texts of their values. -/
theorem load_exact {c : SettingsClass} (hnames : (c.fields.map (·.name)).Nodup)
    (environment : Environment) :
    (∀ other : Environment,
      (∀ f ∈ c.fields, environment.lookup (variableName c.start f.name) =
        other.lookup (variableName c.start f.name)) → c.load environment = c.load other) ∧
    ((∃ before f after failure, c.fields = before ++ f :: after ∧
        (∀ g ∈ before, ∃ v, HasValue c.start environment g v) ∧
        FailsAs c.start environment f failure ∧ c.load environment = .error failure) ∨
      ∃ value : Field → Value,
        (∀ f ∈ c.fields, HasValue c.start environment f (value f)) ∧
        c.load environment = c.built environment (c.fields.map fun f => (f.name, value f))) ∧
    (∀ settings, pagingSettings.load environment = .ok settings →
      ∃ s : Paging, s.IsValid ∧ settings = s.entries) ∧
    ∀ s : Paging, s.IsValid → (decimalDigits s.size.natAbs).length ≤ digitLimit →
      (decimalDigits s.greatest.natAbs).length ≤ digitLimit →
      (∀ entry ∈ s.entries, environment.lookup (variableName pagingSettings.start entry.1) =
        some entry.2.plain) → pagingSettings.load environment = .ok s.entries := by
  refine ⟨fun _ => SettingsClass.load_congr, ?_, fun _ => isValid_of_load,
    fun _ => load_of_isValid⟩
  rcases values_or_failure c.start environment c.fields with
    ⟨value, hvalue⟩ | ⟨before, f, after, failure, hfields, hbefore, hfails⟩
  · exact .inr ⟨value, hvalue, SettingsClass.load_of_values hnames hvalue⟩
  · exact .inl ⟨before, f, after, failure, hfields, hbefore, hfails,
      SettingsClass.load_of_fails hfields hbefore hfails⟩

/-- Settings of the query layer with a small page. -/
def smallPages : Paging := ⟨"sqlite://", true, 5, 9, "f_"⟩

/-- The variables with the texts of these settings. -/
def smallEnvironment : Environment :=
  [("MP_PERSISTENCE_DATABASE_URL", "sqlite://"), ("MP_PERSISTENCE_ECHO", "True"),
    ("MP_PERSISTENCE_DEFAULT_PAGE_SIZE", "5"), ("MP_PERSISTENCE_MAX_PAGE_SIZE", "9"),
    ("MP_PERSISTENCE_FILTER_PREFIX", "f_")]

/-- Settings with a small page are loaded from their variables. -/
theorem load_exact_smallPages :
    pagingSettings.load smallEnvironment = .ok smallPages.entries := by
  have hfive : decimalDigits 5 = ['5'] := decimalDigits_of_lt (by decide)
  have hnine : decimalDigits 9 = ['9'] := decimalDigits_of_lt (by decide)
  refine (load_exact pagingSettings_nodup smallEnvironment).2.2.2 smallPages
    ⟨by decide, by decide, by decide⟩ ?_ ?_ ?_
  · change (decimalDigits 5).length ≤ digitLimit
    rw [hfive]
    decide
  · change (decimalDigits 9).length ≤ digitLimit
    rw [hnine]
    decide
  · have hfivetext : (Value.int 5).plain = "5" := congrArg String.ofList hfive
    have hninetext : (Value.int 9).plain = "9" := congrArg String.ofList hnine
    simp only [smallPages, Paging.entries, List.forall_mem_cons, hfivetext, hninetext]
    exact ⟨by decide +kernel, by decide +kernel, by decide +kernel, by decide +kernel,
      by decide +kernel, List.forall_mem_nil _⟩

end Settings
end PagedQuery
