/-
JSON schemas, by the keywords that the derive macro writes. A schema inside
another one is given by the values it accepts.
-/
import McpSdk.SseEvent
import Mathlib.Tactic.Common

namespace McpSdk.JsonSchema

/-- A JSON value; of two members with one name the later one counts. -/
inductive Value where
  | null
  | bool (value : Bool)
  | number (value : Rat)
  | string (text : Str)
  | array (elements : List Value)
  | object (members : List (Str × Value))
deriving Repr

inductive TypeName where
  | null
  | boolean
  | integer
  | number
  | string
  | array
  | object
deriving Repr, DecidableEq

/-- A number without a fraction is an integer, however it is written. -/
def Value.hasType : Value → TypeName → Bool
  | .null, .null => true
  | .bool _, .boolean => true
  | .number value, .integer => value.isInt
  | .number _, .number => true
  | .string _, .string => true
  | .array _, .array => true
  | .object _, .object => true
  | _, _ => false

/-- The entry that was inserted last under a name. -/
def lookup {α : Type} (name : Str) : List (Str × α) → Option α
  | [] => none
  | (key, value) :: rest =>
    (lookup name rest).or (if key = name then some value else none)

theorem lookup_append {α : Type} (name : Str) (front back : List (Str × α)) :
    lookup name (front ++ back) = (lookup name back).or (lookup name front) := by
  induction front with
  | nil => simp [lookup]
  | cons entry front ih => simp [lookup, ih, Option.or_assoc]

theorem isSome_lookup {α : Type} (name : Str) (entries : List (Str × α)) :
    (lookup name entries).isSome = (entries.map Prod.fst).contains name := by
  induction entries with
  | nil => rfl
  | cons entry entries ih =>
    by_cases heq : entry.1 = name
    · simp [lookup, heq]
    · simp [lookup, heq, ih, Ne.symm heq]

/-- The keyword `type`, with one name or an array of names. -/
inductive TypeKeyword where
  | one (name : TypeName)
  | many (names : List TypeName)
deriving Repr, DecidableEq

/-- `items` with one schema, or with several and `additionalItems: false`. -/
inductive Items where
  | each (schema : Value → Bool)
  | positions (schemas : List (Value → Bool))

/-- A schema.  Absent `properties` and `required` are empty. -/
structure Schema where
  type : Option TypeKeyword := none
  properties : List (Str × (Value → Bool)) := []
  required : List Str := []
  items : Option Items := none
  enum : Option (List Str) := none
  oneOf : Option (List (Value → Bool)) := none
  anyOf : Option (List (Value → Bool)) := none

@[simp] def TypeKeyword.accepts (value : Value) : TypeKeyword → Bool
  | .one name => value.hasType name
  | .many names => names.any value.hasType

/-- One schema for each element, and no element without a schema. -/
def positionsAccept : List (Value → Bool) → List Value → Bool
  | _, [] => true
  | [], _ :: _ => false
  | schema :: schemas, value :: values =>
    schema value && positionsAccept schemas values

def Items.accepts (elements : List Value) : Items → Bool
  | .each schema => elements.all schema
  | .positions schemas => positionsAccept schemas elements

/-- A property that a later one replaces asserts nothing. -/
@[simp] def propertiesAccept (members : List (Str × Value)) :
    List (Str × (Value → Bool)) → Bool
  | [] => true
  | (name, schema) :: rest =>
    ((lookup name rest).isSome || (lookup name members).all schema) && propertiesAccept members rest

@[simp] def Schema.membersAccept (schema : Schema) (members : List (Str × Value)) : Bool :=
  schema.required.all (fun name => (lookup name members).isSome) &&
    propertiesAccept members schema.properties

/-- The keywords that assert something about arrays and objects only. -/
@[simp] def Schema.partsAccept (schema : Schema) : Value → Bool
  | .array elements => schema.items.all (·.accepts elements)
  | .object members => schema.membersAccept members
  | _ => true

/-- The keywords that name or combine the accepted values. -/
@[simp] def Schema.choiceAccepts (schema : Schema) (value : Value) : Bool :=
  (schema.enum.all fun names =>
      match value with
      | .string text => names.contains text
      | _ => false) &&
    (schema.oneOf.all fun schemas => schemas.countP (· value) = 1) &&
    schema.anyOf.all fun schemas => schemas.any (· value)

def Schema.accepts (schema : Schema) (value : Value) : Bool :=
  schema.type.all (·.accepts value) && schema.partsAccept value && schema.choiceAccepts value

def Schema.nullable (schema : Schema) : Schema :=
  let wrapped : Schema := { anyOf := some [schema.accepts,
    ({ type := some (.one .null) } : Schema).accepts] }
  match schema.type with
  | some (.one name) =>
    if name ≠ .null then
      { schema with type := some (.many [name, .null]) }
    else wrapped
  | some (.many names) =>
    if names.contains .null then schema
    else { schema with type := some (.many (names ++ [.null])) }
  | none => wrapped

/-- No other keyword than `type` speaks about `null`. -/
def Schema.Widens (schema : Schema) : Prop :=
  schema.type ≠ none → schema.enum = none ∧ schema.oneOf = none ∧ schema.anyOf = none

theorem Value.hasType_null {value : Value} : value.hasType .null = true ↔ value = .null := by
  cases value <;> simp [Value.hasType]

theorem Schema.accepts_widened {schema : Schema} {keyword wide : TypeKeyword}
    (hwidens : schema.Widens) (htype : schema.type = some keyword)
    (hwide : ∀ value, wide.accepts value = true ↔ keyword.accepts value = true ∨ value = .null)
    (value : Value) :
    ({ schema with type := some wide } : Schema).accepts value = true ↔
      schema.accepts value = true ∨ value = .null := by
  obtain ⟨henum, honeOf, hanyOf⟩ := hwidens (by simp [htype])
  have hchoice : schema.choiceAccepts value = true := by
    simp [henum, honeOf, hanyOf]
  have hnull : value = .null → schema.partsAccept value = true := by
    rintro rfl
    rfl
  change (wide.accepts value && schema.partsAccept value && schema.choiceAccepts value) = true ↔ _
  simp only [Schema.accepts, htype, hchoice, Option.all_some, Bool.and_true,
    Bool.and_eq_true, hwide]
  tauto

theorem accepts_anyOf (schemas : List (Value → Bool)) (value : Value) :
    ({ anyOf := some schemas } : Schema).accepts value =
      schemas.any (· value) := by
  cases value <;> simp [Schema.accepts]

theorem accepts_type (name : TypeName) (value : Value) :
    ({ type := some (.one name) } : Schema).accepts value =
      value.hasType name := by
  cases value <;> simp [Schema.accepts]

theorem accepts_enum (name : Str) (value : Value) :
    ({ enum := some [name] } : Schema).accepts value =
      match value with
      | .string text => decide (text = name)
      | _ => false := by
  cases value <;> simp [Schema.accepts]

theorem countP_accepts_cons (schema : Value → Bool)
    (schemas : List (Value → Bool)) (value : Value) :
    (schema :: schemas).countP (· value) = (schema value).toNat + schemas.countP (· value) := by
  rw [List.countP_cons, Nat.add_comm]
  cases schema value <;> rfl

theorem accepts_oneOf (schemas : List (Value → Bool)) (value : Value) :
    ({ oneOf := some schemas } : Schema).accepts value =
      decide (schemas.countP (· value) = 1) := by
  cases value <;> simp [Schema.accepts]

theorem accepts_array (items : Items) (value : Value) :
    ({ type := some (.one .array), items := some items } :
        Schema).accepts value =
      match value with
      | .array elements => items.accepts elements
      | _ => false := by
  cases value <;> simp [Schema.accepts, Value.hasType]

theorem accepts_object (properties : List (Str × (Value → Bool)))
    (required : List Str) (value : Value) :
    ({ type := some (.one .object), properties, required } :
        Schema).accepts value =
      match value with
      | .object members =>
        required.all (fun name => (lookup name members).isSome) &&
          propertiesAccept members properties
      | _ => false := by
  cases value <;> simp [Schema.accepts, Value.hasType]

theorem Schema.accepts_nullable {schema : Schema} (hwidens : schema.Widens) (value : Value) :
    schema.nullable.accepts value = true ↔ schema.accepts value = true ∨ value = .null := by
  have hwrapped : ({ anyOf := some [schema.accepts,
      ({ type := some (.one .null) } : Schema).accepts] } : Schema).accepts value = true ↔
      schema.accepts value = true ∨ value = .null := by
    simp [accepts_anyOf, accepts_type, Value.hasType_null]
  unfold Schema.nullable
  cases htype : schema.type with
  | none => exact hwrapped
  | some keyword =>
    cases keyword with
    | one name =>
      simp only
      split
      · refine schema.accepts_widened hwidens htype ?_ value
        intro value
        simp [Value.hasType_null]
      · exact hwrapped
    | many names =>
      simp only
      split
      · rename_i hnull
        have hwide : ∀ value, (TypeKeyword.many names).accepts value = true ↔
            (TypeKeyword.many names).accepts value = true ∨
              value = .null := by
          intro value
          refine ⟨.inl, ?_⟩
          rintro (haccepts | rfl)
          · exact haccepts
          · exact List.any_eq_true.mpr ⟨.null, by simpa using hnull, rfl⟩
        have hsame := schema.accepts_widened hwidens htype hwide value
        rwa [← htype] at hsame
      · refine schema.accepts_widened hwidens htype ?_ value
        intro value
        simp [Value.hasType_null]

theorem Schema.Widens.nullable {schema : Schema} (hwidens : schema.Widens) :
    schema.nullable.Widens := by
  unfold Schema.nullable
  cases htype : schema.type with
  | none => exact fun hnone => absurd rfl hnone
  | some keyword =>
    have hchoice := hwidens (by simp [htype])
    cases keyword with
    | one name =>
      simp only
      split
      · exact fun _ => hchoice
      · exact fun hnone => absurd rfl hnone
    | many names =>
      simp only
      split
      · exact hwidens
      · exact fun _ => hchoice

end McpSdk.JsonSchema
