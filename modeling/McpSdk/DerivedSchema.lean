/-
Derived schemas: `type_to_json_schema` and `#[derive(JsonSchema)]` over the
supported types, and what serde writes for a value of such a type.
-/
import McpSdk.JsonSchema

namespace McpSdk.DerivedSchema

open JsonSchema

/-- `String`, the integers, `f32` and `f64`, `serde_json::Number`, `bool`. -/
inductive Scalar where
  | string
  | integer
  | float
  | number
  | bool
deriving Repr, DecidableEq

mutual

/-- The supported types: trees, since recursive ones have no schema. -/
inductive RustType where
  | scalar (kind : Scalar)
  | vec (item : RustType)
  | option (inner : RustType)
  | struct (fields : Fields)
  | enum (variants : Variants)

inductive Fields where
  | nil
  | cons (name : Str) (type : RustType) (rest : Fields)

inductive Types where
  | nil
  | cons (type : RustType) (rest : Types)

inductive Variants where
  | nil
  | unit (name : Str) (rest : Variants)
  | unnamed (name : Str) (types : Types) (rest : Variants)
  | named (name : Str) (fields : Fields) (rest : Variants)

end

def Scalar.typeName : Scalar → TypeName
  | .string => .string
  | .integer => .integer
  | .float => .number
  | .number => .number
  | .bool => .boolean

def RustType.isOption : RustType → Bool
  | .option _ => true
  | _ => false

def Fields.names : Fields → List Str
  | .nil => []
  | .cons name _ rest => name :: rest.names

def required : Fields → List Str
  | .nil => []
  | .cons name type rest =>
    if !type.isOption then name :: required rest else required rest

mutual

def typeToJsonSchema : RustType → Schema
  | .scalar kind => { type := some (.one kind.typeName) }
  | .vec item =>
    { type := some (.one .array),
      items := some (.each (typeToJsonSchema item).accepts) }
  | .option inner => (typeToJsonSchema inner).nullable
  | .struct fields =>
    { type := some (.one .object), properties := properties fields,
      required := required fields }
  | .enum variants => { oneOf := some (variantSchemas variants) }

def properties : Fields → List (Str × (Value → Bool))
  | .nil => []
  | .cons name type rest =>
    (name, (typeToJsonSchema type).accepts) :: properties rest

def fieldSchemas : Types → List (Value → Bool)
  | .nil => []
  | .cons type rest => (typeToJsonSchema type).accepts :: fieldSchemas rest

/-- The schemas of `oneOf`.  Only that of a unit variant has its name. -/
def variantSchemas : Variants → List (Value → Bool)
  | .nil => []
  | .unit name rest =>
    ({ enum := some [name] } : Schema).accepts :: variantSchemas rest
  | .unnamed _ (.cons type .nil) rest =>
    (typeToJsonSchema type).accepts :: variantSchemas rest
  | .unnamed _ types rest =>
    ({ type := some (.one .array),
       items := some (.positions (fieldSchemas types)) } : Schema).accepts ::
      variantSchemas rest
  | .named _ fields rest =>
    ({ type := some (.one .object), properties := properties fields,
       required := required fields } : Schema).accepts ::
      variantSchemas rest

end

theorem typeToJsonSchema_widens :
    ∀ type : RustType, (typeToJsonSchema type).Widens
  | .scalar _ => fun _ => ⟨rfl, rfl, rfl⟩
  | .vec _ => fun _ => ⟨rfl, rfl, rfl⟩
  | .option inner => (typeToJsonSchema_widens inner).nullable
  | .struct _ => fun _ => ⟨rfl, rfl, rfl⟩
  | .enum _ => fun hnone => absurd rfl hnone

/-- The schema of `Option<T>` accepts what that of `T` accepts, and `null`. -/
theorem option_schema_accepts (type : RustType) (value : Value) :
    (typeToJsonSchema (.option type)).accepts value = true ↔
      (typeToJsonSchema type).accepts value = true ∨ value = .null := by
  rw [typeToJsonSchema]
  exact Schema.accepts_nullable (typeToJsonSchema_widens type) value

/-- A float that is not finite is `none`. -/
def Scalar.Val : Scalar → Type
  | .string => Str
  | .integer => Int
  | .float => Option Rat
  | .number => Rat
  | .bool => Bool

mutual

def RustType.Val : RustType → Type
  | .scalar kind => kind.Val
  | .vec item => List item.Val
  | .option inner => Option inner.Val
  | .struct fields => fields.Val
  | .enum variants => variants.Val

def Fields.Val : Fields → Type
  | .nil => Unit
  | .cons _ type rest => type.Val × rest.Val

def Types.Val : Types → Type
  | .nil => Unit
  | .cons type rest => type.Val × rest.Val

def Variants.Val : Variants → Type
  | .nil => Empty
  | .unit _ rest => Unit ⊕ rest.Val
  | .unnamed _ types rest => types.Val ⊕ rest.Val
  | .named _ fields rest => fields.Val ⊕ rest.Val

end

def Scalar.serialize : (kind : Scalar) → kind.Val → Value
  | .string, text => .string text
  | .integer, value => .number (Int.cast value)
  | .float, some value => .number value
  | .float, none => .null
  | .number, value => .number value
  | .bool, value => .bool value

mutual

/-- `Serialize`, in the externally tagged representation. -/
def serialize : (type : RustType) → type.Val → Value
  | .scalar kind, value => kind.serialize value
  | .vec item, values => .array (List.map (serialize item) values)
  | .option _, none => .null
  | .option inner, some value => serialize inner value
  | .struct fields, values => .object (serializeFields fields values)
  | .enum variants, value => serializeVariant variants value

def serializeFields : (fields : Fields) → fields.Val → List (Str × Value)
  | .nil, _ => []
  | .cons name type rest, (value, values) =>
    (name, serialize type value) :: serializeFields rest values

def serializeTypes : (types : Types) → types.Val → List Value
  | .nil, _ => []
  | .cons type rest, (value, values) =>
    serialize type value :: serializeTypes rest values

def serializeVariant : (variants : Variants) → variants.Val → Value
  | .unit name _, .inl _ => .string name
  | .unit _ rest, .inr value => serializeVariant rest value
  | .unnamed name (.cons type .nil) _, .inl (value, _) =>
    .object [(name, serialize type value)]
  | .unnamed name types _, .inl values =>
    .object [(name, .array (serializeTypes types values))]
  | .unnamed _ _ rest, .inr value => serializeVariant rest value
  | .named name fields _, .inl values =>
    .object [(name, .object (serializeFields fields values))]
  | .named _ _ rest, .inr value => serializeVariant rest value

end

def Variants.unitNames : Variants → List Str
  | .nil => []
  | .unit name rest => name :: rest.unitNames
  | .unnamed _ _ rest => rest.unitNames
  | .named _ _ rest => rest.unitNames

/-- The name of the variant of a value, when it is a unit variant. -/
def Variants.unitName? : (variants : Variants) → variants.Val → Option Str
  | .unit name _, .inl _ => some name
  | .unit _ rest, .inr value => rest.unitName? value
  | .unnamed _ _ _, .inl _ => none
  | .unnamed _ _ rest, .inr value => rest.unitName? value
  | .named _ _ _, .inl _ => none
  | .named _ _ rest, .inr value => rest.unitName? value

mutual

/-- The schema may accept a string: of `String`, or of an enum with a unit variant. -/
def RustType.takesString : RustType → Bool
  | .scalar kind => kind = .string
  | .vec _ => false
  | .option inner => inner.takesString
  | .struct _ => false
  | .enum variants => !variants.unitNames.isEmpty || variants.fieldTakesString

/-- One of the variants has a single field whose type may take a string. -/
def Variants.fieldTakesString : Variants → Bool
  | .nil => false
  | .unit _ rest => rest.fieldTakesString
  | .unnamed _ (.cons type .nil) rest => type.takesString || rest.fieldTakesString
  | .unnamed _ _ rest => rest.fieldTakesString
  | .named _ _ rest => rest.fieldTakesString

end

mutual

/-- Floats are finite where `null` is not accepted, and an enum value is a unit
variant whose name is its own and no field's string. -/
def RustType.fits : (type : RustType) → type.Val → Bool
  | .scalar .float, value => Option.isSome value
  | .scalar _, _ => true
  | .vec item, values => List.all values item.fits
  | .option _, none => true
  | .option inner, some value =>
    (serialize inner value).hasType .null || inner.fits value
  | .struct fields, values => fields.fits values
  | .enum variants, value =>
    (variants.unitName? value).any (variants.unitNames.count · = 1) && !variants.fieldTakesString

def Fields.fits : (fields : Fields) → fields.Val → Bool
  | .nil, _ => true
  | .cons name type rest, (value, values) =>
    (rest.names.contains name || type.fits value) && rest.fits values

end

def Variants.unitOnly : Variants → Bool
  | .nil => true
  | .unit _ rest => rest.unitOnly
  | .unnamed _ _ _ => false
  | .named _ _ _ => false

mutual

/-- Every enum in the type has unit variants only. -/
def RustType.unitOnly : RustType → Bool
  | .scalar _ => true
  | .vec item => item.unitOnly
  | .option inner => inner.unitOnly
  | .struct fields => fields.unitOnly
  | .enum variants => variants.unitOnly

def Fields.unitOnly : Fields → Bool
  | .nil => true
  | .cons _ type rest => type.unitOnly && rest.unitOnly

end

theorem names_properties : ∀ fields : Fields, (properties fields).map Prod.fst = fields.names
  | .nil => rfl
  | .cons name _ rest => congrArg (name :: ·) (names_properties rest)

theorem names_serializeFields : ∀ (fields : Fields) (values : fields.Val),
    (serializeFields fields values).map Prod.fst = fields.names
  | .nil, _ => rfl
  | .cons name _ rest, (_, values) =>
    congrArg (name :: ·) (names_serializeFields rest values)

/-- What the schema of a structure asks of the members of an object. -/
def membersAccept (fields : Fields) (members : List (Str × Value)) : Bool :=
  (required fields).all (fun name => (lookup name members).isSome) &&
    propertiesAccept members (properties fields)

theorem membersAccept_cons (name : Str) (type : RustType) (rest : Fields)
    (members : List (Str × Value)) :
    membersAccept (.cons name type rest) members =
      ((type.isOption || (lookup name members).isSome) && (rest.names.contains name ||
          (lookup name members).all (typeToJsonSchema type).accepts) &&
        membersAccept rest members) := by
  simp only [membersAccept, properties, propertiesAccept, required, isSome_lookup, names_properties]
  cases type.isOption with
  | true => simp [Bool.and_left_comm]
  | false => simp [Bool.and_assoc, Bool.and_left_comm]

mutual

theorem accepts_string_eq_false : ∀ (type : RustType), type.takesString = false →
    ∀ text, (typeToJsonSchema type).accepts (.string text) = false
  | .scalar kind, htakes, text => by
      cases kind with
      | string => cases htakes
      | _ => rfl
  | .vec _, _, _ => by rw [typeToJsonSchema, accepts_array]
  | .option inner, htakes, text => by
      rw [typeToJsonSchema, Bool.eq_false_iff, Ne,
        Schema.accepts_nullable (typeToJsonSchema_widens inner), accepts_string_eq_false inner htakes]
      simp
  | .struct _, _, _ => by rw [typeToJsonSchema, accepts_object]
  | .enum variants, htakes, text => by
      simp only [RustType.takesString, Bool.or_eq_false_iff, Bool.not_eq_false',
        List.isEmpty_iff] at htakes
      rw [typeToJsonSchema, accepts_oneOf, countP_string variants htakes.2, htakes.1]
      rfl

/-- A string is accepted by the schemas of the unit variants with this name. -/
theorem countP_string : ∀ (variants : Variants), variants.fieldTakesString = false →
    ∀ text, (variantSchemas variants).countP (· (.string text)) = variants.unitNames.count text
  | .nil, _, _ => rfl
  | .unit name rest, htakes, text => by
      rw [variantSchemas, countP_accepts_cons, accepts_enum, countP_string rest htakes,
        Variants.unitNames, List.count_cons]
      by_cases heq : text = name
      · simp [heq, Nat.add_comm]
      · simp [heq, Ne.symm heq]
  | .unnamed _ (.cons type .nil) rest, htakes, text => by
      simp only [Variants.fieldTakesString, Bool.or_eq_false_iff] at htakes
      rw [variantSchemas, countP_accepts_cons, accepts_string_eq_false type htakes.1,
        countP_string rest htakes.2, Variants.unitNames]
      exact Nat.zero_add _
  | .unnamed _ .nil rest, htakes, text => by
      rw [variantSchemas, countP_accepts_cons, accepts_array, countP_string rest htakes]
      · exact Nat.zero_add _
      · simp
  | .unnamed _ (.cons _ (.cons _ _)) rest, htakes, text => by
      rw [variantSchemas, countP_accepts_cons, accepts_array, countP_string rest htakes]
      · exact Nat.zero_add _
      · simp
  | .named _ _ rest, htakes, text => by
      rw [variantSchemas, countP_accepts_cons, accepts_object, countP_string rest htakes]
      exact Nat.zero_add _

end

theorem serializeVariant_of_unitName : ∀ (variants : Variants) (value : variants.Val) {name : Str},
    variants.unitName? value = some name → serializeVariant variants value = .string name
  | .unit _ _, .inl _, _, hname => by
      cases hname
      rfl
  | .unit _ rest, .inr value, _, hname => serializeVariant_of_unitName rest value hname
  | .unnamed _ (.cons _ .nil) rest, .inr value, _, hname =>
    serializeVariant_of_unitName rest value hname
  | .unnamed _ .nil rest, .inr value, _, hname => serializeVariant_of_unitName rest value hname
  | .unnamed _ (.cons _ (.cons _ _)) rest, .inr value, _, hname =>
    serializeVariant_of_unitName rest value hname
  | .named _ _ rest, .inr value, _, hname => serializeVariant_of_unitName rest value hname

theorem unitOnly_fields : ∀ (variants : Variants), variants.unitOnly = true →
    variants.fieldTakesString = false
  | .nil, _ => rfl
  | .unit _ rest, hunit => unitOnly_fields rest hunit

theorem unitOnly_name : ∀ (variants : Variants) (value : variants.Val),
    variants.unitOnly = true → ∃ name, variants.unitName? value = some name
  | .unit name _, .inl _, _ => ⟨name, rfl⟩
  | .unit _ rest, .inr value, hunit => unitOnly_name rest value hunit

mutual

theorem accepts_serialize : ∀ (type : RustType) (value : type.Val),
    (type.fits value = true →
      (typeToJsonSchema type).accepts (serialize type value) = true) ∧
    (type.unitOnly = true →
      (typeToJsonSchema type).accepts (serialize type value) = true → type.fits value = true)
  | .scalar kind, value => by
      rw [typeToJsonSchema, accepts_type]
      cases kind with
      | float => cases value <;> exact ⟨id, fun _ => id⟩
      | _ => exact ⟨fun _ => rfl, fun _ _ => rfl⟩
  | .vec item, values => by
      rw [typeToJsonSchema, accepts_array]
      refine ⟨fun hfits => ?_, fun hunit haccepts => ?_⟩
      · refine List.all_eq_true.mpr (List.forall_mem_map.mpr fun value hvalue => ?_)
        exact (accepts_serialize item value).1 (List.all_eq_true.mp hfits value hvalue)
      · refine List.all_eq_true.mpr fun value hvalue => ?_
        exact (accepts_serialize item value).2 hunit
          (List.all_eq_true.mp haccepts _ (List.mem_map_of_mem hvalue))
  | .option inner, none =>
    ⟨fun _ => (Schema.accepts_nullable (typeToJsonSchema_widens inner) _).mpr (.inr rfl),
      fun _ _ => rfl⟩
  | .option inner, some value => by
      rw [typeToJsonSchema, Schema.accepts_nullable (typeToJsonSchema_widens inner), serialize,
        RustType.fits, RustType.unitOnly, Bool.or_eq_true, Value.hasType_null, or_comm]
      exact ⟨Or.imp_left (accepts_serialize inner value).1, fun hunit =>
        Or.imp_left ((accepts_serialize inner value).2 hunit)⟩
  | .struct fields, values => by
      rw [typeToJsonSchema, accepts_object]
      exact membersAccept_of_fits fields [] values
  | .enum variants, value => by
      rw [typeToJsonSchema, accepts_oneOf, serialize, RustType.fits, RustType.unitOnly,
        decide_eq_true_eq, Bool.and_eq_true, Bool.not_eq_true']
      constructor
      · rintro ⟨hname, hfields⟩
        obtain ⟨name, hunit, hcount⟩ := (Option.any_eq_true _ _).mp hname
        rw [serializeVariant_of_unitName variants value hunit, countP_string variants hfields]
        exact of_decide_eq_true hcount
      · intro hunit haccepts
        have hfields := unitOnly_fields variants hunit
        obtain ⟨name, hname⟩ := unitOnly_name variants value hunit
        rw [serializeVariant_of_unitName variants value hname,
          countP_string variants hfields] at haccepts
        exact ⟨by simp [hname, haccepts], hfields⟩

theorem membersAccept_of_fits : ∀ (fields : Fields)
    (front : List (Str × Value)) (values : fields.Val),
    (fields.fits values = true →
        membersAccept fields (front ++ serializeFields fields values) = true) ∧
      (fields.unitOnly = true →
        membersAccept fields (front ++ serializeFields fields values) = true →
          fields.fits values = true)
  | .nil, _, _ => ⟨fun _ => rfl, fun _ _ => rfl⟩
  | .cons name type rest, front, (value, values) => by
      have hrest := membersAccept_of_fits rest (front ++ [(name, serialize type value)]) values
      have hlookup : lookup name (front ++ (name, serialize type value) ::
          serializeFields rest values) =
          (lookup name (serializeFields rest values)).or
            (some (serialize type value)) := by
        simp [lookup_append, lookup]
      have hnames := isSome_lookup name (serializeFields rest values)
      rw [names_serializeFields] at hnames
      rw [List.append_assoc] at hrest
      rw [serializeFields, membersAccept_cons, Fields.fits, Fields.unitOnly, hlookup, ← hnames]
      cases lookup name (serializeFields rest values) with
      | none =>
        simp only [Option.isSome_none, Option.none_or, Option.isSome_some, Option.all_some,
          Bool.or_true, Bool.true_and, Bool.false_or, Bool.and_eq_true]
        exact ⟨And.imp (accepts_serialize type value).1 hrest.1, fun hunit =>
          And.imp ((accepts_serialize type value).2 hunit.1) (hrest.2 hunit.2)⟩
      | some found =>
        simp only [Option.isSome_some, Option.some_or, Bool.or_true, Bool.true_or, Bool.true_and,
          Bool.and_eq_true]
        exact ⟨hrest.1, fun hunit => hrest.2 hunit.2⟩

end

namespace DerivedSchemaWitness

def counted : RustType :=
  .enum (.unnamed "Count" (.cons (.scalar .integer) .nil) .nil)

def count (value : Int) : counted.Val :=
  .inl (value, ())

end DerivedSchemaWitness

end McpSdk.DerivedSchema
