/-
What `mcp_elicit` generates for a form: the fields of the struct are taken out
of the content one after the other.
-/
import McpSdk.RustStr
import McpSdk.SseEvent
import Mathlib.Data.List.AList

namespace McpSdk.Elicit

open List

inductive ElicitResultContent where
  | string (value : Str)
  | integer (value : Int)
  | boolean (value : Bool)
  | stringArray (value : List Str)

/-- The types that `match_type` supports. -/
inductive FieldType where
  | string
  | bool
  | i32
  | i64
  | vecString

/-- A field under its name in JSON, of type `T` or `Option<T>`. -/
structure Field where
  key : Str
  type : FieldType
  isOption : Bool

def FieldType.expected : FieldType → Str
  | .string => "string"
  | .bool => "bool"
  | .i32 => "i32"
  | .i64 => "i64"
  | .vecString => "string array"

/-- The pattern and the conversion of `match_type`. -/
def FieldType.convert (key : Str) :
    FieldType → ElicitResultContent → Option (Except Str ElicitResultContent)
  | .string, .string value => some (.ok (.string value))
  | .bool, .boolean value => some (.ok (.boolean value))
  | .i32, .integer value =>
    some (if -2147483648 ≤ value ∧ value ≤ 2147483647 then .ok (.integer value)
      else .error ("i32 overflow in field '" ++ key ++ "'"))
  | .i64, .integer value => some (.ok (.integer value))
  | .vecString, .stringArray value => some (.ok (.stringArray value))
  | _, _ => none

-- The `Debug` text of a content.
variable (debug : ElicitResultContent → Str)

def Field.read (field : Field) :
    Option ElicitResultContent → Except Str (Option ElicitResultContent)
  | some content =>
    match field.type.convert field.key content with
    | some converted => converted.map some
    | none => .error ("Type mismatch for " ++
        (if field.isOption then "optional" else "required") ++ " field '" ++ field.key ++
        "': expected " ++ field.type.expected ++ ", got " ++ debug content)
  | none =>
    if field.isOption then .ok none
    else .error ("Missing required field '" ++ field.key ++ "'")

/-- The statements of `generate_from_impl`, with `map.remove` for each field. -/
def decode : List Field → AList (fun _ : Str => ElicitResultContent) →
    Except Str (List (Option ElicitResultContent))
  | [], _ => .ok []
  | field :: fields, map => do
    let value ← field.read debug (map.lookup field.key)
    let values ← decode fields (map.erase field.key)
    return value :: values

/-- The values that a field of the struct can have. -/
def Field.Fits (field : Field) : Option ElicitResultContent → Prop
  | some content => field.type.convert field.key content = some (.ok content)
  | none => field.isOption = true

/-- The content that says just these values. -/
def encode : List Field → List (Option ElicitResultContent) →
    AList (fun _ : Str => ElicitResultContent)
  | field :: fields, some content :: values => (encode fields values).insert field.key content
  | _ :: fields, none :: values => encode fields values
  | _, _ => ∅

variable {debug} {fields : List Field} {values : List (Option ElicitResultContent)}
  {map : AList (fun _ : Str => ElicitResultContent)}

theorem Field.Fits.read {field : Field} {value : Option ElicitResultContent}
    (hfits : field.Fits value) : field.read debug value = .ok value := by
  cases value with
  | none => exact if_pos hfits
  | some content =>
    have hconvert : field.type.convert field.key content = some (.ok content) := hfits
    simp only [Field.read, hconvert, Except.map]

def FieldType.sample : FieldType → ElicitResultContent
  | .string => .string []
  | .bool => .boolean true
  | .i32 | .i64 => .integer 0
  | .vecString => .stringArray []

theorem Field.fits_sample (field : Field) : field.Fits (some field.type.sample) := by
  unfold Field.Fits
  cases field.type <;> rfl

theorem decode_cons_eq_ok {field : Field}
    (hdecode : decode debug (field :: fields) map = .ok values) :
    ∃ value rest, values = value :: rest ∧ field.read debug (map.lookup field.key) = .ok value ∧
        decode debug fields (map.erase field.key) = .ok rest := by
  rw [decode] at hdecode
  cases hread : field.read debug (map.lookup field.key) with
  | error => simp [hread, bind, Except.bind] at hdecode
  | ok value =>
    cases hrest : decode debug fields (map.erase field.key) with
    | error => simp [hread, hrest, bind, Except.bind] at hdecode
    | ok rest =>
      simp only [hread, hrest, bind, Except.bind, pure, Except.pure, Except.ok.injEq] at hdecode
      exact ⟨value, rest, hdecode.symm, rfl, rfl⟩

/-- What is not in the content is read as nothing. -/
theorem none_mem_of_decode {field : Field} (hfield : field ∈ fields)
    (hlookup : map.lookup field.key = none) (hdecode : decode debug fields map = .ok values) :
    none ∈ values := by
  induction fields generalizing map values with
  | nil => cases hfield
  | cons first fields ih =>
    obtain ⟨value, rest, rfl, hread, hrest⟩ := decode_cons_eq_ok hdecode
    rcases mem_cons.mp hfield with rfl | hmem
    · rw [hlookup, Field.read] at hread
      split at hread
      · cases hread
        exact mem_cons_self
      · cases hread
    · refine mem_cons_of_mem _ (ih hmem ?_ hrest)
      by_cases hkey : field.key = first.key
      · rw [hkey, AList.lookup_erase]
      · rw [AList.lookup_erase_ne hkey, hlookup]

theorem nodup_of_decode (hdecode : decode debug fields map = .ok values)
    (hsome : ∀ value ∈ values, value ≠ none) : (fields.map Field.key).Nodup := by
  induction fields generalizing map values with
  | nil => exact nodup_nil
  | cons first fields ih =>
    obtain ⟨value, rest, rfl, -, hrest⟩ := decode_cons_eq_ok hdecode
    have htail := (forall_mem_cons.mp hsome).2
    refine nodup_cons.mpr ⟨fun hmem => ?_, ih hrest htail⟩
    obtain ⟨field, hfield, hkey⟩ := mem_map.mp hmem
    have hlookup : (map.erase first.key).lookup field.key = none := by
      rw [hkey, AList.lookup_erase]
    exact htail none (none_mem_of_decode hfield hlookup hrest) rfl

theorem lookup_encode_cons_ne {field : Field} {key : Str} (hkey : key ≠ field.key)
    (value : Option ElicitResultContent) :
    (encode (field :: fields) (value :: values)).lookup key =
      (encode fields values).lookup key := by
  cases value with
  | none => rfl
  | some content => exact AList.lookup_insert_ne hkey

theorem lookup_encode_of_not_mem {key : Str} (hkey : key ∉ fields.map Field.key) :
    (encode fields values).lookup key = none := by
  induction fields generalizing values with
  | nil => rfl
  | cons field fields ih =>
    obtain ⟨hne, hmem⟩ := not_or.mp (mem_cons.not.mp hkey)
    cases values with
    | nil => rfl
    | cons value values => rw [lookup_encode_cons_ne hne, ih hmem]

theorem lookup_encode_cons {field : Field} (hkey : field.key ∉ fields.map Field.key)
    (value : Option ElicitResultContent) :
    (encode (field :: fields) (value :: values)).lookup field.key = value := by
  cases value with
  | none =>
    change (encode fields values).lookup field.key = none
    exact lookup_encode_of_not_mem hkey
  | some content => exact AList.lookup_insert _

/-- Where the keys are distinct, every field finds what the whole content has. -/
theorem decode_of_lookup_eq (hkeys : (fields.map Field.key).Nodup)
    (hfits : Forall₂ Field.Fits fields values)
    (hmap : ∀ field ∈ fields, map.lookup field.key = (encode fields values).lookup field.key) :
    decode debug fields map = .ok values := by
  induction hfits generalizing map with
  | nil => rfl
  | @cons field value fields values hfits _ ih =>
    obtain ⟨hkey, hkeys⟩ := nodup_cons.mp hkeys
    have hread := hmap field mem_cons_self
    rw [lookup_encode_cons hkey] at hread
    have hrest : decode debug fields (map.erase field.key) = .ok values := by
      refine ih hkeys fun other hother => ?_
      have hne : other.key ≠ field.key := by
        intro heq
        exact hkey (heq ▸ mem_map_of_mem hother)
      rw [AList.lookup_erase_ne hne, hmap other (mem_cons_of_mem _ hother),
        lookup_encode_cons_ne hne]
    rw [decode, hread, hfits.read, hrest]
    rfl

/-- Every value is read back exactly if no two fields have one name in JSON. -/
theorem decode_encode_iff (debug : ElicitResultContent → Str) (fields : List Field) :
    (∀ values, Forall₂ Field.Fits fields values →
        decode debug fields (encode fields values) = .ok values) ↔
      (fields.map Field.key).Nodup := by
  constructor
  · intro hround
    have hfits : Forall₂ Field.Fits fields (fields.map fun field => some field.type.sample) :=
      forall₂_map_right_iff.mpr (forall₂_same.mpr fun field _ => field.fits_sample)
    exact nodup_of_decode (hround _ hfits) (by simp)
  · intro hkeys values hfits
    exact decode_of_lookup_eq hkeys hfits fun _ _ => rfl

end McpSdk.Elicit
