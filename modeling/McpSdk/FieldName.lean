/-
The name of a field in a derived schema and in the decoder of an elicitation
result. `renamed_field` gives up at the first item of a `serde` attribute that
is not taken whole, and `json_field_name` reads all items.
-/
import McpSdk.CallList
import McpSdk.SseEvent

namespace McpSdk.FieldName

open List

/-- The path of an item, as far as the two readers ask for it. -/
inductive Path where
  | rename
  | serialize
  | deserialize
  | other (text : Str)
deriving Repr, DecidableEq

/-- The value of an item: a string, another literal or another expression. -/
inductive Value where
  | str (text : Str)
  | lit
  | expr
deriving Repr, DecidableEq

inductive Inner where
  | nameValue (path : Path) (value : Value)
  | other
deriving Repr, DecidableEq

/-- An item of an attribute.  A list has no items if they cannot be parsed. -/
inductive Item where
  | path (path : Path)
  | nameValue (path : Path) (value : Value)
  | list (path : Path) (inner : Option (List Inner))
deriving Repr, DecidableEq

structure Attribute where
  isSerde : Bool
  items : List Item
deriving Repr, DecidableEq

structure Field where
  ident : Str
  attrs : List Attribute
deriving Repr, DecidableEq

/-- Whether the callback of `renamed_field` leaves nothing of the item. -/
def Item.isTaken : Item → Bool
  | .path _ => true
  | .nameValue .rename (.str _) => true
  | .nameValue .rename .lit => true
  | _ => false

/-- The name that the callback of `renamed_field` takes from the item. -/
def Item.plain : Item → Option Str
  | .nameValue .rename (.str text) => some text
  | _ => none

def parseNestedMeta (renamed : Option Str) : List Item → Option Str
  | [] => renamed
  | item :: rest =>
    let renamed := item.plain.or renamed
    if item.isTaken then parseNestedMeta renamed rest else renamed

def renamedField (attrs : List Attribute) : Option Str :=
  attrs.foldl (fun renamed attr =>
    if attr.isSerde then parseNestedMeta renamed attr.items else renamed) none

def schemaFieldName (field : Field) : Str :=
  (renamedField field.attrs).getD field.ident

def Inner.name : Inner → Option Str
  | .nameValue .serialize (.str text) => some text
  | .nameValue .deserialize (.str text) => some text
  | _ => none

/-- The first name that an attribute gives to `json_field_name`. -/
def attributeName : List Item → Option Str
  | [] => none
  | .nameValue .rename (.str text) :: _ => some text
  | .list .rename none :: _ => none
  | .list .rename (some inner) :: rest =>
    (inner.findSome? Inner.name).or (attributeName rest)
  | _ :: rest => attributeName rest

def jsonFieldName (field : Field) : Str :=
  ((field.attrs.filter (·.isSerde)).findSome? fun attr => attributeName attr.items).getD field.ident

def serdeItems (attrs : List Attribute) : List Item :=
  (attrs.filter (·.isSerde)).flatMap (·.items)

def Item.serializeNames : Item → Nat
  | .nameValue .rename _ => 1
  | .list .rename (some inner) =>
    inner.countP fun
      | .nameValue .serialize _ => true
      | _ => false
  | _ => 0

/-- The forms of `rename` that serde knows. -/
def Item.isAccepted : Item → Bool
  | .path .rename => false
  | .nameValue .rename (.str _) => true
  | .nameValue .rename _ => false
  | .list .rename none => false
  | .list .rename (some inner) => inner.all (·.name.isSome)
  | _ => true

/-- What serde asks of the renames of a field. -/
structure SerdeAccepts (attrs : List Attribute) : Prop where
  forms : ∀ item ∈ serdeItems attrs, item.isAccepted = true
  once : CallList.total Item.serializeNames (serdeItems attrs) ≤ 1

def Item.name : Item → Option Str
  | .nameValue .rename (.str text) => some text
  | .list .rename (some inner) => inner.findSome? Inner.name
  | _ => none

/-- The plain renames that only items without a value stand before. -/
def visible (attrs : List Attribute) : List Str :=
  (attrs.filter (·.isSerde)).flatMap fun attr =>
    (attr.items.takeWhile Item.isTaken).filterMap Item.plain

theorem parseNestedMeta_eq (renamed : Option Str) (items : List Item) :
    parseNestedMeta renamed items =
      ((items.takeWhile Item.isTaken).filterMap Item.plain).getLast?.or renamed := by
  induction items generalizing renamed with
  | nil => simp [parseNestedMeta]
  | cons item rest ih =>
    rw [parseNestedMeta, takeWhile_cons]
    cases htaken : item.isTaken with
    | true =>
      cases hplain : item.plain <;> simp [ih, hplain, getLast?_cons]
    | false =>
      have hplain : item.plain = none := by
        unfold Item.isTaken at htaken
        unfold Item.plain
        grind
      simp [hplain]

theorem renamedField_eq (attrs : List Attribute) :
    renamedField attrs = (visible attrs).getLast? := by
  have hfold : ∀ renamed, attrs.foldl (fun renamed attr =>
      if attr.isSerde then parseNestedMeta renamed attr.items else renamed)
        renamed = (visible attrs).getLast?.or renamed := by
    induction attrs with
    | nil => simp [visible]
    | cons attr attrs ih =>
      intro renamed
      rw [foldl_cons, ih]
      cases hserde : attr.isSerde with
      | false => simp [visible, hserde]
      | true =>
        simp only [if_true, parseNestedMeta_eq, visible, filter_cons,
          hserde, flatMap_cons, getLast?_append, Option.or_assoc]
  rw [renamedField, hfold, Option.or_none]

theorem visible_sublist (attrs : List Attribute) :
    (visible attrs).Sublist ((serdeItems attrs).filterMap Item.plain) := by
  rw [visible, serdeItems]
  induction attrs.filter (·.isSerde) with
  | nil => exact .slnil
  | cons attr attrs ih =>
    rw [flatMap_cons, flatMap_cons, filterMap_append]
    exact ((takeWhile_sublist _).filterMap _).append ih

theorem Item.name_of_plain {item : Item} {name : Str}
    (hplain : item.plain = some name) : item.name = some name := by
  unfold Item.plain at hplain
  split at hplain
  · exact hplain
  · cases hplain

theorem length_plain_le (items : List Item) :
    (items.filterMap Item.plain).length ≤ CallList.total Item.serializeNames items := by
  induction items with
  | nil => simp
  | cons item items ih =>
    have hitem : item.plain.toList.length ≤ item.serializeNames := by
      unfold Item.plain Item.serializeNames
      grind
    change _ ≤ item.serializeNames + CallList.total Item.serializeNames items
    rw [filterMap_cons]
    cases hplain : item.plain with
    | none => exact ih.trans (Nat.le_add_left _ _)
    | some name =>
      rw [hplain] at hitem
      rw [length_cons, Nat.add_comm]
      exact Nat.add_le_add hitem ih

theorem attributeName_cons {item : Item} (hitem : item.isAccepted = true) (rest : List Item) :
    attributeName (item :: rest) = item.name.or (attributeName rest) := by
  cases item with
  | path path => rfl
  | nameValue path value => cases path <;> cases value <;> rfl
  | list path inner =>
    cases path with
    | rename =>
      cases inner with
      | none => cases hitem
      | some inner => rfl
    | _ => rfl

theorem attributeName_eq {items : List Item} (hitems : ∀ item ∈ items, item.isAccepted = true) :
    attributeName items = items.findSome? Item.name := by
  induction items with
  | nil => rfl
  | cons item rest ih =>
    rw [forall_mem_cons] at hitems
    rw [attributeName_cons hitems.1, ih hitems.2, findSome?_cons]
    cases item.name <;> rfl

theorem jsonFieldName_eq {field : Field} (haccepts : SerdeAccepts field.attrs) :
    jsonFieldName field = ((serdeItems field.attrs).findSome? Item.name).getD field.ident := by
  have hforms := haccepts.forms
  unfold jsonFieldName
  unfold serdeItems at hforms ⊢
  congr 1
  generalize field.attrs.filter (·.isSerde) = attrs at hforms ⊢
  induction attrs with
  | nil => rfl
  | cons attr attrs ih =>
    simp only [flatMap_cons, forall_mem_append] at hforms
    rw [findSome?_cons, flatMap_cons, findSome?_append, attributeName_eq hforms.1, ih hforms.2]
    cases attr.items.findSome? Item.name <;> rfl

/-- The names agree exactly when the first rename is the plain one that
`renamed_field` reaches, or changes nothing while it reaches none. -/
theorem names_agree_iff (field : Field) (haccepts : SerdeAccepts field.attrs) :
    schemaFieldName field = jsonFieldName field ↔
      ∀ name, (serdeItems field.attrs).findSome? Item.name = some name →
        visible field.attrs = [name] ∨ visible field.attrs = [] ∧ name = field.ident := by
  have hsublist := visible_sublist field.attrs
  have hlength := hsublist.length_le.trans ((length_plain_le _).trans haccepts.once)
  rw [jsonFieldName_eq haccepts, schemaFieldName, renamedField_eq]
  cases hfirst : (serdeItems field.attrs).findSome? Item.name with
  | none =>
    have hnone : visible field.attrs = [] := by
      refine eq_nil_iff_forall_not_mem.mpr fun name hname => ?_
      obtain ⟨item, hitem, hplain⟩ := mem_filterMap.mp (hsublist.subset hname)
      have hname := findSome?_eq_none_iff.mp hfirst item hitem
      rw [Item.name_of_plain hplain] at hname
      cases hname
    simp [hnone]
  | some name =>
    match hvisible : visible field.attrs, hlength with
    | [], _ => simp [eq_comm]
    | [other], _ => simp

namespace FieldNameWitness

/-- `#[serde(skip_serializing)] #[serde(rename = "type")]` -/
def renamed : Field :=
  ⟨"kind", [⟨true, [.path (.other "skip_serializing")]⟩,
    ⟨true, [.nameValue .rename (.str "type")]⟩]⟩

theorem renamed_accepted : SerdeAccepts renamed.attrs :=
  ⟨by decide, by decide⟩

theorem renamed_agrees : schemaFieldName renamed = jsonFieldName renamed := by
  refine (names_agree_iff renamed renamed_accepted).mpr ?_
  intro name hname
  cases hname
  exact .inl rfl

/-- `#[serde(default = "unknown", rename = "type")]` -/
def hidden : Field :=
  ⟨"kind", [⟨true, [.nameValue (.other "default") (.str "unknown"),
    .nameValue .rename (.str "type")]⟩]⟩

theorem hidden_disagrees :
    SerdeAccepts hidden.attrs ∧ schemaFieldName hidden = "kind" ∧ jsonFieldName hidden = "type" :=
  ⟨⟨by decide, by decide⟩, rfl, rfl⟩

end FieldNameWitness

end McpSdk.FieldName
