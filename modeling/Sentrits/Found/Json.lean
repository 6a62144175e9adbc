import Mathlib.Algebra.Group.Nat.Defs
import Mathlib.Data.List.Basic

/-!
# JSON values

The values of a JSON document, what a decoder asks of them, and what is assumed of a library that
writes them as text and reads them back. Numbers are 64-bit integers, unsigned where a signed one
does not hold them: no other number is ever written, and wherever a decoder looks at a number it
takes no other.

* `ifContains_ofFields`: **reading a field** of an object that was written with some fields left
  out.
* `JsonLibrary`: `parse (serialize v) = v`.
-/

namespace Found

/-- A JSON value. -/
inductive Json
  | null
  | bool (value : Bool)
  | int64 (value : Int64)
  | uint64 (value : UInt64) (high : 2 ^ 63 ≤ value.toNat)
  | string (value : String)
  | array (items : List Json)
  | object (fields : List (String × Json))

namespace Json

/-- The number, as a document has it. -/
def ofUInt64 (value : UInt64) : Json :=
  if high : 2 ^ 63 ≤ value.toNat then uint64 value high
  else int64 (Int64.ofNat value.toNat)

/-! ### Looking at a value -/

/-- A truth value. -/
def asBool : Json → Option Bool
  | bool value => some value
  | _ => none

/-- A signed number. -/
def asInt64 : Json → Option Int64
  | int64 value => some value
  | _ => none

/-- A number that is not negative. -/
def asUInt64 : Json → Option UInt64
  | uint64 value _ => some value
  | int64 value => if 0 ≤ value then some (UInt64.ofNat value.toNatClampNeg) else none
  | _ => none

/-- A text. -/
def asString : Json → Option String
  | string value => some value
  | _ => none

/-- The items of an array. -/
def asArray : Json → Option (List Json)
  | array items => some items
  | _ => none

/-- The fields of an object. -/
def asObject : Json → Option (List (String × Json))
  | object fields => some fields
  | _ => none

/-- A truth value is read back. -/
@[simp]
theorem asBool_bool (value : Bool) : (bool value).asBool = some value := by rfl

/-- A signed number is read back. -/
@[simp]
theorem asInt64_int64 (value : Int64) : (int64 value).asInt64 = some value := by rfl

/-- An unsigned number is read back, of whichever kind it is. -/
@[simp]
theorem asUInt64_ofUInt64 (value : UInt64) : (ofUInt64 value).asUInt64 = some value := by
  unfold ofUInt64
  split_ifs with h
  · rfl
  · have hlow : value.toNat < 2 ^ 63 := by omega
    have hclamp : (Int64.ofNat value.toNat).toNatClampNeg = value.toNat :=
      Int64.toNatClampNeg_ofNat_of_lt hlow
    have hnonneg : 0 ≤ Int64.ofNat value.toNat := by
      rw [Int64.le_iff_toInt_le, Int64.toInt_ofNat_of_lt hlow, Int64.toInt_zero]
      exact Int.natCast_nonneg _
    show (if 0 ≤ Int64.ofNat value.toNat then
      some (UInt64.ofNat (Int64.ofNat value.toNat).toNatClampNeg) else none) = some value
    rw [if_pos hnonneg, hclamp, UInt64.ofNat_toNat]

/-- A text is read back. -/
@[simp]
theorem asString_string (value : String) : (string value).asString = some value := by rfl

/-- An array is read back. -/
@[simp]
theorem asArray_array (items : List Json) : (array items).asArray = some items := by rfl

/-- An object is read back. -/
@[simp]
theorem asObject_object (fields : List (String × Json)) :
    (object fields).asObject = some fields := by
  rfl

/-- A string that must not be empty. -/
def asNonEmptyString (value : Json) : Option String := do
  let text ← value.asString
  if text = "" then none else some text

/-- A text is read where an empty one is refused. -/
theorem asNonEmptyString_eq_some {value : Json} {text : String} :
    asNonEmptyString value = some text ↔ value.asString = some text ∧ text ≠ "" := by
  unfold asNonEmptyString
  rcases value.asString with _ | other
  · simp
  · simp only [Option.bind_eq_bind, Option.bind_some, Option.some.injEq]
    split_ifs with hempty
    · subst hempty
      refine ⟨fun h => (by cases h), fun h => absurd h.1.symm h.2⟩
    · simp only [Option.some.injEq]
      exact ⟨fun h => ⟨h, h ▸ hempty⟩, And.left⟩

/-- A text that is not empty is read back. -/
theorem asNonEmptyString_string {text : String} (h : text ≠ "") :
    asNonEmptyString (.string text) = some text := by
  exact asNonEmptyString_eq_some.mpr ⟨rfl, h⟩

/-- All the strings of an array, if they are all strings. -/
def asStrings (items : List Json) : Option (List String) := items.mapM asString

/-- Reading one thing and then another: what was read first, and what was read with it. -/
theorem exists_of_bind {α β : Type} {x : Option α} {f : α → Option β} {b : β}
    (h : (x >>= f) = some b) : ∃ a, x = some a ∧ f a = some b := by
  exact Option.bind_eq_some_iff.mp h

/-- What is read first is passed on. -/
theorem bind_of_eq_some {α β : Type} {x : Option α} {a : α} (hx : x = some a)
    {f : α → Option β} {y : Option β} (h : f a = y) : (x >>= f) = y := by
  rw [hx]
  exact h

/-- A list is read back when its parts are. -/
theorem mapM_map_of_readsBack {α : Type} {decode : Json → Option α} {encode : α → Json}
    {values : List α} (h : ∀ value ∈ values, decode (encode value) = some value) :
    (values.map encode).mapM decode = some values := by
  induction values with
  | nil => rfl
  | cons value values ih =>
      rw [List.map_cons, List.mapM_cons, h value List.mem_cons_self,
        ih fun other hother => h other (List.mem_cons_of_mem value hother)]
      rfl

/-- Texts are read back. -/
@[simp]
theorem asStrings_map_string (values : List String) :
    asStrings (values.map string) = some values := by
  exact mapM_map_of_readsBack fun value _ => asString_string value

/-- Every part of what a list is read as was read from a part of the list. -/
theorem exists_of_mem_mapM {α β : Type} {f : α → Option β} {as : List α} {bs : List β} {b : β}
    (h : as.mapM f = some bs) (hb : b ∈ bs) : ∃ a ∈ as, f a = some b := by
  induction as generalizing bs with
  | nil =>
      cases h
      exact absurd hb List.not_mem_nil
  | cons first as ih =>
      rw [List.mapM_cons] at h
      obtain ⟨b', hfirst, h⟩ := exists_of_bind h
      obtain ⟨rest, hrest, heq⟩ := exists_of_bind h
      cases heq
      rcases List.mem_cons.mp hb with rfl | hb
      · exact ⟨first, List.mem_cons_self, hfirst⟩
      · rcases ih hrest hb with ⟨a, ha, hab⟩
        exact ⟨a, List.mem_cons_of_mem first ha, hab⟩

/-- What a part of a list is read as is among what the list is read as. -/
theorem mem_of_mapM {α β : Type} {f : α → Option β} {as : List α} {bs : List β} {a : α} {b : β}
    (h : as.mapM f = some bs) (ha : a ∈ as) (hab : f a = some b) : b ∈ bs := by
  induction as generalizing bs with
  | nil => exact absurd ha List.not_mem_nil
  | cons first as ih =>
      rw [List.mapM_cons] at h
      obtain ⟨b', hfirst, h⟩ := exists_of_bind h
      obtain ⟨rest, hrest, heq⟩ := exists_of_bind h
      cases heq
      rcases List.mem_cons.mp ha with rfl | ha
      · rw [hfirst] at hab
        rw [Option.some.inj hab]
        exact List.mem_cons_self
      · exact List.mem_cons_of_mem b' (ih hrest ha)

/-- A list is read as a whole exactly when all its parts are. -/
theorem isSome_mapM_iff {α β : Type} {f : α → Option β} {as : List α} :
    (as.mapM f).isSome = true ↔ ∀ a ∈ as, (f a).isSome = true := by
  induction as with
  | nil => simp
  | cons first as ih =>
      rw [List.mapM_cons, List.forall_mem_cons, ← ih]
      rcases f first with _ | b
      · simp
      · rcases as.mapM f with _ | bs <;> simp

/-! ### Objects -/

/-- The field of that name, if there is one. -/
def ifContains (fields : List (String × Json)) (key : String) : Option Json := fields.lookup key

/-- Reads a field that must be there. -/
def required {α : Type} (decode : Json → Option α) (field : Option Json) : Option α :=
  field.bind decode

/-- Reads a field that may be missing. -/
def orNone {α : Type} (decode : Json → Option α) : Option Json → Option (Option α)
  | none => some none
  | some value => (decode value).map some

/-- Reads a field that has a default. -/
def orDefault {α : Type} (fallback : α) (decode : Json → Option α) : Option Json → Option α
  | none => some fallback
  | some value => decode value

/-- What is read from a field that must be there is passed on. -/
theorem bind_required {α β : Type} {decode : Json → Option α} {field value : Option Json} {a : α}
    {f : α → Option β} {y : Option β} (hfield : field = value)
    (hread : required decode value = some a) (h : f a = y) :
    (required decode field >>= f) = y := by
  exact bind_of_eq_some ((congrArg (required decode) hfield).trans hread) h

/-- What is read from a field that may be missing is passed on. -/
theorem bind_orNone {α β : Type} {decode : Json → Option α} {field value : Option Json}
    {a : Option α} {f : Option α → Option β} {y : Option β} (hfield : field = value)
    (hread : orNone decode value = some a) (h : f a = y) : (orNone decode field >>= f) = y := by
  exact bind_of_eq_some ((congrArg (orNone decode) hfield).trans hread) h

/-- What is read from a field that has a default is passed on. -/
theorem bind_orDefault {α β : Type} {fallback : α} {decode : Json → Option α}
    {field value : Option Json} {a : α} {f : α → Option β} {y : Option β} (hfield : field = value)
    (hread : orDefault fallback decode value = some a) (h : f a = y) :
    (orDefault fallback decode field >>= f) = y := by
  exact bind_of_eq_some ((congrArg (orDefault fallback decode) hfield).trans hread) h

/-- A field that is there is decoded. -/
@[simp]
theorem required_some {α : Type} (decode : Json → Option α) (value : Json) :
    required decode (some value) = decode value := by rfl

/-- A field that is there is decoded, whatever the default. -/
@[simp]
theorem orDefault_some {α : Type} (fallback : α) (decode : Json → Option α) (value : Json) :
    orDefault fallback decode (some value) = decode value := by rfl

/-- A missing field is read as missing, and one that was written is read back. -/
@[simp]
theorem orNone_map {α : Type} {decode : Json → Option α} {encode : α → Json}
    (h : ∀ a, decode (encode a) = some a) (value : Option α) :
    orNone decode (value.map encode) = some value := by
  rcases value with _ | a
  · rfl
  · show (decode (encode a)).map some = some (some a)
    rw [h]
    rfl

/-- What an optional field is read as, when there is something, some value decodes to. -/
theorem exists_of_orNone {α : Type} {decode : Json → Option α} {field : Option Json} {a : α}
    (h : orNone decode field = some (some a)) : ∃ value, decode value = some a := by
  rcases field with _ | value
  · cases h
  · rcases Option.map_eq_some_iff.mp h with ⟨b, hdecode, heq⟩
    exact ⟨value, hdecode.trans (congrArg some (Option.some.inj heq))⟩

/-- Writes an object, leaving out the fields that have no value. -/
def ofFields (fields : List (String × Option Json)) : List (String × Json) :=
  fields.filterMap fun field => field.2.map fun value => (field.1, value)

/-- A key that is not written is not there. -/
theorem ifContains_ofFields_of_notMem {fields : List (String × Option Json)} {key : String}
    (h : key ∉ fields.map Prod.fst) : ifContains (ofFields fields) key = none := by
  unfold ifContains
  rw [List.lookup_eq_none_iff]
  intro field hfield
  unfold ofFields at hfield
  rw [List.mem_filterMap] at hfield
  rcases hfield with ⟨source, hsource, hmap⟩
  rw [Option.map_eq_some_iff] at hmap
  rcases hmap with ⟨value, -, rfl⟩
  rw [bne_iff_ne]
  rintro rfl
  exact h (List.mem_map_of_mem hsource)

/-- **Reading back a field**: it has the value it was written with, or is missing if it had none. -/
theorem ifContains_ofFields {fields : List (String × Option Json)}
    (hnodup : (fields.map Prod.fst).Nodup) (key : String) :
    ifContains (ofFields fields) key = (fields.lookup key).join := by
  induction fields with
  | nil => rfl
  | cons field fields ih =>
      rcases field with ⟨name, value⟩
      rw [List.map_cons, List.nodup_cons] at hnodup
      by_cases hkey : key = name
      · subst hkey
        rw [List.lookup_cons_self]
        rcases value with _ | value
        · show ifContains (ofFields fields) key = none
          exact ifContains_ofFields_of_notMem hnodup.1
        · exact List.lookup_cons_self
      · have hne : (key == name) = false := beq_eq_false_iff_ne.mpr hkey
        have hlookup : List.lookup key ((name, value) :: fields) = List.lookup key fields := by
          rw [List.lookup_cons, hne]
        rw [hlookup, ← ih hnodup.2]
        rcases value with _ | value
        · rfl
        · show List.lookup key ((name, value) :: ofFields fields) = _
          rw [List.lookup_cons, hne]
          rfl

/-- The field of that name in the list that is written, read back. -/
theorem ifContains_of_lookup {fields : List (String × Option Json)}
    (hnodup : (fields.map Prod.fst).Nodup) {key : String} {value : Option Json}
    (h : fields.lookup key = some value) : ifContains (ofFields fields) key = value := by
  rw [ifContains_ofFields hnodup, h, Option.join_some]

end Json

/-- A library that writes values as text and reads them back. -/
structure JsonLibrary where
  serialize : Json → String
  parse : String → Option Json
  parse_serialize : ∀ value, parse (serialize value) = some value

end Found
