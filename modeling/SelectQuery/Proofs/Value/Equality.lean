import SelectQuery.Proofs.Value.Document

/-!
# Values that equal themselves

`Value.same` compares numbers by their value, so NaN is not equal to itself, and it looks the
fields of one object up in the other, so an object with two fields of one name need not be
equal to itself either. A value from a document without NaN is (`same_self`).
-/

namespace SelectQuery

theorem Binary64.same_self {x : Binary64} (h : x ≠ .nan) : x.same x = true := by
  cases x with
  | nan => exact absurd rfl h
  | infinity negative => simp [Binary64.same]
  | finite negative mantissa exponent form => simp [Binary64.same]

namespace Value

mutual

/-- NaN stands nowhere in a value. -/
def IsNaNFree : Value → Prop
  | .float x => x ≠ .nan
  | .list items => AreNaNFree items
  | .object fields => FieldsAreNaNFree fields
  | _ => True

/-- NaN stands nowhere in some values. -/
def AreNaNFree : List Value → Prop
  | [] => True
  | x :: rest => x.IsNaNFree ∧ AreNaNFree rest

/-- NaN stands nowhere in the values of some fields. -/
def FieldsAreNaNFree : List (String × Value) → Prop
  | [] => True
  | (_, x) :: rest => x.IsNaNFree ∧ FieldsAreNaNFree rest

end

/-! ## Fields -/

@[simp] theorem field?_nil (key : String) : field? key [] = none := rfl

@[simp] theorem field?_cons (key name : String) (v : Value) (fields : List (String × Value)) :
    field? key ((name, v) :: fields) = if key = name then some v else field? key fields := by
  by_cases h : key = name
  · simp [field?, h]
  · have hne : (key == name) = false := by simpa using h
    simp [field?, List.lookup_cons, h, hne]

@[simp] theorem field?_append (key : String) (fs gs : List (String × Value)) :
    field? key (fs ++ gs) = (field? key fs).or (field? key gs) := List.lookup_append

/-- With distinct names, a field is found under its name. -/
theorem field?_of_mem {fields : List (String × Value)} {key : String} {x : Value}
    (hnames : (fields.map Prod.fst).Nodup) (h : (key, x) ∈ fields) :
    field? key fields = some x := by
  induction fields with
  | nil => simp at h
  | cons field rest ih =>
      obtain ⟨name, y⟩ := field
      rw [List.map_cons, List.nodup_cons] at hnames
      rw [field?_cons]
      rcases List.mem_cons.mp h with heq | hrest
      · obtain ⟨rfl, rfl⟩ := Prod.mk.inj heq
        exact if_pos rfl
      · have hne : key ≠ name := by
          rintro rfl
          exact hnames.1 (List.mem_map.mpr ⟨(key, x), hrest, rfl⟩)
        rw [if_neg hne]
        exact ih hnames.2 hrest

/-! ## Equality -/

mutual

theorem same_self : ∀ x : Value, x.IsDocument → x.IsNaNFree → x.same x = true
  | .null, _, _ => rfl
  | .bool b, _, _ => by simp [same, number?, Number.same]
  | .int n, _, _ => by simp [same, number?, Number.same]
  | .float x, _, hx => Binary64.same_self hx
  | .text s, _, _ => by simp [same]
  | .list items, hdoc, hfree => sameItems_self items hdoc hfree
  | .object fields, hdoc, hfree => by
      have hfields := sameFields_self fields fields hdoc.2 hfree
        fun key x h => field?_of_mem hdoc.1 h
      simp [same, hfields]

theorem sameItems_self : ∀ items : List Value, AreDocuments items → AreNaNFree items →
    sameItems items items = true
  | [], _, _ => rfl
  | x :: rest, hdoc, hfree => by
      rw [sameItems, same_self x hdoc.1 hfree.1, sameItems_self rest hdoc.2 hfree.2]
      rfl

/-- Fields are equal to those of an object that has them all. -/
theorem sameFields_self : ∀ (fields all : List (String × Value)), FieldsAreDocuments fields →
    FieldsAreNaNFree fields → (∀ key x, (key, x) ∈ fields → field? key all = some x) →
    sameFields fields all = true
  | [], _, _, _, _ => rfl
  | (key, x) :: rest, all, hdoc, hfree, hall => by
      have hrest := sameFields_self rest all hdoc.2 hfree.2 fun name y h =>
        hall name y (List.mem_cons_of_mem _ h)
      simp [sameFields, hall key x List.mem_cons_self, same_self x hdoc.1 hfree.1, hrest]

end

end Value
end SelectQuery
