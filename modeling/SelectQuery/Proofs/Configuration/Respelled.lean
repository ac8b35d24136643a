import SelectQuery.Proofs.Configuration.Loaded
import SelectQuery.Proofs.Text.Case
import SelectQuery.Proofs.Value.Equality

/-!
# Spellings of a document

A document may spell a field in two ways and may give it as null. Dropping what is null and
changing a spelling makes no difference to loading, at any depth of the document: the same
configuration comes out, or the same error with the same path, and the same identifiers are
taken (`Configuration.load_respelled`).

The loaders look at an object only through the fields that they find in it (`found`), and a
respelling changes these in one way: the items of one field may be respelled themselves.
-/

namespace SelectQuery

/-! ## Respellings -/

/-- The kinds of object in the document of a configuration. -/
inductive Part
  | table | column | joinCondition | join | condition | ordering | configuration

namespace Part

/-- The fields that are read from an object, each with its spellings. -/
def fields : Part → List (List String)
  | .table => [["name", "tableName", "table_name"], ["schema"], ["alias"]]
  | .column =>
    [["aggregateFunction", "aggregate_function", "function"], ["tableName", "table_name"],
      ["columnName", "column_name"], ["schema"], ["alias"],
      ["functionParams", "function_params"]]
  | .joinCondition => [["leftColumn", "left_column"], ["rightColumn", "right_column"], ["id"]]
  | .join =>
    [["joinType", "join_type", "type"], ["additionalConditions", "additional_conditions"],
      ["leftTable", "left_table"], ["leftColumn", "left_column"],
      ["rightTable", "right_table"], ["rightColumn", "right_column"], ["id"]]
  | .condition =>
    [["logicalOperator", "logical_operator"], ["value"], ["column"], ["operator"], ["id"]]
  | .ordering => [["column"], ["direction"]]
  | .configuration =>
    [["limit"], ["selectedTables", "selected_tables"], ["selectedColumns", "selected_columns"],
      ["joins"], ["conditions"], ["groupBy", "group_by"], ["orderBy", "order_by"],
      ["distinct"]]

/-- The fields that hold further objects, and their kinds. -/
def children : Part → List (List String × Part)
  | .configuration =>
    [(["selectedTables", "selected_tables"], .table),
      (["selectedColumns", "selected_columns"], .column), (["joins"], .join),
      (["conditions"], .condition), (["orderBy", "order_by"], .ordering)]
  | .join => [(["additionalConditions", "additional_conditions"], .joinCondition)]
  | _ => []

end Part

/-- An upper case letter inside a key, as it is spelled with an underscore. -/
def snakeChar (c : Char) : List Char := if c.isUpper then ['_', c.toLower] else [c]

/-- A key in lower case with underscores between its words. -/
def snakeCase (key : String) : String := String.ofList (key.toList.flatMap snakeChar)

/-- A field under a new key. -/
def renameField (key : String) (field : String × Value) : String × Value :=
  if field.1 = key then (snakeCase key, field.2) else field

/-- An object of a document and the same in another spelling: keys that are null have been
dropped, keys have been put in lower case with underscores where the object did not have
both, and objects inside have been respelled. -/
inductive Value.Respelled : Part → Value → Value → Prop
  | same (part : Part) (v : Value) : Value.Respelled part v v
  | trans {part : Part} {u v w : Value} (huv : Value.Respelled part u v)
      (hvw : Value.Respelled part v w) : Value.Respelled part u w
  | withoutNull {part : Part} {fields : List (String × Value)} (key : String)
      (hnull : Value.field? key fields = some .null) :
      Value.Respelled part (.object fields) (.object (fields.filter (·.1 != key)))
  | renamed {part : Part} {fields : List (String × Value)} (key : String)
      (hfree : snakeCase key ∉ fields.map Prod.fst) :
      Value.Respelled part (.object fields) (.object (fields.map (renameField key)))
  | inside {part child : Part} {keys : List String} {key : String}
      (hchild : (keys, child) ∈ part.children) (hkey : key ∈ keys)
      (before after : List (String × Value)) (front back : List Value) {v w : Value}
      (hitem : Value.Respelled child v w) :
      Value.Respelled part (.object (before ++ (key, .list (front ++ v :: back)) :: after))
        (.object (before ++ (key, .list (front ++ w :: back)) :: after))

/-! ## What is found in an object -/

namespace Value

/-- A field that is there and not null. -/
def held? (fields : List (String × Value)) (key : String) : Option Value :=
  match field? key fields with
  | none | some .null => none
  | some v => some v

/-- The first of some fields that is there and not null. -/
def found (fields : List (String × Value)) (keys : List String) : Option Value :=
  keys.findSome? (held? fields)

theorem pick_object (fields : List (String × Value)) (keys : List String) :
    (Value.object fields).pick keys = .ok (found fields keys) := by
  induction keys with
  | nil => rfl
  | cons key rest ih =>
      rw [pick, found, List.findSome?_cons, held?]
      split
      · simp [found, *]
      · simp [found, *]
      · next v hnull h =>
          simp_all

@[simp] theorem pickText_object (fields : List (String × Value)) (keys : List String) :
    (Value.object fields).pickText keys = .ok ((found fields keys).getD (.text "")) := by
  rw [pickText, pick_object]
  rfl

@[simp] theorem pickPresent_object (fields : List (String × Value)) (keys : List String) :
    (Value.object fields).pickPresent keys = .ok ((found fields keys).filter isPresent) := by
  rw [pickPresent, pick_object]
  rfl

@[simp] theorem get_object (fields : List (String × Value)) (key : String) :
    (Value.object fields).get key = .ok (field? key fields) := rfl

/-- Null does not count, so it makes no difference whether it is found. -/
theorem filter_isPresent_field? (fields : List (String × Value)) (key : String) :
    (field? key fields).filter isPresent = (found fields [key]).filter isPresent := by
  rw [found, List.findSome?_singleton, held?]
  split <;> simp_all [isPresent]

theorem map_isPresent_field? (fields : List (String × Value)) (key : String) :
    ((field? key fields).map isPresent).getD false =
      ((found fields [key]).map isPresent).getD false := by
  rw [found, List.findSome?_singleton, held?]
  split <;> simp_all [isPresent]

theorem found_congr {fs gs : List (String × Value)} {keys : List String}
    (h : ∀ key ∈ keys, held? fs key = held? gs key) : found fs keys = found gs keys := by
  rw [found, found, ← List.head?_filterMap, ← List.head?_filterMap, List.filterMap_congr h]

/-! ### Dropping a null -/

theorem held?_withoutNull {fields : List (String × Value)} {key : String}
    (hnull : field? key fields = some .null) (k : String) :
    held? (fields.filter (·.1 != key)) k = held? fields k := by
  have hlookup (fields : List (String × Value)) :
      field? k (fields.filter (·.1 != key)) = if k = key then none else field? k fields := by
    induction fields with
    | nil => simp
    | cons field rest ih =>
        obtain ⟨name, v⟩ := field
        by_cases hname : name = key
        · subst hname
          by_cases hk : k = name <;> simp_all
        · by_cases hk : k = name <;> simp [ih, hname, hk]
  rw [held?, held?, hlookup]
  by_cases hk : k = key
  · simp [hk, hnull]
  · simp [hk]

/-! ### Changing a spelling -/

theorem field?_renamed {fields : List (String × Value)} {key : String}
    (hfree : snakeCase key ∉ fields.map Prod.fst) (k : String) :
    field? k (fields.map (renameField key)) =
      if k = snakeCase key then field? key fields
      else if k = key then none else field? k fields := by
  induction fields with
  | nil => simp
  | cons field rest ih =>
      obtain ⟨name, v⟩ := field
      simp only [List.map_cons, List.mem_cons, not_or] at hfree
      obtain ⟨hne, hrest⟩ := hfree
      rw [List.map_cons, renameField]
      split
      · next hname =>
          rw [field?_cons, field?_cons, ih hrest, if_pos (Eq.symm hname)]
          split
          · rfl
          · split
            · rfl
            · next hk hk' => rw [field?_cons, if_neg fun h => hk' (h.trans hname)]
      · next hname =>
          rw [field?_cons, field?_cons, field?_cons, ih hrest, if_neg (Ne.symm hname)]
          by_cases hk : k = name
          · subst hk
            rw [if_pos rfl, if_pos rfl, if_neg (Ne.symm hne), if_neg hname]
          · rw [if_neg hk, if_neg hk]

/-- A spelling that directly follows another one is found in its place. -/
theorem found_renamed {fields : List (String × Value)} {key : String} {keys : List String}
    (hkey : snakeCase key ≠ key) (hfree : snakeCase key ∉ fields.map Prod.fst)
    (hkeys : keys.Nodup)
    (hfollows : key ∈ keys ∨ snakeCase key ∈ keys → [key, snakeCase key] <:+: keys) :
    found (fields.map (renameField key)) keys = found fields keys := by
  have hheld (k : String) : held? (fields.map (renameField key)) k =
      if k = snakeCase key then held? fields key
      else if k = key then none else held? fields k := by
    rw [held?, held?, held?, field?_renamed hfree]
    split_ifs <;> rfl
  have hnew : held? fields (snakeCase key) = none := by
    rw [held?, field?, List.lookup_eq_none_iff.mpr]
    exact fun field hfield => bne_iff_ne.mpr fun h => hfree (h ▸ List.mem_map_of_mem hfield)
  by_cases h : key ∈ keys ∨ snakeCase key ∈ keys
  · obtain ⟨front, back, rfl⟩ := hfollows h
    have hpair : found (fields.map (renameField key)) [key, snakeCase key] =
        found fields [key, snakeCase key] := by
      simp only [found, List.findSome?_cons, List.findSome?_nil, hheld, hnew, if_neg hkey.symm,
        if_true]
    have hfront : found (fields.map (renameField key)) front = found fields front := by
      refine found_congr fun k hk => ?_
      have := List.nodup_append.mp hkeys
      grind
    have hback : found (fields.map (renameField key)) back = found fields back := by
      refine found_congr fun k hk => ?_
      grind
    simp only [found, List.findSome?_append] at hfront hpair hback ⊢
    rw [hfront, hpair, hback]
  · rw [not_or] at h
    refine found_congr fun k hk => ?_
    rw [hheld, if_neg (ne_of_mem_of_not_mem hk h.2), if_neg (ne_of_mem_of_not_mem hk h.1)]

/-! ### Changing an item -/

/-- Where two objects hold different lists under a key, the lists are found in the same fields
of both. -/
theorem found_inside {before after : List (String × Value)} {key : String} {xs ys : List Value}
    (keys : List String) :
    let fs := before ++ (key, .list xs) :: after
    let gs := before ++ (key, .list ys) :: after
    found fs keys = found gs keys ∨
      (key ∈ keys ∧ found fs keys = some (.list xs) ∧ found gs keys = some (.list ys)) := by
  intro fs gs
  have hheld (k : String) : held? fs k = held? gs k ∨
      (k = key ∧ held? fs k = some (.list xs) ∧ held? gs k = some (.list ys)) := by
    simp only [held?, fs, gs, field?_append, field?_cons]
    cases field? k before with
    | some v => exact .inl rfl
    | none => by_cases hk : k = key <;> simp [hk]
  induction keys with
  | nil => exact .inl rfl
  | cons k rest ih =>
      rw [found, found, List.findSome?_cons, List.findSome?_cons, ← found, ← found]
      rcases hheld k with hsame | ⟨rfl, hfs, hgs⟩
      · rw [hsame]
        cases held? gs k with
        | some v => exact .inl rfl
        | none =>
            rcases ih with hrest | ⟨hmem, hrest⟩
            · exact .inl hrest
            · exact .inr ⟨List.mem_cons_of_mem k hmem, hrest⟩
      · rw [hfs, hgs]
        exact .inr ⟨List.mem_cons_self .., rfl, rfl⟩

end Value

/-! ## The fields of each kind of object -/

/-- The texts that have the same spelling in lower case with underscores. -/
def spellings : List Char → List (List Char)
  | [] => [[]]
  | '_' :: c :: rest =>
    (spellings (c :: rest)).map ('_' :: ·) ++ (spellings rest).map (c.toUpper :: ·)
  | c :: rest => (spellings rest).map (c :: ·)

theorem mem_spellings_cons (c : Char) {cs rest : List Char} (h : cs ∈ spellings rest) :
    c :: cs ∈ spellings (c :: rest) := by
  have hkept := List.mem_map_of_mem (f := (c :: ·)) h
  rw [spellings.eq_def]
  split
  · simp at *
  · next heq =>
      obtain ⟨rfl, rfl⟩ := List.cons.inj heq
      exact List.mem_append_left _ hkept
  · next heq =>
      obtain ⟨rfl, rfl⟩ := List.cons.inj heq
      exact hkept

theorem mem_spellings (cs : List Char) : cs ∈ spellings (cs.flatMap snakeChar) := by
  induction cs with
  | nil => simp [spellings]
  | cons c cs ih =>
      rw [List.flatMap_cons, snakeChar]
      split
      · next hupper =>
          refine List.mem_append_right _ (List.mem_map.mpr ⟨cs, ih, ?_⟩)
          rw [Text.toUpper_toLower hupper]
      · exact mem_spellings_cons c ih

namespace Part

theorem nodup_of_mem_fields {part : Part} {keys : List String} (h : keys ∈ part.fields) :
    keys.Nodup := by
  revert keys
  cases part <;> decide

/-- The spellings of a field are those of its keys, and the one with underscores comes next. -/
theorem follows_of_mem_fields {part : Part} {keys : List String} (h : keys ∈ part.fields) :
    ∀ key ∈ keys, snakeCase key ∈ keys ∧
      ∀ cs ∈ spellings key.toList, String.ofList cs ≠ key → [String.ofList cs, key] <:+: keys := by
  revert keys
  cases part <;> decide +kernel

/-- A key stands in one field only. -/
theorem eq_of_mem_children {part child : Part} {keys keys' : List String} {key : String}
    (hchild : (keys, child) ∈ part.children) (hkey : key ∈ keys) (h : keys' ∈ part.fields)
    (hkey' : key ∈ keys') : keys' = keys := by
  have hall : ∀ entry ∈ part.children, ∀ key ∈ entry.1, ∀ keys' ∈ part.fields, key ∈ keys' →
      keys' = entry.1 := by cases part <;> decide
  exact hall _ hchild key hkey keys' h hkey'

/-- Objects of a kind whose fields are the same but for the items in them, which are
alike. -/
def AlikeFields (alike : Part → Value → Value → Prop) (part : Part)
    (fs gs : List (String × Value)) : Prop :=
  ∀ keys ∈ part.fields, Value.found fs keys = Value.found gs keys ∨
    ∃ child, (keys, child) ∈ part.children ∧ ∃ xs ys, Value.found fs keys = some (.list xs) ∧
      Value.found gs keys = some (.list ys) ∧ List.Forall₂ (alike child) xs ys

variable {part child : Part} {alike : Part → Value → Value → Prop}
  {fields : List (String × Value)} {key : String}

theorem alikeFields_withoutNull (hnull : Value.field? key fields = some .null) :
    part.AlikeFields alike fields (fields.filter (·.1 != key)) := fun _ _ =>
  .inl (Value.found_congr fun k _ => (Value.held?_withoutNull hnull k).symm)

theorem alikeFields_renamed (hfree : snakeCase key ∉ fields.map Prod.fst) :
    part.AlikeFields alike fields (fields.map (renameField key)) := by
  intro keys hkeys
  refine .inl (Eq.symm ?_)
  by_cases hsame : snakeCase key = key
  · -- the key is spelled with underscores already
    have hid : fields.map (renameField key) = fields := by
      refine (List.map_congr_left fun field _ => ?_).trans (List.map_id fields)
      rw [renameField, hsame, id_eq]
      split
      · next h => exact Prod.ext h.symm rfl
      · rfl
    rw [hid]
  · refine Value.found_renamed hsame hfree (nodup_of_mem_fields hkeys) fun hmem => ?_
    have hsnake : snakeCase key ∈ keys := by
      rcases hmem with hmem | hmem
      · exact (follows_of_mem_fields hkeys key hmem).1
      · exact hmem
    have hspelled : key.toList ∈ spellings (snakeCase key).toList := by
      rw [snakeCase, String.toList_ofList]
      exact mem_spellings key.toList
    have hfollows := (follows_of_mem_fields hkeys _ hsnake).2 _ hspelled
    rw [String.ofList_toList] at hfollows
    exact hfollows (Ne.symm hsame)

theorem alikeFields_inside {keys : List String} (hchild : (keys, child) ∈ part.children)
    (hkey : key ∈ keys) {before after : List (String × Value)} {front back : List Value}
    {v w : Value} (hself : ∀ x, alike child x x) (hitem : alike child v w) :
    part.AlikeFields alike (before ++ (key, .list (front ++ v :: back)) :: after)
      (before ++ (key, .list (front ++ w :: back)) :: after) := by
  intro keys' hkeys'
  rcases Value.found_inside keys' with hsame | ⟨hmem, hfs, hgs⟩
  · exact .inl hsame
  · obtain rfl := eq_of_mem_children hchild hkey hkeys' hmem
    refine .inr ⟨child, hchild, _, _, hfs, hgs, ?_⟩
    have hforall (xs : List Value) : List.Forall₂ (alike child) xs xs :=
      List.forall₂_same.mpr fun x _ => hself x
    exact List.rel_append (hforall front) (.cons hitem (hforall back))

end Part

/-! ## Loading -/

namespace Build

variable {α β : Type} {R : α → α → Prop}

theorem ofExcept_ok (a : α) : ofExcept (.ok a) = pure a := rfl

theorem mapM_zipIdx_congr {f : α × Nat → Build β} (hf : ∀ x y, R x y → ∀ i, f (x, i) = f (y, i))
    {xs ys : List α} (h : List.Forall₂ R xs ys) (start : Nat) :
    (xs.zipIdx start).mapM f = (ys.zipIdx start).mapM f := by
  induction h generalizing start with
  | nil => rfl
  | cons hxy _ ih =>
      rw [List.zipIdx_cons, List.zipIdx_cons, List.mapM_cons, List.mapM_cons, hf _ _ hxy,
        ih (start + 1)]

theorem mapM_congr {f : α → Build β} (hf : ∀ x y, R x y → f x = f y) {xs ys : List α}
    (h : List.Forall₂ R xs ys) : xs.mapM f = ys.mapM f := by
  rw [mapM_eq_mapM_zipIdx f xs, mapM_eq_mapM_zipIdx f ys]
  exact mapM_zipIdx_congr (f := fun x => f x.1) (fun _ _ hxy _ => hf _ _ hxy) h 0

/-- Going on with the items of a field. -/
theorem bind_itemsOf_congr {R : Value → Value → Prop} (hself : ∀ x, R x x) {a b : Option Value}
    (h : a = b ∨ ∃ xs ys, a = some (.list xs) ∧ b = some (.list ys) ∧ List.Forall₂ R xs ys)
    {f g : List Value → Build β} (hfg : ∀ xs ys, List.Forall₂ R xs ys → f xs = g ys) :
    (ofExcept (Value.itemsOf a) >>= f) = (ofExcept (Value.itemsOf b) >>= g) := by
  rcases h with rfl | ⟨xs, ys, rfl, rfl, hxy⟩
  · refine bind_congr fun xs => hfg xs xs (List.forall₂_same.mpr fun x _ => hself x)
  · exact hfg xs ys hxy

end Build

namespace Part

/-- Two values load as the same object, wherever they stand. -/
def LoadsSame : Part → Value → Value → Prop
  | .table, v, w => Table.load v = Table.load w
  | .column, v, w => ∀ path, Column.load v path = Column.load w path
  | .joinCondition, v, w => JoinCondition.load v = JoinCondition.load w
  | .join, v, w => ∀ path, Join.load v path = Join.load w path
  | .condition, v, w => ∀ path, Condition.load v path = Condition.load w path
  | .ordering, v, w => ∀ path, Ordering.load v path = Ordering.load w path
  | .configuration, v, w => Configuration.load v = Configuration.load w

theorem LoadsSame.refl (part : Part) (v : Value) : part.LoadsSame v v := by
  cases part <;> simp [LoadsSame]

theorem LoadsSame.trans {part : Part} {u v w : Value} (huv : part.LoadsSame u v)
    (hvw : part.LoadsSame v w) : part.LoadsSame u w := by
  cases part <;> simp_all [LoadsSame]

variable {part child : Part} {fs gs : List (String × Value)}

/-- A field without further objects is the same in both. -/
theorem AlikeFields.found_eq {alike : Part → Value → Value → Prop}
    (h : part.AlikeFields alike fs gs) (keys : List String) (hkeys : keys ∈ part.fields)
    (hchild : keys ∉ part.children.map Prod.fst) : Value.found fs keys = Value.found gs keys := by
  rcases h keys hkeys with hsame | ⟨child, hmem, -⟩
  · exact hsame
  · exact absurd (List.mem_map_of_mem hmem) hchild

open Value

theorem loadId_congr (h : found fs ["id"] = found gs ["id"]) (kind : IdKind) :
    loadId (.object fs) kind = loadId (.object gs) kind := by
  simp only [loadId, pickPresent_object, h]

/-- A field with further objects holds alike objects in both. -/
theorem AlikeFields.found_alike {alike : Part → Value → Value → Prop}
    (h : part.AlikeFields alike fs gs) (keys : List String) (child : Part)
    (hkeys : keys ∈ part.fields)
    (hchild : ∀ other, (keys, other) ∈ part.children → other = child) :
    found fs keys = found gs keys ∨ ∃ xs ys, found fs keys = some (.list xs) ∧
      found gs keys = some (.list ys) ∧ List.Forall₂ (alike child) xs ys := by
  rcases h keys hkeys with hsame | ⟨other, hmem, halike⟩
  · exact .inl hsame
  · exact .inr (hchild other hmem ▸ halike)

/-- Lists with as many items count alike. -/
theorem present_alike {R : Value → Value → Prop} {a b : Option Value}
    (h : a = b ∨ ∃ xs ys, a = some (.list xs) ∧ b = some (.list ys) ∧ List.Forall₂ R xs ys) :
    a.filter isPresent = b.filter isPresent ∨ ∃ xs ys, a.filter isPresent = some (.list xs) ∧
      b.filter isPresent = some (.list ys) ∧ List.Forall₂ R xs ys := by
  rcases h with rfl | ⟨xs, ys, rfl, rfl, hxy⟩
  · exact .inl rfl
  · cases hxy with
    | nil => exact .inl rfl
    | cons hhead htail => exact .inr ⟨_, _, rfl, rfl, .cons hhead htail⟩

theorem AlikeFields.loadsSame_table (h : Part.table.AlikeFields LoadsSame fs gs) :
    Part.table.LoadsSame (.object fs) (.object gs) := by
  have hname := h.found_eq ["name", "tableName", "table_name"] (by decide) (by decide)
  have hschema := h.found_eq ["schema"] (by decide) (by decide)
  have halias := h.found_eq ["alias"] (by decide) (by decide)
  simp only [LoadsSame, Table.load, pickText_object, pickPresent_object, hname, hschema, halias]

theorem AlikeFields.loadsSame_column (h : Part.column.AlikeFields LoadsSame fs gs) :
    Part.column.LoadsSame (.object fs) (.object gs) := by
  have hfunction := h.found_eq ["aggregateFunction", "aggregate_function", "function"]
    (by decide) (by decide)
  have htable := h.found_eq ["tableName", "table_name"] (by decide) (by decide)
  have hname := h.found_eq ["columnName", "column_name"] (by decide) (by decide)
  have hschema := h.found_eq ["schema"] (by decide) (by decide)
  have halias := h.found_eq ["alias"] (by decide) (by decide)
  have hparams := h.found_eq ["functionParams", "function_params"] (by decide) (by decide)
  simp only [LoadsSame, Column.load, pick_object, pickText_object, pickPresent_object, hfunction,
    htable, hname, hschema, halias, hparams, implies_true]

theorem AlikeFields.loadsSame_joinCondition
    (h : Part.joinCondition.AlikeFields LoadsSame fs gs) :
    Part.joinCondition.LoadsSame (.object fs) (.object gs) := by
  have hleft := h.found_eq ["leftColumn", "left_column"] (by decide) (by decide)
  have hright := h.found_eq ["rightColumn", "right_column"] (by decide) (by decide)
  have hid := h.found_eq ["id"] (by decide) (by decide)
  simp only [LoadsSame, JoinCondition.load, pickText_object, hleft, hright, loadId_congr hid]

theorem AlikeFields.loadsSame_join (h : Part.join.AlikeFields LoadsSame fs gs) :
    Part.join.LoadsSame (.object fs) (.object gs) := by
  have htype := h.found_eq ["joinType", "join_type", "type"] (by decide) (by decide)
  have hleftTable := h.found_eq ["leftTable", "left_table"] (by decide) (by decide)
  have hleft := h.found_eq ["leftColumn", "left_column"] (by decide) (by decide)
  have hrightTable := h.found_eq ["rightTable", "right_table"] (by decide) (by decide)
  have hright := h.found_eq ["rightColumn", "right_column"] (by decide) (by decide)
  have hid := h.found_eq ["id"] (by decide) (by decide)
  have hconditions := h.found_alike ["additionalConditions", "additional_conditions"] .joinCondition
    (by decide) (by simp [children])
  intro path
  simp only [Join.load, pick_object, pickText_object, Build.ofExcept_ok, pure_bind, htype,
    hleftTable, hleft, hrightTable, hright, loadId_congr hid]
  refine bind_congr fun type => ?_
  refine Build.bind_itemsOf_congr (LoadsSame.refl .joinCondition) hconditions fun xs ys hxy => ?_
  rw [Build.mapM_congr (fun _ _ hsame => hsame) hxy]

theorem AlikeFields.loadsSame_condition (h : Part.condition.AlikeFields LoadsSame fs gs) :
    Part.condition.LoadsSame (.object fs) (.object gs) := by
  have hconnector := h.found_eq ["logicalOperator", "logical_operator"] (by decide) (by decide)
  have hvalue := h.found_eq ["value"] (by decide) (by decide)
  have hcolumn := h.found_eq ["column"] (by decide) (by decide)
  have hoperator := h.found_eq ["operator"] (by decide) (by decide)
  have hid := h.found_eq ["id"] (by decide) (by decide)
  simp only [LoadsSame, Condition.load, pick_object, pickText_object, hconnector, hvalue, hcolumn,
    hoperator, loadId_congr hid, implies_true]

theorem AlikeFields.loadsSame_ordering (h : Part.ordering.AlikeFields LoadsSame fs gs) :
    Part.ordering.LoadsSame (.object fs) (.object gs) := by
  have hcolumn := h.found_eq ["column"] (by decide) (by decide)
  have hdirection := h.found_eq ["direction"] (by decide) (by decide)
  simp only [LoadsSame, Ordering.load, pick_object, pickText_object, hcolumn, hdirection,
    implies_true]

theorem AlikeFields.loadsSame_configuration
    (h : Part.configuration.AlikeFields LoadsSame fs gs) :
    Part.configuration.LoadsSame (.object fs) (.object gs) := by
  have hlimit := h.found_eq ["limit"] (by decide) (by decide)
  have htables := h.found_alike ["selectedTables", "selected_tables"] .table (by decide)
    (by simp [children])
  have hcolumns := h.found_alike ["selectedColumns", "selected_columns"] .column (by decide)
    (by simp [children])
  have hjoins := h.found_alike ["joins"] .join (by decide) (by simp [children])
  have hconditions := h.found_alike ["conditions"] .condition (by decide) (by simp [children])
  have hgroupBy := h.found_eq ["groupBy", "group_by"] (by decide) (by decide)
  have horderBy := h.found_alike ["orderBy", "order_by"] .ordering (by decide) (by simp [children])
  have hdistinct := h.found_eq ["distinct"] (by decide) (by decide)
  simp only [LoadsSame, Configuration.load, pick_object, get_object, Build.ofExcept_ok, pure_bind,
    filter_isPresent_field?, map_isPresent_field?, hlimit, hgroupBy, hdistinct]
  refine Build.bind_itemsOf_congr (LoadsSame.refl .table) htables fun xs ys hxy => ?_
  rw [Build.mapM_congr (fun x y hsame => congrArg Build.ofExcept hsame) hxy]
  refine bind_congr fun tables => ?_
  refine Build.bind_itemsOf_congr (LoadsSame.refl .column) hcolumns fun xs ys hxy => ?_
  rw [Build.mapM_zipIdx_congr (fun x y hsame i => congrArg Build.ofExcept (hsame _)) hxy]
  refine bind_congr fun columns => ?_
  refine Build.bind_itemsOf_congr (LoadsSame.refl .join) (present_alike hjoins) fun xs ys hxy => ?_
  rw [Build.mapM_zipIdx_congr (fun x y hsame i => hsame _) hxy]
  refine bind_congr fun joins => ?_
  refine Build.bind_itemsOf_congr (LoadsSame.refl .condition) (present_alike hconditions)
    fun xs ys hxy => ?_
  rw [Build.mapM_zipIdx_congr (fun x y hsame i => hsame _) hxy]
  refine bind_congr fun conditions => ?_
  refine bind_congr fun groupBy => ?_
  refine Build.bind_itemsOf_congr (LoadsSame.refl .ordering) horderBy fun xs ys hxy => ?_
  rw [Build.mapM_zipIdx_congr (fun x y hsame i => congrArg Build.ofExcept (hsame _)) hxy]

theorem AlikeFields.loadsSame (h : part.AlikeFields LoadsSame fs gs) :
    part.LoadsSame (.object fs) (.object gs) := by
  cases part with
  | table => exact h.loadsSame_table
  | column => exact h.loadsSame_column
  | joinCondition => exact h.loadsSame_joinCondition
  | join => exact h.loadsSame_join
  | condition => exact h.loadsSame_condition
  | ordering => exact h.loadsSame_ordering
  | configuration => exact h.loadsSame_configuration

end Part

theorem Value.Respelled.loadsSame {part : Part} {v w : Value} (h : Value.Respelled part v w) :
    part.LoadsSame v w := by
  induction h with
  | same part v => exact .refl part v
  | trans _ _ huv hvw => exact huv.trans hvw
  | withoutNull _ hnull => exact (Part.alikeFields_withoutNull hnull).loadsSame
  | renamed _ hfree => exact (Part.alikeFields_renamed hfree).loadsSame
  | inside hchild hkey _ _ _ _ _ hitem =>
      exact (Part.alikeFields_inside hchild hkey (Part.LoadsSame.refl _) hitem).loadsSame

/-- A document in another spelling loads as the same configuration, or is refused with the
same error, and takes the same identifiers. -/
theorem Configuration.load_respelled {v w : Value} (h : Value.Respelled .configuration v w)
    (supply : IdSupply) :
    (Configuration.load v).outcome supply = (Configuration.load w).outcome supply := by
  rw [show Configuration.load v = Configuration.load w from h.loadsSame]

/-- A table with a null alias, in a document with a null limit. -/
def usersDocument : Value :=
  .object [("selectedTables", .list [.object [("tableName", .text "users"), ("alias", .null)]]),
    ("limit", .null)]

/-- The same document with underscores and without null. -/
def usersRespelled : Value :=
  .object [("selected_tables", .list [.object [("table_name", .text "users")]])]

theorem respelled_users : Value.Respelled .configuration usersDocument usersRespelled := by
  have halias : Value.Respelled .table (.object [("tableName", .text "users"), ("alias", .null)])
      (.object [("tableName", .text "users")]) := .withoutNull "alias" rfl
  have htable : Value.Respelled .table (.object [("tableName", .text "users"), ("alias", .null)])
      (.object [("table_name", .text "users")]) :=
    halias.trans (.renamed "tableName" (by decide))
  have hinside : Value.Respelled .configuration usersDocument
      (.object [("selectedTables", .list [.object [("table_name", .text "users")]]),
        ("limit", .null)]) :=
    .inside (List.mem_cons_self ..) (List.mem_cons_self ..) [] [("limit", .null)] [] [] htable
  have hlimit := hinside.trans (.withoutNull "limit" rfl)
  exact hlimit.trans (.renamed "selectedTables" (by decide))

theorem Configuration.load_respelled_users :
    Value.Respelled .configuration usersDocument usersRespelled ∧
      (Configuration.load usersDocument).outcome {} =
        (Configuration.load usersRespelled).outcome {} :=
  ⟨respelled_users, Configuration.load_respelled respelled_users {}⟩

end SelectQuery
