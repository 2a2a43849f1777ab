import SketchHelp.Tree.Load

/-!
What nested data says about a tree, apart from how it is read. The values that stand where
children are listed come as items, and the fields of an object say a node. A row of items
spells a row of trees if each item is an object that says the top node of its tree and whose
own items spell what hangs below. Reading succeeds exactly on what is spelled, with the
trees that it spells, so everything about trees of data is an induction over the spelling.
-/

namespace SketchHelp

theorem bind_eq_ok_iff {ε α β : Type} {computation : Except ε α} {next : α → Except ε β}
    {b : β} :
    computation >>= next = .ok b ↔ ∃ a, computation = .ok a ∧ next a = .ok b := by
  cases computation <;> simp [bind, Except.bind]

theorem Kind.ofText?_eq_some_iff {t : Text} {kind : Kind} :
    ofText? t = some kind ↔ t = kind.toText := by
  constructor
  · intro found
    have := List.find?_some found
    exact (of_decide_eq_true this).symm
  · rintro rfl
    exact ofText?_toText kind

namespace Value

def isObject : Value → Bool
  | .object _ => true
  | _ => false

/-- What a value holds where a list is expected. A text counts as the list of its
characters and an object as the list of its names. -/
def items? : Value → Option (List Value)
  | .list items => some items
  | .text t => some (t.map fun c => .text [c])
  | .object fields => some (fields.map fun field => .text field.1)
  | _ => none

end Value

namespace Load

/-- The value of a field. -/
def get? (fields : Fields) (name : String) : Option Value :=
  Value.field? (Text.ofString name) fields

@[simp] theorem get?_nil (name : String) : get? [] name = none := rfl

@[simp] theorem get?_cons (key name : String) (value : Value) (rest : Fields) :
    get? ((Text.ofString key, value) :: rest) name =
      if key = name then some value else get? rest name := by
  rw [get?, Value.field?]
  simp only [Text.ofString_inj]
  rfl

theorem optional_eq (fields : Fields) (name : String) :
    optional fields name = (get? fields name).getD .null := rfl

theorem textOf?_eq (fault : LoadFault) (fields : Fields) (name : String) :
    textOf? fault fields name = match get? fields name with
      | none => .ok none
      | some value => match value.plain with
        | some t => .ok (some t)
        | none => .error fault := rfl

/-- The plain text of a field, or the fallback where it is missing. A field whose value
cannot be written has none. -/
def textOr? (fields : Fields) (name : String) (fallback : Text) : Option Text :=
  ((get? fields name).map Value.plain).getD (some fallback)

theorem textOr?_eq_some_iff (fault : LoadFault) {fields : Fields} {name : String}
    {fallback t : Text} :
    textOr? fields name fallback = some t ↔
      ∃ told, textOf? fault fields name = .ok told ∧ told.getD fallback = t := by
  rw [textOf?_eq, textOr?]
  cases get? fields name with
  | none => simp
  | some value => cases h : value.plain <;> simp [h]

theorem parameterTypesOf_eq (fields : Fields) :
    parameterTypesOf fields = match get? fields "parameter_types" with
      | none => .ok []
      | some value => textsOf value := rfl

/-- What stands where the children of a node are listed. -/
def childItems? (fields : Fields) : Option (List Value) :=
  match get? fields "children" with
  | none => some []
  | some value => value.items?

/-- The fields of an object say all that a node says about itself. -/
structure States (source : Text) (fields : Fields) (info : NodeInfo) : Prop where
  kind : get? fields "kind" = some (.text info.kind.toText)
  start : ∃ value, get? fields "start" = some value ∧ value.toWhole = .ok (info.span.start : Int)
  stop : ∃ value, get? fields "end" = some value ∧ value.toWhole = .ok (info.span.stop : Int)
  text : textOr? fields "text" (source.slice info.span.start info.span.stop) = some info.text
  operator : info.operator = optional fields "operator"
  resolvedType : info.resolvedType = optional fields "type"
  method : methodOf (optional fields "method") = .ok info.method

/-- A row of items spells a row of trees. -/
inductive Spells (source : Text) : List Value → Forest NodeInfo → Prop where
  | nil : Spells source [] .nil
  | cons {fields : Fields} {items rest : List Value} {role : Text} {info : NodeInfo}
      {below others : Forest NodeInfo} :
      textOr? fields "role" [] = some role → States source fields info →
      childItems? fields = some items → Spells source items below →
      Spells source rest others →
      Spells source (.object fields :: rest) (.cons role info below others)

theorem exists_mem_of_field? {name : Text} {fields : Fields} {value : Value}
    (h : Value.field? name fields = some value) : (name, value) ∈ fields := by
  induction fields with
  | nil => cases h
  | cons field rest ih =>
      obtain ⟨key, first⟩ := field
      rw [Value.field?] at h
      split at h
      · rename_i same
        exact same ▸ Option.some.inj h ▸ List.mem_cons_self
      · exact List.mem_cons_of_mem _ (ih h)

/-- Objects among the items of a node are smaller than it. -/
theorem sizeOf_lt_of_mem_childItems {fields : Fields} {items : List Value}
    (h : childItems? fields = some items) {item : Value} (mem : item ∈ items)
    (object : item.isObject = true) : sizeOf item < sizeOf (Value.object fields) := by
  unfold childItems? at h
  split at h
  · cases h
    cases mem
  · rename_i value found
    have listed := List.sizeOf_lt_of_mem (exists_mem_of_field? found)
    cases value with
    | list others =>
        cases h
        have := List.sizeOf_lt_of_mem mem
        simp only [Prod.mk.sizeOf_spec, Value.list.sizeOf_spec,
          Value.object.sizeOf_spec] at listed ⊢
        omega
    | text t =>
        cases h
        obtain ⟨c, -, rfl⟩ := List.mem_map.mp mem
        cases object
    | object others =>
        cases h
        obtain ⟨field, -, rfl⟩ := List.mem_map.mp mem
        cases object
    | null | bool | int | float => cases h

/-- What is to be shown of a node may be assumed of its items. -/
theorem itemInduction {motive : Value → Prop}
    (object : ∀ fields : Fields, (∀ items, childItems? fields = some items →
      ∀ item ∈ items, motive item) → motive (.object fields))
    (other : ∀ value : Value, value.isObject = false → motive value)
    (value : Value) : motive value := by
  -- Items that stand for texts are not smaller than their object, but need no induction.
  induction size : sizeOf value using Nat.strongRecOn generalizing value with
  | _ size ih =>
      cases shape : value.isObject with
      | false => exact other value shape
      | true =>
          cases value with
          | object fields =>
              refine object fields fun items h item mem => ?_
              cases below : item.isObject with
              | false => exact other item below
              | true => exact ih _ (size ▸ sizeOf_lt_of_mem_childItems h mem below) item rfl
          | null | bool | int | float | text | list => cases shape

/-! ### What reading a node comes to -/

theorem required_eq_ok_iff {fields : Fields} {name : String} {value : Value} :
    required fields name = .ok value ↔ get? fields name = some value := by
  rw [required, get?]
  cases Value.field? (Text.ofString name) fields <;> simp

theorem kindOf_eq_ok_iff {value : Value} {kind : Kind} :
    kindOf value = .ok kind ↔ value = .text kind.toText := by
  cases value with
  | text t =>
      rw [Value.text.injEq, ← Kind.ofText?_eq_some_iff, kindOf]
      cases Kind.ofText? t <;> simp
  | null | bool | int | float | list | object => simp [kindOf]

theorem wholeOf_eq_ok_iff {value : Value} {n : Int} :
    wholeOf value = .ok n ↔ value.toWhole = .ok n := by
  unfold wholeOf
  cases value.toWhole <;> simp

theorem spanOf_eq_ok_iff {start stop : Int} {span : Span} :
    spanOf start stop = .ok span ↔ span.start = start ∧ span.stop = stop := by
  rw [← Span.ofBounds_eq_ok_iff, spanOf]
  cases Span.ofBounds start stop <;> simp

theorem headOf_eq_ok_iff {fields : Fields} {kind : Kind} {start stop : Int} :
    headOf fields = .ok (kind, start, stop) ↔
      get? fields "kind" = some (.text kind.toText) ∧
      (∃ value, get? fields "start" = some value ∧ value.toWhole = .ok start) ∧
      ∃ value, get? fields "end" = some value ∧ value.toWhole = .ok stop := by
  simp only [headOf, bind_eq_ok_iff, pure, Except.pure, required_eq_ok_iff, kindOf_eq_ok_iff,
    wholeOf_eq_ok_iff, Except.ok.injEq, Prod.mk.injEq]
  constructor
  · rintro ⟨-, hkind, _, rfl, low, hlow, _, low', high, hhigh, _, high', rfl, rfl, rfl⟩
    exact ⟨hkind, ⟨low, hlow, low'⟩, high, hhigh, high'⟩
  · rintro ⟨hkind, ⟨low, hlow, low'⟩, high, hhigh, high'⟩
    exact ⟨_, hkind, _, rfl, low, hlow, _, low', high, hhigh, _, high', rfl, rfl, rfl⟩

theorem states_iff {source : Text} {fields : Fields} {info : NodeInfo} :
    States source fields info ↔ ∃ kind start stop, headOf fields = .ok (kind, start, stop) ∧
      infoOf source fields kind start stop = .ok info := by
  simp only [headOf_eq_ok_iff, infoOf, bind_eq_ok_iff, spanOf_eq_ok_iff, pure, Except.pure,
    Except.ok.injEq]
  constructor
  · rintro ⟨kind, start, stop, text, operator, resolvedType, method⟩
    obtain ⟨told, read, shown⟩ := (textOr?_eq_some_iff .longText).mp text
    refine ⟨_, _, _, ⟨kind, start, stop⟩, told, read, _, method, info.span, ⟨rfl, rfl⟩, ?_⟩
    rw [shown, ← operator, ← resolvedType]
  · rintro ⟨kind, _, _, ⟨hkind, start, stop⟩, told, read, method, hmethod, span, ⟨rfl, rfl⟩, rfl⟩
    exact ⟨hkind, start, stop, (textOr?_eq_some_iff .longText).mpr ⟨told, read, rfl⟩, rfl, rfl,
      hmethod⟩

theorem roleOf_object_eq_ok_iff {fields : Fields} {role : Text} :
    roleOf (.object fields) = .ok role ↔ textOr? fields "role" [] = some role := by
  rw [textOr?_eq_some_iff .longRole]
  simp only [roleOf, bind_eq_ok_iff, pure, Except.pure, Except.ok.injEq]

/-! ### What reading a row comes to -/

section

variable {source : Text}

theorem loadNode_of_not_isObject {value : Value} (h : value.isObject = false) :
    loadNode source value = .error .notObject := by
  cases value with
  | object fields => cases h
  | null | bool | int | float | text | list => rw [loadNode]; simp

theorem loadRow_cons_of_not_isObject {item : Value} (h : item.isObject = false)
    (rest : List Value) : loadRow source (item :: rest) = .error .notObject := by
  cases item with
  | object fields => cases h
  | null | bool | int | float | text | list => rw [loadRow]; rfl

theorem loadChildren_eq (value : Value) :
    loadChildren source value = match value.items? with
      | some items => loadRow source items
      | none => .error (.notIterable value.kindWord) := by
  cases value with
  | list items => rw [loadChildren]; rfl
  | text t =>
      cases t with
      | nil => rw [loadChildren]; rfl
      | cons c rest =>
          rw [loadChildren]
          exact (loadRow_cons_of_not_isObject rfl _).symm
  | object fields =>
      cases fields with
      | nil => rw [loadChildren]; rfl
      | cons field rest =>
          rw [loadChildren]
          exact (loadRow_cons_of_not_isObject rfl _).symm
  | null | bool | int | float => rw [loadChildren] <;> simp [Value.items?]

theorem loadBelow_eq (fields : Fields) :
    loadBelow source fields = match get? fields "children" with
      | some value => loadChildren source value
      | none => .ok .nil := by
  induction fields with
  | nil => rfl
  | cons field rest ih =>
      obtain ⟨name, value⟩ := field
      rw [loadBelow, get?, Value.field?]
      split
      · rfl
      · exact ih

theorem loadBelow_eq_ok_iff {fields : Fields} {below : Forest NodeInfo} :
    loadBelow source fields = .ok below ↔
      ∃ items, childItems? fields = some items ∧ loadRow source items = .ok below := by
  rw [loadBelow_eq, childItems?]
  cases get? fields "children" with
  | none => simp [loadRow]
  | some value =>
      simp only [loadChildren_eq]
      cases value.items? <;> simp

theorem loadNode_object_eq_ok_iff {fields : Fields} {outline : Outline} :
    loadNode source (.object fields) = .ok outline ↔
      States source fields outline.label ∧
        ∃ items, childItems? fields = some items ∧ loadRow source items = .ok outline.below := by
  simp only [loadNode, bind_eq_ok_iff, loadBelow_eq_ok_iff, states_iff]
  constructor
  · rintro ⟨⟨kind, start, stop⟩, head, below, row, info, hinfo, eq⟩
    cases eq
    exact ⟨⟨kind, start, stop, head, hinfo⟩, row⟩
  · rintro ⟨⟨kind, start, stop, head, hinfo⟩, row⟩
    exact ⟨_, head, _, row, _, hinfo, rfl⟩

theorem loadRow_cons_eq_ok_iff {item : Value} {rest : List Value}
    {forest : Forest NodeInfo} :
    loadRow source (item :: rest) = .ok forest ↔
      ∃ role outline others, roleOf item = .ok role ∧ loadNode source item = .ok outline ∧
        loadRow source rest = .ok others ∧
        forest = .cons role outline.label outline.below others := by
  simp only [loadRow, bind_eq_ok_iff]
  constructor
  · rintro ⟨role, slot, outline, first, others, later, eq⟩
    exact ⟨role, outline, others, slot, first, later, (Except.ok.inj eq).symm⟩
  · rintro ⟨role, outline, others, slot, first, later, rfl⟩
    exact ⟨role, slot, _, first, others, later, rfl⟩

/-- Reading a row of items gives the row of trees that they spell. -/
theorem loadRow_eq_ok_iff {items : List Value} {forest : Forest NodeInfo} :
    loadRow source items = .ok forest ↔ Spells source items forest := by
  constructor
  · intro read
    induction forest generalizing items with
    | nil =>
        cases items with
        | nil => exact .nil
        | cons item rest =>
            obtain ⟨_, _, _, -, -, -, eq⟩ := loadRow_cons_eq_ok_iff.mp read
            cases eq
    | cons role info below rest belowIh restIh =>
        cases items with
        | nil => cases read
        | cons item others =>
            obtain ⟨_, outline, _, slot, first, later, eq⟩ := loadRow_cons_eq_ok_iff.mp read
            cases eq
            cases item with
            | object fields =>
                obtain ⟨stated, items, listed, row⟩ := loadNode_object_eq_ok_iff.mp first
                exact .cons (roleOf_object_eq_ok_iff.mp slot) stated listed (belowIh row)
                  (restIh later)
            | null | bool | int | float | text | list => cases slot
  · intro spells
    induction spells with
    | nil => rfl
    | @cons fields items rest role info below others slot stated listed _ _ belowIh restIh =>
        refine loadRow_cons_eq_ok_iff.mpr ⟨role, ⟨info, below⟩, others,
          roleOf_object_eq_ok_iff.mpr slot, ?_, restIh, rfl⟩
        exact loadNode_object_eq_ok_iff.mpr ⟨stated, items, listed, belowIh⟩

end

end Load

open Load

/-- The tree of data is the arena of what the data spells. -/
theorem Tree.load_eq_ok_iff {data : Value} {source : Text} {tree : Tree} :
    Tree.load data source = .ok tree ↔
      ∃ (fields : Fields) (items : List Value) (outline : Outline),
        data = .object fields ∧ States source fields outline.label ∧
        childItems? fields = some items ∧ Spells source items outline.below ∧
        tree = outline.toTree source := by
  cases data with
  | object fields =>
      simp only [Tree.load, bind_eq_ok_iff, ← loadRow_eq_ok_iff]
      constructor
      · rintro ⟨outline, read, eq⟩
        obtain ⟨stated, items, listed, row⟩ := loadNode_object_eq_ok_iff.mp read
        exact ⟨fields, items, outline, rfl, stated, listed, row, (Except.ok.inj eq).symm⟩
      · rintro ⟨_, items, outline, same, stated, listed, row, rfl⟩
        cases same
        exact ⟨outline, loadNode_object_eq_ok_iff.mpr ⟨stated, items, listed, row⟩, rfl⟩
  | null | bool | int | float | text | list => simp [Tree.load]

end SketchHelp
