import SketchHelp.Proofs.Tree.Preorder
import SketchHelp.Proofs.Tree.Spelling

/-!
The format of nested data. A node is an object whose fields can be read and whose items are
nodes, which is a description of the data alone: no tree and no source take part in it. Data
of this form, and no other, is read, and then the tree has a node for every object in the
data. Objects are told apart by the paths that lead to them, a path being the positions of
items, and the order of the arena is that of the paths: a path comes before those that go on
from it, and these come before the paths of later items.
-/

namespace SketchHelp

open Load

/-! ### Well-formed data -/

namespace Load

/-- A value that a node may have as its method. -/
inductive IsMethod : Value → Prop where
  | unknown : IsMethod .null
  | known {fields : Fields} :
      (∀ types, get? fields "parameter_types" = some types → types.items?.isSome) →
      IsMethod (.object fields)

/-- All of a node but its children can be read off the fields of its object. -/
structure IsReadable (fields : Fields) : Prop where
  kind : ∃ kind : Kind, get? fields "kind" = some (.text kind.toText)
  span : ∃ first last start stop, get? fields "start" = some first ∧
    first.toWhole = .ok start ∧ get? fields "end" = some last ∧ last.toWhole = .ok stop ∧
    0 ≤ start ∧ start ≤ stop
  method : ∀ value, get? fields "method" = some value → IsMethod value

end Load

/-- Data of the form that nodes have. -/
inductive Value.IsNode : Value → Prop where
  | object {fields : Fields} {items : List Value} :
      IsReadable fields → childItems? fields = some items → (∀ item ∈ items, IsNode item) →
      IsNode (.object fields)

namespace Load

/-! ### Values that are made into texts -/

/-- Whatever a field holds can be written. -/
def IsWritableAt (fields : Fields) (name : String) : Prop :=
  ∀ value, get? fields name = some value → value.IsWritable

/-- All texts that are taken from the object of a method can be written. -/
structure IsSignature (method : Fields) : Prop where
  name : IsWritableAt method "name"
  returnType : IsWritableAt method "return_type"
  parameterTypes : ∀ types items, get? method "parameter_types" = some types →
    types.items? = some items → ∀ item ∈ items, item.IsWritable

/-- All texts that a tree takes from an object can be written. The slots of its children are
among them, which is why they are told here and not of the children. -/
structure HasTexts (fields : Fields) : Prop where
  text : IsWritableAt fields "text"
  method : ∀ method, get? fields "method" = some (.object method) → IsSignature method
  roles : ∀ items, childItems? fields = some items → ∀ item, .object item ∈ items →
    IsWritableAt item "role"

variable {fields : Fields} {name : String}

theorem exists_textOr?_iff (fallback : Text) :
    (∃ t, textOr? fields name fallback = some t) ↔ IsWritableAt fields name := by
  rw [textOr?, IsWritableAt]
  cases get? fields name with
  | none => simp
  | some value => simp [← Value.isSome_plain_iff, Option.isSome_iff_exists]

theorem textOf?_ok_iff (fault : LoadFault) :
    (∃ told, textOf? fault fields name = .ok told) ↔ IsWritableAt fields name := by
  simp only [← exists_textOr?_iff [], textOr?_eq_some_iff fault]
  exact ⟨fun ⟨told, read⟩ => ⟨_, told, read, rfl⟩, fun ⟨_, told, read, _⟩ => ⟨told, read⟩⟩

theorem plainTexts_ok_iff {values : List Value} :
    (∃ texts, plainTexts values = .ok texts) ↔ ∀ value ∈ values, value.IsWritable := by
  induction values with
  | nil => simp [plainTexts]
  | cons value rest ih =>
      rw [List.forall_mem_cons, ← ih, ← Value.isSome_plain_iff, plainTexts]
      cases value.plain <;> simp [bind_eq_ok_iff, pure, Except.pure]

theorem textsOf_ok_iff {value : Value} :
    (∃ texts, textsOf value = .ok texts) ↔
      ∃ items, value.items? = some items ∧ ∀ item ∈ items, item.IsWritable := by
  cases value with
  | list items => simpa [textsOf, Value.items?] using plainTexts_ok_iff
  | text t => simp [textsOf, Value.items?, Value.IsWritable.text]
  | object fields =>
      refine ⟨fun _ => ⟨_, rfl, fun item mem => ?_⟩, fun _ => ⟨_, rfl⟩⟩
      obtain ⟨field, -, rfl⟩ := List.mem_map.mp mem
      exact .text field.1
  | null | bool | int | float => simp [textsOf, Value.items?]

theorem parameterTypesOf_ok_iff {method : Fields} :
    (∃ texts, parameterTypesOf method = .ok texts) ↔
      (∀ types, get? method "parameter_types" = some types → types.items?.isSome) ∧
        ∀ types items, get? method "parameter_types" = some types →
          types.items? = some items → ∀ item ∈ items, item.IsWritable := by
  rw [parameterTypesOf_eq]
  cases get? method "parameter_types" with
  | none => simp
  | some types =>
      constructor
      · intro read
        obtain ⟨items, listed, writable⟩ := textsOf_ok_iff.mp read
        refine ⟨fun _ same => ?_, fun _ _ same found => ?_⟩ <;> cases same
        · simp [listed]
        · cases listed.symm.trans found
          exact writable
      · rintro ⟨iterable, writable⟩
        obtain ⟨items, listed⟩ := Option.isSome_iff_exists.mp (iterable types rfl)
        exact textsOf_ok_iff.mpr ⟨items, listed, writable types items rfl listed⟩

theorem methodOf_ok_iff {value : Value} :
    (∃ method, methodOf value = .ok method) ↔
      IsMethod value ∧ ∀ method, value = .object method → IsSignature method := by
  constructor
  · rintro ⟨method, read⟩
    cases value with
    | null => exact ⟨.unknown, nofun⟩
    | object fields =>
        simp only [methodOf, bind_eq_ok_iff] at read
        obtain ⟨name, hname, types, htypes, returnType, hreturn, -⟩ := read
        obtain ⟨iterable, writable⟩ := parameterTypesOf_ok_iff.mp ⟨types, htypes⟩
        refine ⟨.known iterable, fun method same => ?_⟩
        cases same
        exact ⟨(textOf?_ok_iff _).mp ⟨name, hname⟩, (textOf?_ok_iff _).mp ⟨returnType, hreturn⟩,
          writable⟩
    | bool | int | float | text | list => cases read
  · rintro ⟨_ | @⟨fields, iterable⟩, signature⟩
    · exact ⟨none, rfl⟩
    · obtain ⟨hname, hreturn, writable⟩ := signature fields rfl
      obtain ⟨name, hname⟩ := (textOf?_ok_iff .longText).mpr hname
      obtain ⟨types, htypes⟩ := parameterTypesOf_ok_iff.mpr ⟨iterable, writable⟩
      obtain ⟨returnType, hreturn⟩ := (textOf?_ok_iff .longText).mpr hreturn
      simp only [methodOf, bind_eq_ok_iff]
      exact ⟨_, name, hname, types, htypes, returnType, hreturn, rfl⟩

theorem methodOf_optional_ok_iff :
    (∃ method, methodOf (optional fields "method") = .ok method) ↔
      (∀ value, get? fields "method" = some value → IsMethod value) ∧
        ∀ method, get? fields "method" = some (.object method) → IsSignature method := by
  rw [optional_eq, methodOf_ok_iff]
  cases get? fields "method" with
  | none => simp [IsMethod.unknown]
  | some value => simp

/-- Fields that state some node are readable and tell its texts. -/
theorem exists_states_iff (source : Text) :
    (∃ info, States source fields info) ↔ IsReadable fields ∧ IsWritableAt fields "text" ∧
      ∀ method, get? fields "method" = some (.object method) → IsSignature method := by
  constructor
  · rintro ⟨info, hkind, ⟨first, hfirst, low⟩, ⟨last, hlast, high⟩, text, -, -, read⟩
    have order := info.span.start_le_stop
    obtain ⟨hmethod, signature⟩ := methodOf_optional_ok_iff.mp ⟨_, read⟩
    exact ⟨⟨⟨_, hkind⟩, ⟨first, last, _, _, hfirst, low, hlast, high, by omega, by omega⟩,
      hmethod⟩, (exists_textOr?_iff _).mp ⟨_, text⟩, signature⟩
  · rintro ⟨⟨⟨kind, hkind⟩, ⟨first, last, start, stop, hfirst, low, hlast, high, sign, order⟩,
      hmethod⟩, hasText, signature⟩
    obtain ⟨method, read⟩ := methodOf_optional_ok_iff.mpr ⟨hmethod, signature⟩
    lift start to Nat using sign
    lift stop to Nat using by omega
    let span : Span := ⟨start, stop, by omega⟩
    obtain ⟨text, told⟩ :=
      (exists_textOr?_iff (source.slice start stop)).mpr hasText
    exact ⟨{
      kind, span, method, text
      operator := optional fields "operator"
      resolvedType := optional fields "type" },
      hkind, ⟨first, hfirst, low⟩, ⟨last, hlast, high⟩, told, rfl, rfl, read⟩

end Load

/-! ### Data that can be read -/

/-- Data of the form that nodes have whose texts can be written. -/
inductive Value.IsLoadable : Value → Prop where
  | object {fields : Fields} {items : List Value} :
      IsReadable fields → HasTexts fields → childItems? fields = some items →
      (∀ item ∈ items, IsLoadable item) → IsLoadable (.object fields)

namespace Load

theorem Spells.isWritableAt_role {source : Text} {items : List Value}
    {forest : Forest NodeInfo} (h : Spells source items forest) :
    ∀ item, .object item ∈ items → IsWritableAt item "role" := by
  induction h with
  | nil => simp
  | cons slot _ _ _ _ _ ih =>
      intro item mem
      rcases List.mem_cons.mp mem with same | later
      · cases same
        exact (exists_textOr?_iff _).mp ⟨_, slot⟩
      · exact ih item later

/-- An object that states a node, with items that spell a row. -/
theorem States.hasTexts {source : Text} {fields : Fields} {info : NodeInfo}
    {items : List Value} {below : Forest NodeInfo} (stated : States source fields info)
    (listed : childItems? fields = some items) (spells : Spells source items below) :
    HasTexts fields := by
  obtain ⟨-, text, method⟩ := (exists_states_iff source).mp ⟨info, stated⟩
  refine ⟨text, method, fun others found => ?_⟩
  rw [listed] at found
  cases found
  exact spells.isWritableAt_role

theorem Spells.isLoadable {source : Text} {items : List Value} {forest : Forest NodeInfo}
    (h : Spells source items forest) : ∀ item ∈ items, item.IsLoadable := by
  induction h with
  | nil => exact fun item mem => nomatch mem
  | cons _ stated listed below _ belowIh restIh =>
      intro item mem
      rcases List.mem_cons.mp mem with rfl | later
      · have readable := ((exists_states_iff source).mp ⟨_, stated⟩).1
        exact .object readable (stated.hasTexts listed below) listed belowIh
      · exact restIh item later

end Load

/-- Loadable data states a node, with items that spell what hangs below it. -/
theorem Value.IsLoadable.exists_states {value : Value} (h : value.IsLoadable) (source : Text) :
    ∃ fields items info below, value = .object fields ∧ States source fields info ∧
      childItems? fields = some items ∧ Spells source items below := by
  induction h with
  | @object fields items readable texts listed _ ih =>
      obtain ⟨info, stated⟩ := (exists_states_iff source).mpr ⟨readable, texts.text, texts.method⟩
      -- Each item is a tree of its own, and its object tells the slot that it is in.
      have row : ∀ rest : List Value, (∀ item ∈ rest, item ∈ items) →
          ∃ below, Spells source rest below := by
        intro rest among
        induction rest with
        | nil => exact ⟨.nil, .nil⟩
        | cons item rest restIh =>
            obtain ⟨mem, others⟩ := List.forall_mem_cons.mp among
            obtain ⟨own, deeper, top, below, rfl, said, found, inner⟩ := ih item mem
            obtain ⟨role, slot⟩ :=
              (exists_textOr?_iff []).mpr (texts.roles items listed own mem)
            obtain ⟨later, spells⟩ := restIh others
            exact ⟨_, .cons slot said found inner spells⟩
      obtain ⟨below, spells⟩ := row items fun _ mem => mem
      exact ⟨fields, items, info, below, rfl, stated, listed, spells⟩

theorem Tree.load_ok_iff {data : Value} {source : Text} :
    (∃ tree, Tree.load data source = .ok tree) ↔ data.IsLoadable := by
  simp only [Tree.load_eq_ok_iff]
  constructor
  · rintro ⟨_, fields, items, outline, rfl, stated, listed, below, rfl⟩
    have readable := ((exists_states_iff source).mp ⟨_, stated⟩).1
    exact .object readable (stated.hasTexts listed below) listed below.isLoadable
  · intro loadable
    obtain ⟨fields, items, info, below, rfl, stated, listed, spells⟩ :=
      loadable.exists_states source
    exact ⟨_, fields, items, ⟨info, below⟩, rfl, stated, listed, spells, rfl⟩

/-! ### Paths -/

namespace Value

/-- The fields of the object to which a path leads. Each step goes to the item at a
position. -/
def mapping? : Value → List Nat → Option Fields
  | .object fields, [] => some fields
  | .object fields, position :: path =>
    (childItems? fields).bind fun items =>
      items[position]?.bind fun item => item.mapping? path
  | _, _ => none

theorem mapping?_nil_eq_some_iff {value : Value} {fields : Fields} :
    value.mapping? [] = some fields ↔ value = .object fields := by
  cases value <;> simp [mapping?]

theorem mapping?_cons_eq_some_iff {value : Value} {position : Nat} {path : List Nat}
    {fields : Fields} :
    value.mapping? (position :: path) = some fields ↔
      ∃ own items item, value = .object own ∧ childItems? own = some items ∧
        items[position]? = some item ∧ item.mapping? path = some fields := by
  cases value <;> simp [mapping?, Option.bind_eq_some_iff]

/-- What holds of an object and of its items with it holds of every object in it. -/
theorem mapping?_induction {motive : Value → Prop}
    (step : ∀ fields items, motive (.object fields) → childItems? fields = some items →
      ∀ item ∈ items, motive item)
    {value : Value} (h : motive value) {path : List Nat} {fields : Fields}
    (leads : value.mapping? path = some fields) : motive (.object fields) := by
  induction path generalizing value with
  | nil => exact mapping?_nil_eq_some_iff.mp leads ▸ h
  | cons position path ih =>
      obtain ⟨own, items, item, rfl, listed, found, further⟩ :=
        mapping?_cons_eq_some_iff.mp leads
      exact ih (step own items h listed item (List.mem_of_getElem? found)) further

/-- Everything in loadable data is loadable. -/
theorem IsLoadable.of_mapping? {value : Value} (h : value.IsLoadable) {path : List Nat}
    {fields : Fields} (leads : value.mapping? path = some fields) :
    (Value.object fields).IsLoadable := by
  refine mapping?_induction (fun own items loadable listed => ?_) h leads
  cases loadable with
  | object _ _ found all =>
      cases listed.symm.trans found
      exact all

/-- The objects in loadable data are those of data that has the form of a node, and their
texts can be written. -/
theorem isLoadable_iff {value : Value} : value.IsLoadable ↔
    value.IsNode ∧ ∀ path fields, value.mapping? path = some fields → HasTexts fields := by
  constructor
  · intro loadable
    refine ⟨?_, fun path fields leads => ?_⟩
    · induction loadable with
      | object readable _ listed _ ih => exact .object readable listed ih
    · have deep : (Value.object fields).IsLoadable := loadable.of_mapping? leads
      cases deep with
      | object _ texts _ _ => exact texts
  · rintro ⟨node, texts⟩
    induction node with
    | @object fields items readable listed _ ih =>
        refine .object readable (texts [] fields rfl) listed fun item mem => ih item mem ?_
        intro path own leads
        obtain ⟨position, found⟩ := List.mem_iff_getElem?.mp mem
        exact texts (position :: path) own
          (mapping?_cons_eq_some_iff.mpr ⟨_, _, _, rfl, listed, found, leads⟩)

/-! ### Values of JSON -/

theorem IsWritable.of_field {fields : Fields} (h : (Value.object fields).IsWritable)
    {name : String} {value : Value} (present : get? fields name = some value) :
    value.IsWritable := by
  cases h with
  | object all => exact all _ (exists_mem_of_field? present)

theorem IsWritable.of_items? {value : Value} (h : value.IsWritable) {items : List Value}
    (listed : value.items? = some items) : ∀ item ∈ items, item.IsWritable := by
  cases h with
  | list all =>
      cases listed
      exact all
  | text t =>
      cases listed
      exact List.forall_mem_map.mpr fun c _ => .text [c]
  | @object fields _ =>
      cases listed
      exact List.forall_mem_map.mpr fun field _ => .text field.1
  | null | bool | int | float => cases listed

theorem IsWritable.of_childItems? {fields : Fields} (h : (Value.object fields).IsWritable)
    {items : List Value} (listed : childItems? fields = some items) :
    ∀ item ∈ items, item.IsWritable := by
  rw [childItems?] at listed
  split at listed
  · cases listed
    simp
  · rename_i present
    exact (h.of_field present).of_items? listed

theorem IsWritable.of_mapping? {value : Value} (h : value.IsWritable) {path : List Nat}
    {fields : Fields} (leads : value.mapping? path = some fields) :
    (Value.object fields).IsWritable :=
  mapping?_induction (fun _ _ writable listed => writable.of_childItems? listed) h leads

/-- Nothing is too long to be written in an object that can be written itself. -/
theorem IsWritable.hasTexts {fields : Fields} (h : (Value.object fields).IsWritable) :
    HasTexts fields where
  text _ present := h.of_field present
  method _ present :=
    have known := h.of_field present
    { name := fun _ found => known.of_field found
      returnType := fun _ found => known.of_field found
      parameterTypes := fun _ _ found listed => (known.of_field found).of_items? listed }
  roles _ listed item mem _ present := (h.of_childItems? listed (.object item) mem).of_field present

end Value

/-- The fields to which a path leads that starts from a row of items. -/
def Load.mappingAmong? (items : List Value) : List Nat → Option Fields
  | [] => none
  | position :: path => items[position]?.bind fun item => item.mapping? path

namespace Forest

/-- The nodes of a row with their paths, where `first` is the position of the first item. -/
def addressed (first parent position : Nat) : Forest NodeInfo → List (List Nat × Node)
  | nil => []
  | cons _ info below rest =>
    ([first], topNode parent position info below) ::
      ((below.addressed 0 position (position + 1)).map (fun entry => (first :: entry.1, entry.2)) ++
        rest.addressed (first + 1) parent (position + 1 + below.size))

variable {first parent position : Nat} {forest : Forest NodeInfo}

theorem map_addressed (first parent position : Nat) (forest : Forest NodeInfo) :
    (forest.addressed first parent position).map (·.2) = forest.nodes parent position := by
  induction forest generalizing first parent position with
  | nil => rfl
  | cons role info below rest belowIh restIh =>
      rw [addressed, List.map_cons, List.map_append, List.map_map, nodes_cons, restIh]
      exact congrArg (_ :: · ++ _) (belowIh ..)

theorem head_of_mem_addressed {entry : List Nat × Node}
    (h : entry ∈ forest.addressed first parent position) :
    ∃ head path, entry.1 = head :: path ∧ first ≤ head := by
  induction forest generalizing first parent position with
  | nil => cases h
  | cons role info below rest _ restIh =>
      rcases List.mem_cons.mp h with rfl | inside
      · exact ⟨first, [], rfl, Nat.le_refl first⟩
      · rcases List.mem_append.mp inside with deeper | later
        · obtain ⟨inner, -, rfl⟩ := List.mem_map.mp deeper
          exact ⟨first, inner.1, rfl, Nat.le_refl first⟩
        · obtain ⟨head, path, eq, bound⟩ := restIh later
          exact ⟨head, path, eq, by omega⟩

/-- Paths come in their order. -/
theorem pairwise_addressed (first parent position : Nat) (forest : Forest NodeInfo) :
    (forest.addressed first parent position).Pairwise (·.1 < ·.1) := by
  induction forest generalizing first parent position with
  | nil => exact .nil
  | cons role info below rest belowIh restIh =>
      -- The items after the first one have a greater head, whatever follows it.
      have later : ∀ entry ∈ rest.addressed (first + 1) parent (position + 1 + below.size),
          ∀ path, first :: path < entry.1 := by
        intro entry mem path
        obtain ⟨head, tail, eq, bound⟩ := head_of_mem_addressed mem
        rw [eq, List.cons_lt_cons_iff]
        exact .inl (by omega)
      rw [addressed, List.pairwise_cons, List.pairwise_append, List.pairwise_map]
      refine ⟨fun entry mem => ?_, ?_, restIh .., fun inner mem entry other => ?_⟩
      · rcases List.mem_append.mp mem with deeper | other
        · obtain ⟨inner, innerMem, rfl⟩ := List.mem_map.mp deeper
          obtain ⟨head, tail, eq, -⟩ := head_of_mem_addressed innerMem
          rw [eq, List.cons_lt_cons_iff]
          exact .inr ⟨rfl, List.nil_lt_cons ..⟩
        · exact later entry other []
      · exact (belowIh 0 position (position + 1)).imp fun before =>
          List.cons_lt_cons_iff.mpr (.inr ⟨rfl, before⟩)
      · obtain ⟨deep, -, rfl⟩ := List.mem_map.mp mem
        exact later entry other _

/-- The path of a node goes one step on from the path of its parent. -/
theorem parent_of_mem_addressed {entry : List Nat × Node}
    (h : entry ∈ forest.addressed first parent position) :
    (entry.2.parent = some parent ∧ ∃ k, entry.1 = [k]) ∨
      ∃ owner ∈ forest.addressed first parent position,
        entry.2.parent = some owner.2.index ∧ ∃ k, entry.1 = owner.1 ++ [k] := by
  induction forest generalizing first parent position entry with
  | nil => cases h
  | cons role info below rest belowIh restIh =>
      rcases List.mem_cons.mp h with rfl | inside
      · exact .inl ⟨rfl, first, rfl⟩
      · rcases List.mem_append.mp inside with deeper | later
        · obtain ⟨inner, innerMem, rfl⟩ := List.mem_map.mp deeper
          rcases belowIh innerMem with ⟨top, k, eq⟩ | ⟨owner, ownerMem, hp, k, eq⟩
          · exact .inr ⟨_, List.mem_cons_self, top, k, congrArg (first :: ·) eq⟩
          · exact .inr ⟨_, List.mem_cons_of_mem _
              (List.mem_append_left _ (List.mem_map_of_mem ownerMem)), hp, k,
              congrArg (first :: ·) eq⟩
        · exact (restIh later).imp_right fun ⟨owner, mem, own⟩ =>
            ⟨owner, List.mem_cons_of_mem _ (List.mem_append_right _ mem), own⟩

end Forest

/-- Each path of a row that is spelled leads to an object that states the node there. -/
theorem Load.Spells.states_of_mem_addressed {source : Text} {items : List Value}
    {forest : Forest NodeInfo} (h : Spells source items forest) {parent position : Nat}
    (before : List Value) {entry : List Nat × Node}
    (mem : entry ∈ forest.addressed before.length parent position) :
    ∃ fields, mappingAmong? (before ++ items) entry.1 = some fields ∧
      States source fields entry.2.toNodeInfo := by
  induction h generalizing parent position before entry with
  | nil => cases mem
  | @cons fields items rest role info below others _ stated listed inner later belowIh restIh =>
      rcases List.mem_cons.mp mem with rfl | inside
      · exact ⟨fields, by simp [mappingAmong?, Value.mapping?], stated⟩
      · rcases List.mem_append.mp inside with deeper | after
        · obtain ⟨deep, deepMem, rfl⟩ := List.mem_map.mp deeper
          -- Among the items of the object nothing has been passed yet.
          obtain ⟨own, leads, states⟩ := belowIh [] deepMem
          refine ⟨own, ?_, states⟩
          obtain ⟨head, path, eq, -⟩ := Forest.head_of_mem_addressed deepMem
          rw [eq] at leads ⊢
          simpa [mappingAmong?, Value.mapping?, listed] using leads
        · have longer : before.length + 1 = (before ++ [Value.object fields]).length := by simp
          rw [longer] at after
          rw [List.append_cons]
          exact restIh _ after

/-- The paths of a row that is spelled are all those that lead to an object. -/
theorem Load.Spells.exists_mem_addressed {source : Text} {items : List Value}
    {forest : Forest NodeInfo} (h : Spells source items forest) (parent position : Nat)
    (before : List Value) {head : Nat} {path : List Nat} (bound : before.length ≤ head)
    {fields : Fields}
    (leads : mappingAmong? (before ++ items) (head :: path) = some fields) :
    ∃ node, (head :: path, node) ∈ forest.addressed before.length parent position := by
  induction h generalizing parent position before head path with
  | nil => simp [mappingAmong?, bound] at leads
  | @cons own items rest role info below others _ stated listed inner later belowIh restIh =>
      rcases Nat.eq_or_lt_of_le bound with rfl | after
      · cases path with
        | nil => exact ⟨_, List.mem_cons_self⟩
        | cons next path =>
            have deeper : mappingAmong? ([] ++ items) (next :: path) = some fields := by
              simpa [mappingAmong?, Value.mapping?, listed] using leads
            obtain ⟨node, mem⟩ := belowIh position (position + 1) [] (Nat.zero_le next) deeper
            exact ⟨node, List.mem_cons_of_mem _
              (List.mem_append_left _ (List.mem_map.mpr ⟨_, mem, rfl⟩))⟩
      · have longer : before.length + 1 = (before ++ [Value.object own]).length := by simp
        rw [List.append_cons] at leads
        obtain ⟨node, mem⟩ := restIh parent (position + 1 + below.size) _ (longer ▸ after) leads
        rw [← longer] at mem
        exact ⟨node, List.mem_cons_of_mem _ (List.mem_append_right _ mem)⟩

/-! ### Trees of data -/

namespace Tree

/-- The nodes of a tree with their paths: there is one for each object of the data, it says
what its object does, nodes stand in the order of their paths, and the parent of a node is
the object that has it as an item. -/
structure Mirrors (tree : Tree) (data : Value) (source : Text)
    (entries : List (List Nat × Node)) : Prop where
  nodes : entries.map (·.2) = tree.nodes
  order : entries.Pairwise (·.1 < ·.1)
  states : ∀ entry ∈ entries, ∃ fields, data.mapping? entry.1 = some fields ∧
    States source fields entry.2.toNodeInfo
  complete : ∀ path fields, data.mapping? path = some fields → ∃ node, (path, node) ∈ entries
  parents : ∀ entry ∈ entries, ∀ owner ∈ entries,
    entry.2.parent = some owner.2.index ↔ ∃ k, entry.1 = owner.1 ++ [k]

section

variable {tree : Tree} {entries : List (List Nat × Node)}

theorem entry_eq_of_index_eq (nodes : entries.map (·.2) = tree.nodes) {a b : List Nat × Node}
    (ha : a ∈ entries) (hb : b ∈ entries) (same : a.2.index = b.2.index) : a = b := by
  -- Entries are where their nodes are, and these are where they say.
  have here : ∀ {k : Nat} {entry : List Nat × Node}, entries[k]? = some entry →
      entry.2.index = k := by
    intro k entry found
    have node : tree.nodes[k]? = some entry.2 := by
      rw [← nodes, List.getElem?_map, found]
      rfl
    exact (tree.linked k entry.2 node).1
  obtain ⟨k, hk⟩ := List.mem_iff_getElem?.mp ha
  obtain ⟨m, hm⟩ := List.mem_iff_getElem?.mp hb
  rw [here hk, here hm] at same
  rw [same, hm] at hk
  exact (Option.some.inj hk).symm

theorem entry_eq_of_path_eq (order : entries.Pairwise (·.1 < ·.1)) {a b : List Nat × Node}
    (ha : a ∈ entries) (hb : b ∈ entries) (same : a.1 = b.1) : a = b := by
  have distinct : (entries.map (·.1)).Nodup := by
    refine List.pairwise_map.mpr (order.imp fun before same => ?_)
    rw [same] at before
    exact List.lt_irrefl _ before
  exact List.inj_on_of_nodup_map distinct ha hb same

/-- Parents and paths agree once every node has some owner for which both do. -/
theorem parent_iff_path (nodes : entries.map (·.2) = tree.nodes)
    (order : entries.Pairwise (·.1 < ·.1))
    (owned : ∀ entry ∈ entries, (entry.2.parent = none ∧ entry.1 = []) ∨
      ∃ owner ∈ entries, entry.2.parent = some owner.2.index ∧ ∃ k, entry.1 = owner.1 ++ [k])
    {entry owner : List Nat × Node} (mem : entry ∈ entries) (ownerMem : owner ∈ entries) :
    entry.2.parent = some owner.2.index ↔ ∃ k, entry.1 = owner.1 ++ [k] := by
  -- The owner is the only entry with its position, and the only one with its path.
  rcases owned entry mem with ⟨none, root⟩ | ⟨other, otherMem, hp, k, path⟩
  · simp [none, root]
  · constructor
    · intro parent
      rw [hp] at parent
      have same := entry_eq_of_index_eq nodes otherMem ownerMem (Option.some.inj parent)
      exact ⟨k, same ▸ path⟩
    · rintro ⟨l, longer⟩
      have prefixes : other.1 = owner.1 := (List.append_inj' (path.symm.trans longer) rfl).1
      exact entry_eq_of_path_eq order otherMem ownerMem prefixes ▸ hp

end

/-- The arena of an outline mirrors the data that spells the outline. -/
theorem exists_mirrors_toTree {source : Text} {fields : Fields} {items : List Value}
    {outline : Outline} (stated : States source fields outline.label)
    (listed : childItems? fields = some items) (below : Spells source items outline.below) :
    ∃ entries, (outline.toTree source).Mirrors (.object fields) source entries := by
  let entries := ([], (outline.toTree source).root) :: outline.below.addressed 0 0 1
  have nodes : entries.map (·.2) = (outline.toTree source).nodes :=
    congrArg (_ :: ·) (Forest.map_addressed ..)
  have order : entries.Pairwise (·.1 < ·.1) := by
    refine List.pairwise_cons.mpr ⟨fun entry mem => ?_, Forest.pairwise_addressed ..⟩
    obtain ⟨head, path, eq, -⟩ := Forest.head_of_mem_addressed mem
    rw [eq]
    exact List.nil_lt_cons ..
  refine ⟨entries, nodes, order, ?_, ?_, fun entry mem owner ownerMem =>
    parent_iff_path nodes order ?_ mem ownerMem⟩
  · intro entry mem
    rcases List.mem_cons.mp mem with rfl | inside
    · exact ⟨fields, rfl, stated⟩
    · obtain ⟨own, leads, states⟩ := below.states_of_mem_addressed [] inside
      refine ⟨own, ?_, states⟩
      obtain ⟨head, path, eq, -⟩ := Forest.head_of_mem_addressed inside
      rw [eq] at leads ⊢
      rw [Value.mapping?, listed]
      exact leads
  · intro path own leads
    cases path with
    | nil => exact ⟨_, List.mem_cons_self⟩
    | cons head path =>
        rw [Value.mapping?, listed] at leads
        obtain ⟨node, mem⟩ := below.exists_mem_addressed 0 1 [] (Nat.zero_le head) leads
        exact ⟨node, List.mem_cons_of_mem _ mem⟩
  · intro entry mem
    rcases List.mem_cons.mp mem with rfl | inside
    · exact .inl ⟨rfl, rfl⟩
    · refine .inr ?_
      rcases Forest.parent_of_mem_addressed inside with ⟨top, path⟩ | ⟨owner, ownerMem, own⟩
      · exact ⟨_, List.mem_cons_self, top, path⟩
      · exact ⟨owner, List.mem_cons_of_mem _ ownerMem, own⟩

/-- Reading accepts the values of JSON that have the form of a node, whatever the source. Of
the values that no JSON text holds it refuses also those with a number that is to be a text
and is too long to be one. The tree that it gives has the objects of the data as its nodes,
in preorder. -/
theorem load_accepts_nodes (source : Text) :
    (∀ data : JsonValue, (∃ tree, Tree.load data.value source = .ok tree) ↔ data.value.IsNode) ∧
      ∀ data : Value,
        ((∃ tree, Tree.load data source = .ok tree) ↔ data.IsNode ∧
          ∀ path fields, data.mapping? path = some fields → HasTexts fields) ∧
        ∀ tree, Tree.load data source = .ok tree →
          (∃ entries, tree.Mirrors data source entries) ∧ tree.IsPreorder := by
  refine ⟨fun data => ?_, fun data => ⟨load_ok_iff.trans Value.isLoadable_iff, ?_⟩⟩
  · rw [load_ok_iff, Value.isLoadable_iff]
    exact and_iff_left fun path fields leads => (data.isWritable.of_mapping? leads).hasTexts
  · intro tree loaded
    obtain ⟨fields, items, outline, rfl, stated, listed, below, rfl⟩ :=
      Tree.load_eq_ok_iff.mp loaded
    exact ⟨exists_mirrors_toTree stated listed below, isPreorder_toTree outline source⟩

end Tree

end SketchHelp
