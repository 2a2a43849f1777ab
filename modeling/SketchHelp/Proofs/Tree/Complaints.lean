import SketchHelp.Proofs.Tree.Format

/-!
What a refusal of nested data is about. Every fault that reading ends with is one that some
object in the data has, unless the data is no object to begin with, so a refusal that is not
reported as such comes from one of four places: an offset that is infinite, children that
are no list of objects, a method that is none, and a slot whose number is too long to be its
name. Data without these is read or refused with a report, and data that has nothing else
wrong with it is refused without one.
-/

namespace SketchHelp

theorem bind_eq_error_iff {ε α β : Type} {computation : Except ε α} {next : α → Except ε β}
    {fault : ε} :
    computation >>= next = .error fault ↔ computation = .error fault ∨
      ∃ a, computation = .ok a ∧ next a = .error fault := by
  cases computation <;> simp [bind, Except.bind]

namespace Load

/-- A fault that the fields of an object have. -/
inductive IsFaultOf (fields : Fields) : LoadFault → Prop where
  | missing {name : String} :
      name ∈ ["kind", "start", "end"] → get? fields name = none →
      IsFaultOf fields (.missingField name)
  | kind {value : Value} :
      get? fields "kind" = some value → (∀ kind : Kind, value ≠ .text kind.toText) →
      IsFaultOf fields (.badKind value.display)
  | offset {name : String} {value : Value} {fault : Value.WholeFault} :
      name ∈ ["start", "end"] → get? fields name = some value →
      value.toWhole = .error fault → IsFaultOf fields (.badOffset fault)
  | span {first last : Value} {start stop : Int} {fault : Span.Fault} :
      get? fields "start" = some first → first.toWhole = .ok start →
      get? fields "end" = some last → last.toWhole = .ok stop →
      Span.ofBounds start stop = .error fault → IsFaultOf fields (.badSpan fault)
  | children {value : Value} :
      get? fields "children" = some value → value.items? = none →
      IsFaultOf fields (.notIterable value.kindWord)
  | child {items : List Value} {item : Value} :
      childItems? fields = some items → item ∈ items → item.isObject = false →
      IsFaultOf fields .notObject
  | method {value : Value} :
      get? fields "method" = some value → value.isNull = false → value.isObject = false →
      IsFaultOf fields .notObject
  | parameterTypes {method : Fields} {value : Value} :
      get? fields "method" = some (.object method) →
      get? method "parameter_types" = some value → value.items? = none →
      IsFaultOf fields (.notIterable value.kindWord)
  | text : ¬ IsWritableAt fields "text" → IsFaultOf fields .longText
  | signature {method : Fields} :
      get? fields "method" = some (.object method) → ¬ IsSignature method →
      IsFaultOf fields .longText
  | role {items : List Value} {item : Fields} :
      childItems? fields = some items → .object item ∈ items → ¬ IsWritableAt item "role" →
      IsFaultOf fields .longRole

/-- Nothing in an object makes an operation fail whose failures go unreported. -/
structure IsGuarded (fields : Fields) : Prop where
  offsets : ∀ name ∈ ["start", "end"], ∀ value, get? fields name = some value →
    value.toWhole ≠ .error .infinite
  children : ∃ items, childItems? fields = some items ∧ ∀ item ∈ items, item.isObject
  roles : ∀ items, childItems? fields = some items → ∀ item, .object item ∈ items →
    IsWritableAt item "role"
  method : ∀ value, get? fields "method" = some value → IsMethod value

variable {fields : Fields} {fault : LoadFault}

/-- Guarded objects have no other faults than those that are reported. -/
theorem IsFaultOf.isReported (h : IsFaultOf fields fault) (guarded : IsGuarded fields) :
    fault.isReported = true := by
  obtain ⟨items, listed, objects⟩ := guarded.children
  cases h with
  | missing | kind | span | text | signature => rfl
  | @offset name value fault mem present refused =>
      cases fault with
      | infinite => exact absurd refused (guarded.offsets name mem value present)
      | notANumber | badText | tooLong | wrongKind => rfl
  | children present unlisted =>
      rw [childItems?, present] at listed
      cases unlisted.symm.trans listed
  | child found mem apart =>
      rw [listed] at found
      cases found
      simp [objects _ mem] at apart
  | method present known apart =>
      cases guarded.method _ present with
      | unknown => cases known
      | known => cases apart
  | parameterTypes present types unlisted =>
      cases guarded.method _ present with
      | known iterable =>
          have listed := iterable _ types
          rw [unlisted] at listed
          cases listed
  | role found mem unwritable => exact absurd (guarded.roles _ found _ mem) unwritable

/-! ### Where a fault comes from -/

theorem isFaultOf_of_required {name : String} (mem : name ∈ ["kind", "start", "end"])
    (h : required fields name = .error fault) : IsFaultOf fields fault := by
  rw [required] at h
  split at h
  · cases h
  · rename_i absent
    cases h
    exact .missing mem absent

theorem isFaultOf_of_kindOf {value : Value} (present : required fields "kind" = .ok value)
    (h : kindOf value = .error fault) : IsFaultOf fields fault := by
  have unknown : ∀ kind : Kind, value ≠ .text kind.toText := by
    intro kind same
    rw [kindOf_eq_ok_iff.mpr same] at h
    cases h
  have reason : fault = .badKind value.display := by
    unfold kindOf at h
    split at h
    · split at h <;> cases h
      rfl
    · cases h
      rfl
  exact reason ▸ .kind (required_eq_ok_iff.mp present) unknown

theorem isFaultOf_of_wholeOf {name : String} (mem : name ∈ ["start", "end"])
    {value : Value} (present : required fields name = .ok value)
    (h : wholeOf value = .error fault) : IsFaultOf fields fault := by
  unfold wholeOf at h
  split at h
  · cases h
  · rename_i reason refused
    cases h
    exact .offset mem (required_eq_ok_iff.mp present) refused

theorem isFaultOf_of_headOf (h : headOf fields = .error fault) : IsFaultOf fields fault := by
  simp only [headOf, bind_eq_error_iff] at h
  rcases h with missing | ⟨value, kind, unknown | ⟨_, -, rest⟩⟩
  · exact isFaultOf_of_required (by simp) missing
  · exact isFaultOf_of_kindOf kind unknown
  rcases rest with missing | ⟨first, start, refused | ⟨_, -, rest⟩⟩
  · exact isFaultOf_of_required (by simp) missing
  · exact isFaultOf_of_wholeOf (by simp) start refused
  rcases rest with missing | ⟨last, stop, refused | ⟨_, -, rest⟩⟩
  · exact isFaultOf_of_required (by simp) missing
  · exact isFaultOf_of_wholeOf (by simp) stop refused
  · cases rest

theorem textOf?_eq_error {reason : LoadFault} {name : String}
    (h : textOf? reason fields name = .error fault) :
    fault = reason ∧ ¬ IsWritableAt fields name := by
  refine ⟨?_, fun writable => ?_⟩
  · rw [textOf?_eq] at h
    split at h
    · cases h
    · split at h <;> cases h
      rfl
  · obtain ⟨told, read⟩ := (textOf?_ok_iff reason).mpr writable
    cases read.symm.trans h

theorem plainTexts_eq_error {values : List Value} (h : plainTexts values = .error fault) :
    fault = .longText := by
  induction values with
  | nil => cases h
  | cons value rest ih =>
      rw [plainTexts] at h
      split at h
      · rcases bind_eq_error_iff.mp h with later | ⟨_, -, last⟩
        · exact ih later
        · cases last
      · cases h
        rfl

/-- Parameter types are refused for their form or for their texts. -/
theorem parameterTypesOf_eq_error {method : Fields} (h : parameterTypesOf method = .error fault) :
    (∃ value, get? method "parameter_types" = some value ∧ value.items? = none ∧
        fault = .notIterable value.kindWord) ∨
      fault = .longText ∧ ¬ IsSignature method := by
  have unread : ¬ ∃ texts, parameterTypesOf method = .ok texts := by simp [h]
  rw [parameterTypesOf_eq] at h
  split at h
  · cases h
  · rename_i value present
    cases value with
    | list items =>
        refine .inr ⟨plainTexts_eq_error h, fun signature => unread ?_⟩
        refine parameterTypesOf_ok_iff.mpr ⟨fun types found => ?_, signature.parameterTypes⟩
        rw [present] at found
        cases found
        rfl
    | text | object => cases h
    | null | bool | int | float =>
        cases h
        exact .inl ⟨_, present, rfl, rfl⟩

theorem isFaultOf_of_methodOf (h : methodOf (optional fields "method") = .error fault) :
    IsFaultOf fields fault := by
  rw [optional_eq] at h
  cases present : get? fields "method" with
  | none =>
      rw [present] at h
      cases h
  | some value =>
      rw [present, Option.getD_some] at h
      cases value with
      | null => cases h
      | object method =>
          simp only [methodOf, bind_eq_error_iff] at h
          rcases h with name | ⟨_, -, types | ⟨_, -, returnType | ⟨_, -, last⟩⟩⟩
          · obtain ⟨rfl, unwritable⟩ := textOf?_eq_error name
            exact .signature present fun signature => unwritable signature.name
          · rcases parameterTypesOf_eq_error types with ⟨_, found, unlisted, rfl⟩ | ⟨rfl, unsigned⟩
            · exact .parameterTypes present found unlisted
            · exact .signature present unsigned
          · obtain ⟨rfl, unwritable⟩ := textOf?_eq_error returnType
            exact .signature present fun signature => unwritable signature.returnType
          · cases last
      | bool | int | float | text | list =>
          cases h
          exact .method present rfl rfl

theorem isFaultOf_of_infoOf {source : Text} {kind : Kind} {start stop : Int}
    (head : headOf fields = .ok (kind, start, stop))
    (h : infoOf source fields kind start stop = .error fault) : IsFaultOf fields fault := by
  simp only [infoOf, bind_eq_error_iff] at h
  rcases h with text | ⟨_, -, method | ⟨_, -, span | ⟨_, -, last⟩⟩⟩
  · obtain ⟨rfl, unwritable⟩ := textOf?_eq_error text
    exact .text unwritable
  · exact isFaultOf_of_methodOf method
  · obtain ⟨-, ⟨first, hfirst, low⟩, last, hlast, high⟩ := headOf_eq_ok_iff.mp head
    unfold spanOf at span
    split at span
    · cases span
    · rename_i reason refused
      cases span
      exact .span hfirst low hlast high refused
  · cases last

theorem roleOf_eq_error {item : Value} (h : roleOf item = .error fault) :
    (item.isObject = false ∧ fault = .notObject) ∨
      ∃ own, item = .object own ∧ fault = .longRole ∧ ¬ IsWritableAt own "role" := by
  cases item with
  | object own =>
      simp only [roleOf, bind_eq_error_iff] at h
      rcases h with role | ⟨_, -, last⟩
      · obtain ⟨rfl, unwritable⟩ := textOf?_eq_error role
        exact .inr ⟨own, rfl, rfl, unwritable⟩
      · cases last
  | null | bool | int | float | text | list =>
      cases h
      exact .inl ⟨rfl, rfl⟩

/-! ### Where in the data a fault is -/

variable {source : Text}

theorem loadRow_eq_error {items : List Value} (h : loadRow source items = .error fault) :
    ∃ item ∈ items, roleOf item = .error fault ∨ loadNode source item = .error fault := by
  induction items with
  | nil => cases h
  | cons item rest ih =>
      simp only [loadRow, bind_eq_error_iff] at h
      rcases h with slot | ⟨_, -, here | ⟨_, -, later | ⟨_, -, last⟩⟩⟩
      · exact ⟨item, List.mem_cons_self, .inl slot⟩
      · exact ⟨item, List.mem_cons_self, .inr here⟩
      · obtain ⟨other, mem, refused⟩ := ih later
        exact ⟨other, List.mem_cons_of_mem _ mem, refused⟩
      · cases last

theorem loadBelow_eq_error (h : loadBelow source fields = .error fault) :
    IsFaultOf fields fault ∨ ∃ items item, childItems? fields = some items ∧ item ∈ items ∧
      item.isObject = true ∧ loadNode source item = .error fault := by
  rw [loadBelow_eq] at h
  cases present : get? fields "children" with
  | none =>
      rw [present] at h
      cases h
  | some value =>
      rw [present] at h
      simp only [loadChildren_eq] at h
      cases listed : value.items? with
      | none =>
          rw [listed] at h
          cases h
          exact .inl (.children present listed)
      | some items =>
          rw [listed] at h
          have found : childItems? fields = some items := by
            rw [childItems?, present]
            exact listed
          obtain ⟨item, mem, slot | refused⟩ := loadRow_eq_error h
          · -- The object is to blame for an item that is none, and for the slot of one.
            rcases roleOf_eq_error slot with ⟨apart, rfl⟩ | ⟨own, rfl, rfl, unwritable⟩
            · exact .inl (.child found mem apart)
            · exact .inl (.role found mem unwritable)
          · cases object : item.isObject with
            | true => exact .inr ⟨items, item, found, mem, object, refused⟩
            | false =>
                rw [loadNode_of_not_isObject object] at refused
                cases refused
                exact .inl (.child found mem object)

/-- A fault is one of an object in the data, or the data is no object. -/
theorem exists_isFaultOf {value : Value} (h : loadNode source value = .error fault) :
    (value.isObject = false ∧ fault = .notObject) ∨
      ∃ path fields, value.mapping? path = some fields ∧ IsFaultOf fields fault := by
  induction value using itemInduction with
  | other value apart =>
      rw [loadNode_of_not_isObject apart] at h
      exact .inl ⟨apart, (Except.error.inj h).symm⟩
  | object fields ih =>
      refine .inr ?_
      simp only [loadNode, bind_eq_error_iff] at h
      rcases h with head | ⟨⟨kind, start, stop⟩, head, below | ⟨_, -, info | ⟨_, -, last⟩⟩⟩
      · exact ⟨[], fields, rfl, isFaultOf_of_headOf head⟩
      · rcases loadBelow_eq_error below with own | ⟨items, item, listed, mem, object, refused⟩
        · exact ⟨[], fields, rfl, own⟩
        · rcases ih items listed item mem refused with ⟨apart, -⟩ | ⟨path, deep, leads, own⟩
          · cases object.symm.trans apart
          · obtain ⟨position, found⟩ := List.mem_iff_getElem?.mp mem
            exact ⟨position :: path, deep,
              Value.mapping?_cons_eq_some_iff.mpr ⟨_, _, _, rfl, listed, found, leads⟩, own⟩
      · exact ⟨[], fields, rfl, isFaultOf_of_infoOf head info⟩
      · cases last

end Load

open Load

theorem Value.IsLoadable.isGuarded {fields : Fields} (h : (Value.object fields).IsLoadable) :
    IsGuarded fields := by
  cases h with
  | object readable texts listed items =>
      obtain ⟨first, last, start, stop, hfirst, low, hlast, high, -⟩ := readable.span
      refine ⟨?_, ⟨_, listed, fun item mem => ?_⟩, texts.roles, readable.method⟩
      · intro name mem value present
        rcases List.mem_pair.mp mem with rfl | rfl
        · rw [hfirst] at present
          cases present
          simp [low]
        · rw [hlast] at present
          cases present
          simp [high]
      · cases items item mem
        rfl

namespace Tree

/-- Data is read, or refused with a report. -/
def IsAnswered (data : Value) (source : Text) : Prop :=
  (∃ tree, Tree.load data source = .ok tree) ∨
    ∃ fault, Tree.load data source = .error fault ∧ fault.isReported = true

theorem exists_isFaultOf_of_load {data : Value} {source : Text} {fault : LoadFault}
    (h : Tree.load data source = .error fault) :
    (data.isObject = false ∧ fault = .rootNotObject data.kindWord) ∨
      ∃ path fields, data.mapping? path = some fields ∧ IsFaultOf fields fault := by
  cases data with
  | object fields =>
      simp only [Tree.load, bind_eq_error_iff] at h
      rcases h with refused | ⟨_, -, last⟩
      · rcases exists_isFaultOf refused with ⟨apart, -⟩ | found
        · cases apart
        · exact .inr found
      · cases last
  | null | bool | int | float | text | list =>
      exact .inl ⟨rfl, (Except.error.inj h).symm⟩

/-- Data whose objects are all guarded is answered. Data with an object that is not is not
answered, unless there is something else wrong with it that may be met before. -/
theorem load_answers (data : Value) (source : Text) :
    ((∀ path fields, data.mapping? path = some fields → IsGuarded fields) →
        IsAnswered data source) ∧
      ((∃ path fields, data.mapping? path = some fields ∧ ¬ IsGuarded fields) →
        (∀ path fields fault, data.mapping? path = some fields → IsFaultOf fields fault →
          fault.isReported = false) →
        ¬ IsAnswered data source) := by
  constructor
  · intro guarded
    cases read : Tree.load data source with
    | ok tree => exact .inl ⟨tree, read⟩
    | error fault =>
        refine .inr ⟨fault, read, ?_⟩
        rcases exists_isFaultOf_of_load read with ⟨-, rfl⟩ | ⟨path, fields, leads, own⟩
        · rfl
        · exact own.isReported (guarded path fields leads)
  · rintro ⟨path, fields, leads, unguarded⟩ quiet (accepted | ⟨fault, refused, reported⟩)
    · -- All objects of accepted data are loadable, and so they are guarded.
      exact unguarded ((load_ok_iff.mp accepted).of_mapping? leads).isGuarded
    · rcases exists_isFaultOf_of_load refused with ⟨apart, -⟩ | ⟨place, own, found, isFault⟩
      · cases data <;> cases apart <;> cases path <;> cases leads
      · rw [quiet place own fault found isFault] at reported
        cases reported

/-- An object with a child whose kind is misspelled. -/
def misspelledChild : Value :=
  .object [("kind", .text "block"), ("start", .int 0), ("end", .int 2),
    ("children", .list [.object [("kind", .text "blok")]])]

theorem isAnswered_misspelledChild : IsAnswered misspelledChild (Text.ofString "ab") := by
  refine (load_answers misspelledChild (Text.ofString "ab")).1 fun path fields leads => ?_
  rcases path with _ | ⟨_ | position, _ | ⟨next, path⟩⟩
  · cases leads
    refine ⟨?_, ⟨_, rfl, ?_⟩, ?_, ?_⟩
    · simp [Value.toWhole]
    · simp [Value.isObject]
    · rintro items listed item mem value present
      cases listed
      cases List.mem_singleton.mp mem
      simp at present
    · simp
  · cases leads
    refine ⟨?_, ⟨[], rfl, ?_⟩, ?_, ?_⟩ <;> simp [childItems?]
  all_goals cases leads

/-- An object that lists null as its child. -/
def nullChild : Value :=
  .object [("kind", .text "block"), ("start", .int 0), ("end", .int 2),
    ("children", .list [.null])]

theorem not_isAnswered_nullChild : ¬ IsAnswered nullChild (Text.ofString "ab") := by
  have refused : Tree.load nullChild (Text.ofString "ab") = .error .notObject := rfl
  rintro (⟨tree, accepted⟩ | ⟨fault, same, reported⟩)
  · rw [refused] at accepted
    cases accepted
  · rw [refused] at same
    cases same
    cases reported

end Tree

end SketchHelp
