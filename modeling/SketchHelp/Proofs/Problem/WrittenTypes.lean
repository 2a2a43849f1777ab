import SketchHelp.Problem.Classify
import SketchHelp.Proofs.Tree.Surroundings

/-!
Types as they are written out: a qualifier in segments, a simple name and brackets for each
dimension. The simple name of a type is looked for from the end of the text and the brackets
of its first dimension from the front, but neither search gets to what the other one takes
away. So the qualifier and a dimension may be taken off in either order, and what is left is
the name with one dimension less.
-/

namespace SketchHelp

/-! ### Qualifiers and dimensions -/

namespace TypeName

/-- The segments of a qualifier with a dot behind each. -/
def qualifier (segments : List Text) : Text :=
  segments.flatMap (· ++ [('.' : CodePoint)])

/-- Brackets for each dimension. -/
def dimensions (n : Nat) : Text :=
  (List.replicate n Text.brackets).flatten

theorem isSimple_dimensions (n : Nat) : (dimensions n).IsSimple := by
  intro dot
  obtain ⟨brackets, mem, inside⟩ := List.mem_flatten.mp dot
  obtain rfl := List.eq_of_mem_replicate mem
  exact absurd inside (by decide)

theorem qualifier_cons (segment : Text) (segments : List Text) :
    qualifier (segment :: segments) = segment ++ [('.' : CodePoint)] ++ qualifier segments :=
  rfl

theorem dimensions_succ (n : Nat) : dimensions (n + 1) = Text.brackets ++ dimensions n :=
  rfl

theorem trimType_qualifier (segments : List Text) (rest : Text) :
    Text.trimType (qualifier segments ++ rest) = rest.trimType := by
  induction segments with
  | nil => rfl
  | cons segment segments ih =>
      rw [qualifier_cons, List.append_assoc, Text.trimType_append_dot, ih]

/-- A qualifier without brackets hides none of what follows. -/
theorem elementType_qualifier {segments : List Text}
    (bare : ∀ segment ∈ segments, ¬ Text.brackets <:+: segment) (rest : Text) :
    Text.elementType (qualifier segments ++ rest) = qualifier segments ++ rest.elementType := by
  induction segments with
  | nil => rfl
  | cons segment segments ih =>
      obtain ⟨first, others⟩ := List.forall_mem_cons.mp bare
      have dot (rest : Text) : Text.elementType (('.' : CodePoint) :: rest) =
          ('.' : CodePoint) :: rest.elementType := if_neg fun opens => by cases opens.1
      have edge (rest : Text) :
          (('.' : CodePoint) :: rest).head? ≠ some (']' : CodePoint) := by simp
      rw [qualifier_cons, List.append_assoc, List.append_assoc, List.singleton_append,
        Text.elementType_append first (edge _), dot, ih others, List.append_assoc,
        List.append_assoc, List.singleton_append]

/-- One dimension less, if there is one. -/
theorem elementType_dimensions {name : Text} (bare : ¬ Text.brackets <:+: name) (n : Nat) :
    Text.elementType (name ++ dimensions n) = name ++ dimensions (n - 1) := by
  cases n with
  | zero =>
      have none : name ++ dimensions 0 = name := List.append_nil name
      rw [none, Text.elementType_eq_self bare]
  | succ n => rw [dimensions_succ, Text.elementType_append_brackets bare, Nat.add_sub_cancel]

end TypeName

/-! ### Types in parts -/

/-- A type in the parts that it is written of. A segment of the qualifier may have dots of its
own, and the name may end with a bracket that opens. -/
structure WrittenType where
  segments : List Text
  name : Text
  dimensions : Nat
  segments_bare : ∀ segment ∈ segments, ¬ Text.brackets <:+: segment
  name_bare : ¬ Text.brackets <:+: name
  name_simple : name.IsSimple

namespace WrittenType

def text (type : WrittenType) : Text :=
  TypeName.qualifier type.segments ++ (type.name ++ TypeName.dimensions type.dimensions)

/-- The type of an array's elements; any other type is its own. -/
def element (type : WrittenType) : WrittenType :=
  { type with dimensions := type.dimensions - 1 }

/-- The type without its qualifier. -/
def unqualified (type : WrittenType) : WrittenType :=
  { type with segments := [], segments_bare := nofun }

theorem elementType_text (type : WrittenType) : type.text.elementType = type.element.text := by
  rw [text, TypeName.elementType_qualifier type.segments_bare,
    TypeName.elementType_dimensions type.name_bare]
  rfl

theorem trimType_text (type : WrittenType) : type.text.trimType = type.unqualified.text := by
  have simple : Text.IsSimple (type.name ++ TypeName.dimensions type.dimensions) := fun dot =>
    (List.mem_append.mp dot).elim type.name_simple (TypeName.isSimple_dimensions _)
  rw [text, TypeName.trimType_qualifier, Text.trimType_eq_self simple]
  rfl

end WrittenType

/-- What a page names as the element type of an array. -/
theorem Tree.elementName_text {type : WrittenType} (more : type.text ≠ []) :
    Tree.elementName (.text type.text) =
      .ok (type.name ++ TypeName.dimensions (type.dimensions - 1)) := by
  have present : ¬ (Value.text type.text).isBlank = true := by
    simpa [Value.isBlank] using more
  rw [Tree.elementName, if_neg present]
  show Except.ok type.text.elementType.trimType = _
  rw [type.elementType_text, type.element.trimType_text]
  rfl

namespace WrittenType

/-- The qualifier of a type and one of its dimensions may be taken off in either order: the
name is left, with the other dimensions. What cutting the qualifier off leaves of any text is
an end of it without dots that is not cut again, and whatever stands in front of the text with
a dot behind it makes no difference. -/
theorem trimType_elementType_text :
    (∀ type : WrittenType,
      type.text.elementType.trimType = type.name ++ TypeName.dimensions (type.dimensions - 1) ∧
        type.text.trimType.elementType =
          type.name ++ TypeName.dimensions (type.dimensions - 1)) ∧
      ∀ name : Text, name.trimType.trimType = name.trimType ∧ name.trimType <:+ name ∧
        name.trimType.IsSimple ∧
          ∀ front : Text, Text.trimType (front ++ [('.' : CodePoint)] ++ name) = name.trimType := by
  constructor
  · intro type
    rw [type.elementType_text, type.element.trimType_text, type.trimType_text,
      type.unqualified.elementType_text]
    exact ⟨rfl, rfl⟩
  · intro name
    exact ⟨Text.trimType_trimType name, Text.trimType_suffix name, Text.isSimple_trimType name,
      fun front => Text.trimType_append_dot front name⟩

theorem trimType_elementType_text_table :
    Text.trimType (Text.elementType "java.lang.String[][]") = Text.ofString "String[]" ∧
      Text.elementType (Text.trimType "java.lang.String[][]") = Text.ofString "String[]" :=
  trimType_elementType_text.1 ⟨["java", "lang"], "String", 2, by decide +kernel, by decide +kernel, by decide⟩

end WrittenType

end SketchHelp
