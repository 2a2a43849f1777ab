import SketchHelp.Proofs.Tree.Reading
import SketchHelp.Proofs.Tree.Spelling

/-!
Trees written out as nested data and read again. What is written of a node is all that it
says about itself, the slot that it is in, and its children in the order of their
positions. The main statement says that nothing is lost: the tree of a description and the
tree of data are both read back as they were, and in the tree of a description the source
has every text, so that no node need tell its own.
-/

namespace SketchHelp

open Load

/-! ### Data -/

namespace MethodBinding

def toData (method : MethodBinding) : Value :=
  .object [("name", .text method.name),
    ("parameter_types", .list (method.parameterTypes.map .text)),
    ("return_type", .text method.returnType)]

/-- A method that is not known is null. -/
def optionToData : Option MethodBinding → Value
  | none => .null
  | some method => method.toData

theorem plainTexts_map_text (texts : List Text) : plainTexts (texts.map .text) = .ok texts := by
  induction texts with
  | nil => rfl
  | cons t rest ih =>
      rw [List.map_cons, plainTexts, ih]
      rfl

theorem methodOf_toData (method : MethodBinding) :
    methodOf method.toData = .ok (some method) := by
  simp [toData, methodOf, textOf?_eq, parameterTypesOf_eq, textsOf, Value.plain,
    plainTexts_map_text, bind, Except.bind, pure, Except.pure]

theorem methodOf_optionToData (method : Option MethodBinding) :
    methodOf (optionToData method) = .ok method := by
  cases method with
  | none => rfl
  | some method => exact methodOf_toData method

end MethodBinding

namespace NodeInfo

/-- The fields of a node's object, with its text or without. -/
def toFields (withText : Bool) (role : Text) (children : List Value) (info : NodeInfo) :
    Fields :=
  let others : Fields := [("kind", .text info.kind.toText), ("start", .int info.span.start),
    ("end", .int info.span.stop), ("role", .text role), ("operator", info.operator),
    ("type", info.resolvedType), ("method", MethodBinding.optionToData info.method),
    ("children", .list children)]
  others ++ if withText then [(Text.ofString "text", .text info.text)] else []

variable {source : Text} {withText : Bool} {role : Text} {children : List Value}
  {info : NodeInfo}

theorem textOr?_role_toFields :
    textOr? (info.toFields withText role children) "role" [] = some role := by
  simp [toFields, textOr?, Value.plain]

theorem childItems?_toFields :
    childItems? (info.toFields withText role children) = some children := by
  simp [toFields, childItems?, Value.items?]

/-- The object of a node states the node. -/
theorem states_toFields
    (h : withText = true ∨ source.slice info.span.start info.span.stop = info.text) :
    States source (info.toFields withText role children) info where
  kind := by simp [toFields]
  start := ⟨.int info.span.start, by simp [toFields], rfl⟩
  stop := ⟨.int info.span.stop, by simp [toFields], rfl⟩
  text := by
    cases withText with
    | true => simp [toFields, textOr?, Value.plain]
    | false => simp [toFields, textOr?, h.resolve_left Bool.false_ne_true]
  operator := by simp [toFields, optional_eq]
  resolvedType := by simp [toFields, optional_eq]
  method := by simp [toFields, optional_eq, MethodBinding.methodOf_optionToData]

end NodeInfo

namespace Forest

/-- The objects of a row of trees. -/
def toData (withText : Bool) : Forest NodeInfo → List Value
  | nil => []
  | cons role info below rest =>
    .object (info.toFields withText role (below.toData withText)) :: rest.toData withText

/-- The objects of a row spell the row. -/
theorem spells_toData {source : Text} {withText : Bool} {forest : Forest NodeInfo}
    (h : withText = true ∨
      ∀ info ∈ forest.labels, source.slice info.span.start info.span.stop = info.text) :
    Spells source (forest.toData withText) forest := by
  induction forest with
  | nil => exact .nil
  | cons role info below rest belowIh restIh =>
      have top := h.imp_right fun all => all info List.mem_cons_self
      have inner := belowIh (h.imp_right fun all other mem =>
        all other (List.mem_cons_of_mem _ (List.mem_append_left _ mem)))
      have later := restIh (h.imp_right fun all other mem =>
        all other (List.mem_cons_of_mem _ (List.mem_append_right _ mem)))
      have stated : States source (info.toFields withText role (below.toData withText)) info :=
        NodeInfo.states_toFields top
      exact .cons NodeInfo.textOr?_role_toFields stated NodeInfo.childItems?_toFields inner later

end Forest

namespace Outline

/-- The object of a tree. Its root is in no slot, and the empty one stands for that. -/
def toData (withText : Bool) (outline : Outline) : Value :=
  .object (outline.label.toFields withText [] (outline.below.toData withText))

theorem load_toData {source : Text} {withText : Bool} {outline : Outline}
    (h : withText = true ∨ ∀ info ∈ outline.label :: outline.below.labels,
      source.slice info.span.start info.span.stop = info.text) :
    Tree.load (outline.toData withText) source = .ok (outline.toTree source) := by
  refine Tree.load_eq_ok_iff.mpr ⟨_, _, outline, rfl, ?_, NodeInfo.childItems?_toFields, ?_, rfl⟩
  · exact NodeInfo.states_toFields (h.imp_right fun all => all _ List.mem_cons_self)
  · exact Forest.spells_toData
      (h.imp_right fun all info mem => all info (List.mem_cons_of_mem _ mem))

end Outline

/-! ### The outline of a tree -/

namespace RoleMap

/-- Every position with the slot that it is in, in the order of the positions. -/
def entries (roles : RoleMap) : List (Text × Int) :=
  StableSort.sort (fun a b => a.2 ≤ b.2) roles.listed

/-- Entries that come in the order of their positions are read off the map again. -/
theorem entries_ofPositions {entries : List (Text × Int)}
    (increasing : entries.Pairwise fun a b => a.2 < b.2) :
    (ofPositions entries).entries = entries := by
  refine StableSort.sort_eq_of_perm _ (fun a b => ?_) (fun a b c => ?_)
    (listed_ofPositions_perm entries) ?_ ?_
  · simpa using Int.le_total a.2 b.2
  · simpa using Int.le_trans
  · exact increasing.imp fun before => decide_eq_true (Int.le_of_lt before)
  · intro a ha b hb hab hba
    have distinct : (entries.map (·.2)).Nodup :=
      List.pairwise_map.mpr (increasing.imp fun before => Int.ne_of_lt before)
    exact List.inj_on_of_nodup_map distinct ha hb
      (Int.le_antisymm (of_decide_eq_true hab) (of_decide_eq_true hba))

end RoleMap

namespace Tree

/-- What a node and at most `limit` levels from it downward say, with each child in the
slot that lists it and the children in the order of their positions. -/
def outlineWithin (tree : Tree) : (limit : Nat) → Node → Except Fault Outline
  | 0, _ => .error .endlessSearch
  | limit + 1, node => do
    let entries ← node.roles.entries.mapM fun entry => do
      let child ← tree.node entry.2
      let outline ← tree.outlineWithin limit child
      return (entry.1, outline)
    return ⟨node.toNodeInfo, Forest.ofTrees entries⟩

/-- A tree as nested data. -/
def toData (tree : Tree) (withText : Bool) : Except Fault Value :=
  return (← tree.outlineWithin tree.size tree.root).toData withText

variable {tree : Tree}

theorem Carries.entries_roles {node : Node} {below : Forest NodeInfo}
    (h : tree.Carries node below) : node.roles.entries = below.slots (node.index + 1) := by
  rw [h.roles, RoleMap.entries_ofPositions (below.pairwise_slots _)]

/-- The slots of a row lead to nodes that carry the trees of the row. -/
theorem HoldsRow.forall₂_slots {parent position : Nat} {forest : Forest NodeInfo}
    (h : tree.HoldsRow parent position forest) :
    List.Forall₂ (fun slot part => slot.1 = part.1 ∧ ∃ child, tree.node slot.2 = .ok child ∧
        child.toNodeInfo = part.2.label ∧ tree.Carries child part.2.below)
      (forest.slots position) forest.trees := by
  induction forest generalizing position with
  | nil => exact .nil
  | cons role info below rest _ ih =>
      exact .cons ⟨rfl, _, node_index h.head.mem, rfl, h.head⟩ (ih h.tail)

theorem Carries.outlineWithin_eq {node : Node} {below : Forest NodeInfo}
    (h : tree.Carries node below) {limit : Nat} (enough : below.size < limit) :
    tree.outlineWithin limit node = .ok ⟨node.toNodeInfo, below⟩ := by
  -- The limit bounds the size of what is left below the node.
  induction limit generalizing node below with
  | zero => omega
  | succ limit ih =>
      have parts : node.roles.entries.mapM (fun entry => do
          let child ← tree.node entry.2
          let outline ← tree.outlineWithin limit child
          return (entry.1, outline)) = .ok below.trees := by
        rw [h.entries_roles]
        refine mapM_eq_ok (List.forall₂_iff_zip.mpr
          ⟨h.row.forall₂_slots.length_eq, fun {slot part} paired => ?_⟩)
        obtain ⟨role, child, found, info, carries⟩ :=
          (List.forall₂_iff_zip.mp h.row.forall₂_slots).2 paired
        have smaller := Forest.size_lt_of_mem_trees (List.of_mem_zip paired).2
        rw [found, role]
        show (tree.outlineWithin limit child >>= fun outline => pure (part.1, outline)) = _
        rw [ih carries (by omega), info]
        rfl
      rw [outlineWithin]
      show (node.roles.entries.mapM _ >>= fun entries =>
        (return ⟨node.toNodeInfo, Forest.ofTrees entries⟩ : Except Fault Outline)) = _
      rw [parts]
      show Except.ok (⟨node.toNodeInfo, Forest.ofTrees below.trees⟩ : Outline) = _
      rw [Forest.ofTrees_trees]

theorem toData_toTree (outline : Outline) (source : Text) (withText : Bool) :
    (outline.toTree source).toData withText = .ok (outline.toData withText) := by
  have root := carries_root outline source
  rw [toData, root.outlineWithin_eq root.size_lt]
  rfl

end Tree

/-! ### Reading back -/

/-- A node's text is the part of the source under its span. -/
theorem Forest.Placed.slice_of_mem_labels {source : Text} {low high : Nat}
    {forest : Forest SpecInfo} {placed : Forest NodeInfo}
    (h : forest.Placed source low high placed) :
    ∀ info ∈ placed.labels, source.slice info.span.start info.span.stop = info.text := by
  induction h with
  | nil => exact fun info mem => nomatch mem
  | cons _ _ text _ _ belowIh restIh =>
      intro info mem
      rcases List.mem_cons.mp mem with rfl | inside
      · exact text
      · rcases List.mem_append.mp inside with deep | right
        · exact belowIh info deep
        · exact restIh info right

namespace Tree

/-- Written out, with texts or without, and read again, the tree is the same. -/
def IsRestored (tree : Tree) (withText : Bool) : Prop :=
  ∃ data, tree.toData withText = .ok data ∧ Tree.load data tree.source = .ok tree

theorem isRestored_toTree {outline : Outline} {source : Text} {withText : Bool}
    (h : withText = true ∨ ∀ info ∈ outline.label :: outline.below.labels,
      source.slice info.span.start info.span.stop = info.text) :
    (outline.toTree source).IsRestored withText :=
  ⟨_, toData_toTree outline source withText, outline.load_toData h⟩

/-- Trees of descriptions and of data are restored, whatever their operators and types are,
and the trees of descriptions are so from their source alone. -/
theorem isRestored_of_built (tree : Tree) :
    (∀ (spec : Spec) (source : Text) (offset : Option Int),
      spec.toTree source offset = .ok tree →
        tree.IsRestored true ∧ tree.IsRestored false) ∧
    ∀ (data : Value) (source : Text), Tree.load data source = .ok tree →
      tree.IsRestored true := by
  constructor
  · intro spec source offset built
    obtain ⟨start, outline, placed, rfl⟩ := spec.exists_placed built
    refine ⟨isRestored_toTree (.inl rfl), isRestored_toTree (.inr fun info mem => ?_)⟩
    rcases List.mem_cons.mp mem with rfl | below
    · rw [placed.label]
      exact placed.text
    · exact placed.below.slice_of_mem_labels info below
  · intro data source loaded
    obtain ⟨_, _, outline, -, -, -, -, rfl⟩ := Tree.load_eq_ok_iff.mp loaded
    exact isRestored_toTree (.inl rfl)

theorem isRestored_repeatedArgument :
    ∃ tree, Spec.repeatedArgument.toTree (Text.ofString "f(x, x);") none = .ok tree ∧
      tree.IsRestored true ∧ tree.IsRestored false := by
  have built : Spec.repeatedArgument.toTree (Text.ofString "f(x, x);") none = .ok _ := rfl
  exact ⟨_, built, (isRestored_of_built _).1 _ _ _ built⟩

end Tree

end SketchHelp
