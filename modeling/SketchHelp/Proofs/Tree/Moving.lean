import SketchHelp.Tree.Declaration
import SketchHelp.Tree.Inference

/-!
Trees with their spans moved. Whoever looks around a node goes by parents, slots, kinds
and texts, and none of those says where in the source the node stands. So each look-up in
a tree whose spans were moved, in whatever way, finds the nodes that it found before, with
their spans moved, and the same names and types.
-/

namespace SketchHelp

def NodeInfo.move (move : Span → Span) (info : NodeInfo) : NodeInfo :=
  { info with span := move info.span }

/-- The node with another span. -/
def Node.move (move : Span → Span) (node : Node) : Node :=
  { node with toNodeInfo := node.toNodeInfo.move move }

/-- The tree with its spans moved, in another source. -/
def Tree.move (move : Span → Span) (source : Text) (tree : Tree) : Tree where
  nodes := tree.nodes.map (Node.move move)
  source := source
  nonempty := by simpa using tree.nonempty
  linked := by
    intro position node h
    rw [List.getElem?_map] at h
    obtain ⟨before, found, rfl⟩ := Option.map_eq_some_iff.mp h
    rw [List.length_map]
    exact tree.linked position before found

section Node

variable (move : Span → Span) (node : Node)

@[simp] theorem Node.move_span : (node.move move).span = move node.span := rfl

@[simp] theorem Node.move_kind : (node.move move).kind = node.kind := rfl

@[simp] theorem Node.move_text : (node.move move).text = node.text := rfl

@[simp] theorem Node.move_operator : (node.move move).operator = node.operator := rfl

@[simp] theorem Node.move_resolvedType :
    (node.move move).resolvedType = node.resolvedType := rfl

@[simp] theorem Node.move_method : (node.move move).method = node.method := rfl

@[simp] theorem Node.move_index : (node.move move).index = node.index := rfl

@[simp] theorem Node.move_parent : (node.move move).parent = node.parent := rfl

@[simp] theorem Node.move_roles : (node.move move).roles = node.roles := rfl

end Node

namespace Tree

section

variable {α β γ δ : Type}

@[simp] theorem map_ok (f : α → β) (a : α) : f <$> (.ok a : Except Fault α) = .ok (f a) :=
  rfl

@[simp] theorem ok_bind (a : α) (next : α → Except Fault β) : (.ok a >>= next) = next a :=
  rfl

/-- Results that are all turned into others are turned into them as a list. -/
theorem mapM_eq_map_mapM {f : β → γ} {g : α → Except Fault β} {h : α → Except Fault γ}
    (each : ∀ a, h a = f <$> g a) (l : List α) : l.mapM h = List.map f <$> l.mapM g := by
  induction l with
  | nil => rfl
  | cons a l ih =>
      rw [List.mapM_cons, List.mapM_cons, each, ih]
      rcases g a with fault | b
      · rfl
      · rcases l.mapM g with fault | results <;> rfl

/-- A search among other items, each of which gives another result, gives that other
result. -/
theorem findSomeM?_map {f : α → β} {r : γ → δ} {g : α → Except Fault (Option γ)}
    {h : β → Except Fault (Option δ)} (each : ∀ a, h (f a) = Option.map r <$> g a)
    (l : List α) : (l.map f).findSomeM? h = Option.map r <$> l.findSomeM? g := by
  induction l with
  | nil => rfl
  | cons a l ih =>
      rw [List.map_cons, List.findSomeM?_cons, List.findSomeM?_cons, each, ih]
      rcases g a with fault | (_ | found) <;> rfl

end

variable (move : Span → Span) (source : Text) (tree : Tree) (node : Node)

@[simp] theorem nodes_move :
    (tree.move move source).nodes = tree.nodes.map (Node.move move) := rfl

@[simp] theorem size_move : (tree.move move source).size = tree.size := by
  simp [size]

@[simp] theorem root_move : (tree.move move source).root = tree.root.move move :=
  List.head_map ..

@[simp] theorem node?_move (position : Int) :
    (tree.move move source).node? position = (tree.node? position).map (Node.move move) := by
  simp only [node?, size_move, nodes_move, List.getElem?_map]
  split
  · rfl
  · split <;> rfl

@[simp] theorem node_move (position : Int) :
    (tree.move move source).node position = Node.move move <$> tree.node position := by
  rw [Tree.node, Tree.node, node?_move]
  rcases tree.node? position with _ | found <;> rfl

/-! ### Up and down -/

@[simp] theorem parent_move :
    (tree.move move source).parent (node.move move) =
      (tree.parent node).map (Node.move move) := by
  rw [Tree.parent, Tree.parent, Node.move_parent]
  rcases node.parent with _ | position
  · rfl
  · simp

theorem bind_parent_move (place : Option Node) :
    (place.map (Node.move move)).bind (tree.move move source).parent =
      (place.bind tree.parent).map (Node.move move) := by
  rcases place with _ | node <;> simp

theorem climb_move (limit : Nat) :
    (tree.move move source).climb (node.move move) limit =
      (tree.climb node limit).map (Node.move move) := by
  induction limit generalizing node with
  | zero => rfl
  | succ limit ih =>
      rw [climb, climb, parent_move]
      rcases tree.parent node with _ | parent
      · rfl
      · simp [ih]

@[simp] theorem ancestors_move :
    (tree.move move source).ancestors (node.move move) =
      (tree.ancestors node).map (Node.move move) := by
  simp [ancestors, climb_move]

@[simp] theorem firstAncestor_move (wanted : Kind → Bool) :
    (tree.move move source).firstAncestor (node.move move) wanted =
      (tree.firstAncestor node wanted).map (Node.move move) := by
  simp [firstAncestor, List.find?_map, Function.comp_def]

@[simp] theorem childrenIn_move (role : Text) :
    (tree.move move source).childrenIn (node.move move) role =
      List.map (Node.move move) <$> tree.childrenIn node role :=
  mapM_eq_map_mapM (node_move move source tree) _

@[simp] theorem child_move (role : Text) :
    (tree.move move source).child (node.move move) role =
      Option.map (Node.move move) <$> tree.child node role := by
  rw [child, child, Node.move_roles]
  rcases node.roles.get role with _ | ⟨position, rest⟩
  · rfl
  · simp only [node_move]
    rcases tree.node position with fault | found <;> rfl

/-! ### Declarations -/

@[simp] theorem childText_move (role : Role) :
    (tree.move move source).childText (node.move move) role = tree.childText node role := by
  rw [childText, childText, child_move]
  rcases tree.child node role.toText with fault | (_ | found) <;> rfl

@[simp] theorem declarationFragment_move :
    (tree.move move source).declarationFragment (node.move move) =
      Option.map (Node.move move) <$> tree.declarationFragment node := by
  rw [declarationFragment, declarationFragment, firstAncestor_move]
  rcases tree.firstAncestor node isFragmentOrDeclaration with _ | found
  · rfl
  · simp only [Option.map_some, Node.move_kind, child_move]
    split <;> rfl

@[simp] theorem declaredName_move :
    (tree.move move source).declaredName (node.move move) = tree.declaredName node := by
  simp [declaredName]

@[simp] theorem declaredType_move :
    (tree.move move source).declaredType (node.move move) = tree.declaredType node := by
  rw [declaredType, declaredType, parent_move]
  rcases tree.parent node with _ | declaration
  · rfl
  · simp

@[simp] theorem variableNameNear_move :
    (tree.move move source).variableNameNear (node.move move) =
      tree.variableNameNear node := by
  rw [variableNameNear, variableNameNear, declarationFragment_move]
  rcases tree.declarationFragment node with fault | (_ | fragment)
  · rfl
  · rfl
  · exact declaredName_move move source tree fragment

/-! ### Wanted types -/

@[simp] theorem childType_move (role : Role) :
    (tree.move move source).childType (node.move move) role = tree.childType node role := by
  rw [childType, childType, child_move]
  rcases tree.child node role.toText with fault | (_ | found) <;> rfl

@[simp] theorem infixType_move :
    (tree.move move source).infixType (node.move move) = tree.infixType node := by
  simp [infixType]

@[simp] theorem invocationType_move (missing : Text) :
    (tree.move move source).invocationType missing (node.move move) =
      tree.invocationType missing node := by
  rw [invocationType, invocationType, Node.move_method]
  rcases node.method with _ | method
  · rfl
  · simp [Function.comp_def]

theorem typeRule_move (missing : Text) :
    (tree.move move source).typeRule missing (node.move move) =
      tree.typeRule missing node := by
  simp only [typeRule, Node.move_kind, Node.move_operator, Node.move_resolvedType,
    infixType_move, invocationType_move, childType_move, child_move]
  rcases tree.child node Role.type.toText with fault | (_ | castType) <;> rfl

@[simp] theorem inferType_move (missing : Text) (place : Option Node) :
    (tree.move move source).inferType missing (place.map (Node.move move)) =
      tree.inferType missing place := by
  rcases place with _ | node
  · rfl
  · have rules : ((tree.ancestors node).map (Node.move move)).findSomeM?
          ((tree.move move source).typeRule missing) =
        Option.map id <$> (tree.ancestors node).findSomeM? (tree.typeRule missing) :=
      findSomeM?_map (fun above => by rw [typeRule_move, Option.map_id_fun, id_map]) _
    simp only [inferType, Option.map_some, ancestors_move, rules, Option.map_id_fun, id_map]

@[simp] theorem wantedType_move (missing : Text) (place : Option Node) :
    (tree.move move source).wantedType missing (place.map (Node.move move)) =
      tree.wantedType missing place := by
  simp [wantedType]

@[simp] theorem wantedType_some_move (missing : Text) :
    (tree.move move source).wantedType missing (some (node.move move)) =
      tree.wantedType missing (some node) :=
  wantedType_move move source tree missing (some node)

end Tree

end SketchHelp
