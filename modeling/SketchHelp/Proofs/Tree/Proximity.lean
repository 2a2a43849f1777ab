import SketchHelp.Proofs.Tree.Surroundings

/-!
The type that is wanted at a place is decided nearby. The nearest node, from the place
upward, whose kind has a rule always gives an answer, so nothing above it is asked. Its
rule reads what the node says about itself and the texts and types of its children in five
slots, so the answer is the same in every tree where these are the same, whatever else the
trees hold.
-/

namespace SketchHelp

/-- Kinds of nodes that say which type is wanted in them. -/
def Kind.hasTypeRule : Kind → Bool
  | .prefixExpression | .infixExpression | .postfixExpression | .conditionalExpression
  | .instanceofExpression | .variableDeclarationFragment | .methodInvocation | .arrayCreation
  | .arrayAccess | .arrayInitializer | .castExpression | .assignment | .expressionStatement
  | .characterLiteral | .booleanLiteral | .numberLiteral | .stringLiteral
  | .nullLiteral => true
  | _ => false

/-- The slots that a rule may look into. -/
def Role.ofTypeRules : List Role :=
  [.leftOperand, .rightOperand, .arguments, .type, .expression]

/-- What a rule may read of a child. -/
def Node.evidence (child : Node) : Text × Value :=
  (child.text, child.resolvedType)

namespace Tree

/-- The nearest node at or above `node` whose kind has a rule. -/
def decider (tree : Tree) (node : Node) : Option Node :=
  tree.firstAncestor node Kind.hasTypeRule

/-- What a rule may read of the children in a slot, in slot order. -/
def evidenceIn (tree : Tree) (node : Node) (role : Role) :
    Except Fault (List (Text × Value)) :=
  (tree.childrenIn node role.toText).map (·.map Node.evidence)

/-- Two nodes say the same to every rule. -/
structure Agrees (tree other : Tree) (node twin : Node) : Prop where
  kind : node.kind = twin.kind
  operator : node.operator = twin.operator
  resolvedType : node.resolvedType = twin.resolvedType
  method : node.method = twin.method
  children : ∀ role ∈ Role.ofTypeRules, tree.evidenceIn node role = other.evidenceIn twin role

/-! ### Rules -/

theorem typeRule_of_not_hasTypeRule {tree : Tree} {node : Node}
    (h : node.kind.hasTypeRule = false) (missing : Text) :
    tree.typeRule missing node = .ok none := by
  rw [typeRule]
  cases kind : node.kind <;> first | rfl | (rw [kind] at h; cases h)

/-- A rule that lacks what it asks for gives an answer nevertheless. -/
theorem typeRule_ne_none {tree : Tree} {node : Node} (h : node.kind.hasTypeRule = true)
    (missing : Text) : tree.typeRule missing node ≠ .ok none := by
  have answers {α : Type} (computation : Except Fault α) (answer : α → Value) :
      (do return some (answer (← computation))) ≠ Except.ok none := by
    cases computation <;> nofun
  unfold typeRule
  -- One goal for each kind with a rule, in the order of the rules.
  split
  · nofun
  · exact answers _ _
  · nofun
  · nofun
  · nofun
  · nofun
  · nofun
  · nofun
  · nofun
  · nofun
  · nofun
  · nofun
  · exact answers _ fun type => .text type
  · split
    · nofun
    · exact answers _ fun type => .text type
  · rcases tree.child node Role.type.toText with _ | (_ | _) <;> nofun
  · exact answers _ fun type => if type.isNull then .text TypeName.object else type
  · nofun
  · nofun
  · unfold Kind.hasTypeRule at h
    split at h <;> contradiction

section

variable {tree other : Tree} {node twin : Node} {role : Role}

theorem IsSound.exists_typeRule (sound : tree.IsSound) (mem : node ∈ tree.nodes)
    (h : node.kind.hasTypeRule = true) (missing : Text) :
    ∃ type, tree.typeRule missing node = .ok (some type) := by
  obtain ⟨_ | type, eq, -⟩ := sound.typeRule_yields mem missing
  · exact absurd eq (typeRule_ne_none h missing)
  · exact ⟨type, eq⟩

/-! ### What a rule reads -/

/-- The slots that a rule may look into can be read, and hold children that are alike. -/
def ReadAlike (tree other : Tree) (node twin : Node) : Prop :=
  ∀ role ∈ Role.ofTypeRules, ∃ children twins,
    tree.childrenIn node role.toText = .ok children ∧
      other.childrenIn twin role.toText = .ok twins ∧
      children.map Node.evidence = twins.map Node.evidence

theorem Agrees.readAlike (agrees : Agrees tree other node twin) (sound : tree.IsSound)
    (soundOther : other.IsSound) (mem : node ∈ tree.nodes) (memOther : twin ∈ other.nodes) :
    ReadAlike tree other node twin := by
  intro role read
  obtain ⟨children, eq, -⟩ := sound.childrenIn node mem role.toText
  obtain ⟨twins, eq', -⟩ := soundOther.childrenIn twin memOther role.toText
  have same := agrees.children role read
  rw [evidenceIn, evidenceIn, eq, eq'] at same
  exact ⟨children, twins, eq, eq', Except.ok.inj same⟩

namespace ReadAlike

variable (alike : ReadAlike tree other node twin)

include alike

/-- The first children in a slot are alike. -/
theorem exists_child (read : role ∈ Role.ofTypeRules) :
    ∃ first firstTwin, tree.child node role.toText = .ok first ∧
      other.child twin role.toText = .ok firstTwin ∧
      first.map Node.evidence = firstTwin.map Node.evidence := by
  obtain ⟨children, twins, eq, eq', same⟩ := alike role read
  refine ⟨_, _, child_eq_head? eq, child_eq_head? eq', ?_⟩
  rw [← List.head?_map, ← List.head?_map, same]

theorem childType_eq (read : role ∈ Role.ofTypeRules) :
    tree.childType node role = other.childType twin role := by
  obtain ⟨first, firstTwin, eq, eq', same⟩ := alike.exists_child read
  rw [childType, childType, eq, eq']
  rcases first with _ | child <;> rcases firstTwin with _ | childTwin
  · rfl
  · cases same
  · cases same
  · exact congrArg Except.ok (congrArg Prod.snd (Option.some.inj same))

theorem infixType_eq (operator : node.operator = twin.operator) :
    tree.infixType node = other.infixType twin := by
  rw [infixType, infixType, operator, alike.childType_eq (by decide),
    alike.childType_eq (by decide)]

theorem invocationType_eq (method : node.method = twin.method) (missing : Text) :
    tree.invocationType missing node = other.invocationType missing twin := by
  obtain ⟨arguments, twins, eq, eq', same⟩ := alike .arguments (by decide)
  have texts : arguments.map (·.text) = twins.map (·.text) := by
    have firsts := congrArg (List.map Prod.fst) same
    rwa [List.map_map, List.map_map] at firsts
  rw [invocationType, invocationType, method, eq, eq']
  cases twin.method with
  | none => rfl
  | some method =>
      simp only [bind, Except.bind, texts]

end ReadAlike

/-- Rules say the same of nodes that agree. -/
theorem Agrees.typeRule_eq (agrees : Agrees tree other node twin)
    (alike : ReadAlike tree other node twin) (missing : Text) :
    tree.typeRule missing node = other.typeRule missing twin := by
  have type : Role.type ∈ Role.ofTypeRules := by decide
  have expression : Role.expression ∈ Role.ofTypeRules := by decide
  obtain ⟨castType, castTwin, eq, eq', same⟩ := alike.exists_child type
  simp only [typeRule, agrees.kind, agrees.operator, agrees.resolvedType,
    alike.infixType_eq agrees.operator, alike.invocationType_eq agrees.method,
    alike.childType_eq expression, eq, eq']
  rcases castType with _ | castType <;> rcases castTwin with _ | castTwin
  · rfl
  · cases same
  · cases same
  · have text : castType.text = castTwin.text := congrArg Prod.fst (Option.some.inj same)
    simp only [bind, Except.bind, text]

end

/-! ### The walk upward -/

section

variable {α β : Type} {rule : α → Except Fault (Option β)} {decides : α → Bool}
  {items : List α}

theorem findSomeM?_of_find?_eq_none (silent : ∀ a, decides a = false → rule a = .ok none)
    (h : items.find? decides = none) : items.findSomeM? rule = .ok none := by
  induction items with
  | nil => rfl
  | cons a items ih =>
      rw [List.find?_cons] at h
      split at h
      · cases h
      · rename_i no
        rw [List.findSomeM?_cons, silent a no]
        exact ih h

/-- The first that decides is the first that is heard. -/
theorem findSomeM?_of_find?_eq_some (silent : ∀ a, decides a = false → rule a = .ok none)
    {a : α} {b : β} (h : items.find? decides = some a) (answer : rule a = .ok (some b)) :
    items.findSomeM? rule = .ok (some b) := by
  induction items with
  | nil => cases h
  | cons first items ih =>
      rw [List.find?_cons] at h
      rw [List.findSomeM?_cons]
      split at h
      · obtain rfl := Option.some.inj h
        rw [answer]
        rfl
      · rename_i no
        rw [silent first no]
        exact ih h

end

section

variable {tree : Tree} {node nearest : Node} {missing : Text}

theorem inferType_of_decider_eq_none (h : tree.decider node = none) (missing : Text) :
    tree.inferType missing (some node) = .ok (.text TypeName.object) := by
  have silent : (tree.ancestors node).findSomeM? (tree.typeRule missing) = .ok none :=
    findSomeM?_of_find?_eq_none (fun _ no => typeRule_of_not_hasTypeRule no missing) h
  rw [inferType, silent]
  rfl

theorem inferType_of_decider_eq_some (h : tree.decider node = some nearest) {type : Value}
    (answer : tree.typeRule missing nearest = .ok (some type)) :
    tree.inferType missing (some node) = .ok type := by
  have found : (tree.ancestors node).findSomeM? (tree.typeRule missing) = .ok (some type) :=
    findSomeM?_of_find?_eq_some (fun _ no => typeRule_of_not_hasTypeRule no missing) h answer
  rw [inferType, found]
  rfl

theorem hasTypeRule_of_decider_eq_some (h : tree.decider node = some nearest) :
    nearest.kind.hasTypeRule = true := by
  simpa using List.find?_some h

theorem decider_of_hasTypeRule (h : node.kind.hasTypeRule = true) :
    tree.decider node = some node := by
  rw [decider, firstAncestor, ancestors, climb]
  exact List.find?_cons_of_pos h

/-- The node that decides about a place decides about itself. -/
theorem decider_self (h : tree.decider node = some nearest) :
    tree.decider nearest = some nearest :=
  decider_of_hasTypeRule (hasTypeRule_of_decider_eq_some h)

/-- A node without a rule leaves it to its parent. -/
theorem TopDown.decider_of_parent (down : tree.TopDown) {parent : Node} (mem : node ∈ tree.nodes)
    (hp : tree.parent node = some parent) (h : node.kind.hasTypeRule = false) :
    tree.decider node = tree.decider parent := by
  rw [decider, firstAncestor, down.ancestors_of_parent mem hp]
  exact List.find?_cons_of_neg (Bool.not_eq_true _ ▸ h)

end

end Tree

namespace Spec

/-- The nearest node with a rule decides. If there is none, the type is the root of all
types. Otherwise it is what the rule says, which is the type wanted at that node too, and it
is the same wherever the nearest node with a rule says the same. -/
theorem inferType_of_decider {spec : Spec} {source : Text} {offset : Option Int} {tree : Tree}
    (built : spec.toTree source offset = .ok tree) {node : Node} (mem : node ∈ tree.nodes)
    (missing : Text) :
    (tree.decider node = none →
      tree.inferType missing (some node) = .ok (.text TypeName.object)) ∧
    ∀ nearest, tree.decider node = some nearest →
      ∃ type, tree.typeRule missing nearest = .ok (some type) ∧
        tree.inferType missing (some node) = .ok type ∧
        tree.inferType missing (some nearest) = .ok type ∧
        ∀ (otherSpec : Spec) (otherSource : Text) (otherOffset : Option Int) (other : Tree),
          otherSpec.toTree otherSource otherOffset = .ok other →
          ∀ place ∈ other.nodes, ∀ twin, other.decider place = some twin →
            tree.Agrees other nearest twin →
            other.inferType missing (some place) = .ok type := by
  have sound := isSound_of_toTree built
  refine ⟨fun none => Tree.inferType_of_decider_eq_none none missing, fun nearest found => ?_⟩
  have nearestMem := Tree.mem_of_firstAncestor_eq mem found
  obtain ⟨type, answer⟩ := sound.exists_typeRule nearestMem
    (Tree.hasTypeRule_of_decider_eq_some found) missing
  refine ⟨type, answer, Tree.inferType_of_decider_eq_some found answer,
    Tree.inferType_of_decider_eq_some (Tree.decider_self found) answer, ?_⟩
  intro otherSpec otherSource otherOffset other otherBuilt place placeMem twin twinFound agrees
  have alike := agrees.readAlike sound (isSound_of_toTree otherBuilt) nearestMem
    (Tree.mem_of_firstAncestor_eq placeMem twinFound)
  refine Tree.inferType_of_decider_eq_some twinFound ?_
  rw [← agrees.typeRule_eq alike, answer]

/-- The comparison `i < n`, where the type of `i` is known. -/
def comparison : Spec :=
  let name (text : String) (type : Option Text) : SpecInfo :=
    ⟨.simpleName, Text.ofString text, none, type, none⟩
  ⟨⟨.infixExpression, Text.ofString "i < n", some (Text.ofString "<"), none, none⟩,
    .cons Role.leftOperand.toText (name "i" (some (Text.ofString "long"))) .nil
      (.cons Role.rightOperand.toText (name "n" none) .nil .nil)⟩

/-- The comparison below another node with a rule. -/
def negatedComparison : Spec :=
  ⟨⟨.prefixExpression, Text.ofString "!(i < n)", some (Text.ofString "!"), none, none⟩,
    .cons Role.operand.toText
      ⟨.parenthesizedExpression, Text.ofString "(i < n)", none, none, none⟩
      (.cons Role.expression.toText comparison.label comparison.below .nil) .nil⟩

theorem agrees_comparison {tree other : Tree} {nearest twin : Node}
    (built : comparison.toTree (Text.ofString "i < n") none = .ok tree)
    (otherBuilt : negatedComparison.toTree (Text.ofString "!(i < n)") none = .ok other)
    (first : tree.nodes[0]? = some nearest) (second : other.nodes[2]? = some twin) :
    tree.Agrees other nearest twin := by
  cases built
  cases otherBuilt
  cases first
  cases second
  refine ⟨rfl, rfl, rfl, rfl, fun role read => ?_⟩
  simp only [Role.ofTypeRules, List.mem_cons, List.not_mem_nil, or_false] at read
  rcases read with rfl | rfl | rfl | rfl | rfl <;> rfl

/-- The comparison decides about its right operand, and the negation above it does not. -/
theorem inferType_of_decider_comparison :
    ∃ tree other, comparison.toTree (Text.ofString "i < n") none = .ok tree ∧
      negatedComparison.toTree (Text.ofString "!(i < n)") none = .ok other ∧
      ∃ place ∈ tree.nodes, ∃ otherPlace ∈ other.nodes, ∃ nearest twin,
        tree.decider place = some nearest ∧ other.decider otherPlace = some twin ∧
        tree.Agrees other nearest twin ∧ other.root.kind = .prefixExpression ∧
        tree.inferType [] (some place) = .ok (.text (Text.ofString "long")) ∧
        other.inferType [] (some otherPlace) = .ok (.text (Text.ofString "long")) := by
  have built : comparison.toTree (Text.ofString "i < n") none = .ok _ := rfl
  have otherBuilt : negatedComparison.toTree (Text.ofString "!(i < n)") none = .ok _ := rfl
  obtain ⟨type, -, eq, -, same⟩ :=
    (inferType_of_decider built (List.mem_of_getElem? (i := 2) rfl) []).2 _ rfl
  obtain rfl : type = .text (Text.ofString "long") := Except.ok.inj (eq.symm.trans rfl)
  have agrees := agrees_comparison built otherBuilt rfl rfl
  exact ⟨_, _, built, otherBuilt, _, List.mem_of_getElem? (i := 2) rfl, _,
    List.mem_of_getElem? (i := 4) rfl, _, _, rfl, rfl, agrees, rfl, eq,
    same _ _ _ _ otherBuilt _ (List.mem_of_getElem? (i := 4) rfl) _ rfl agrees⟩

end Spec

end SketchHelp
