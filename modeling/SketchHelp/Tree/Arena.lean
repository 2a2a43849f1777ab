import SketchHelp.Tree.Basic

/-!
Trees from a list of nodes that come with positions and parents already written in. The
list is checked node by node, and the first thing wrong with it is reported.
-/

namespace SketchHelp

/-- A node as somebody else lists it: its position and parent may be any number. -/
structure Entry extends NodeInfo where
  index : Int
  parent : Option Int
  roles : RoleMap

namespace Tree

/-- Why a list of entries is no tree. -/
inductive ArenaFault where
  | empty
  | misplaced (position : Nat) (index : Int)
  | rootHasParent
  | invalidParent (position : Nat) (parent : Option Int)
  | ownParent (position : Nat)
  deriving DecidableEq, Repr

def ArenaFault.message : ArenaFault → Text
  | .empty => Text.ofString "SyntaxTree requires at least a root node"
  | .misplaced position index => Text.orLimit do
    return Text.ofString "Node at position " ++ Text.ofNat position ++
      Text.ofString " has index " ++ (← Text.ofInt? index)
  | .rootHasParent => Text.ofString "Root node must not have a parent"
  | .invalidParent position none =>
    Text.ofString "Node " ++ Text.ofNat position ++ Text.ofString " has invalid parent None"
  | .invalidParent position (some parent) => Text.orLimit do
    return Text.ofString "Node " ++ Text.ofNat position ++
      Text.ofString " has invalid parent " ++ (← Text.ofInt? parent)
  | .ownParent position =>
    Text.ofString "Node " ++ Text.ofNat position ++ Text.ofString " is its own parent"

/-- The parent of the node at `position`, if it is one that a tree of `size` nodes
allows. -/
def linkParent (size position : Nat) (parent : Option Int) :
    Except ArenaFault (Option Nat) :=
  match position, parent with
  | 0, none => .ok none
  | 0, some _ => .error .rootHasParent
  | position + 1, none => .error (.invalidParent (position + 1) none)
  | position + 1, some parent =>
    if parent < 0 ∨ size ≤ parent then .error (.invalidParent (position + 1) (some parent))
    else if parent = position + 1 then .error (.ownParent (position + 1))
    else .ok (some parent.toNat)

def linkEntry (size position : Nat) (entry : Entry) : Except ArenaFault Node :=
  if entry.index = position then do
    return { toNodeInfo := entry.toNodeInfo, index := position,
             parent := ← linkParent size position entry.parent, roles := entry.roles }
  else .error (.misplaced position entry.index)

def linkFrom (size : Nat) : (position : Nat) → List Entry → Except ArenaFault (List Node)
  | _, [] => .ok []
  | position, entry :: rest => do
    let node ← linkEntry size position entry
    let nodes ← linkFrom size (position + 1) rest
    return node :: nodes

theorem isLinked_of_linkEntry {size position : Nat} {entry : Entry} {node : Node}
    (h : linkEntry size position entry = .ok node) : node.IsLinked size position := by
  unfold linkEntry at h
  split at h
  · cases hp : linkParent size position entry.parent with
    | error fault => simp [hp, bind, Except.bind] at h
    | ok parent =>
      simp only [hp, bind, Except.bind, pure, Except.pure, Except.ok.injEq] at h
      subst h
      refine ⟨rfl, ?_⟩
      unfold linkParent at hp
      split at hp
      · cases hp
        rfl
      · cases hp
      · cases hp
      · split at hp
        · cases hp
        · split at hp
          · cases hp
          · cases hp
            exact ⟨by omega, by omega, by omega⟩
  · cases h

theorem linkFrom_cons_eq_ok {size position : Nat} {entry : Entry} {rest : List Entry}
    {nodes : List Node} (h : linkFrom size position (entry :: rest) = .ok nodes) :
    ∃ node others, linkEntry size position entry = .ok node ∧
      linkFrom size (position + 1) rest = .ok others ∧ nodes = node :: others := by
  unfold linkFrom at h
  cases hn : linkEntry size position entry with
  | error fault => simp [hn, bind, Except.bind] at h
  | ok node =>
    cases ho : linkFrom size (position + 1) rest with
    | error fault => simp [hn, ho, bind, Except.bind] at h
    | ok others =>
      simp only [hn, ho, bind, Except.bind, pure, Except.pure, Except.ok.injEq] at h
      exact ⟨node, others, rfl, rfl, h.symm⟩

theorem length_of_linkFrom {size position : Nat} {entries : List Entry} {nodes : List Node}
    (h : linkFrom size position entries = .ok nodes) : nodes.length = entries.length := by
  induction entries generalizing position nodes with
  | nil =>
    cases h
    rfl
  | cons entry rest ih =>
    obtain ⟨node, others, -, ho, rfl⟩ := linkFrom_cons_eq_ok h
    simp [ih ho]

theorem isLinked_of_linkFrom {size position : Nat} {entries : List Entry} {nodes : List Node}
    (h : linkFrom size position entries = .ok nodes) (k : Nat) (node : Node)
    (hk : nodes[k]? = some node) : node.IsLinked size (position + k) := by
  induction entries generalizing position nodes k with
  | nil =>
    cases h
    simp at hk
  | cons entry rest ih =>
    obtain ⟨first, others, hf, ho, rfl⟩ := linkFrom_cons_eq_ok h
    cases k with
    | zero =>
      simp only [List.getElem?_cons_zero, Option.some.injEq] at hk
      exact hk ▸ isLinked_of_linkEntry hf
    | succ k =>
      simp only [List.getElem?_cons_succ] at hk
      have := ih ho k hk
      rwa [Nat.add_right_comm, Nat.add_assoc] at this

/-- The tree of a list of entries. -/
def ofEntries (entries : List Entry) (source : Text) : Except ArenaFault Tree :=
  if hne : entries = [] then .error .empty
  else
    match h : linkFrom entries.length 0 entries with
    | .error fault => .error fault
    | .ok nodes => .ok {
        nodes, source
        nonempty := by
          have := length_of_linkFrom h
          intro none
          simp only [none, List.length_nil] at this
          exact hne (List.length_eq_zero_iff.mp this.symm)
        linked := fun k node hk => by
          have := isLinked_of_linkFrom h k node hk
          rwa [Nat.zero_add, ← length_of_linkFrom h] at this }

end Tree

end SketchHelp
