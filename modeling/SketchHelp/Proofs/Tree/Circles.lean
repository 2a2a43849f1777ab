import Mathlib.Data.List.Chain
import Mathlib.Data.Fintype.Card
import SketchHelp.Proofs.Tree.NodeAt
import SketchHelp.Tree.Arena

/-!
The node of a range in a tree of which nothing is known. Slots may name positions without
a node and may lead in circles, and nothing that checks a tree looks at them. The search
then finds a node all the same, or it comes upon an empty position, or it is caught in a
circle: of covering nodes on its way down, or of overlapping nodes in the search below.

What is caught is caught for good. A search that ends does so within as many levels as
there are nodes, so the limit that it is given cuts nothing off.
-/

namespace SketchHelp.Tree

/-! ### Slots -/

/-- A slot of the node names the child. -/
def Names (tree : Tree) (node child : Node) : Prop :=
  ∃ position ∈ node.roles.positions, tree.node? position = some child

/-- A slot of the node names a position without a node. -/
def Dangles (tree : Tree) (node : Node) : Prop :=
  ∃ position ∈ node.roles.positions, tree.node? position = none

/-- Slots lead from one node down to another. -/
def LeadsTo (tree : Tree) : Node → Node → Prop :=
  Relation.ReflTransGen tree.Names

/-- A step of the walk down through covering nodes. -/
def NamesCovering (tree : Tree) (range : Range) (node child : Node) : Prop :=
  tree.Names node child ∧ child.span.covers range = true

/-- A step of the search below a covering node. -/
def NamesOverlapping (tree : Tree) (range : Range) (node child : Node) : Prop :=
  tree.Names node child ∧ child.span.overlaps range = true

/-- Steps lead in a circle, which slots lead to from the root. -/
def HasCircle (tree : Tree) (step : Node → Node → Prop) : Prop :=
  ∃ node, tree.LeadsTo tree.root node ∧ Relation.TransGen step node node

variable {tree : Tree}

theorem mem_of_node?_eq_some {position : Int} {node : Node}
    (h : tree.node? position = some node) : node ∈ tree.nodes := by
  unfold node? at h
  split at h
  · exact List.mem_of_getElem? h
  split at h
  · exact List.mem_of_getElem? h
  · cases h

theorem LeadsTo.mem {node below : Node} (h : tree.LeadsTo node below)
    (mem : node ∈ tree.nodes) : below ∈ tree.nodes := by
  cases h with
  | refl => exact mem
  | tail _ last =>
      obtain ⟨position, -, found⟩ := last
      exact mem_of_node?_eq_some found

theorem node_cases (tree : Tree) (position : Int) :
    (∃ node, tree.node position = .ok node ∧ tree.node? position = some node) ∨
      tree.node position = .error .danglingPosition ∧ tree.node? position = none := by
  rw [node]
  cases tree.node? position with
  | none => exact .inr ⟨rfl, rfl⟩
  | some found => exact .inl ⟨found, rfl, rfl⟩

/-- Positions are looked up one by one, and the first empty one ends it. -/
theorem mapM_node_cases (tree : Tree) (positions : List Int) :
    (∃ nodes, positions.mapM tree.node = .ok nodes ∧
      ∀ node ∈ nodes, ∃ position ∈ positions, tree.node? position = some node) ∨
      positions.mapM tree.node = .error .danglingPosition ∧
        ∃ position ∈ positions, tree.node? position = none := by
  induction positions with
  | nil => exact .inl ⟨[], rfl, fun node h => nomatch h⟩
  | cons position rest ih =>
      rw [List.mapM_cons]
      rcases tree.node_cases position with ⟨first, ok, found⟩ | ⟨fault, empty⟩
      · rw [ok]
        rcases ih with ⟨others, oks, all⟩ | ⟨fault, other, mem, empty⟩
        · rw [oks]
          refine .inl ⟨first :: others, rfl, List.forall_mem_cons.mpr ⟨?_, fun node hn => ?_⟩⟩
          · exact ⟨position, List.mem_cons_self, found⟩
          · obtain ⟨other, mem, same⟩ := all node hn
            exact ⟨other, List.mem_cons_of_mem _ mem, same⟩
        · rw [fault]
          exact .inr ⟨rfl, other, List.mem_cons_of_mem _ mem, empty⟩
      · rw [fault]
        exact .inr ⟨rfl, position, List.mem_cons_self, empty⟩

theorem children_cases (tree : Tree) (node : Node) :
    (∃ children, tree.children node = .ok children ∧
      ∀ child ∈ children, tree.Names node child) ∨
      tree.children node = .error .danglingPosition ∧ tree.Dangles node := by
  rw [children]
  rcases tree.mapM_node_cases node.roles.positions with ⟨nodes, ok, all⟩ | ⟨fault, empty⟩
  · rw [ok]
    refine .inl ⟨_, rfl, fun child hc => ?_⟩
    exact all child ((StableSort.sort_perm ..).mem_iff.mp hc)
  · rw [fault]
    exact .inr ⟨rfl, empty⟩

/-! ### Paths -/

/-- There is a path of `length` steps from the node on. -/
def HasPath (step : Node → Node → Prop) (length : Nat) (node : Node) : Prop :=
  ∃ path : List Node, path.length = length ∧ (node :: path).IsChain step

theorem HasPath.zero (step : Node → Node → Prop) (node : Node) : HasPath step 0 node :=
  ⟨[], rfl, .singleton node⟩

theorem HasPath.cons {step : Node → Node → Prop} {length : Nat} {node child : Node}
    (first : step node child) (rest : HasPath step length child) :
    HasPath step (length + 1) node := by
  obtain ⟨path, long, chain⟩ := rest
  exact ⟨child :: path, congrArg (· + 1) long, .cons_cons first chain⟩

/-- A path with as many steps as the tree has nodes comes back to one of its nodes. -/
theorem HasPath.exists_circle {step : Node → Node → Prop}
    (named : ∀ node child, step node child → tree.Names node child) {node : Node}
    (mem : node ∈ tree.nodes) (h : HasPath step tree.size node) :
    ∃ inner, tree.LeadsTo node inner ∧ Relation.TransGen step inner inner := by
  obtain ⟨path, long, chain⟩ := h
  have ordered : (node :: path).Pairwise (Relation.TransGen step) :=
    List.isChain_iff_pairwise.mp (chain.imp fun _ _ => .single)
  have leads : ∀ inner ∈ node :: path, tree.LeadsTo node inner := by
    refine List.forall_mem_cons.mpr ⟨.refl, fun inner hi => ?_⟩
    exact Relation.ReflTransGen.mono named _ _
      ((List.pairwise_cons.mp ordered).1 inner hi).to_reflTransGen
  by_contra free
  -- Without a circle the nodes of the path are distinct, so they are too many.
  have distinct : (node :: path).Nodup := by
    refine ordered.imp_of_mem fun {a b} ha _ steps same => ?_
    exact free ⟨a, leads a ha, by rwa [← same] at steps⟩
  have sub : node :: path ⊆ tree.nodes := fun inner hi => (leads inner hi).mem mem
  have few := (List.subperm_of_subset distinct sub).length_le
  rw [List.length_cons, long] at few
  exact absurd few (Nat.not_succ_le_self _)

/-! ### The search below a node -/

/-- What the result of a search within `limit` levels below a node says about the tree. -/
def SearchResult (tree : Tree) (range : Range) (limit : Nat) (node : Node) :
    Except Fault (Option Node) → Prop
  | .ok found => ∀ inner ∈ found, tree.LeadsTo node inner
  | .error .danglingPosition => ∃ inner, tree.LeadsTo node inner ∧ tree.Dangles inner
  | .error .endlessSearch => HasPath (tree.NamesOverlapping range) limit node
  | .error _ => False

theorem SearchResult.of_child {range : Range} {limit : Nat} {node child : Node}
    {result : Except Fault (Option Node)} (step : tree.NamesOverlapping range node child)
    (h : tree.SearchResult range limit child result) :
    tree.SearchResult range (limit + 1) node result := by
  cases result with
  | ok found => exact fun inner hi => .head step.1 (h inner hi)
  | error fault =>
      cases fault with
      | danglingPosition =>
          obtain ⟨inner, leads, dangles⟩ := h
          exact ⟨inner, .head step.1 leads, dangles⟩
      | endlessSearch => exact .cons step h
      | endlessDescent | notText | compoundOperator => exact h

/-- A search through a row ends without a find, or as it ends at one of the items. -/
theorem findSomeM?_cases {α β : Type} {f : α → Except Fault (Option β)} {items : List α}
    {motive : Except Fault (Option β) → Prop} (without : motive (.ok none))
    (item : ∀ a ∈ items, motive (f a)) : motive (items.findSomeM? f) := by
  induction items with
  | nil => exact without
  | cons a rest ih =>
      obtain ⟨first, others⟩ := List.forall_mem_cons.mp item
      rw [List.findSomeM?_cons]
      cases visited : f a with
      | error fault =>
          rw [visited] at first
          exact first
      | ok found =>
          rw [visited] at first
          cases found with
          | none => exact ih others
          | some b => exact first

theorem searchResult_firstCovered (tree : Tree) (range : Range) (limit : Nat) (node : Node) :
    tree.SearchResult range limit node (tree.firstCovered range limit node) := by
  induction limit generalizing node with
  | zero => exact .zero _ node
  | succ limit ih =>
      rcases tree.children_cases node with ⟨children, ok, named⟩ | ⟨fault, dangles⟩
      · rw [firstCovered_succ ok]
        refine findSomeM?_cases (fun inner hi => nomatch hi) fun child hc => ?_
        split
        · intro inner hi
          exact Option.mem_some.mp hi ▸ .single (named child hc)
        split
        · rename_i overlaps
          exact (ih child).of_child ⟨named child hc, overlaps⟩
        · exact fun inner hi => nomatch hi
      · rw [firstCovered, fault]
        exact ⟨node, .refl, dangles⟩

/-! ### The walk down -/

/-- What the result of a walk of at most `limit` steps down from a node says about the
tree. -/
def WalkResult (tree : Tree) (range : Range) (limit : Nat) (node : Node) :
    Except Fault Node → Prop
  | .ok found => tree.LeadsTo node found
  | .error .danglingPosition => ∃ inner, tree.LeadsTo node inner ∧ tree.Dangles inner
  | .error .endlessDescent => HasPath (tree.NamesCovering range) limit node
  | .error .endlessSearch =>
    ∃ inner, tree.LeadsTo node inner ∧ tree.firstCovered range tree.size inner = .error .endlessSearch
  | .error _ => False

theorem WalkResult.of_child {range : Range} {limit : Nat} {node child : Node}
    {result : Except Fault Node} (step : tree.NamesCovering range node child)
    (h : tree.WalkResult range limit child result) :
    tree.WalkResult range (limit + 1) node result := by
  cases result with
  | ok found => exact .head step.1 h
  | error fault =>
      cases fault with
      | danglingPosition | endlessSearch =>
          obtain ⟨inner, leads, cause⟩ := h
          exact ⟨inner, .head step.1 leads, cause⟩
      | endlessDescent => exact .cons step h
      | notText | compoundOperator => exact h

theorem walkResult_settle (tree : Tree) (range : Range) (limit : Nat) (node : Node) :
    tree.WalkResult range limit node (tree.settle range node) := by
  unfold settle
  split
  · exact .refl
  · have below := tree.searchResult_firstCovered range tree.size node
    cases searched : tree.firstCovered range tree.size node with
    | ok found =>
        rw [searched] at below
        cases found with
        | none => exact .refl
        | some inner => exact below inner rfl
    | error fault =>
        rw [searched] at below
        cases fault with
        | danglingPosition => exact below
        | endlessSearch => exact ⟨node, .refl, searched⟩
        | endlessDescent | notText | compoundOperator => exact below.elim

theorem walkResult_descend (tree : Tree) (range : Range) (limit : Nat) (node : Node) :
    tree.WalkResult range limit node (tree.descend range limit node) := by
  induction limit generalizing node with
  | zero => exact .zero _ node
  | succ limit ih =>
      rcases tree.children_cases node with ⟨children, ok, named⟩ | ⟨fault, dangles⟩
      · cases found : children.find? (·.span.covers range) with
        | none =>
            rw [descend_of_find_eq_none ok found]
            exact tree.walkResult_settle range (limit + 1) node
        | some child =>
            have name := named child (List.mem_of_find?_eq_some found)
            have covers := List.find?_some found
            rw [descend_of_find_eq_some ok found]
            split
            · exact .single name
            · exact (ih child).of_child ⟨name, covers⟩
      · rw [descend, fault]
        exact ⟨node, .refl, dangles⟩

/-! ### Limits

What is reported as endless has no end: a search of any depth that ends at all ends within
as many levels as the tree has nodes. The nodes that it passes need fewer and fewer levels,
so they are distinct. -/

section Limits

variable {α : Type} {fault : Fault} {search : Nat → Node → Except Fault α}

/-- Where the search is not cut off, one more level changes nothing. -/
def Settles (search : Nat → Node → Except Fault α) (fault : Fault) : Prop :=
  ∀ limit node, search limit node = .error fault ∨
    search (limit + 1) node = search limit node

/-- The search from the node is cut off at the limit and ends at the next one. -/
def EndsAfter (search : Nat → Node → Except Fault α) (fault : Fault) (limit : Nat)
    (node : Node) : Prop :=
  search limit node = .error fault ∧ search (limit + 1) node ≠ .error fault

theorem ended_of_le (settled : Settles search fault)
    {low high : Nat} (le : low ≤ high) {node : Node} (ended : search low node ≠ .error fault) :
    search high node ≠ .error fault := by
  induction le with
  | refl => exact ended
  | step _ ih => rwa [(settled _ node).resolve_left ih]

theorem EndsAfter.unique (settled : Settles search fault)
    {a b : Nat} {node : Node} (ha : EndsAfter search fault a node)
    (hb : EndsAfter search fault b node) : a = b := by
  by_contra apart
  rcases Nat.lt_or_gt_of_ne apart with lower | lower
  · exact ended_of_le settled lower ha.2 hb.1
  · exact ended_of_le settled lower hb.2 ha.1

theorem exists_endsAfter (settled : Settles search fault)
    {low high : Nat} {node : Node} (cut : search low node = .error fault)
    (ended : search high node ≠ .error fault) :
    ∃ last, low ≤ last ∧ EndsAfter search fault last node := by
  induction high with
  | zero => exact absurd cut (ended_of_le settled (Nat.zero_le low) ended)
  | succ high ih =>
      by_cases before : search high node = .error fault
      · refine ⟨high, ?_, before, ended⟩
        by_contra lower
        exact ended_of_le settled (Nat.lt_of_not_le lower) ended cut
      · exact ih before

/-- Below a node that needs many levels there is one for every smaller need. -/
theorem EndsAfter.exists_of_le
    (deeper : ∀ limit, ∀ node ∈ tree.nodes, EndsAfter search fault (limit + 1) node →
      ∃ child ∈ tree.nodes, EndsAfter search fault limit child)
    {last need : Nat} {node : Node} (mem : node ∈ tree.nodes)
    (h : EndsAfter search fault last node) (le : need ≤ last) :
    ∃ inner ∈ tree.nodes, EndsAfter search fault need inner := by
  induction last generalizing node with
  | zero =>
      obtain rfl := Nat.le_zero.mp le
      exact ⟨node, mem, h⟩
  | succ last ih =>
      rcases Nat.le_succ_iff.mp le with lower | rfl
      · obtain ⟨child, childMem, ends⟩ := deeper last node mem h
        exact ih childMem ends lower
      · exact ⟨node, mem, h⟩

/-- If a search ends for some limit, but not for that of the tree's size, then there are
more nodes than the tree has, each of which needs a limit of its own. -/
theorem endless_of_size (settled : Settles search fault)
    (deeper : ∀ limit, ∀ node ∈ tree.nodes, EndsAfter search fault (limit + 1) node →
      ∃ child ∈ tree.nodes, EndsAfter search fault limit child)
    {node : Node} (mem : node ∈ tree.nodes) (h : search tree.size node = .error fault)
    (limit : Nat) : search limit node = .error fault := by
  by_contra ended
  obtain ⟨last, beyond, ends⟩ := exists_endsAfter settled h ended
  have each (need : Fin (last + 1)) := ends.exists_of_le deeper mem (Nat.le_of_lt_succ need.isLt)
  choose inner innerMem innerEnds using each
  have distinct : Function.Injective fun need => (⟨(inner need).index,
      index_lt_size (innerMem need)⟩ : Fin tree.size) := by
    intro a b same
    have eq : inner a = inner b :=
      eq_of_index_eq (innerMem a) (innerMem b) (Fin.val_eq_of_eq same)
    exact Fin.ext ((innerEnds a).unique settled (eq ▸ innerEnds b))
  have few := Fintype.card_le_of_injective _ distinct
  simp only [Fintype.card_fin] at few
  omega

/-- Where one search is cut off no later than another, they end alike unless one of the
items is cut off in the first only. -/
theorem findSomeM?_eq_or {β : Type} (fault : Fault) {f g : β → Except Fault (Option α)}
    {items : List β}
    (each : ∀ a ∈ items, f a = .error fault ∨ g a = f a) :
    items.findSomeM? g = items.findSomeM? f ∨
      items.findSomeM? f = .error fault ∧ ∃ a ∈ items, f a = .error fault ∧ g a ≠ .error fault := by
  induction items with
  | nil => exact .inl rfl
  | cons a rest ih =>
      obtain ⟨first, others⟩ := List.forall_mem_cons.mp each
      rw [List.findSomeM?_cons, List.findSomeM?_cons]
      by_cases same : g a = f a
      · rw [same]
        cases visited : f a with
        | error _ => exact .inl rfl
        | ok found =>
            cases found with
            | some _ => exact .inl rfl
            | none =>
                rcases ih others with eq | ⟨cut, item, mem, here⟩
                · exact .inl eq
                · exact .inr ⟨cut, item, List.mem_cons_of_mem _ mem, here⟩
      · have cut := first.resolve_right same
        refine .inr ⟨?_, a, List.mem_cons_self, cut, fun also => same (also.trans cut.symm)⟩
        rw [cut]
        rfl

end Limits

/-- One more level changes the result of a search below a node only where one more level
changes it below one of the children. -/
theorem firstCovered_eq_or {range : Range} {limit : Nat}
    (settled : ∀ child, tree.firstCovered range limit child = .error .endlessSearch ∨
      tree.firstCovered range (limit + 1) child = tree.firstCovered range limit child)
    (node : Node) :
    tree.firstCovered range (limit + 2) node = tree.firstCovered range (limit + 1) node ∨
      tree.firstCovered range (limit + 1) node = .error .endlessSearch ∧
        ∃ child ∈ tree.nodes,
          EndsAfter (tree.firstCovered range) .endlessSearch limit child := by
  rcases tree.children_cases node with ⟨children, ok, named⟩ | ⟨fault, -⟩
  · rw [firstCovered_succ ok, firstCovered_succ ok]
    refine (findSomeM?_eq_or .endlessSearch fun child _ => ?_).imp_right ?_
    · split
      · exact .inr rfl
      split
      · exact settled child
      · exact .inr rfl
    · rintro ⟨cut, child, hc, here, apart⟩
      obtain ⟨position, -, found⟩ := named child hc
      refine ⟨cut, child, mem_of_node?_eq_some found, ?_⟩
      split at here
      · cases here
      rename_i uncovered
      split at here
      · rename_i overlaps
        rw [if_neg uncovered, if_pos overlaps] at apart
        exact ⟨here, apart⟩
      · cases here
  · left
    rw [firstCovered, firstCovered, fault]
    rfl

theorem firstCovered_settles (tree : Tree) (range : Range) :
    Settles (tree.firstCovered range) .endlessSearch := by
  intro limit node
  induction limit generalizing node with
  | zero => exact .inl rfl
  | succ limit ih => exact (firstCovered_eq_or ih node).symm.imp_left And.left

theorem firstCovered_endless {range : Range} {node : Node} (mem : node ∈ tree.nodes)
    (h : tree.firstCovered range tree.size node = .error .endlessSearch) (limit : Nat) :
    tree.firstCovered range limit node = .error .endlessSearch := by
  refine endless_of_size (tree.firstCovered_settles range) ?_ mem h limit
  rintro limit inner _ ⟨cut, ended⟩
  rcases firstCovered_eq_or (tree.firstCovered_settles range limit) inner with same | ⟨-, child⟩
  · exact absurd (same.trans cut) ended
  · exact child

/-- One more step changes the result of a walk only where the walk goes on from a child. -/
theorem descend_eq_or (tree : Tree) (range : Range) (limit : Nat) (node : Node) :
    tree.descend range (limit + 2) node = tree.descend range (limit + 1) node ∨
      ∃ child ∈ tree.nodes, tree.descend range (limit + 1) node = tree.descend range limit child ∧
        tree.descend range (limit + 2) node = tree.descend range (limit + 1) child := by
  rcases tree.children_cases node with ⟨children, ok, named⟩ | ⟨fault, -⟩
  · cases found : children.find? (·.span.covers range) with
    | none =>
        left
        rw [descend_of_find_eq_none ok found, descend_of_find_eq_none ok found]
    | some child =>
        obtain ⟨position, -, there⟩ := named child (List.mem_of_find?_eq_some found)
        rw [descend_of_find_eq_some ok found, descend_of_find_eq_some ok found]
        split
        · exact .inl rfl
        · exact .inr ⟨child, mem_of_node?_eq_some there, rfl, rfl⟩
  · left
    rw [descend, descend, fault]
    rfl

theorem descend_settles (tree : Tree) (range : Range) :
    Settles (tree.descend range) .endlessDescent := by
  intro limit node
  induction limit generalizing node with
  | zero => exact .inl rfl
  | succ limit ih =>
      rcases tree.descend_eq_or range limit node with same | ⟨child, -, here, next⟩
      · exact .inr same
      · rw [here, next]
        exact ih child

theorem descend_endless {range : Range} {node : Node} (mem : node ∈ tree.nodes)
    (h : tree.descend range tree.size node = .error .endlessDescent) (limit : Nat) :
    tree.descend range limit node = .error .endlessDescent := by
  refine endless_of_size (tree.descend_settles range) ?_ mem h limit
  rintro limit inner _ ⟨cut, ended⟩
  rcases tree.descend_eq_or range limit inner with same | ⟨child, childMem, here, next⟩
  · exact absurd (same.trans cut) ended
  · exact ⟨child, childMem, here.symm.trans cut, fun also => ended (next.trans also)⟩

/-! ### The node of a range -/

/-- Whatever the slots of a tree name, every range has a node of the tree, unless the
search comes upon an empty position or is caught in a circle of the slots, and then no
limit would be enough for it. -/
theorem nodeAt_outcome (tree : Tree) (range : Range) :
    (∃ node ∈ tree.nodes, tree.nodeAt range = .ok node) ∨
      (tree.nodeAt range = .error .danglingPosition ∧
        ∃ node, tree.LeadsTo tree.root node ∧ tree.Dangles node) ∨
      (tree.nodeAt range = .error .endlessDescent ∧
        tree.HasCircle (tree.NamesCovering range) ∧
        ∀ limit, tree.descend range limit tree.root = .error .endlessDescent) ∨
      (tree.nodeAt range = .error .endlessSearch ∧
        tree.HasCircle (tree.NamesOverlapping range) ∧
        ∃ node, tree.LeadsTo tree.root node ∧
          ∀ limit, tree.firstCovered range limit node = .error .endlessSearch) := by
  have walk := tree.walkResult_descend range tree.size tree.root
  cases walked : tree.nodeAt range with
  | ok node =>
      rw [nodeAt] at walked
      rw [walked] at walk
      exact .inl ⟨node, LeadsTo.mem walk (root_mem tree), rfl⟩
  | error fault =>
      rw [nodeAt] at walked
      rw [walked] at walk
      cases fault with
      | danglingPosition => exact .inr (.inl ⟨rfl, walk⟩)
      | endlessDescent =>
          refine .inr (.inr (.inl ⟨rfl, ?_, descend_endless (root_mem tree) walked⟩))
          exact walk.exists_circle (fun _ _ step => step.1) (root_mem tree)
      | endlessSearch =>
          obtain ⟨node, leads, searched⟩ := walk
          have mem := leads.mem (root_mem tree)
          have search := tree.searchResult_firstCovered range tree.size node
          rw [searched] at search
          obtain ⟨inner, further, circle⟩ := search.exists_circle (fun _ _ step => step.1) mem
          exact .inr (.inr (.inr ⟨rfl, ⟨inner, .trans leads further, circle⟩, node, leads,
            firstCovered_endless mem searched⟩))
      | notText | compoundOperator => exact walk.elim

/-- A root that covers two offsets and keeps one position in a slot. -/
def rootNaming (position : Int) : Entry where
  kind := .block
  span := ⟨0, 2, by decide⟩
  text := []
  operator := .null
  resolvedType := .null
  method := none
  index := 0
  parent := none
  roles := [([], [position])]

/-- The nodes of a tree are accepted without a look at their slots. -/
theorem nodeAt_rootNaming_other :
    ∃ tree, Tree.ofEntries [rootNaming 1] [] = .ok tree ∧
      tree.nodeAt ⟨0, 2⟩ = .error .danglingPosition :=
  ⟨_, rfl, rfl⟩

/-- A root that is its own child is walked down from or searched for ever, except for the
range that it has itself. -/
example : ∃ tree, Tree.ofEntries [rootNaming 0] [] = .ok tree ∧
    tree.nodeAt ⟨1, 1⟩ = .error .endlessDescent ∧
    tree.nodeAt ⟨1, 3⟩ = .error .endlessSearch ∧
    tree.nodeAt ⟨0, 2⟩ = .ok tree.root :=
  ⟨_, rfl, rfl, rfl, rfl⟩

end SketchHelp.Tree
