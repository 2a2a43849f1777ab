import Mathlib.Data.List.Perm.Subperm
import SketchHelp.Proofs.Tree.Upward
import SketchHelp.Tree.Arena

/-!
Walks upward in a tree of which nothing is known. The parents of a node form a chain that
ends at the root, the only node without a parent, or that runs in a circle. The walk is cut
off after one node more than the tree has. A chain that ends has no node twice, so it is
shorter and the walk lists all of it. A chain that runs in a circle has been round once by
then, so the walk has passed every node that the chain leads to. Whoever looks for the first
node of some kind above another is therefore answered as if the walk were never cut off.
-/

namespace SketchHelp.Tree

/-! ### The chain -/

/-- What stands a number of parents above a node. -/
def rise (tree : Tree) (node : Node) : (steps : Nat) → Option Node
  | 0 => some node
  | steps + 1 => (tree.parent node).bind (tree.rise · steps)

/-- The chain of parents from the node on ends at the root. -/
def ReachesRoot (tree : Tree) (node : Node) : Prop :=
  ∃ steps, tree.rise node steps = some tree.root

/-- The chain of parents from the node on comes to a node that stands above itself. -/
def RunsInCircle (tree : Tree) (node : Node) : Prop :=
  ∃ steps again, ∃ repeated,
    tree.rise node steps = some repeated ∧ tree.rise repeated (again + 1) = some repeated

variable {tree : Tree} {node other : Node}

theorem rise_add (tree : Tree) (node : Node) (steps more : Nat) :
    tree.rise node (steps + more) = (tree.rise node steps).bind (tree.rise · more) := by
  induction steps generalizing node with
  | zero => rw [Nat.zero_add, rise, Option.bind_some]
  | succ steps ih =>
      rw [Nat.succ_add_eq_add_succ, Nat.add_succ, rise, rise]
      cases tree.parent node with
      | none => rfl
      | some parent => exact ih parent

theorem rise_succ_of_eq_some {steps : Nat} (h : tree.rise node steps = some other) :
    tree.rise node (steps + 1) = tree.parent other := by
  rw [rise_add, h, Option.bind_some, rise]
  cases tree.parent other <;> rfl

/-- From where the chain has come back to a node it goes on as before. -/
theorem rise_add_congr {a b : Nat} (same : tree.rise node a = tree.rise node b) (more : Nat) :
    tree.rise node (a + more) = tree.rise node (b + more) := by
  rw [rise_add, rise_add, same]

theorem rise_eq_none_of_le {steps later : Nat} (ended : tree.rise node steps = none)
    (le : steps ≤ later) : tree.rise node later = none := by
  obtain ⟨more, rfl⟩ := Nat.exists_eq_add_of_le le
  rw [rise_add, ended, Option.bind_none]

theorem mem_of_rise_eq_some (mem : node ∈ tree.nodes) {steps : Nat}
    (h : tree.rise node steps = some other) : other ∈ tree.nodes := by
  induction steps generalizing node with
  | zero => exact Option.some.inj h ▸ mem
  | succ steps ih =>
      obtain ⟨parent, hp, later⟩ := Option.bind_eq_some_iff.mp h
      exact ih (parent_eq_some_iff.mp hp).1 later

/-- Only the root has no parent. -/
theorem parent_eq_none_iff (mem : node ∈ tree.nodes) :
    tree.parent node = none ↔ node = tree.root := by
  have linked := tree.linked node.index node (getElem?_index mem)
  rw [Tree.parent]
  cases hp : node.parent with
  | none =>
      have first : node.index = 0 := by simpa only [hp] using linked.2
      have same := eq_of_index_eq mem (root_mem tree) (first.trans tree.root_index.symm)
      exact iff_of_true rfl same
  | some parent =>
      obtain ⟨apart, inside, -⟩ :
          node.index ≠ 0 ∧ parent < tree.nodes.length ∧ parent ≠ node.index := by
        simpa only [hp] using linked.2
      refine iff_of_false ?_ fun same => apart (same ▸ tree.root_index)
      rw [Option.bind_some, List.getElem?_eq_getElem inside]
      exact Option.some_ne_none _

theorem rise_root_succ (tree : Tree) (steps : Nat) : tree.rise tree.root (steps + 1) = none := by
  rw [rise, (parent_eq_none_iff (root_mem tree)).mpr rfl, Option.bind_none]

/-- A chain that ends has come to the root. -/
theorem reachesRoot_of_rise_eq_none (mem : node ∈ tree.nodes) {steps : Nat}
    (ended : tree.rise node steps = none) : tree.ReachesRoot node := by
  induction steps with
  | zero => cases ended
  | succ steps ih =>
      cases before : tree.rise node steps with
      | none => exact ih before
      | some last =>
          rw [rise_succ_of_eq_some before] at ended
          have top := (parent_eq_none_iff (mem_of_rise_eq_some mem before)).mp ended
          exact ⟨steps, top ▸ before⟩

/-- A chain that ends has no node twice: what comes after the second time would come after
the first time already, and nothing comes after the root. -/
theorem ReachesRoot.rise_ne (h : tree.ReachesRoot node) {a b : Nat} (lt : a < b)
    (later : tree.rise node b ≠ none) : tree.rise node a ≠ tree.rise node b := by
  intro same
  obtain ⟨top, root⟩ := h
  have beyond : tree.rise node (top + 1) = none := by
    rw [rise_add, root, Option.bind_some, rise_root_succ]
  have before : b ≤ top := by
    by_contra after
    exact later (rise_eq_none_of_le beyond (Nat.lt_of_not_le after))
  obtain ⟨more, rfl⟩ := Nat.exists_eq_add_of_le before
  have early : tree.rise node (a + more) = some tree.root := (rise_add_congr same more).trans root
  have ended : tree.rise node (a + more + 1) = none := by
    rw [rise_add, early, Option.bind_some, rise_root_succ]
  rw [rise_eq_none_of_le ended (by omega)] at root
  cases root

theorem RunsInCircle.rise_ne_none (h : tree.RunsInCircle node) (mem : node ∈ tree.nodes)
    (steps : Nat) : tree.rise node steps ≠ none := by
  intro ended
  obtain ⟨start, again, repeated, there, back⟩ := h
  have second : tree.rise node (start + (again + 1)) = some repeated := by
    rw [rise_add, there, Option.bind_some, back]
  have lt : start < start + (again + 1) := Nat.lt_add_of_pos_right (Nat.succ_pos again)
  have present : tree.rise node (start + (again + 1)) ≠ none := by
    rw [second]
    exact Option.some_ne_none _
  exact (reachesRoot_of_rise_eq_none mem ended).rise_ne lt present (there.trans second.symm)

/-! ### The walk -/

theorem getElem?_climb (tree : Tree) (node : Node) {limit steps : Nat} (lt : steps < limit) :
    (tree.climb node limit)[steps]? = tree.rise node steps := by
  induction limit generalizing node steps with
  | zero => exact absurd lt (Nat.not_lt_zero steps)
  | succ limit ih =>
      rw [climb]
      cases steps with
      | zero => rfl
      | succ steps =>
          rw [List.getElem?_cons_succ, rise]
          cases tree.parent node with
          | none => rfl
          | some parent => exact ih parent (Nat.lt_of_succ_lt_succ lt)

theorem getElem?_ancestors (tree : Tree) (node : Node) {steps : Nat} (le : steps ≤ tree.size) :
    (tree.ancestors node)[steps]? = tree.rise node steps :=
  tree.getElem?_climb node (Nat.lt_succ_of_le le)

/-- What the walk lists is what the chain leads to in so many steps. -/
theorem getElem?_ancestors_eq_some_iff {steps : Nat} :
    (tree.ancestors node)[steps]? = some other ↔
      steps ≤ tree.size ∧ tree.rise node steps = some other := by
  constructor
  · intro found
    have inside := (List.getElem?_eq_some_iff.mp found).1
    have le : steps ≤ tree.size :=
      Nat.le_of_lt_succ (Nat.lt_of_lt_of_le inside (tree.ancestors_length_le node))
    exact ⟨le, tree.getElem?_ancestors node le ▸ found⟩
  · rintro ⟨le, found⟩
    rw [tree.getElem?_ancestors node le, found]

/-- There are not more nodes on a walk without repetition than in the tree. -/
theorem length_ancestors_le_size (mem : node ∈ tree.nodes)
    (distinct : (tree.ancestors node).Nodup) : (tree.ancestors node).length ≤ tree.size :=
  (List.subperm_of_subset distinct fun _ h => mem_of_mem_ancestors mem h).length_le

theorem ReachesRoot.nodup_ancestors (h : tree.ReachesRoot node) :
    (tree.ancestors node).Nodup := by
  rw [List.nodup_iff_getElem?_ne_getElem?]
  intro a b lt inside
  have bound : b ≤ tree.size :=
    Nat.le_of_lt_succ (Nat.lt_of_lt_of_le inside (tree.ancestors_length_le node))
  have listed := tree.getElem?_ancestors node bound
  rw [listed, tree.getElem?_ancestors node (Nat.le_trans (Nat.le_of_lt lt) bound)]
  refine h.rise_ne lt ?_
  rw [← listed, List.getElem?_eq_getElem inside]
  exact Option.some_ne_none _

theorem ReachesRoot.getElem?_ancestors_eq (h : tree.ReachesRoot node) (mem : node ∈ tree.nodes)
    (steps : Nat) : (tree.ancestors node)[steps]? = tree.rise node steps := by
  have short := length_ancestors_le_size mem h.nodup_ancestors
  have ended : tree.rise node tree.size = none := by
    rw [← tree.getElem?_ancestors node (Nat.le_refl _), List.getElem?_eq_none short]
  rcases Nat.le_total steps tree.size with le | ge
  · exact tree.getElem?_ancestors node le
  · rw [rise_eq_none_of_le ended ge, List.getElem?_eq_none (Nat.le_trans short ge)]

theorem ReachesRoot.getLast?_ancestors (h : tree.ReachesRoot node) (mem : node ∈ tree.nodes) :
    (tree.ancestors node).getLast? = some tree.root := by
  obtain ⟨top, root⟩ := id h
  have there := (h.getElem?_ancestors_eq mem top).trans root
  have inside := (List.getElem?_eq_some_iff.mp there).1
  have beyond : (tree.ancestors node)[top + 1]? = none := by
    rw [h.getElem?_ancestors_eq mem, rise_add, root, Option.bind_some, rise_root_succ]
  have last : (tree.ancestors node).length - 1 = top := by
    have := List.getElem?_eq_none_iff.mp beyond
    omega
  rw [List.getLast?_eq_getElem?, last, there]

theorem RunsInCircle.length_ancestors (h : tree.RunsInCircle node) (mem : node ∈ tree.nodes) :
    (tree.ancestors node).length = tree.size + 1 := by
  have listed := tree.getElem?_ancestors node (Nat.le_refl _)
  have long : tree.size < (tree.ancestors node).length := by
    by_contra short
    rw [List.getElem?_eq_none (Nat.le_of_not_lt short)] at listed
    exact h.rise_ne_none mem _ listed.symm
  exact Nat.le_antisymm (tree.ancestors_length_le node) long

/-- A walk that is longer than the tree passes some node twice. -/
theorem exists_rise_eq (mem : node ∈ tree.nodes)
    (long : (tree.ancestors node).length = tree.size + 1) :
    ∃ a b, a < b ∧ b ≤ tree.size ∧ tree.rise node a = tree.rise node b := by
  have repeats : ¬ (tree.ancestors node).Nodup := fun distinct => by
    have := length_ancestors_le_size mem distinct
    omega
  simp only [List.nodup_iff_getElem?_ne_getElem?, not_forall, Classical.not_not] at repeats
  obtain ⟨a, b, lt, inside, same⟩ := repeats
  have bound : b ≤ tree.size := by omega
  rw [tree.getElem?_ancestors node bound,
    tree.getElem?_ancestors node (Nat.le_trans (Nat.le_of_lt lt) bound)] at same
  exact ⟨a, b, lt, bound, same⟩

theorem reachesRoot_or_runsInCircle (mem : node ∈ tree.nodes) :
    tree.ReachesRoot node ∨ tree.RunsInCircle node := by
  cases last : tree.rise node tree.size with
  | none => exact .inl (reachesRoot_of_rise_eq_none mem last)
  | some top =>
      have there := getElem?_ancestors_eq_some_iff.mpr ⟨Nat.le_refl _, last⟩
      have inside := (List.getElem?_eq_some_iff.mp there).1
      obtain ⟨a, b, lt, bound, same⟩ :=
        exists_rise_eq mem (Nat.le_antisymm (tree.ancestors_length_le node) inside)
      obtain ⟨again, rfl⟩ := Nat.exists_eq_add_of_lt lt
      cases here : tree.rise node a with
      | none =>
          rw [rise_eq_none_of_le here (by omega)] at last
          cases last
      | some repeated =>
          refine .inr ⟨a, again, repeated, here, ?_⟩
          rw [here, Nat.add_assoc, rise_add, here, Option.bind_some] at same
          exact same.symm

/-- Whatever the chain leads to it leads to within as many steps as there are nodes. -/
theorem exists_rise_within (mem : node ∈ tree.nodes) {steps : Nat}
    (h : tree.rise node steps = some other) :
    ∃ early ≤ tree.size, tree.rise node early = some other := by
  induction steps using Nat.strongRecOn with
  | _ steps ih =>
      by_cases le : steps ≤ tree.size
      · exact ⟨steps, le, h⟩
      · -- The steps from a node's first place on the walk to its second may be left out.
        have circle : tree.RunsInCircle node := by
          refine (reachesRoot_or_runsInCircle mem).resolve_left fun ends => ?_
          have short := length_ancestors_le_size mem ends.nodup_ancestors
          rw [← ends.getElem?_ancestors_eq mem, List.getElem?_eq_none (by omega)] at h
          cases h
        obtain ⟨a, b, lt, bound, same⟩ := exists_rise_eq mem (circle.length_ancestors mem)
        obtain ⟨more, rfl⟩ := Nat.exists_eq_add_of_le (show b ≤ steps by omega)
        exact ih (a + more) (by omega) ((rise_add_congr same more).trans h)

/-- The walk passes all that the chain leads to. -/
theorem mem_ancestors_iff_rise (mem : node ∈ tree.nodes) :
    other ∈ tree.ancestors node ↔ ∃ steps, tree.rise node steps = some other := by
  rw [List.mem_iff_getElem?]
  constructor
  · rintro ⟨steps, found⟩
    exact ⟨steps, (getElem?_ancestors_eq_some_iff.mp found).2⟩
  · rintro ⟨steps, found⟩
    obtain ⟨early, le, there⟩ := exists_rise_within mem found
    exact ⟨early, getElem?_ancestors_eq_some_iff.mpr ⟨le, there⟩⟩

/-! ### The first node of a kind -/

/-- The first node of a wanted kind on the chain of parents. -/
def IsFirstAbove (tree : Tree) (node : Node) (wanted : Kind → Bool) (found : Node) : Prop :=
  ∃ steps, tree.rise node steps = some found ∧ wanted found.kind = true ∧
    ∀ before < steps, ∀ passed, tree.rise node before = some passed → wanted passed.kind = false

theorem firstAncestor_eq_some_iff (mem : node ∈ tree.nodes) {wanted : Kind → Bool}
    {found : Node} :
    tree.firstAncestor node wanted = some found ↔ tree.IsFirstAbove node wanted found := by
  rw [firstAncestor, List.find?_eq_some_iff_getElem]
  constructor
  · rintro ⟨accepted, steps, inside, here, others⟩
    have there := getElem?_ancestors_eq_some_iff.mp (List.getElem?_eq_some_iff.mpr ⟨inside, here⟩)
    refine ⟨steps, there.2, accepted, fun before lt passed hp => ?_⟩
    have listed := getElem?_ancestors_eq_some_iff.mpr
      ⟨Nat.le_trans (Nat.le_of_lt lt) there.1, hp⟩
    obtain ⟨_, rfl⟩ := List.getElem?_eq_some_iff.mp listed
    simpa using others before lt
  · rintro ⟨steps, there, accepted, others⟩
    have bound : steps ≤ tree.size := by
      obtain ⟨early, le, again⟩ := exists_rise_within mem there
      by_contra far
      rw [others early (by omega) found again] at accepted
      cases accepted
    obtain ⟨inside, here⟩ :=
      List.getElem?_eq_some_iff.mp (getElem?_ancestors_eq_some_iff.mpr ⟨bound, there⟩)
    refine ⟨accepted, steps, inside, here, fun before lt => ?_⟩
    have listed := getElem?_ancestors_eq_some_iff.mp
      (List.getElem?_eq_getElem (Nat.lt_trans lt inside))
    rw [others before lt _ listed.2]
    rfl

theorem firstAncestor_eq_none_iff (mem : node ∈ tree.nodes) {wanted : Kind → Bool} :
    tree.firstAncestor node wanted = none ↔
      ∀ steps passed, tree.rise node steps = some passed → wanted passed.kind = false := by
  simp only [firstAncestor, List.find?_eq_none, mem_ancestors_iff_rise mem, Bool.not_eq_true,
    forall_exists_index]
  exact forall_comm

/-- The walk lists the chain of parents from a node on, as far as it has to. -/
structure IsWalkFrom (tree : Tree) (node : Node) (walk : List Node) : Prop where
  length_le : walk.length ≤ tree.size + 1
  chain : ∀ steps ≤ tree.size, walk[steps]? = tree.rise node steps
  /-- A chain that ends is listed up to the root, and nothing in it comes twice. -/
  whole : tree.ReachesRoot node → (∀ steps, walk[steps]? = tree.rise node steps) ∧
    walk.Nodup ∧ walk.getLast? = some tree.root
  /-- A chain that runs in a circle is listed until all that it leads to has been passed. -/
  round : tree.RunsInCircle node → walk.length = tree.size + 1 ∧
    ∀ steps above, tree.rise node steps = some above → above ∈ walk

/-- Whatever parents the nodes of a tree name, a walk upward comes to an end, at the root or
after one node more than the tree has. It passes all that the chain of parents leads to, so
the first node of a kind is found wherever the chain leads to one. -/
theorem ancestors_isWalkFrom (tree : Tree) {node : Node} (mem : node ∈ tree.nodes) :
    (tree.ReachesRoot node ∨ tree.RunsInCircle node) ∧
      tree.IsWalkFrom node (tree.ancestors node) ∧
      ∀ wanted : Kind → Bool,
        (∀ found, tree.firstAncestor node wanted = some found ↔
          tree.IsFirstAbove node wanted found) ∧
        (tree.firstAncestor node wanted = none ↔
          ∀ steps passed, tree.rise node steps = some passed → wanted passed.kind = false) := by
  refine ⟨reachesRoot_or_runsInCircle mem, ?_, fun wanted => ?_⟩
  · refine ⟨tree.ancestors_length_le node, fun steps le => tree.getElem?_ancestors node le,
      fun ends => ?_, fun circle => ?_⟩
    · exact ⟨ends.getElem?_ancestors_eq mem, ends.nodup_ancestors, ends.getLast?_ancestors mem⟩
    · exact ⟨circle.length_ancestors mem,
        fun steps above h => (mem_ancestors_iff_rise mem).mpr ⟨steps, h⟩⟩
  · exact ⟨fun found => firstAncestor_eq_some_iff mem, firstAncestor_eq_none_iff mem⟩

/-- A node of a list that names its parent itself. -/
def entryUnder (kind : Kind) (position : Nat) (parent : Option Int) : Entry where
  kind := kind
  span := ⟨position, position, Nat.le_refl position⟩
  text := []
  operator := .null
  resolvedType := .null
  method := none
  index := position
  parent := parent
  roles := []

/-- Two nodes that are each other's parents are accepted beside a root. The walk from one of
them goes round twice and never comes to the root. -/
theorem ancestors_isWalkFrom_eachOther :
    ∃ tree, Tree.ofEntries [entryUnder .block 0 none, entryUnder .forStatement 1 (some 2),
        entryUnder .simpleName 2 (some 1)] [] = .ok tree ∧
      ∃ node ∈ tree.nodes, tree.RunsInCircle node ∧
        (tree.ancestors node).map (·.index) = [2, 1, 2, 1] ∧
        tree.IsWalkFrom node (tree.ancestors node) ∧
        (∃ found, tree.firstAncestor node (· = .forStatement) = some found) ∧
        tree.firstAncestor node (· = .block) = none := by
  refine ⟨_, rfl, _, List.mem_of_getElem? (i := 2) rfl, ⟨0, 1, _, rfl, rfl⟩, rfl, ?_,
    ⟨_, rfl⟩, rfl⟩
  exact (ancestors_isWalkFrom _ (List.mem_of_getElem? (i := 2) rfl)).2.1

end SketchHelp.Tree
