import Mathlib.Data.List.Nodup
import SketchHelp.Tree.Node

/-!
What a slot map made of (slot, position) entries holds. Each slot lists its positions in
the order of the entries, all slots together list every position, and where no position
occurs twice the slot of a position can be read off the map again.
-/

namespace SketchHelp.RoleMap

/-- The slot that lists a position. -/
def slotOf? (roles : RoleMap) (position : Int) : Option Text :=
  (roles.map (·.1)).find? fun role => position ∈ roles.get role

/-- Every slot with every position in it. -/
def listed (roles : RoleMap) : List (Text × Int) :=
  roles.flatMap fun slot => slot.2.map (slot.1, ·)

theorem get_foldl_add (entries : List (Text × Int)) (roles : RoleMap) (role : Text) :
    (entries.foldl (fun roles entry => roles.add entry.1 entry.2) roles).get role =
      roles.get role ++ (entries.filter (·.1 = role)).map (·.2) := by
  induction entries generalizing roles with
  | nil => simp
  | cons entry rest ih =>
      rw [List.foldl_cons, ih, get_add]
      by_cases h : entry.1 = role <;> simp [h]

theorem get_ofPositions (entries : List (Text × Int)) (role : Text) :
    (ofPositions entries).get role = (entries.filter (·.1 = role)).map (·.2) := by
  rw [ofPositions, get_foldl_add]
  rfl

theorem positions_eq_map_listed (roles : RoleMap) :
    roles.positions = roles.listed.map (·.2) := by
  simp [RoleMap.positions, listed, List.map_flatMap, Function.comp_def]

theorem listed_add_perm (roles : RoleMap) (role : Text) (position : Int) :
    (roles.add role position).listed.Perm ((role, position) :: roles.listed) := by
  induction roles with
  | nil => exact .refl _
  | cons slot rest ih =>
      obtain ⟨name, positions⟩ := slot
      rw [add]
      split
      · rename_i same
        subst same
        simp only [listed, List.flatMap_cons, List.map_append, List.map_cons, List.map_nil,
          List.append_assoc, List.singleton_append]
        exact List.perm_middle
      · simp only [listed, List.flatMap_cons] at ih ⊢
        exact (ih.append_left _).trans List.perm_middle

/-- The map lists its entries, each as often as it comes. -/
theorem listed_ofPositions_perm (entries : List (Text × Int)) :
    (ofPositions entries).listed.Perm entries := by
  -- The fold is followed from any map on, since it does not stay at the empty one.
  suffices general : ∀ roles : RoleMap,
      (entries.foldl (fun roles entry => roles.add entry.1 entry.2) roles).listed.Perm
        (entries ++ roles.listed) by
    simpa [ofPositions, listed] using general []
  intro roles
  induction entries generalizing roles with
  | nil => exact .refl _
  | cons entry rest ih =>
      rw [List.foldl_cons, List.cons_append]
      refine (ih _).trans ?_
      refine ((listed_add_perm roles entry.1 entry.2).append_left _).trans ?_
      exact List.perm_middle

theorem positions_ofPositions_perm (entries : List (Text × Int)) :
    (ofPositions entries).positions.Perm (entries.map (·.2)) := by
  rw [positions_eq_map_listed]
  exact (listed_ofPositions_perm entries).map _

theorem mem_names_of_mem_get {roles : RoleMap} {role : Text} {position : Int}
    (h : position ∈ roles.get role) : role ∈ roles.map (·.1) := by
  induction roles with
  | nil => cases h
  | cons slot rest ih =>
      obtain ⟨name, positions⟩ := slot
      rw [get] at h
      split at h
      · rename_i same
        exact same ▸ List.mem_cons_self
      · exact List.mem_cons_of_mem _ (ih h)

/-- Positions that occur once give their slot away. -/
theorem slotOf?_ofPositions {entries : List (Text × Int)}
    (distinct : (entries.map (·.2)).Nodup) {role : Text} {position : Int}
    (h : (role, position) ∈ entries) :
    (ofPositions entries).slotOf? position = some role := by
  have listed (name : Text) :
      position ∈ (ofPositions entries).get name ↔ (name, position) ∈ entries := by
    rw [get_ofPositions]
    simp only [List.mem_map, List.mem_filter, decide_eq_true_eq, Prod.exists]
    constructor
    · rintro ⟨name, position, ⟨mem, rfl⟩, rfl⟩
      exact mem
    · intro mem
      exact ⟨name, position, ⟨mem, rfl⟩, rfl⟩
  have unique (name : Text) (other : (name, position) ∈ entries) : name = role := by
    have same := List.inj_on_of_nodup_map distinct other h rfl
    exact congrArg Prod.fst same
  rw [slotOf?]
  cases found : ((ofPositions entries).map (·.1)).find?
      (fun role => position ∈ (ofPositions entries).get role) with
  | none =>
      have absent := List.find?_eq_none.mp found role
        (mem_names_of_mem_get ((listed role).mpr h))
      simp [listed, h] at absent
  | some name =>
      have mem := List.find?_some found
      simp only [decide_eq_true_eq, listed] at mem
      rw [unique name mem]

end SketchHelp.RoleMap
