import Arcade.Proofs.Live.Overlay
/-!
# What patches list

A patch has a field exactly where the two states of an entity differ in it (`Patch.Marks`), and an entity
has one exactly if the older frame has another state under its id (`isSome_patch?_iff`). From that, for
frames in which no two entities share an id, the patches are the newer entities that were there before and
have changed, in their order and with nothing to spare, and the newer state of each can be told from the
older one and its patch (`patches_complete_and_minimal`).

Ids are all that ties an entity to its older state. Where two entities of a frame share one, both are held
against the first of them, so that a frame may have patches against itself (`patches_self`).
-/

namespace Arcade.Live

variable {prev curr : Frame} {old new : Entity}

/-! ### The fields of a patch -/

section

variable {α : Type} [DecidableEq α] (a b : α)

theorem isSome_changed? : (changed? a b).isSome = true ↔ a ≠ b := by
  unfold changed?
  split <;> simp_all

@[simp] theorem changed?_self : changed? a a = none :=
  if_pos rfl

end

/-- Whether the fields of a patch are those in which two states of an entity differ. -/
structure Patch.Marks (p : Patch) (old new : Entity) : Prop where
  x : p.x.isSome = true ↔ old.x ≠ new.x
  y : p.y.isSome = true ↔ old.y ≠ new.y
  velX : p.velX.isSome = true ↔ old.velX ≠ new.velX
  velY : p.velY.isSome = true ↔ old.velY ≠ new.velY
  health : p.health.isSome = true ↔ old.health ≠ new.health
  facing : p.facing.isSome = true ↔ old.facing ≠ new.facing
  action : p.action.isSome = true ↔ old.action ≠ new.action

theorem Patch.marks_between (old new : Entity) : (Patch.between old new).Marks old new where
  x := isSome_changed? _ _
  y := isSome_changed? _ _
  velX := isSome_changed? _ _
  velY := isSome_changed? _ _
  health := isSome_changed? _ _
  facing := isSome_changed? _ _
  action := isSome_changed? _ _

/-- Nothing has changed exactly if the two states are the same. -/
theorem Patch.isEmpty_between_iff (hid : old.id = new.id) :
    (Patch.between old new).isEmpty = true ↔ old = new := by
  constructor
  · intro hempty
    calc old = old.overlaid (.between old new) := (Entity.overlaid_of_isEmpty hempty old).symm
      _ = new := Entity.overlaid_between hid
  · rintro rfl
    simp [between, isEmpty]

/-! ### The patch of one entity -/

theorem id_of_entity? {f : Frame} {id : String} {e : Entity} (h : f.entity? id = some e) : e.id = id := by
  simpa using List.find?_some h

theorem mem_of_entity? {f : Frame} {id : String} {e : Entity} (h : f.entity? id = some e) :
    e ∈ f.entities :=
  List.mem_of_find?_eq_some h

/-- Without shared ids, what is found under an id is the entity that has it. -/
theorem entity?_eq_some_iff {f : Frame} (hnodup : (f.entities.map Entity.id).Nodup) {id : String}
    {e : Entity} : f.entity? id = some e ↔ e ∈ f.entities ∧ e.id = id := by
  constructor
  · exact fun h => ⟨mem_of_entity? h, id_of_entity? h⟩
  · rintro ⟨hmem, rfl⟩
    exact entity?_of_mem hnodup hmem

theorem eq_of_id_eq {f : Frame} (hnodup : (f.entities.map Entity.id).Nodup) {d e : Entity}
    (hd : d ∈ f.entities) (he : e ∈ f.entities) (hid : d.id = e.id) : d = e :=
  Option.some.inj (((entity?_eq_some_iff hnodup).mpr ⟨hd, hid⟩).symm.trans (entity?_of_mem hnodup he))

theorem patch?_of_found (hfound : prev.entity? new.id = some old) :
    patch? prev new = if old = new then none else some (.between old new) := by
  have hempty := Patch.isEmpty_between_iff (id_of_entity? hfound)
  unfold patch?
  rw [hfound]
  dsimp only
  by_cases hsame : old = new
  · rw [if_pos (hempty.mpr hsame), if_pos hsame]
  · rw [if_neg (mt hempty.mp hsame), if_neg hsame]

/-- An entity has a patch exactly if the older frame has another state under its id. -/
theorem isSome_patch?_iff : (patch? prev new).isSome = true ↔
    ∃ old, prev.entity? new.id = some old ∧ old ≠ new := by
  cases hfound : prev.entity? new.id with
  | none => simp [patch?, hfound]
  | some old => simp [patch?_of_found hfound]

/-! ### All patches -/

/-- The patches are those of the entities that have one, in their order. -/
theorem ids_of_filterMap_patch? (prev : Frame) (entities : List Entity) :
    (entities.filterMap (patch? prev)).map Patch.id
      = (entities.filter fun e => (patch? prev e).isSome).map Entity.id := by
  induction entities with
  | nil => rfl
  | cons e rest ih =>
      cases hpatch : patch? prev e with
      | none => simp [hpatch, ih]
      | some p => simp [hpatch, ih, id_of_patch? hpatch]

/-- Without shared ids, the patch that has the id of an entity is the one of that entity. -/
theorem mem_patches_iff (hcurr : (curr.entities.map Entity.id).Nodup) (hnew : new ∈ curr.entities)
    {p : Patch} : p ∈ patches prev curr ∧ p.id = new.id ↔ patch? prev new = some p := by
  constructor
  · rintro ⟨hp, hid⟩
    obtain ⟨e, he, hpatch⟩ := List.mem_filterMap.mp hp
    obtain rfl := eq_of_id_eq hcurr he hnew ((id_of_patch? hpatch).symm.trans hid)
    exact hpatch
  · intro hpatch
    exact ⟨List.mem_filterMap.mpr ⟨new, hnew, hpatch⟩, id_of_patch? hpatch⟩

theorem find?_patches (hcurr : (curr.entities.map Entity.id).Nodup) (hnew : new ∈ curr.entities) :
    (patches prev curr).find? (fun p => p.id == new.id) = patch? prev new := by
  cases hfound : (patches prev curr).find? (fun p => p.id == new.id) with
  | some p =>
      have hid : p.id = new.id := by simpa using List.find?_some hfound
      exact ((mem_patches_iff hcurr hnew).mp ⟨List.mem_of_find?_eq_some hfound, hid⟩).symm
  | none =>
      cases hpatch : patch? prev new with
      | none => rfl
      | some p =>
          obtain ⟨hp, hid⟩ := (mem_patches_iff hcurr hnew).mpr hpatch
          exact absurd hid (by simpa using List.find?_eq_none.mp hfound p hp)

/-- An entity of the older frame with the patch that is there for it, if there is one. -/
def Entity.patched (e : Entity) (patches : List Patch) : Entity :=
  match patches.find? fun p => p.id == e.id with
  | some p => e.overlaid p
  | none => e

/-- **Patches are complete and minimal.** For frames in which no two entities share an id, the patches are
those of the newer entities that the older frame has in another state, in their order and each once. For an
entity of both frames its patch has exactly the fields in which the two states differ, and the older state
with its patch, or as it is if there is none, is the newer one. -/
theorem patches_complete_and_minimal (hprev : (prev.entities.map Entity.id).Nodup)
    (hcurr : (curr.entities.map Entity.id).Nodup) :
    (patches prev curr).map Patch.id
      = (curr.entities.filter fun new => ∃ old ∈ prev.entities, old.id = new.id ∧ old ≠ new).map Entity.id ∧
    ((patches prev curr).map Patch.id).Nodup ∧
    ∀ old ∈ prev.entities, ∀ new ∈ curr.entities, old.id = new.id →
      (∀ p ∈ patches prev curr, p.id = new.id → p.Marks old new) ∧
      old.patched (patches prev curr) = new := by
  have hlisted : (patches prev curr).map Patch.id
      = (curr.entities.filter fun new => ∃ old ∈ prev.entities, old.id = new.id ∧ old ≠ new).map
          Entity.id := by
    rw [patches, ids_of_filterMap_patch?]
    refine congrArg _ (List.filter_congr fun new _ => ?_)
    rw [Bool.eq_iff_iff, isSome_patch?_iff, decide_eq_true_iff]
    simp only [entity?_eq_some_iff hprev, and_assoc]
  refine ⟨hlisted, ?_, ?_⟩
  · rw [hlisted]
    exact hcurr.sublist (List.filter_sublist.map _)
  · intro old hold new hnew hid
    have hfound : prev.entity? new.id = some old := (entity?_eq_some_iff hprev).mpr ⟨hold, hid⟩
    constructor
    · intro p hp hpid
      have hpatch := (mem_patches_iff hcurr hnew).mp ⟨hp, hpid⟩
      rw [patch?_of_found hfound, Option.ite_none_left_eq_some, Option.some.injEq] at hpatch
      exact hpatch.2 ▸ Patch.marks_between old new
    · rw [Entity.patched, hid, find?_patches hcurr hnew, patch?_of_found hfound]
      by_cases hsame : old = new
      · rw [if_pos hsame]
        exact hsame
      · rw [if_neg hsame]
        exact Entity.overlaid_between hid

/-- One entity has left, one has come, one has stayed as it was, and one has jumped. -/
theorem patches_complete_and_minimal_of_jump :
    let still : Entity := ⟨"still", 5, 0, 0, 0, 100, 1, "idle"⟩
    let standing : Entity := ⟨"p1", 0, 0, 0, 0, 100, 1, "idle"⟩
    let jumping : Entity := ⟨"p1", 0, 7, 0, 3, 100, 1, "jump"⟩
    let info : MatchInfo := ⟨.fighting, 1, 100, [], none⟩
    let prev : Frame := ⟨1, [⟨"gone", 9, 0, 0, 0, 100, -1, "idle"⟩, standing, still], info⟩
    let curr : Frame := ⟨2, [still, ⟨"new", 9, 0, 0, 0, 100, -1, "idle"⟩, jumping], info⟩
    (prev.entities.map Entity.id).Nodup ∧ (curr.entities.map Entity.id).Nodup ∧
      (patches prev curr).map Patch.id = ["p1"] ∧
      (∀ p ∈ patches prev curr, p.id = "p1" → p.y.isSome = true ∧ p.x.isSome = false) ∧
      standing.patched (patches prev curr) = jumping ∧ still.patched (patches prev curr) = still := by
  intro still standing jumping info prev curr
  have hprev : (prev.entities.map Entity.id).Nodup := by decide
  have hcurr : (curr.entities.map Entity.id).Nodup := by decide
  obtain ⟨hlisted, -, hcommon⟩ := patches_complete_and_minimal hprev hcurr
  obtain ⟨hmarks, hjumped⟩ := hcommon standing (by decide) jumping (by decide) rfl
  obtain ⟨-, hstill⟩ := hcommon still (by decide) still (by decide) rfl
  refine ⟨hprev, hcurr, hlisted.trans (by decide), fun p hp hid => ?_, hjumped, hstill⟩
  have hmarked := hmarks p hp hid
  exact ⟨hmarked.y.mpr (by decide), Bool.eq_false_iff.mpr (mt hmarked.x.mp (by decide))⟩

/-! ### A frame against itself -/

theorem exists_entity?_of_mem {f : Frame} {e : Entity} (he : e ∈ f.entities) :
    ∃ first, f.entity? e.id = some first := by
  rw [← Option.isSome_iff_exists, Frame.entity?, List.find?_isSome]
  exact ⟨e, he, beq_self_eq_true _⟩

/-- **Patches of a frame to itself.** They are those of the entities that are not the first of their id and
differ from it. So there are none exactly if entities that share an id are the same. -/
theorem patches_self (f : Frame) :
    (patches f f).map Patch.id
      = (f.entities.filter fun e => f.entity? e.id ≠ some e).map Entity.id ∧
    (patches f f = [] ↔ ∀ d ∈ f.entities, ∀ e ∈ f.entities, d.id = e.id → d = e) := by
  have hlisted : (patches f f).map Patch.id
      = (f.entities.filter fun e => f.entity? e.id ≠ some e).map Entity.id := by
    rw [patches, ids_of_filterMap_patch?]
    refine congrArg _ (List.filter_congr fun e he => ?_)
    obtain ⟨first, hfirst⟩ := exists_entity?_of_mem he
    rw [Bool.eq_iff_iff, isSome_patch?_iff, decide_eq_true_iff, hfirst]
    simp
  refine ⟨hlisted, ?_⟩
  have hnone : patches f f = [] ↔ ∀ e ∈ f.entities, f.entity? e.id = some e := by
    rw [← List.map_eq_nil_iff (f := Patch.id), hlisted, List.map_eq_nil_iff, List.filter_eq_nil_iff]
    simp
  rw [hnone]
  constructor
  · intro hfirst d hd e he hid
    have hsame := hfirst d hd
    rw [hid, hfirst e he] at hsame
    exact (Option.some.inj hsame).symm
  · intro hshared e he
    obtain ⟨first, hfirst⟩ := exists_entity?_of_mem he
    rw [hfirst, hshared first (mem_of_entity? hfirst) e he (id_of_entity? hfirst)]

/-- The second of two entities with one id is held against the first. -/
example :
    let info : MatchInfo := ⟨.fighting, 1, 100, [], none⟩
    let f : Frame := ⟨9, [⟨"a", 0, 0, 0, 0, 100, 1, "idle"⟩, ⟨"a", 1, 0, 0, 0, 100, 1, "idle"⟩], info⟩
    patches f f = [{ id := "a", x := some 1 }] := by
  decide

end Arcade.Live
