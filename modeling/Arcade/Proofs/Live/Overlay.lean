import Arcade.Proofs.Live.StoredFrame
/-!
# Patches put on the entities before

Who holds the entities of one frame and is sent the patches to the next one need not be sent its entities:
the fields of each patch go in place of those of the entity with its id. This is said twice. On the
entities themselves, putting the difference of two states on the older one gives the newer one
(`Entity.overlaid_between`), and all patches put on the older frame give the newer one
(`overlaidAll_patches`). A client has but documents, and puts the fields of one record into another
(`Client.applyPatches`), which comes to the same (`Client.applyPatches_patches`).
-/

namespace Arcade.Live

/-! ### One entity -/

/-- An entity with the fields of a patch in place of its own. -/
def Entity.overlaid (e : Entity) (p : Patch) : Entity :=
  { e with
    x := p.x.getD e.x
    y := p.y.getD e.y
    velX := p.velX.getD e.velX
    velY := p.velY.getD e.velY
    health := p.health.getD e.health
    facing := p.facing.getD e.facing
    action := p.action.getD e.action }

theorem getD_changed? {α : Type} [DecidableEq α] (old new : α) : (changed? old new).getD old = new := by
  unfold changed?
  split
  next h => exact h
  next => rfl

/-- What changed from one state to another, put on the one, gives the other. -/
theorem Entity.overlaid_between {old new : Entity} (hid : old.id = new.id) :
    old.overlaid (.between old new) = new := by
  simp only [overlaid, Patch.between, getD_changed?, hid]

/-- A patch without fields changes nothing. -/
theorem Entity.overlaid_of_isEmpty {p : Patch} (h : p.isEmpty = true) (e : Entity) :
    e.overlaid p = e := by
  simp only [Patch.isEmpty, Bool.and_eq_true, Option.isNone_iff_eq_none] at h
  obtain ⟨⟨⟨⟨⟨⟨hx, hy⟩, hvelX⟩, hvelY⟩, hhealth⟩, hfacing⟩, haction⟩ := h
  simp only [overlaid, hx, hy, hvelX, hvelY, hhealth, hfacing, haction, Option.getD_none]

/-! ### All entities of a frame -/

/-- An entity after a patch, which may be that of another one. -/
def Entity.after (e : Entity) (p : Patch) : Entity :=
  if e.id = p.id then e.overlaid p else e

theorem Entity.foldl_after_of_forall_ne {ps : List Patch} {e : Entity} (h : ∀ p ∈ ps, p.id ≠ e.id) :
    ps.foldl Entity.after e = e := by
  induction ps with
  | nil => rfl
  | cons p rest ih =>
      have hother : e.after p = e := if_neg (Ne.symm (h p List.mem_cons_self))
      rw [List.foldl_cons, hother]
      exact ih fun q hq => h q (List.mem_cons_of_mem p hq)

/-- Entities after one patch. -/
def overlaidAll (entities : List Entity) (p : Patch) : List Entity :=
  entities.map (·.after p)

/-- Patches put on all entities are put on each of them. -/
theorem foldl_overlaidAll (ps : List Patch) (entities : List Entity) :
    ps.foldl overlaidAll entities = entities.map fun e => ps.foldl Entity.after e := by
  induction ps generalizing entities with
  | nil => exact (List.map_id entities).symm
  | cons p rest ih =>
      rw [List.foldl_cons, ih, overlaidAll, List.map_map]
      rfl

theorem id_of_patch? {prev : Frame} {e : Entity} {p : Patch} (h : patch? prev e = some p) :
    p.id = e.id := by
  unfold patch? at h
  split at h
  · cases h
  · dsimp only at h
    split at h
    · cases h
    · cases h
      rfl

theorem entity?_of_mem {f : Frame} (hnodup : (f.entities.map Entity.id).Nodup) {e : Entity}
    (he : e ∈ f.entities) : f.entity? e.id = some e := by
  obtain ⟨before, behind, hsplit⟩ := List.append_of_mem he
  have hahead : before.find? (fun d => d.id == e.id) = none := by
    rw [hsplit, List.map_append, List.nodup_append] at hnodup
    rw [List.find?_eq_none]
    intro d hd hsame
    exact hnodup.2.2 d.id (List.mem_map_of_mem hd) e.id (by simp) (by simpa using hsame)
  rw [Frame.entity?, hsplit, List.find?_append, hahead]
  simp

/-- The patches of other entities pass an entity by. -/
theorem foldl_after_others {prev : Frame} {others : List Entity} {e : Entity}
    (h : ∀ d ∈ others, d.id ≠ e.id) : (others.filterMap (patch? prev)).foldl Entity.after e = e := by
  refine Entity.foldl_after_of_forall_ne fun p hp => ?_
  obtain ⟨d, hd, hpatch⟩ := List.mem_filterMap.mp hp
  rw [id_of_patch? hpatch]
  exact h d hd

/-- The patch of an entity itself, which is left out if nothing has changed, makes the newer one of it. -/
theorem foldl_after_own {prev : Frame} {old new : Entity} (hfound : prev.entity? new.id = some old)
    (hid : old.id = new.id) : ([new].filterMap (patch? prev)).foldl Entity.after old = new := by
  have hoverlaid := Entity.overlaid_between hid
  simp only [List.filterMap_cons, List.filterMap_nil, patch?, hfound]
  cases hempty : (Patch.between old new).isEmpty with
  | true =>
      rw [Entity.overlaid_of_isEmpty hempty] at hoverlaid
      exact hoverlaid
  | false => exact (if_pos hid).trans hoverlaid

/-- An entity that is in both frames comes out of the patches as it is in the newer one. -/
theorem foldl_after_patches {prev curr : Frame} (hprev : (prev.entities.map Entity.id).Nodup)
    (hcurr : (curr.entities.map Entity.id).Nodup) {old new : Entity} (hold : old ∈ prev.entities)
    (hnew : new ∈ curr.entities) (hid : old.id = new.id) :
    (patches prev curr).foldl Entity.after old = new := by
  obtain ⟨before, behind, hsplit⟩ := List.append_of_mem hnew
  have hfound : prev.entity? new.id = some old := hid ▸ entity?_of_mem hprev hold
  rw [hsplit, List.map_append, List.map_cons, List.nodup_append, List.nodup_cons] at hcurr
  have hbefore : ∀ d ∈ before, d.id ≠ old.id := by
    intro d hd
    rw [hid]
    exact hcurr.2.2 d.id (List.mem_map_of_mem hd) new.id List.mem_cons_self
  have hbehind : ∀ d ∈ behind, d.id ≠ new.id := by
    intro d hd hsame
    exact hcurr.2.1.1 (hsame ▸ List.mem_map_of_mem hd)
  rw [patches, hsplit, List.filterMap_append, ← List.singleton_append, List.filterMap_append,
    List.foldl_append, List.foldl_append, foldl_after_others hbefore, foldl_after_own hfound hid,
    foldl_after_others hbehind]

/-- The patches from one frame to another, put on the entities of the one, give those of the other, as
long as the same entities are in both. -/
theorem overlaidAll_patches {prev curr : Frame} (hnodup : (curr.entities.map Entity.id).Nodup)
    (hids : prev.entities.map Entity.id = curr.entities.map Entity.id) :
    (patches prev curr).foldl overlaidAll prev.entities = curr.entities := by
  have hprev : (prev.entities.map Entity.id).Nodup := hids ▸ hnodup
  have hlength : prev.entities.length = curr.entities.length := by
    simpa using congrArg List.length hids
  rw [foldl_overlaidAll]
  refine List.ext_getElem (by rw [List.length_map, hlength]) fun n hn hn' => ?_
  have hsame : (prev.entities.map Entity.id)[n]? = (curr.entities.map Entity.id)[n]? := by rw [hids]
  rw [List.length_map] at hn
  rw [List.getElem?_map, List.getElem?_map, List.getElem?_eq_getElem hn,
    List.getElem?_eq_getElem hn'] at hsame
  rw [List.getElem_map]
  exact foldl_after_patches hprev hnodup (List.getElem_mem hn) (List.getElem_mem hn')
    (Option.some.inj hsame)

/-! ### Documents -/

/-- The fields of a patch as a dictionary. -/
def Patch.fields (p : Patch) : Dict Json :=
  Dict.ofList ([("id", .str p.id)]
    ++ p.x.toList.map (fun n => ("x", .int n.toInt))
    ++ p.y.toList.map (fun n => ("y", .int n.toInt))
    ++ p.velX.toList.map (fun n => ("velX", .int n.toInt))
    ++ p.velY.toList.map (fun n => ("velY", .int n.toInt))
    ++ p.health.toList.map (fun n => ("health", .int n.toInt))
    ++ p.facing.toList.map (fun n => ("facing", .int n.toInt))
    ++ p.action.toList.map (fun s => ("action", .str s)))

theorem Patch.canonical_eq (p : Patch) : p.toJson.canonical = .obj p.fields := by
  rw [toJson, Json.canonical_obj, Json.canonicalFields_eq_map, fields]
  simp only [List.map_append, List.map_map, List.map_cons, List.map_nil]
  rfl

theorem Patch.get?_fields (p : Patch) (key : String) : Dict.get? p.fields key =
    if "action" = key then p.action.map .str
    else if "facing" = key then p.facing.map fun n => .int n.toInt
    else if "health" = key then p.health.map fun n => .int n.toInt
    else if "velY" = key then p.velY.map fun n => .int n.toInt
    else if "velX" = key then p.velX.map fun n => .int n.toInt
    else if "y" = key then p.y.map fun n => .int n.toInt
    else if "x" = key then p.x.map fun n => .int n.toInt
    else if "id" = key then some (.str p.id)
    else none := by
  have hid : Dict.get? (Dict.insertAll [] [("id", Json.str p.id)]) key
      = if "id" = key then some (.str p.id) else none := rfl
  simp only [fields, Dict.ofList, Dict.insertAll_append, Dict.get?_insertAll_toList, hid]
  -- no two of the names are equal, so under each of them only its own field is found
  grind

/-- The fields of an entity as a dictionary. -/
def Entity.fields (e : Entity) : Dict Json :=
  [("action", .str e.action), ("facing", .int e.facing.toInt), ("health", .int e.health.toInt),
    ("id", .str e.id), ("velX", .int e.velX.toInt), ("velY", .int e.velY.toInt),
    ("x", .int e.x.toInt), ("y", .int e.y.toInt)]

theorem Entity.canonical_eq (e : Entity) : e.toJson.canonical = .obj e.fields :=
  e.toJson_canonical

theorem Entity.sorted_fields (e : Entity) : Dict.Sorted e.fields := by
  simp only [Dict.Sorted, fields, List.pairwise_cons, List.forall_mem_cons, List.not_mem_nil,
    String.reduceLT, false_implies, implies_true, and_self, List.Pairwise.nil]

theorem Entity.get?_fields (e : Entity) (key : String) : Dict.get? e.fields key =
    if "action" = key then some (.str e.action)
    else if "facing" = key then some (.int e.facing.toInt)
    else if "health" = key then some (.int e.health.toInt)
    else if "velY" = key then some (.int e.velY.toInt)
    else if "velX" = key then some (.int e.velX.toInt)
    else if "y" = key then some (.int e.y.toInt)
    else if "x" = key then some (.int e.x.toInt)
    else if "id" = key then some (.str e.id)
    else none := by
  simp only [fields, Dict.get?]
  grind

/-- The fields of a patch come before those of the entity, and there are no others. -/
theorem Entity.fields_overlaid {e : Entity} {p : Patch} (hid : e.id = p.id) :
    (e.overlaid p).fields = Dict.insertAll e.fields p.fields := by
  refine Dict.ext_of_sorted (sorted_fields _) (Dict.sorted_insertAll e.sorted_fields _) fun key => ?_
  have hsorted : Dict.Sorted p.fields := Dict.sorted_ofList _
  have hgetD : ∀ {α : Type} (o : Option α) (old : α) (f : α → Json),
      some (f (o.getD old)) = (o.map f).or (some (f old)) := by
    intro α o old f
    cases o <;> rfl
  rw [Dict.get?_insertAll_of_sorted _ hsorted, e.get?_fields, p.get?_fields, get?_fields]
  simp only [overlaid, hgetD, hid]
  grind

namespace Client

/-- The id of a record. -/
def id? (record : Json) : Option String :=
  (record.field? "id").bind Json.asStr?

/-- A record with the fields of another one in place of its own. -/
def overlay : Json → Json → Json
  | .obj fields, .obj changes => .obj (Dict.insertAll fields changes)
  | record, _ => record

/-- Records after a patch, which is put on the one with its id. -/
def applyPatch (records : List Json) (patch : Json) : List Json :=
  records.map fun record => if id? record = id? patch then overlay record patch else record

/-- Records after a list of patches, one after the other. -/
def applyPatches (records : List Json) (patches : Json) : List Json :=
  (patches.asArr?.getD []).foldl applyPatch records

/-- The records of some entities, as the data of a game keep them. -/
def records (entities : List Entity) : List Json :=
  entities.map fun e => e.toJson.canonical

theorem id?_entity (e : Entity) : id? e.toJson.canonical = some e.id := by
  rw [e.canonical_eq, id?, Json.field?, e.get?_fields]
  rfl

theorem id?_patch (p : Patch) : id? p.toJson.canonical = some p.id := by
  rw [p.canonical_eq, id?, Json.field?, p.get?_fields]
  rfl

/-- A patch put on the records is put on the entities. -/
theorem applyPatch_records (entities : List Entity) (p : Patch) :
    applyPatch (records entities) p.toJson.canonical = records (overlaidAll entities p) := by
  rw [applyPatch, records, records, overlaidAll, List.map_map, List.map_map]
  refine List.map_congr_left fun e _ => ?_
  simp only [Function.comp, id?_entity, id?_patch, Option.some.injEq, Entity.after]
  split
  next hid => rw [e.canonical_eq, p.canonical_eq, overlay, Entity.canonical_eq, Entity.fields_overlaid hid]
  next => rfl

/-- The patches from one frame to another, put on the records of its entities, give the records of the
other's, as long as the same entities are in both. -/
theorem applyPatches_patches {prev curr : Frame} (hnodup : (curr.entities.map Entity.id).Nodup)
    (hids : prev.entities.map Entity.id = curr.entities.map Entity.id) :
    applyPatches (records prev.entities)
        (.arr ((patches prev curr).map fun p => p.toJson.canonical)) = records curr.entities := by
  have hfold : ∀ (ps : List Patch) (entities : List Entity),
      (ps.map fun p => p.toJson.canonical).foldl applyPatch (records entities)
        = records (ps.foldl overlaidAll entities) := by
    intro ps
    induction ps with
    | nil => exact fun _ => rfl
    | cons p rest ih =>
        intro entities
        rw [List.map_cons, List.foldl_cons, applyPatch_records, ih, List.foldl_cons]
  rw [applyPatches, Json.asArr?, Option.getD_some, hfold, overlaidAll_patches hnodup hids]

end Client

end Arcade.Live
