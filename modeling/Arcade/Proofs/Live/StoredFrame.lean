import Arcade.Live.Adapter
import Arcade.Proofs.Json.Plain
/-!
# Frames that are stored can be read back

A frame is kept in the data of a game as a document value in canonical order. `ofJson?_canonical`
says that reading this value gives the frame again, provided that its wins are a dictionary, in order,
as those of every engine are.

Frames and patches hold texts and integers only, so they are plain documents (`Frame.plain`,
`Patch.plain`).
-/

namespace Arcade.Live

open Json

/-- An entity in canonical order. -/
theorem Entity.toJson_canonical (e : Entity) : e.toJson.canonical =
    .obj [("action", .str e.action), ("facing", .int e.facing.toInt),
      ("health", .int e.health.toInt), ("id", .str e.id), ("velX", .int e.velX.toInt),
      ("velY", .int e.velY.toInt), ("x", .int e.x.toInt), ("y", .int e.y.toInt)] := by
  simp only [toJson, canonical, canonicalFields, Dict.ofList, Dict.insertAll, List.foldl_cons,
    List.foldl_nil, Dict.insert, String.reduceEq, String.reduceLT, reduceIte, Json.int]

theorem Entity.decode_canonical (e : Entity) :
    schema.decode (.ofJson e.toJson.canonical) = .ok e := by
  rw [toJson_canonical, Schema.decode_ofJson_obj]
  simp [Reading.ofFields, schema, Schema.storeFields, Field.of, Except.map, required,
    bind, Except.bind]

@[simp] theorem MatchPhase.variant_name (p : MatchPhase) :
    Decode.variant MatchPhase.names (.ofJson (.str p.name)) = .ok p := by
  cases p <;> rfl

/-- The standing of a match in canonical order. -/
theorem MatchInfo.toJson_canonical {m : MatchInfo} (h : Dict.Sorted m.roundWins) :
    m.toJson.canonical =
      .obj ([("phase", .str m.phase.name), ("round", .nat m.round.toNat),
        ("roundWins", .obj (Dict.mapValues (fun n => .nat n.toNat) m.roundWins)),
        ("timerFrames", .nat m.timerFrames.toNat)]
        ++ match m.winner with
          | some p => [("winner", .str p)]
          | none => []) := by
  have hwins : (Json.obj (Dict.mapValues (fun n => .nat n.toNat) m.roundWins)).canonical
      = .obj (Dict.mapValues (fun n => .nat n.toNat) m.roundWins) :=
    canonical_obj_mapValues (fun _ => rfl) h
  obtain ⟨phase, round, timerFrames, roundWins, winner⟩ := m
  rw [toJson, canonical_obj]
  -- the wins are in order already; of the fields only two change places
  cases winner with
  | none =>
      simp only [List.append_nil, canonicalFields, hwins]
      simp only [canonical, Dict.ofList, Dict.insertAll, List.foldl_cons, List.foldl_nil,
        Dict.insert, String.reduceEq, String.reduceLT, reduceIte, Json.nat]
  | some p =>
      simp only [List.cons_append, List.nil_append, canonicalFields, hwins]
      simp only [canonical, Dict.ofList, Dict.insertAll, List.foldl_cons, List.foldl_nil,
        Dict.insert, String.reduceEq, String.reduceLT, reduceIte, Json.nat]

theorem MatchInfo.decode_canonical {m : MatchInfo} (h : Dict.Sorted m.roundWins) :
    schema.decode (.ofJson m.toJson.canonical) = .ok m := by
  have hwins : Decode.dict Decode.uint32
      (.ofJson (.obj (Dict.mapValues (fun n => .nat n.toNat) m.roundWins))) = .ok m.roundWins :=
    Decode.dict_ofJson Decode.uint32_ofJson h
  have hwinner : ∀ p, Decode.nullable Decode.str (.ofJson (.str p)) = .ok (some p) := fun _ => rfl
  rw [toJson_canonical h]
  obtain ⟨phase, round, timerFrames, roundWins, winner⟩ := m
  cases winner with
  | none =>
      rw [List.append_nil, Schema.decode_ofJson_obj]
      simp [Reading.ofFields, schema, Schema.storeFields, Field.of, Except.map,
        required, bind, Except.bind, hwins]
  | some p =>
      rw [List.cons_append, List.cons_append, List.cons_append, List.cons_append, List.nil_append,
        Schema.decode_ofJson_obj]
      simp [Reading.ofFields, schema, Schema.storeFields, Field.of, Except.map,
        required, bind, Except.bind, hwins, hwinner]

namespace Frame

/-- A frame in canonical order. -/
theorem toJson_canonical (f : Frame) : f.toJson.canonical =
    .obj [("entities", .arr (f.entities.map fun e => e.toJson.canonical)),
      ("frame", .nat f.frame.toNat), ("match", f.info.toJson.canonical)] := by
  rw [toJson, canonical_obj]
  simp only [canonicalFields, canonical_arr, List.map_map]
  simp only [canonical, Dict.ofList, Dict.insertAll, List.foldl_cons, List.foldl_nil, Dict.insert,
    String.reduceEq, String.reduceLT, reduceIte, Json.nat, Function.comp_def]

theorem decode_canonical {f : Frame} (h : Dict.Sorted f.info.roundWins) :
    schema.decode (.ofJson f.toJson.canonical) = .ok f := by
  have hentities : Decode.list Entity.schema.decode
      (.ofJson (.arr (f.entities.map fun e => e.toJson.canonical))) = .ok f.entities :=
    Decode.list_ofJson Entity.decode_canonical f.entities
  have hinfo := MatchInfo.decode_canonical h
  rw [toJson_canonical, Schema.decode_ofJson_obj]
  simp [Reading.ofFields, schema, Schema.storeFields, Field.of, Except.map, required,
    bind, Except.bind, hentities, hinfo]

/-- A frame is read back from the value that it is stored as. -/
theorem ofJson?_canonical {f : Frame} (h : Dict.Sorted f.info.roundWins) :
    ofJson? f.toJson.canonical = some f := by
  rw [ofJson?, decode_canonical h]
  rfl

end Frame

/-! ### The frame in the data of a game -/

theorem get?_storeFrame (data : Data) (frame : Frame) (patches : List Patch) :
    Dict.get? (storeFrame data frame patches) frameKey = some frame.toJson.canonical := by
  have hne : patchesKey ≠ frameKey := by decide
  rw [storeFrame, Dict.get?_insert_of_ne _ _ hne, Dict.get?_insert_self]

/-- A state whose data holds a frame shows it. -/
theorem storedFrame?_of_get? {state : Play.GameState} {frame : Frame}
    (h : Dict.get? state.data frameKey = some frame.toJson.canonical)
    (hwins : Dict.Sorted frame.info.roundWins) : storedFrame? state = some frame := by
  rw [storedFrame?, h, Option.bind_some, Frame.ofJson?_canonical hwins]

/-! ### Plain documents -/

theorem Entity.plain (e : Entity) : Plain 1 e.toJson := by
  rw [toJson, plain_obj_iff]
  simp only [List.forall_mem_cons, plain_str, plain_int32, plain_int8, true_and]
  exact fun e he => absurd he List.not_mem_nil

theorem Patch.plain (p : Patch) : Plain 1 p.toJson := by
  rw [toJson, plain_obj_iff]
  simp only [List.mem_append, List.mem_singleton, List.mem_map]
  intro e he
  rcases he with (((((((rfl | ⟨n, -, rfl⟩) | ⟨n, -, rfl⟩) | ⟨n, -, rfl⟩) | ⟨n, -, rfl⟩)
    | ⟨n, -, rfl⟩) | ⟨n, -, rfl⟩) | ⟨s, -, rfl⟩)
  · exact plain_str _
  · exact plain_int32 n
  · exact plain_int32 n
  · exact plain_int32 n
  · exact plain_int32 n
  · exact plain_int32 n
  · exact plain_int8 n
  · exact plain_str s

theorem MatchInfo.plain (m : MatchInfo) : Plain 2 m.toJson := by
  have hwins : Plain 1 (.obj (Dict.mapValues (fun n : UInt32 => Json.nat n.toNat) m.roundWins)) := by
    rw [plain_obj_iff]
    intro e he
    obtain ⟨win, -, rfl⟩ := List.mem_map.mp he
    exact plain_uint32 win.2
  rw [toJson, plain_obj_iff]
  intro e he
  rcases List.mem_append.mp he with he | he
  · simp only [List.mem_cons, List.not_mem_nil, or_false] at he
    rcases he with rfl | rfl | rfl | rfl
    · exact plain_str _
    · exact plain_uint32 _
    · exact plain_uint32 _
    · exact hwins
  · cases hwinner : m.winner with
    | none =>
        rw [hwinner] at he
        exact absurd he List.not_mem_nil
    | some p =>
        rw [hwinner] at he
        obtain rfl := List.mem_singleton.mp he
        exact plain_str p

theorem Frame.plain (f : Frame) : Plain 3 f.toJson := by
  have hentities : Plain 2 (.arr (f.entities.map Entity.toJson)) := by
    rw [plain_arr_iff]
    intro j hj
    obtain ⟨e, -, rfl⟩ := List.mem_map.mp hj
    exact e.plain
  rw [toJson, plain_obj_iff]
  simp only [List.forall_mem_cons, plain_uint64, hentities, f.info.plain, true_and]
  exact fun e he => absurd he List.not_mem_nil

end Arcade.Live
