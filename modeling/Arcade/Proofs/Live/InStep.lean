import Arcade.Proofs.Live.Inputs
import Arcade.Proofs.Live.Overlay
/-!
# Frames, patches and phases in step

An adapter keeps the frame that it has shown last beside the one in the data of the game, and it is the
former from which patches and phase events are made. `InStep` says that the two are the same frame. They
are after a start (`inStep_of_start`), an action leaves both alone (`inStep_handleAction`), and a frame
that is advanced replaces both by what the engine reports (`tick_cases`); one that fails replaces neither.
So the patches and the event of a frame are those between the stored frame and the new one (`Advances`).

What an event tells of a new phase is read off its data (`phaseChange?`), and over a run these changes make a
chain (`inStep_after`). Where an engine always shows the same
entities (`KeepsCast`), the patches of a run, put on the entities of the first frame, give those of the
last (`follow_after`).
-/

namespace Arcade.Live

open Play

/-! ### The events of phases -/

/-- Whether an event tells a new phase. -/
def tellsPhase (e : Event) : Bool := e.kind == "phase_changed"

/-- A new phase of a match, and the frame and the round in which it began. -/
structure PhaseChange where
  before : MatchPhase
  after : MatchPhase
  frame : UInt64
  round : UInt32

/-- A field of the data of an event, as records are read. -/
def eventField? {α : Type} (e : Event) (key : String) (decode : Json.Reading → Json.Decoded α) :
    Option α :=
  (e.data.field? key).bind fun j => (decode (.ofJson j)).toOption

/-- The new phase that an event tells by its data. -/
def phaseChange? (e : Event) : Option PhaseChange := do
  let before ← eventField? e "from" (Json.Decode.variant MatchPhase.names)
  let after ← eventField? e "to" (Json.Decode.variant MatchPhase.names)
  let frame ← eventField? e "frame" Json.Decode.uint64
  let round ← eventField? e "round" Json.Decode.uint32
  if tellsPhase e then some ⟨before, after, frame, round⟩ else none

/-- The new phases of a frame: one if the phase is not the one before. -/
def phaseChanges (before : MatchPhase) (frame : Frame) : List PhaseChange :=
  if before = frame.info.phase then []
  else [⟨before, frame.info.phase, frame.frame, frame.info.round⟩]

/-- The events of a frame: one if the phase is not the one before. -/
def phaseEvents (before : MatchPhase) (frame : Frame) : List Event :=
  if before = frame.info.phase then [] else [phaseEvent before frame]

/-- Phase events each of which tells of a change from the phase to which the one before it has led. -/
inductive PhaseChain : MatchPhase → List Event → MatchPhase → Prop
  | nil (p : MatchPhase) : PhaseChain p [] p
  | cons {q : MatchPhase} {e : Event} {events : List Event} {change : PhaseChange}
      (htold : phaseChange? e = some change) (hne : change.before ≠ change.after)
      (hrest : PhaseChain change.after events q) : PhaseChain change.before (e :: events) q

/-- The event of a new phase tells the phases on both sides of it. -/
theorem phaseChange?_phaseEvent (before : MatchPhase) (frame : Frame) :
    phaseChange? (phaseEvent before frame)
      = some ⟨before, frame.info.phase, frame.frame, frame.info.round⟩ := by
  have hfrom : (phaseEvent before frame).data.field? "from" = some (.str before.name) := rfl
  have hto : (phaseEvent before frame).data.field? "to" = some (.str frame.info.phase.name) := rfl
  have hframe : (phaseEvent before frame).data.field? "frame" = some (.nat frame.frame.toNat) := rfl
  have hround : (phaseEvent before frame).data.field? "round" = some (.nat frame.info.round.toNat) := rfl
  have hkind : tellsPhase (phaseEvent before frame) = true := rfl
  simp [phaseChange?, eventField?, hfrom, hto, hframe, hround, hkind, MatchPhase.variant_name,
    Except.toOption]

/-- The events of a frame tell its new phases. -/
theorem phaseChange?_phaseEvents (before : MatchPhase) (frame : Frame) :
    (phaseEvents before frame).map phaseChange? = (phaseChanges before frame).map some := by
  unfold phaseEvents phaseChanges
  split
  · rfl
  · exact congrArg (fun told => [told]) (phaseChange?_phaseEvent before frame)

theorem filter_phaseEvents (before : MatchPhase) (frame : Frame) :
    (phaseEvents before frame).filter tellsPhase = phaseEvents before frame := by
  unfold phaseEvents
  split <;> rfl

theorem phaseChain_phaseEvents {before q : MatchPhase} {frame : Frame} {events : List Event}
    (h : PhaseChain frame.info.phase events q) :
    PhaseChain before (phaseEvents before frame ++ events) q := by
  unfold phaseEvents
  split
  next hsame =>
    rw [hsame]
    exact h
  next hne => exact .cons (phaseChange?_phaseEvent before frame) hne h

/-! ### One frame of the adapter -/

namespace Adapter

variable {β : Type} [Engine β] {a a' : Adapter β} {stage stage' : Stage}

theorem snapshot_of_simulate {inputs : InputBuffer} {players : List PlayerId} {engine engine' : β}
    {frame : Frame} (h : simulate inputs players engine = (.ok frame, engine')) :
    Engine.snapshot engine' = .ok frame := by
  rw [simulate_eq_run] at h
  rcases hrun : EngineCall.run (frameCalls players inputs.pressed) engine with ⟨answer, engine''⟩
  rw [hrun] at h
  cases answer with
  | error failure => cases h
  | ok _ =>
      obtain ⟨hframe, rfl⟩ := Prod.mk.inj h
      exact hframe

/-- A frame is what the engine shows, or the next neutral one. -/
theorem capture_of_advance {frame : Frame} (h : a.advance = (.ok frame, a')) :
    ({ a' with inputs := [], last := some frame } : Adapter β).capture = .ok frame := by
  unfold advance at h
  cases hslot : a.slot with
  | attached engine =>
      rw [hslot] at h
      obtain ⟨hframe, rfl⟩ := Prod.mk.inj h
      exact snapshot_of_simulate (Prod.ext hframe rfl)
  | detached =>
      rw [hslot] at h
      cases h
      simp only [capture, hslot]
      rfl
  | disposed =>
      rw [hslot] at h
      cases h

theorem last_advance (a : Adapter β) : a.advance.2.last = a.last := by
  unfold advance
  split <;> rfl

/-- A frame that is advanced is made from the one shown before it. -/
theorem tick_ok_of_last {state : GameState} {replacement : Option Data} {prev : Frame}
    (hlast : a.last = some prev) (h : a.tick state stage = ⟨.ok replacement, a', stage'⟩) :
    ∃ frame, a.advance.1 = .ok frame ∧ a'.slot = a.advance.2.slot ∧ a'.capture = .ok frame ∧
      a'.last = some frame ∧ replacement = some (storeFrame state.data frame (patches prev frame)) ∧
      stage'.events.pending = stage.events.pending ++ phaseEvents prev.info.phase frame := by
  have hkept : a.advance.2.last = a.last := a.last_advance
  unfold tick at h
  rcases hadvance : a.advance with ⟨answer, b⟩
  rw [hadvance] at h hkept
  have hb : b.last = some prev := hkept.trans hlast
  cases answer with
  | error failure => cases h
  | ok frame =>
      simp only [hb] at h
      cases h
      refine ⟨frame, rfl, rfl, capture_of_advance hadvance, rfl, rfl, ?_⟩
      unfold phaseEvents
      split <;> simp

/-- A start that succeeds shows a frame and stores it. -/
theorem prepare_shows {players : List PlayerId} {data : Data}
    (h : a.prepare players stage = ⟨.ok data, a', stage'⟩) :
    ∃ frame, data = storeFrame [] frame [] ∧ a'.last = some frame ∧ a'.capture = .ok frame := by
  simp only [prepare] at h
  rcases hstart : startEngine a.slot players stage.draw.1 with ⟨started, slot⟩
  rw [hstart] at h
  cases started with
  | error fault => cases h
  | ok _ =>
      dsimp only at h
      split at h
      · cases h
      next frame hframe =>
        cases h
        refine ⟨frame, rfl, rfl, ?_⟩
        cases slot with
        | attached engine => exact hframe
        | detached =>
            cases hframe
            rfl
        | disposed => cases hframe

end Adapter

/-! ### Engines that always show the same entities -/

variable {β : Type}

/-- What an engine keeps true of itself while its frames show the same entities, whatever is called. -/
structure KeepsCast [Engine β] (Q : β → Prop) (ids : List String) : Prop where
  setInput : ∀ {engine} (player : PlayerId) (buttons : Buttons), Q engine →
    Q (Engine.setInput engine player buttons).2
  step : ∀ {engine}, Q engine → Q (Engine.step engine).2
  snapshot : ∀ {engine frame}, Q engine → Engine.snapshot engine = .ok frame →
    frame.entities.map Entity.id = ids

/-- A slot with such an engine in it, or with none, when there is nothing to show. -/
def Slot.Casts (Q : β → Prop) (ids : List String) : Slot β → Prop
  | .attached engine => Q engine
  | .detached => ids = []
  | .disposed => True

namespace KeepsCast

variable [Engine β] {Q : β → Prop} {ids : List String} {a : Adapter β}

theorem run (hQ : KeepsCast Q ids) (calls : List EngineCall) {engine : β} (h : Q engine) :
    Q (EngineCall.run calls engine).2 := by
  induction calls generalizing engine with
  | nil => exact h
  | cons c rest ih =>
      have hc : Q (EngineCall.make engine c).2 := by
        cases c with
        | setInput player buttons => exact hQ.setInput player buttons h
        | step => exact hQ.step h
      rw [EngineCall.run]
      rcases hmake : EngineCall.make engine c with ⟨answer, engine'⟩
      rw [hmake] at hc
      cases answer with
      | error failure => exact hc
      | ok _ => exact ih hc

theorem advance (hQ : KeepsCast Q ids) (h : a.slot.Casts Q ids) : a.advance.2.slot.Casts Q ids := by
  cases hslot : a.slot with
  | attached engine =>
      rw [hslot] at h
      have hrun := hQ.run (frameCalls a.players a.inputs.pressed) h
      rw [Adapter.advance_of_attached hslot, Adapter.simulate_eq_run]
      rcases hmade : EngineCall.run (frameCalls a.players a.inputs.pressed) engine with ⟨answer, engine'⟩
      rw [hmade] at hrun
      cases answer <;> exact hrun
  | detached =>
      rw [hslot] at h
      simp only [Adapter.advance, hslot]
      exact h
  | disposed =>
      simp only [Adapter.advance, hslot]
      exact trivial

theorem capture (hQ : KeepsCast Q ids) (h : a.slot.Casts Q ids) {frame : Frame}
    (hframe : a.capture = .ok frame) : frame.entities.map Entity.id = ids := by
  unfold Adapter.capture at hframe
  cases hslot : a.slot with
  | attached engine =>
      rw [hslot] at h hframe
      exact hQ.snapshot h hframe
  | detached =>
      rw [hslot] at h hframe
      cases hframe
      exact h.symm
  | disposed =>
      rw [hslot] at hframe
      cases hframe

end KeepsCast

namespace Client

/-- The records of the entities that a state shows. -/
def shown (state : GameState) : List Json :=
  (((Dict.get? state.data frameKey).bind fun j => j.field? "entities").bind Json.asArr?).getD []

/-- The records that a client holds after an answer: with a frame that was advanced it is sent patches. -/
def follow (held : List Json) : Answer → List Json
  | .ticked (.ok report) =>
    if report.advanced then applyPatches held (storedPatches report.state) else held
  | _ => held

theorem shown_of_get? {state : GameState} {frame : Frame}
    (h : Dict.get? state.data frameKey = some frame.toJson.canonical) :
    shown state = records frame.entities := by
  rw [shown, h, frame.toJson_canonical]
  rfl

end Client

end Arcade.Live

namespace Arcade.Play.Session

open Live

variable {β ι : Type} [Engine β] [Injector ι] {P : ι → Prop} {s s' : Session (Adapter β) ι}
  {frame prev : Frame} {players : List PlayerId}

/-- A game under way whose adapter has shown a frame last that is also the one in the data, with injectors
of some kind around it. -/
structure InStep (P : ι → Prop) (s : Session (Adapter β) ι) (frame : Frame) : Prop where
  last : s.rules.last = some frame
  stored : s.frameEntry = some frame.toJson.canonical
  queue : s.events = {}
  injectors : ∀ i ∈ s.injectors, P i

/-- What a frame that is advanced after another one brings: it is what the engine shows, it is stored with
the patches from the other one, and an event is handed over if the phase is not that of the other one, which
tells both phases. -/
structure Advances (prev : Frame) (report : TickReport) (s' : Session (Adapter β) ι) (frame : Frame) :
    Prop where
  shown : s'.rules.capture = .ok frame
  state : s'.state = some report.state
  stored : Dict.get? report.state.data frameKey = some frame.toJson.canonical
  readable : Dict.Sorted frame.info.roundWins → storedFrame? report.state = some frame
  patches : Dict.get? report.state.data patchesKey
    = some (.arr ((patches prev frame).map fun p => p.toJson.canonical))
  events : report.events.filter tellsPhase = phaseEvents prev.info.phase frame
  told : (report.events.filter tellsPhase).map phaseChange?
    = (phaseChanges prev.info.phase frame).map some

omit [Engine β] [Injector ι] in
theorem state_of_frameEntry {j : Json} (h : s.frameEntry = some j) :
    ∃ state, s.state = some state ∧ Dict.get? state.data frameKey = some j :=
  Option.bind_eq_some_iff.mp h

/-! ### One call -/

/-- A start that succeeds shows a frame. -/
theorem inStep_of_start (hP : Pipeline.Avoids P frameKey) (hall : ∀ i ∈ s.injectors, P i)
    {seed : Option UInt64} {events : List Event} (hstart : s.start players seed = (.ok events, s')) :
    ∃ frame, s'.InStep P frame ∧ s'.rules.capture = .ok frame := by
  cases begun_of_start hstart with
  | begun hcheck hprepare hinjectors =>
      obtain ⟨frame, rfl, hlast, hcapture⟩ := Adapter.prepare_shows hprepare
      obtain ⟨hfragment, hkind⟩ := Pipeline.prepare_of_avoids hP hall hinjectors
      have hconfig : configKey ≠ frameKey := by decide
      refine ⟨frame, ⟨hlast, ?_, rfl, hkind⟩, hcapture⟩
      rw [frameEntry, Option.bind_some]
      show Dict.get? (s.openingData _ _) frameKey = _
      rw [openingData, Dict.get?_insert_of_ne _ _ hconfig, Dict.get?_insertAll_of_forall_ne _ hfragment,
        get?_storeFrame]

/-- An action leaves the frame alone. -/
theorem inStep_handleAction (hP : Pipeline.Avoids P frameKey) (h : s.InStep P frame) (player : PlayerId)
    (action : Action) : (s.handleAction player action).2.InStep P frame := by
  have hkind : ∀ i ∈ (s.handleAction player action).2.injectors, P i :=
    injectors_perform_of_avoids hP h.injectors (show (Call.act player action).isMove = true from rfl)
  have hhandled := handled s player action
  generalize (s.handleAction player action).1 = result at hhandled
  generalize (s.handleAction player action).2 = s' at hhandled hkind ⊢
  cases hhandled with
  | refused _ => exact ⟨h.last, h.stored, rfl, hkind⟩
  | vetoed _ _ _ => exact ⟨h.last, h.stored, rfl, hkind⟩
  | rejected _ _ _ hact =>
      obtain ⟨rfl, -⟩ := Adapter.act_error hact
      exact ⟨h.last, h.stored, rfl, hkind⟩
  | processed _ hstate hbefore hact hafter hsettle =>
      -- the rules hand over no data, and the injectors leave the frame in them
      obtain ⟨buttons, -, rfl, -, rfl⟩ := Adapter.act_ok hact
      have hproceeded := Pipeline.before_of_avoids hP h.injectors hbefore
      have hsame := (Pipeline.after_of_avoids hP hproceeded hafter).1
      refine ⟨h.last, ?_, rfl, hkind⟩
      rw [← h.stored, frameEntry, frameEntry, hstate, Option.bind_some, Option.bind_some,
        frame_of_settle hsettle]
      exact hsame

omit [Injector ι] in
/-- A frame either is not advanced, and nothing of this changes, or it is made from the one shown before
it and shown itself from then on. -/
theorem tick_cases (h : s.InStep P frame) (seconds : Float) :
    ((s.tick seconds).2.InStep P frame ∧ ∀ report, (s.tick seconds).1 = .ok report →
        report.advanced = false ∧ report.events = []) ∨
      ∃ report next, (s.tick seconds).1 = .ok report ∧ report.advanced = true ∧
        (s.tick seconds).2.InStep P next ∧ Advances frame report (s.tick seconds).2 next := by
  have hticked := ticked s seconds
  generalize (s.tick seconds).1 = answer at hticked ⊢
  generalize (s.tick seconds).2 = s' at hticked ⊢
  cases hticked with
  | disposed _ => exact Or.inl ⟨h, nofun⟩
  | unstarted _ _ => exact Or.inl ⟨h, nofun⟩
  | decided _ _ _ =>
      refine Or.inl ⟨h, fun report hreport => ?_⟩
      cases hreport
      exact ⟨rfl, rfl⟩
  | failed _ _ _ htick =>
      obtain ⟨fault, hadvance, -, -⟩ := Adapter.tick_error htick
      have hlast := s.rules.last_advance
      rw [hadvance] at hlast
      exact Or.inl ⟨⟨hlast.trans h.last, h.stored, rfl, h.injectors⟩, nofun⟩
  | @advanced state _ rules stage state' queue ended _ hstate _ htick hsettle =>
      obtain ⟨next, -, -, hcapture, hlast, rfl, hevents⟩ := Adapter.tick_ok_of_last h.last htick
      have hdata : state'.data = storeFrame state.data next (patches frame next) :=
        data_of_settle hsettle
      have hstored : Dict.get? state'.data frameKey = some next.toJson.canonical := by
        rw [hdata, get?_storeFrame]
      have hnews : queue.pending.filter tellsPhase = phaseEvents frame.info.phase next := by
        have hfirst : stage.events.pending.filter tellsPhase = phaseEvents frame.info.phase next := by
          rw [hevents, h.queue]
          exact filter_phaseEvents frame.info.phase next
        rcases settle_cases hsettle with ⟨-, -, rfl⟩ | ⟨-, -, hqueue⟩
        · exact hfirst
        · -- the end of the game is told by an event of another kind
          rw [hqueue, List.filter_append, hfirst]
          exact List.append_nil _
      refine Or.inr ⟨_, next, rfl, rfl, ⟨hlast, hstored, rfl, h.injectors⟩, hcapture, rfl, hstored,
        storedFrame?_of_get? hstored, ?_, hnews, ?_⟩
      · rw [hdata, storeFrame, Dict.get?_insert_self]
      · show (queue.pending.filter tellsPhase).map phaseChange? = _
        rw [hnews, phaseChange?_phaseEvents]

/-! ### Whole runs -/

/-- The phase events of a frame, if the answer is that of one. -/
def phaseEventsOf : Answer → List Event
  | .ticked (.ok report) => report.events.filter tellsPhase
  | _ => []

/-- However actions and frames follow on one another, the frame that is shown stays the one in the data,
and the phase events of the frames tell the changes that lead from the first phase to the last. -/
theorem inStep_after (hP : Pipeline.Avoids P frameKey) (h : s.InStep P frame) {calls : List Call}
    (hcalls : ∀ c ∈ calls, c.isMove = true) :
    ∃ last, (s.after calls).InStep P last ∧
      PhaseChain frame.info.phase ((s.answers calls).flatMap phaseEventsOf) last.info.phase := by
  induction calls generalizing s frame with
  | nil => exact ⟨frame, h, .nil _⟩
  | cons c rest ih =>
      have hrest : ∀ d ∈ rest, d.isMove = true := fun d hd => hcalls d (List.mem_cons_of_mem c hd)
      have hmove : c.isMove = true := hcalls c List.mem_cons_self
      cases c with
      | act player action => exact ih (inStep_handleAction hP h player action) hrest
      | tick seconds =>
          rw [answers, Run.answers_cons, List.flatMap_cons]
          rcases tick_cases h seconds with ⟨hsame, hstill⟩ | ⟨report, next, hreport, -, hnext, hadvances⟩
          · obtain ⟨last, hlast, hchain⟩ := ih hsame hrest
            refine ⟨last, hlast, ?_⟩
            have hnone : phaseEventsOf (s.perform (.tick seconds)).1 = [] := by
              show phaseEventsOf (.ticked (s.tick seconds).1) = []
              cases hanswer : (s.tick seconds).1 with
              | error failure => rfl
              | ok report =>
                  show report.events.filter tellsPhase = []
                  rw [(hstill report hanswer).2, List.filter_nil]
            rw [hnone]
            exact hchain
          · obtain ⟨last, hlast, hchain⟩ := ih hnext hrest
            refine ⟨last, hlast, ?_⟩
            have hnews : phaseEventsOf (s.perform (.tick seconds)).1
                = phaseEvents frame.info.phase next := by
              show phaseEventsOf (.ticked (s.tick seconds).1) = _
              rw [hreport]
              exact hadvances.events
            rw [hnews]
            exact phaseChain_phaseEvents hchain
      | _ => simp [Call.isMove] at hmove

/-- What stays in step in a run that begins and ends with some frames: these are the ones that are stored
before and after it, the phase events of its frames tell the changes from the one's phase to the other's, and a
further frame, if it is advanced, is stored with the patches from the last one and tells its phase and the one
before if it is new. -/
structure StaysInStep (s : Session (Adapter β) ι) (calls : List Call) (first current : Frame) : Prop where
  begins : s.frameEntry = some first.toJson.canonical
  ends : (s.after calls).frameEntry = some current.toJson.canonical
  phases : PhaseChain first.info.phase ((s.answers calls).flatMap phaseEventsOf) current.info.phase
  advances : ∀ {seconds report next}, (s.after calls).tick seconds = (.ok report, next) →
    report.advanced = true → ∃ frame, Advances current report next frame

theorem staysInStep (hP : Pipeline.Avoids P frameKey) (h : s.InStep P frame) {calls : List Call}
    (hcalls : ∀ c ∈ calls, c.isMove = true) :
    ∃ current, (s.after calls).InStep P current ∧ s.StaysInStep calls frame current := by
  obtain ⟨current, hinstep, hchain⟩ := inStep_after hP h hcalls
  refine ⟨current, hinstep, h.stored, hinstep.stored, hchain, ?_⟩
  intro seconds report next htick hadvanced
  have hcases := tick_cases hinstep seconds
  rw [htick] at hcases
  rcases hcases with ⟨-, hstill⟩ | ⟨report', frame, hreport, -, -, hadvances⟩
  · rw [(hstill report rfl).1] at hadvanced
    cases hadvanced
  · obtain rfl : report = report' := Except.ok.inj hreport
    exact ⟨frame, hadvances⟩

/-! ### Clients that are sent the patches -/

variable {Q : β → Prop} {ids : List String}

omit [Injector ι] in
theorem casts_tick (hQ : KeepsCast Q ids) (h : s.rules.slot.Casts Q ids) (seconds : Float) :
    (s.tick seconds).2.rules.slot.Casts Q ids := by
  have hadvanced := hQ.advance h
  have hticked := ticked s seconds
  generalize (s.tick seconds).1 = answer at hticked
  generalize (s.tick seconds).2 = s' at hticked ⊢
  cases hticked with
  | disposed _ => exact h
  | unstarted _ _ => exact h
  | decided _ _ _ => exact h
  | failed _ _ _ htick =>
      obtain ⟨fault, hadvance, -, -⟩ := Adapter.tick_error htick
      rwa [hadvance] at hadvanced
  | advanced _ _ _ htick _ =>
      obtain ⟨frame, changes, b, hadvance, -, rfl⟩ := Adapter.tick_ok htick
      rwa [hadvance] at hadvanced

/-- Who holds the entities that are shown holds those of the next frame once its patches are put on. -/
theorem follow_tick (hQ : KeepsCast Q ids) (hnodup : ids.Nodup) (h : s.InStep P frame)
    (hslot : s.rules.slot.Casts Q ids) (hids : frame.entities.map Entity.id = ids) (seconds : Float) :
    ∃ next, (s.tick seconds).2.InStep P next ∧ next.entities.map Entity.id = ids ∧
      Client.follow (Client.records frame.entities) (s.perform (.tick seconds)).1
        = Client.records next.entities := by
  rcases tick_cases h seconds with ⟨hsame, hstill⟩ | ⟨report, next, hreport, hadvanced, hnext, hadvances⟩
  · refine ⟨frame, hsame, hids, ?_⟩
    show Client.follow _ (.ticked (s.tick seconds).1) = _
    cases hanswer : (s.tick seconds).1 with
    | error failure => rfl
    | ok report => exact if_neg (by simp [(hstill report hanswer).1])
  · have hids' : next.entities.map Entity.id = ids :=
      hQ.capture (casts_tick hQ hslot seconds) hadvances.shown
    refine ⟨next, hnext, hids', ?_⟩
    show Client.follow _ (.ticked (s.tick seconds).1) = _
    rw [hreport, Client.follow, if_pos hadvanced, storedPatches, hadvances.patches]
    exact Client.applyPatches_patches (hids' ▸ hnodup) (hids.trans hids'.symm)

/-- A client that is sent the patches of every frame holds the entities that are shown. -/
theorem follow_after (hP : Pipeline.Avoids P frameKey) (hQ : KeepsCast Q ids) (hnodup : ids.Nodup)
    (h : s.InStep P frame) (hslot : s.rules.slot.Casts Q ids)
    (hids : frame.entities.map Entity.id = ids) {calls : List Call}
    (hcalls : ∀ c ∈ calls, c.isMove = true) :
    ∃ last, (s.after calls).InStep P last ∧
      (s.answers calls).foldl Client.follow (Client.records frame.entities)
        = Client.records last.entities := by
  induction calls generalizing s frame with
  | nil => exact ⟨frame, h, rfl⟩
  | cons c rest ih =>
      have hrest : ∀ d ∈ rest, d.isMove = true := fun d hd => hcalls d (List.mem_cons_of_mem c hd)
      have hmove : c.isMove = true := hcalls c List.mem_cons_self
      rw [answers, Run.answers_cons, List.foldl_cons]
      cases c with
      | act player action =>
          have hslot' : (s.handleAction player action).2.rules.slot.Casts Q ids := by
            rw [(frame_of_handleAction s player action).1]
            exact hslot
          exact ih (inStep_handleAction hP h player action) hslot' hids hrest
      | tick seconds =>
          obtain ⟨next, hnext, hids', hfollow⟩ := follow_tick hQ hnodup h hslot hids seconds
          rw [hfollow]
          exact ih hnext (casts_tick hQ hslot seconds) hids' hrest
      | _ => simp [Call.isMove] at hmove

end Arcade.Play.Session
