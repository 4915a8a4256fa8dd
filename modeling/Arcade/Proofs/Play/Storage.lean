import Arcade.Proofs.Json.Canonical
import Arcade.Proofs.Json.Plain
import Arcade.Proofs.Play.Lifecycle
/-!
# Storing a session and taking it up again

A session is stored as the text of a record (`SavedSession`). From a text that is read back as it was
written the record comes back the same (`SavedSession.ofText_text`), provided that its data is in
order: what a session stores is a dictionary, and so is what comes back.

`Storable` lists all that a session has to keep so that a twin of it can take its text up. Every call
keeps it (`storable_perform`), whatever rules and injectors do, as long as they leave data in order
(`KeepsOrder`, `InjectorsKeepOrder`) and injectors keep nothing to themselves (`Steady`). The twin
then becomes the session itself, but for what the rules hold beside the state
(`restoreText_toText`).
-/

namespace Arcade

open Json

/-! ### Records -/

theorem Generator.decode_toJson (g : Generator) : Generator.decode (.ofJson g.toJson) = .ok g := by
  have hwords : Generator.decodeWords (.ofJson (.arr [.nat g.s0.toNat, .nat g.s1.toNat]))
      = .ok (g.s0, g.s1) := by
    simp only [Reading.ofJson, Reading.ofItems, Generator.decodeWords]
    simp only [Decode.uint64_ofJson, bind, Except.bind]
  rw [toJson, decode, Schema.decode_ofJson_obj]
  simp [Reading.ofFields, schema, Schema.storeFields, Field.of, Except.map, required, Except.bind,
    bind, hwords]

theorem Generator.plain (g : Generator) : Plain 2 g.toJson := by
  have hwords : Plain 1 (.arr [.nat g.s0.toNat, .nat g.s1.toNat]) := by
    rw [plain_arr_iff]
    simp only [List.forall_mem_cons, plain_uint64, true_and]
    exact fun j hj => absurd hj List.not_mem_nil
  rw [toJson, plain_obj_iff]
  simp only [List.forall_mem_cons, hwords, true_and]
  exact fun e he => absurd he List.not_mem_nil

namespace Play

theorem Phase.variant_name (p : Phase) :
    Decode.variant Phase.names (.ofJson (.str p.name)) = .ok p := by
  cases p <;> rfl

theorem GameState.decode_toJson {state : GameState} (hdata : Ordered state.data) :
    schema.decode (.ofJson state.toJson) = .ok state := by
  have hdict := Decode.dict_ofJson_of_ordered hdata
  rw [toJson, Schema.decode_ofJson_obj]
  simp [Reading.ofFields, schema, Schema.storeFields, Field.of, Except.map, required, Except.bind,
    bind, Decode.uint64_ofJson, Phase.variant_name, hdict]

namespace SavedSession

variable {saved : SavedSession}

theorem decode_toJson (hdata : Ordered saved.state.data) :
    schema.decode (.ofJson saved.toJson) = .ok saved := by
  have hstate := GameState.decode_toJson hdata
  rw [toJson, Schema.decode_ofJson_obj]
  simp [Reading.ofFields, schema, Schema.storeFields, Field.of, Except.map, required, Except.bind,
    bind, Decode.strs_ofJson, hstate, Generator.decode_toJson]

/-- A stored session comes back from its text. -/
theorem ofText_text (hdata : Ordered saved.state.data) (hreads : ReadsBack saved.toJson) :
    ofText saved.text = .ok saved := by
  rw [ReadsBack] at hreads
  rw [ofText, text, decodeText, hreads]
  simp only [decode_toJson hdata, if_true]

/-- The data of a state that was read is in order. -/
theorem ordered_of_decode_state {r : Reading} {state : GameState}
    (h : GameState.schema.decode r = .ok state) : Ordered state.data := by
  have hstart : ∀ data, GameState.schema.start.data = some data → Ordered data := by
    intro data hdata
    cases hdata
  obtain ⟨⟨turn, phase, data⟩, hdraft, hfinish⟩ := Schema.invariant_of_decode
    (P := fun d : GameState.Draft => ∀ data, d.data = some data → Ordered data) hstart
    (fun f hf r d d' hstore hd => by
      simp only [GameState.schema, List.mem_cons, List.not_mem_nil, or_false] at hf
      rcases hf with rfl | rfl | rfl <;> obtain ⟨x, hx, rfl⟩ := Field.store_of hstore
      case inr.inr =>
        intro data hdata
        obtain rfl := Option.some.inj hdata
        exact Decode.ordered_of_dict hx
      all_goals exact hd) h
  cases turn with
  | none => cases hfinish
  | some turn =>
      cases phase with
      | none => cases hfinish
      | some phase =>
          cases data with
          | none => cases hfinish
          | some data =>
              obtain rfl := Except.ok.inj hfinish
              exact hdraft data rfl

theorem ordered_of_decode {r : Reading} (h : schema.decode r = .ok saved) :
    Ordered saved.state.data := by
  have hstart : ∀ state, schema.start.state = some state → Ordered state.data := by
    intro state hstate
    cases hstate
  obtain ⟨⟨id, players, seed, state, random⟩, hdraft, hfinish⟩ := Schema.invariant_of_decode
    (P := fun d : SavedSession.Draft => ∀ state, d.state = some state → Ordered state.data) hstart
    (fun f hf r d d' hstore hd => by
      simp only [schema, List.mem_cons, List.not_mem_nil, or_false] at hf
      rcases hf with rfl | rfl | rfl | rfl | rfl <;> obtain ⟨x, hx, rfl⟩ := Field.store_of hstore
      case inr.inr.inr.inl =>
        intro state hstate
        obtain rfl := Option.some.inj hstate
        exact ordered_of_decode_state hx
      all_goals exact hd) h
  cases state with
  | none =>
      cases id <;> cases players <;> cases seed <;> cases hfinish
  | some state =>
      have hstate : saved.state = state := by
        cases id <;> cases players <;> cases seed <;> cases random <;> cases hfinish
        rfl
      rw [hstate]
      exact hdraft state rfl

/-- The data of a session that was read is in order. -/
theorem ordered_of_ofText {s : String} (h : ofText s = .ok saved) : Ordered saved.state.data := by
  unfold ofText decodeText at h
  dsimp only at h
  split at h
  · cases h
  next saved' hread =>
    split at h
    · obtain rfl := Except.ok.inj h
      exact ordered_of_decode hread
    · cases h

end SavedSession

/-! ### Plain records -/

theorem GameState.plain {depth : Nat} {state : GameState}
    (hdata : ∀ e ∈ state.data, Plain depth e.2) : Plain (depth + 2) state.toJson := by
  have hobj : Plain (depth + 1) (.obj state.data) := plain_obj_iff.mpr hdata
  rw [toJson, plain_obj_iff]
  simp only [List.forall_mem_cons, plain_uint64, plain_str, hobj, true_and]
  exact fun e he => absurd he List.not_mem_nil

/-- A session is stored as a plain document if the data of its state is plain. -/
theorem SavedSession.plain {depth : Nat} {saved : SavedSession}
    (hdata : ∀ e ∈ saved.state.data, Plain depth e.2) :
    Plain (depth + 3) saved.toJson := by
  have hplayers : Plain (depth + 2) (.strs saved.players) := plain_strs saved.players
  have hstate := GameState.plain hdata
  have hrandom : Plain (depth + 2) saved.random.toJson :=
    plain_mono (Nat.le_add_left 2 depth) _ saved.random.plain
  rw [toJson, plain_obj_iff]
  simp only [List.forall_mem_cons, plain_str, plain_uint64, hplayers, hstate, hrandom, true_and]
  exact fun e he => absurd he List.not_mem_nil

/-- A configuration without injectors is plain if its options are. -/
theorem GameConfig.plain {depth : Nat} {config : GameConfig} (hbare : config.injectors = [])
    (hseats : ∀ n, config.maxPlayers = some n → n ≤ Words.max64)
    (hoptions : Plain (depth + 1) config.options) : Plain (depth + 2) config.toJson := by
  have hinjectors : Plain (depth + 1) (.arr (config.injectors.map InjectorSpec.toJson)) := by
    rw [plain_arr_iff, hbare]
    exact fun j hj => absurd hj List.not_mem_nil
  rw [toJson, plain_obj_iff]
  intro e he
  rcases List.mem_append.mp he with he | he
  · rcases List.mem_append.mp he with he | he
    · obtain rfl := List.mem_singleton.mp he
      exact plain_str _
    · cases hmax : config.maxPlayers with
      | none =>
          rw [hmax] at he
          exact absurd he List.not_mem_nil
      | some n =>
          rw [hmax] at he
          obtain rfl := List.mem_singleton.mp he
          exact plain_nat (hseats n hmax)
  · simp only [List.mem_cons, List.not_mem_nil, or_false] at he
    rcases he with rfl | rfl
    · exact hinjectors
    · exact hoptions

/-! ### What is asked of rules and injectors -/

/-- Rules that leave data in order. -/
structure KeepsOrder (γ : Type) [GameRules γ] : Prop where
  prepare : ∀ {rules : γ} {players stage data rules' stage'},
    GameRules.prepare rules players stage = ⟨.ok data, rules', stage'⟩ → Ordered data
  act : ∀ {rules : γ} {state player action multiplier stage data rules' stage'},
    GameRules.act rules state player action multiplier stage = ⟨.ok (some data), rules', stage'⟩ →
      Ordered state.data → Ordered data
  tick : ∀ {rules : γ} {state seconds stage data rules' stage'},
    GameRules.tick rules state seconds stage = ⟨.ok (some data), rules', stage'⟩ →
      Ordered state.data → Ordered data

/-- Injectors that leave data in order. -/
structure InjectorsKeepOrder (ι : Type) [Injector ι] : Prop where
  prepare : ∀ (i : ι) players, Ordered (Injector.prepare i players).1
  after : ∀ (i : ι) player action outcome, Ordered outcome.data →
    Ordered (Injector.after i player action outcome).1.data

/-- An injector that keeps nothing to itself. -/
structure Steady {ι : Type} [Injector ι] (i : ι) : Prop where
  prepare : ∀ players, (Injector.prepare i players).2 = i
  before : ∀ player action data, (Injector.before i player action data).2 = i
  after : ∀ player action outcome, (Injector.after i player action outcome).2 = i

namespace Pipeline

variable {ι : Type} [Injector ι] {injectors injectors' : List ι} {player : PlayerId}
  {action : Action}

theorem ordered_prepare (hι : InjectorsKeepOrder ι) (players : List PlayerId)
    (injectors : List ι) : Ordered (prepare players injectors).1 := by
  induction injectors with
  | nil => exact Ordered.nil
  | cons i rest ih => exact (hι.prepare i players).insertAll ih

theorem ordered_after (hι : InjectorsKeepOrder ι) {outcome outcome' : Outcome}
    (hafter : after player action injectors outcome = (outcome', injectors'))
    (h : Ordered outcome.data) : Ordered outcome'.data := by
  induction injectors generalizing outcome injectors' with
  | nil =>
      obtain rfl : outcome = outcome' := congrArg Prod.fst hafter
      exact h
  | cons i rest ih =>
      obtain ⟨houtcome, -⟩ := Prod.mk.inj hafter
      exact ih (Prod.ext houtcome rfl) (hι.after i player action outcome h)

theorem prepare_of_steady (h : ∀ i ∈ injectors, Steady i) (players : List PlayerId) :
    (prepare players injectors).2 = injectors := by
  induction injectors with
  | nil => rfl
  | cons i rest ih =>
      show (Injector.prepare i players).2 :: (prepare players rest).2 = i :: rest
      rw [(h i List.mem_cons_self).prepare, ih fun j hj => h j (List.mem_cons_of_mem i hj)]

theorem beforeFrom_of_steady (h : ∀ i ∈ injectors, Steady i) (data : Data) (multiplier : Float)
    (challenge : Option Json) :
    (beforeFrom player data injectors action multiplier challenge).2 = injectors := by
  induction injectors generalizing action multiplier challenge with
  | nil => rfl
  | cons i rest ih =>
      have hi := (h i List.mem_cons_self).before player action data
      rw [beforeFrom]
      dsimp only
      split
      · dsimp only
        rw [hi, ih fun j hj => h j (List.mem_cons_of_mem i hj)]
      · rw [hi]

theorem after_of_steady (h : ∀ i ∈ injectors, Steady i) (outcome : Outcome) :
    (after player action injectors outcome).2 = injectors := by
  induction injectors generalizing outcome with
  | nil => rfl
  | cons i rest ih =>
      show (Injector.after i player action outcome).2 :: (after player action rest _).2 = i :: rest
      rw [(h i List.mem_cons_self).after, ih fun j hj => h j (List.mem_cons_of_mem i hj)]

end Pipeline

/-! ### What can be stored -/

/-- A call that brings no data of its own but in order. -/
def Call.BringsOrder : Call → Prop
  | .restoreState _ state => Ordered state.data
  | .restore saved => Ordered saved.state.data
  | _ => True

namespace Session

variable {γ ι : Type} [GameRules γ] [Injector ι] {t s : Session γ ι}

/-- A session that was made like `t`, and has the same injectors still. -/
structure Twin (t s : Session γ ι) : Prop where
  config : s.config = t.config
  maxPlayers : s.maxPlayers = t.maxPlayers
  injectors : s.injectors = t.injectors

/-- A session that a twin can take up when it is stored: nothing is under way, and its state is one of a
game that was started, by players whom the twin seats. -/
structure Storable (t s : Session γ ι) : Prop extends Twin t s where
  queue : s.events = {}
  holds : ∃ state, s.state = some state ∧ state.phase ≠ .init ∧ Ordered state.data
  seated : t.checkPlayers s.players = .ok ()

omit [GameRules γ] [Injector ι] in
theorem checkPlayers_congr (h : s.maxPlayers = t.maxPlayers) :
    s.checkPlayers = t.checkPlayers := by
  funext players
  unfold checkPlayers
  rw [h]

theorem ordered_mergeMultiplier {data : Data} (h : Ordered data) (multiplier : Float) :
    Ordered (mergeMultiplier data multiplier) := by
  unfold mergeMultiplier
  split
  · exact h.insert _ (canonical_real multiplier)
  · exact h.erase _

/-- A game that begins can be stored. -/
theorem storable_of_begun (hγ : KeepsOrder γ) (hι : InjectorsKeepOrder ι)
    (hsteady : ∀ i ∈ t.injectors, Steady i) (h : Twin t s) {players : List PlayerId}
    {seed : Option UInt64} {events : List Event} {s' : Session γ ι}
    (hbegun : Begun s players seed (.ok events) s') : Storable t s' := by
  cases hbegun with
  | @begun data fragment rules stage injectors hcheck hprepare hinjectors =>
      have hfragment : Ordered fragment := by
        have hordered := Pipeline.ordered_prepare hι players s.injectors
        rwa [hinjectors] at hordered
      have hkept : injectors = t.injectors := by
        have hsame := Pipeline.prepare_of_steady (h.injectors ▸ hsteady) players
        rw [hinjectors] at hsame
        exact hsame.trans h.injectors
      have hdata : Ordered (s.openingData data fragment) :=
        ((hγ.prepare hprepare).insertAll hfragment).insert _ (canonical_canonical _)
      refine ⟨⟨h.config, h.maxPlayers, hkept⟩, rfl, ⟨_, rfl, (by simp [GameState.playing]), hdata⟩,
        ?_⟩
      rw [← checkPlayers_congr h.maxPlayers]
      exact hcheck

theorem storable_begin (hγ : KeepsOrder γ) (hι : InjectorsKeepOrder ι)
    (hsteady : ∀ i ∈ t.injectors, Steady i) (h : Storable t s) (players : List PlayerId)
    (seed : Option UInt64) : Storable t (s.begin players seed).2 := by
  have hbegun := begun s players seed
  generalize (s.begin players seed).1 = answer at hbegun
  generalize (s.begin players seed).2 = s' at hbegun ⊢
  cases answer with
  | ok events => exact storable_of_begun hγ hι hsteady h.toTwin hbegun
  | error failure =>
      cases hbegun with
      | unseated _ => exact h
      | failed _ _ => exact ⟨⟨h.config, h.maxPlayers, h.injectors⟩, rfl, h.holds, h.seated⟩

omit [Injector ι] in
theorem storable_adopt (h : Storable t s) (players : List PlayerId) {state : GameState}
    (hdata : Ordered state.data) (seed : UInt64) (random : Generator) :
    Storable t (s.adopt players state seed random).2 := by
  have hadopted := adopted s players state seed random
  generalize (s.adopt players state seed random).1 = answer at hadopted
  generalize (s.adopt players state seed random).2 = s' at hadopted ⊢
  cases hadopted with
  | disposed _ => exact h
  | unseated _ _ => exact h
  | unstarted _ _ => exact h
  | failed _ _ => exact ⟨⟨h.config, h.maxPlayers, h.injectors⟩, h.queue, h.holds, h.seated⟩
  | adopted _ hcheck hphase _ =>
      refine ⟨⟨h.config, h.maxPlayers, h.injectors⟩, rfl, ⟨state, rfl, hphase, hdata⟩, ?_⟩
      rw [← checkPlayers_congr h.maxPlayers]
      exact hcheck

omit [Injector ι] in
theorem storable_restore (h : Storable t s) {saved : SavedSession}
    (hdata : Ordered saved.state.data) : Storable t (s.restore saved).2 := by
  have hadopt := storable_adopt h saved.players hdata saved.seed saved.random
  unfold restore
  generalize s.adopt saved.players saved.state saved.seed saved.random = asked at hadopt ⊢
  obtain ⟨answer, s'⟩ := asked
  cases answer with
  | error failure => exact hadopt
  | ok _ =>
      exact ⟨⟨hadopt.config, hadopt.maxPlayers, hadopt.injectors⟩, hadopt.queue, hadopt.holds,
        hadopt.seated⟩

omit [Injector ι] in
/-- A state that was settled is in the phase that it was in, or in the last one. -/
theorem started_of_settle {rules : γ} {next state' : GameState} {events queue : EventQueue}
    {ended : Bool} (h : settle rules next events = (state', queue, ended))
    (hnext : next.phase ≠ .init) : state'.phase ≠ .init := by
  rcases settle_cases h with ⟨-, rfl, -⟩ | ⟨-, rfl, -⟩
  · exact hnext
  · exact fun hphase => nomatch hphase

theorem storable_act (hγ : KeepsOrder γ) (hι : InjectorsKeepOrder ι)
    (hsteady : ∀ i ∈ t.injectors, Steady i) (h : Storable t s) (player : PlayerId)
    (action : Action) : Storable t (s.handleAction player action).2 := by
  obtain ⟨state, hholds, hphase, hdata⟩ := h.holds
  have hsteady : ∀ i ∈ s.injectors, Steady i := h.injectors ▸ hsteady
  have hasked : (Pipeline.beforeFrom player state.data s.injectors action 1.0 none).2 = s.injectors :=
    Pipeline.beforeFrom_of_steady hsteady state.data 1.0 none
  have hkept : ∀ {joint injectors}, Pipeline.before player action state.data s.injectors
      = (joint, injectors) → injectors = s.injectors := by
    intro joint injectors hbefore
    rw [show Pipeline.beforeFrom player state.data s.injectors action 1.0 none = _ from hbefore]
      at hasked
    exact hasked
  have hhandled := handled s player action
  generalize (s.handleAction player action).1 = result at hhandled
  generalize (s.handleAction player action).2 = s' at hhandled ⊢
  cases hhandled with
  | refused _ => exact ⟨⟨h.config, h.maxPlayers, h.injectors⟩, rfl, h.holds, h.seated⟩
  | vetoed _ hstate hbefore =>
      obtain rfl := Option.some.inj (hholds.symm.trans hstate)
      exact ⟨⟨h.config, h.maxPlayers, (hkept hbefore).trans h.injectors⟩, rfl, h.holds, h.seated⟩
  | rejected _ hstate hbefore _ =>
      obtain rfl := Option.some.inj (hholds.symm.trans hstate)
      exact ⟨⟨h.config, h.maxPlayers, (hkept hbefore).trans h.injectors⟩, rfl, h.holds, h.seated⟩
  | @processed _ forwarded multiplier challenge injectors replacement rules stage outcome injectors'
      state' queue ended _ hstate hbefore hact hafter hsettle =>
      obtain rfl := Option.some.inj (hholds.symm.trans hstate)
      obtain rfl := hkept hbefore
      have hinjectors : injectors' = s.injectors := by
        have hsame : (Pipeline.after player forwarded s.injectors
            ⟨replacement.getD state.data, stage.events.pending, challenge⟩).2 = s.injectors :=
          Pipeline.after_of_steady hsteady _
        rw [hafter] at hsame
        exact hsame
      have hreplaced : Ordered (replacement.getD state.data) := by
        cases replacement with
        | none => exact hdata
        | some data => exact hγ.act hact hdata
      refine ⟨⟨h.config, h.maxPlayers, hinjectors.trans h.injectors⟩, rfl, ⟨state', rfl, ?_, ?_⟩,
        h.seated⟩
      · exact started_of_settle hsettle hphase
      · rw [data_of_settle hsettle]
        exact ordered_mergeMultiplier (Pipeline.ordered_after hι hafter hreplaced) multiplier

omit [Injector ι] in
theorem storable_tick (hγ : KeepsOrder γ) (h : Storable t s) (seconds : Float) :
    Storable t (s.tick seconds).2 := by
  obtain ⟨state, hholds, hphase, hdata⟩ := h.holds
  have hticked := ticked s seconds
  generalize (s.tick seconds).1 = answer at hticked
  generalize (s.tick seconds).2 = s' at hticked ⊢
  cases hticked with
  | disposed _ => exact h
  | unstarted _ _ => exact h
  | decided _ _ _ => exact h
  | failed _ _ _ _ => exact ⟨⟨h.config, h.maxPlayers, h.injectors⟩, rfl, h.holds, h.seated⟩
  | @advanced _ replacement rules stage state' queue ended _ hstate _ htick hsettle =>
      obtain rfl := Option.some.inj (hholds.symm.trans hstate)
      have hreplaced : Ordered (replacement.getD state.data) := by
        cases replacement with
        | none => exact hdata
        | some data => exact hγ.tick htick hdata
      refine ⟨⟨h.config, h.maxPlayers, h.injectors⟩, rfl, ⟨state', rfl, ?_, ?_⟩, h.seated⟩
      · exact started_of_settle hsettle hphase
      · rw [data_of_settle hsettle]
        exact hreplaced

/-- Every call keeps a session storable. -/
theorem storable_perform (hγ : KeepsOrder γ) (hι : InjectorsKeepOrder ι)
    (hsteady : ∀ i ∈ t.injectors, Steady i) (h : Storable t s) {c : Call} (hc : c.BringsOrder) :
    Storable t (s.perform c).2 := by
  cases c with
  | start players seed =>
      rcases start_cases s players seed with ⟨failure, hs⟩ | ⟨-, -, hs⟩
      · simpa only [perform, hs] using h
      · simpa only [perform, hs] using storable_begin hγ hι hsteady h players seed
  | reset =>
      rcases reset_cases s with ⟨failure, hs⟩ | ⟨-, hs⟩
      · simpa only [perform, hs] using h
      · simpa only [perform, hs] using storable_begin hγ hι hsteady h s.players (some s.seed)
  | act player action => exact storable_act hγ hι hsteady h player action
  | tick seconds => exact storable_tick hγ h seconds
  | restoreState players state => exact storable_adopt h players hc _ _
  | restore saved => exact storable_restore h hc
  | restoreText text =>
      simp only [perform, restoreText]
      cases hread : SavedSession.ofText text with
      | error fault => exact h
      | ok saved => exact storable_restore h (SavedSession.ordered_of_ofText hread)
  | dispose =>
      simp only [perform, dispose]
      cases s.disposed with
      | true => exact h
      | false => exact ⟨⟨h.config, h.maxPlayers, h.injectors⟩, rfl, h.holds, h.seated⟩

theorem storable_after (hγ : KeepsOrder γ) (hι : InjectorsKeepOrder ι)
    (hsteady : ∀ i ∈ t.injectors, Steady i) (h : Storable t s) {calls : List Call}
    (hcalls : ∀ c ∈ calls, c.BringsOrder) : Storable t (s.after calls) :=
  Run.after_invariant (Storable t) Call.BringsOrder
    (fun _ _ hc hs => storable_perform hγ hι hsteady hs hc) hcalls h

/-! ### The round trip -/

omit [Injector ι] in
/-- A twin takes a stored session up as it was, but for what its rules make of the state. -/
theorem restoreText_toText (h : Storable t s) (hs : s.disposed = false) (ht : t.disposed = false)
    (hreads : ∀ saved, s.save? = .ok saved → ReadsBack saved.toJson) {rules : γ}
    (hresume : ∀ state, s.state = some state →
      GameRules.resume t.rules s.players state = (.ok (), rules)) :
    ∃ text, s.toText = .ok text ∧ t.restoreText text = (.ok (), { s with rules := rules }) := by
  obtain ⟨state, hstate, hphase, hdata⟩ := h.holds
  have hsave : s.save? = .ok ⟨s.id, s.players, s.seed, state, s.random⟩ := by
    simp only [save?, hstate]
  have hread := SavedSession.ofText_text hdata (hreads _ hsave)
  have hadopt : t.adopt s.players state s.seed s.random = (.ok (),
      { t with
        rules := rules, players := s.players, state := some state, seed := s.seed
        random := s.random, events := {} }) := by
    simp only [adopt, ht, h.seated, hphase, hresume state hstate, Bool.false_eq_true, if_false]
  refine ⟨_, by rw [toText, hsave]; rfl, ?_⟩
  rw [restoreText, hread]
  simp only [restore, hadopt]
  -- what the twin does not take from the text it has from its making
  obtain ⟨id, rules', config, maxPlayers, injectors, players, state', seed, random, events,
    disposed⟩ := s
  obtain rfl : state' = some state := hstate
  obtain rfl : disposed = false := hs
  obtain rfl : events = {} := h.queue
  obtain rfl : config = t.config := h.config
  obtain rfl : maxPlayers = t.maxPlayers := h.maxPlayers
  obtain rfl : injectors = t.injectors := h.injectors
  rw [ht]

end Session

end Play

end Arcade
