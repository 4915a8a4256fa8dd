import Arcade.Proofs.Host.Lifecycle
import Arcade.Proofs.Mechanics.Built
import Arcade.Proofs.Play.Storage
/-!
# Games that come back from storage

Clicker keeps all it knows in its data, and an energy injector keeps the balances there too. So a game
of clicker with no other injectors comes back from its text as the session that it was
(`clicker_comes_back`): what is called on it or asked of it later is answered as it would have been.

What `Play.Storage` asks of rules and injectors is shown here for clicker, for real-time games and for
the built-in injectors.
-/

namespace Arcade

open Play Live Mechanics Json

/-! ### Rules and injectors -/

theorem Clicker.int_of_mem_drawLucky (c : Clicker) {players : List PlayerId} {stage : Stage}
    {e : String × Json} (h : e ∈ (c.drawLucky players stage).1) : e.2.canonical = e.2 := by
  induction players generalizing stage with
  | nil => exact absurd h List.not_mem_nil
  | cons p rest ih =>
      rcases List.mem_cons.mp h with rfl | h
      · rfl
      · exact ih h

theorem Clicker.ordered_freshData (c : Clicker) (players : List PlayerId)
    {lucky : List (String × Json)} (hlucky : ∀ e ∈ lucky, e.2.canonical = e.2) :
    Ordered (c.freshData players lucky) := by
  have hscores : ∀ e ∈ players.map fun p => (p, Json.int 0), e.2.canonical = e.2 := by
    intro e he
    obtain ⟨p, -, rfl⟩ := List.mem_map.mp he
    rfl
  refine ordered_ofList fun e he => ?_
  simp only [List.mem_cons, List.not_mem_nil, or_false] at he
  rcases he with rfl | rfl | rfl | rfl | rfl
  · exact canonical_obj_iff.mpr (ordered_ofList hscores)
  · exact canonical_strs players
  · exact canonical_obj_iff.mpr (ordered_ofList hlucky)
  · rfl
  · rfl

theorem Clicker.ordered_claim {data : Data} (h : Ordered data) (player : PlayerId) :
    Ordered (claim data player) := by
  unfold claim
  split
  · next claimed hclaimed =>
    refine h.insert _ (canonical_arr_iff.mpr fun j hj => ?_)
    rcases List.mem_append.mp hj with hj | hj
    · exact canonical_arr_iff.mp (h.get? hclaimed) j hj
    · obtain rfl := List.mem_singleton.mp hj
      rfl
  · exact h

theorem Clicker.ordered_setScore {data : Data} (h : Ordered data) (player : PlayerId)
    (total : Int64) : Ordered (setScore data player total) :=
  h.insert _ (canonical_obj_iff.mpr ((h.obj "scores").insert player rfl))

theorem Clicker.ordered_click {data : Data} (h : Ordered data) (player : PlayerId)
    (points : Int64) : Ordered (click data player points).1 := by
  unfold click
  dsimp only
  split
  · exact ordered_setScore (ordered_claim h player) player _
  · exact ordered_setScore h player _

theorem Clicker.ordered_apply {state : GameState} {player : PlayerId} {action : Action}
    {multiplier : Float} {data : Data} {events : List Event} (h : Ordered state.data)
    (happly : apply state player action multiplier = .ok (data, events)) : Ordered data := by
  obtain ⟨-, ⟨-, rfl, -⟩ | ⟨-, count, -, hclick⟩⟩ := apply_cases happly
  · exact h
  · obtain rfl := congrArg Prod.fst hclick
    exact ordered_click h player _

theorem keepsOrder_clicker : KeepsOrder Clicker where
  prepare {c players stage data rules' stage'} h := by
    obtain rfl : c.freshData players (c.drawLucky players stage).1 = data :=
      Except.ok.inj (congrArg Ran.answer h)
    exact c.ordered_freshData players fun e he => c.int_of_mem_drawLucky he
  act {c state player action multiplier stage data rules' stage'} h hdata := by
    obtain ⟨data', events, happly, hreplaced⟩ := Clicker.apply_of_act h
    obtain rfl : data = data' := Option.some.inj hreplaced
    exact Clicker.ordered_apply hdata happly
  tick h _ := by cases h

theorem ordered_storeFrame {data : Data} (h : Ordered data) (frame : Frame) (patches : List Patch) :
    Ordered (storeFrame data frame patches) := by
  refine (h.insert _ (canonical_canonical _)).insert _ (canonical_arr_iff.mpr fun j hj => ?_)
  obtain ⟨p, -, rfl⟩ := List.mem_map.mp hj
  exact canonical_canonical _

theorem keepsOrder_adapter {β : Type} [Engine β] : KeepsOrder (Adapter β) where
  prepare {a players stage data a' stage'} h := by
    simp only [GameRules.prepare, Adapter.prepare] at h
    split at h
    · cases h
    · split at h
      · cases h
      · obtain rfl := Except.ok.inj (congrArg Ran.answer h)
        exact ordered_storeFrame Ordered.nil _ _
  act {a state player action multiplier stage data a' stage'} h _ := by
    simp only [GameRules.act, Adapter.act] at h
    split at h
    · cases h
    · split at h <;> cases h
  tick {a state seconds stage data a' stage'} h hdata := by
    simp only [GameRules.tick, Adapter.tick] at h
    split at h
    · cases h
    · obtain rfl := Option.some.inj (Except.ok.inj (congrArg Ran.answer h))
      exact ordered_storeFrame hdata _ _

theorem injectorsKeepOrder : InjectorsKeepOrder BuiltIn where
  prepare i players := by
    cases i with
    | challenge c => exact Ordered.nil
    | energy e =>
        have hbalances : ∀ b ∈ players.map fun p => (p, Json.nat e.max), b.2.canonical = b.2 := by
          intro b hb
          obtain ⟨p, -, rfl⟩ := List.mem_map.mp hb
          rfl
        exact Ordered.nil.insert _ (canonical_obj_iff.mpr (ordered_ofList hbalances))
  after i player action outcome h := by
    cases i with
    | challenge c => exact h
    | energy e =>
        have hspent : Dict.Sorted (e.spend player (Energy.storedBalances outcome.data)) :=
          Dict.sorted_insert (h.obj Energy.key).sorted _ _
        have hcharged : Ordered (e.charged player outcome.data) :=
          Ordered.mapValues (f := fun b => .nat (min (e.balanceOf (some b) + e.regen) e.max)) hspent
            fun _ => rfl
        exact h.insert _ (canonical_obj_iff.mpr hcharged)

theorem steady_energy (e : Energy) : Steady (BuiltIn.energy e) := ⟨fun _ => rfl, fun _ _ _ => rfl,
  fun _ _ _ => rfl⟩

/-! ### Sessions of one configuration -/

/-- Sessions of one configuration differ in their ids alone. -/
theorem clicker_twins {catalog : Catalog BuiltIn} {id id' : String} {config : GameConfig}
    {s t : Session Clicker BuiltIn} (hs : Host.create catalog id config = .ok (.clicker s))
    (ht : Host.create catalog id' config = .ok (.clicker t)) :
    ∃ rules injectors, catalog.buildAll config.injectors = .ok injectors ∧
      s = .create id rules config injectors ∧ t = .create id' rules config injectors := by
  obtain ⟨rules, hrules, hs⟩ := HostedGame.clicker_of_create hs
  obtain ⟨rules', hrules', ht⟩ := HostedGame.clicker_of_create ht
  obtain rfl : rules = rules' := Except.ok.inj (hrules.symm.trans hrules')
  obtain ⟨injectors, hbuilt, rfl⟩ := HostedGame.create_of_ofConfig hs
  obtain ⟨injectors', hbuilt', rfl⟩ := HostedGame.create_of_ofConfig ht
  obtain rfl : injectors = injectors' := Except.ok.inj (hbuilt.symm.trans hbuilt')
  exact ⟨rules, injectors, hbuilt, rfl, rfl⟩

/-- What is built from the catalog as energy is an energy injector. -/
theorem energies_of_buildAll {specs : List InjectorSpec} (hspecs : ∀ spec ∈ specs, spec.name = "energy")
    {injectors : List BuiltIn} (h : BuiltIn.catalog.buildAll specs = .ok injectors) :
    ∀ i ∈ injectors, ∃ e, i = .energy e := by
  intro i hi
  obtain ⟨spec, hspec, hbuild⟩ := Catalog.exists_spec_of_mem h hi
  rcases builtIn_of_build hbuild with ⟨-, e, -, rfl⟩ | ⟨hname, -⟩
  · exact ⟨e, rfl⟩
  · rw [hspecs spec hspec] at hname
    exact absurd hname (by decide)

/-! ### Clicker -/

/-- **Clicker comes back from storage.** Take any game of clicker whose injectors are all energy, that
was started and then used in whatever way, and that was not given up. A fresh session of the same
configuration takes up its text, and is the same session then. Of the text it is asked that it reads
back as it was written. -/
theorem clicker_comes_back {config : GameConfig}
    (henergy : ∀ spec ∈ config.injectors, spec.name = "energy") {id id' : String}
    {s₀ t s₁ s : Session Clicker BuiltIn}
    (hs₀ : Host.create BuiltIn.catalog id config = .ok (.clicker s₀))
    (ht : Host.create BuiltIn.catalog id' config = .ok (.clicker t)) {players : List PlayerId}
    {seed : Option UInt64} {events : List Event} (hstart : s₀.start players seed = (.ok events, s₁))
    {calls : List Call} (hcalls : ∀ c ∈ calls, c.BringsOrder) (hs : s = s₁.after calls)
    (hkept : s.disposed = false)
    (hreads : ∀ saved, s.save? = .ok saved → ReadsBack saved.toJson) :
    ∃ text, s.toText = .ok text ∧ t.restoreText text = (.ok (), s) := by
  obtain ⟨rules, injectors, hbuilt, rfl, rfl⟩ := clicker_twins hs₀ ht
  have hsteady : ∀ i ∈ injectors, Steady i := by
    intro i hi
    obtain ⟨e, rfl⟩ := energies_of_buildAll henergy hbuilt i hi
    exact steady_energy e
  -- the text does not hold the rules: those of the copy are the same because rules never change
  have hrules : s.rules = rules := by
    have hbegun := Session.rules_perform (Clicker.keptByRules (· = rules)) rfl
      (s := .create id rules config injectors) (.start players seed)
    simp only [Session.perform, hstart] at hbegun
    rw [hs]
    exact Run.after_invariant (fun s : Session Clicker BuiltIn => s.rules = rules) (fun _ => True)
      (fun _ c _ h => Session.rules_perform (Clicker.keptByRules (· = rules)) h c)
      (fun _ _ => trivial) hbegun
  have hstorable : Session.Storable (.create id' rules config injectors) s := by
    rw [hs]
    have htwin : Session.Twin (.create id' rules config injectors)
        (Session.create id rules config injectors) := ⟨rfl, rfl, rfl⟩
    have hbegun := Session.storable_of_begun keepsOrder_clicker injectorsKeepOrder hsteady htwin
      (Session.begun_of_start hstart)
    exact Session.storable_after keepsOrder_clicker injectorsKeepOrder hsteady hbegun hcalls
  have hresume : ∀ state, s.state = some state →
      GameRules.resume rules s.players state = (.ok (), rules) := fun _ _ => rfl
  obtain ⟨text, htext, hrestore⟩ :=
    Session.restoreText_toText hstorable hkept rfl hreads hresume
  refine ⟨text, htext, ?_⟩
  rw [hrestore, ← hrules]

/-- A pass out of turn, a frame and a reset later. -/
theorem clicker_comes_back_after_reset :
    let config : GameConfig := { gameType := "clicker", injectors := [⟨"energy", .null⟩] }
    let fresh (id : String) : Session Clicker BuiltIn :=
      .create id (Clicker.ofTarget 50) config [.energy {}]
    let s := ((fresh "g").start ["a", "b"] (some 5)).2.after
      [.act "b" { kind := "pass" }, .tick 0.1, .reset]
    ∃ text, s.toText = .ok text ∧ (fresh "h").restoreText text = (.ok (), s) := by
  intro config fresh s
  have hcreate : ∀ id, Host.create BuiltIn.catalog id config = .ok (.clicker (fresh id)) :=
    fun _ => rfl
  have hstart : (fresh "g").start ["a", "b"] (some 5)
      = (.ok [Event.started ["a", "b"]], ((fresh "g").start ["a", "b"] (some 5)).2) := rfl
  have hreads : ∀ saved, s.save? = .ok saved → ReadsBack saved.toJson := by
    intro saved hsaved
    have hplain : (s.save?.toOption.all fun saved => decide (Plain maxDepth saved.toJson)) = true := by
      decide +kernel
    rw [hsaved] at hplain
    exact readsBack_of_plain (of_decide_eq_true hplain)
  exact clicker_comes_back (by simp [config]) (hcreate "g") (hcreate "h") hstart
    (by simp [Call.BringsOrder]) rfl (by decide +kernel) hreads

end Arcade
