import Arcade.Proofs.Host.Lifecycle
import Arcade.Proofs.Live.Adapter
import Arcade.Proofs.Mechanics.Accounts
import Arcade.Proofs.Mechanics.Built
/-!
# The energy accounts of the games of a host

Neither game touches the energy balances: clicker writes its scores and its claims, a real-time game its
frame and its patches. So whatever is played after a start, and whatever other injectors there are, the
balances are those that the processed actions make of full ones (`energy_is_accounted`).
-/

namespace Arcade

open Play Live Mechanics

theorem spares_clicker {key : String} (hscores : key ≠ "scores") (hclaims : key ≠ "luckyClaimed") :
    Spares Clicker key where
  act {rules state player action multiplier stage data rules' stage'} h := by
    obtain ⟨data', events, happly, hreplaced⟩ := Clicker.apply_of_act h
    obtain rfl : data = data' := Option.some.inj hreplaced
    obtain ⟨-, ⟨-, hpassed, -⟩ | ⟨-, count, -, hclick⟩⟩ := Clicker.apply_cases happly
    · rw [hpassed]
    · obtain rfl := congrArg Prod.fst hclick
      exact Clicker.get?_click state.data player _ hscores hclaims
  tick h := by cases h

theorem spares_adapter {β : Type} [Engine β] {key : String} (hframe : key ≠ frameKey)
    (hpatches : key ≠ patchesKey) : Spares (Adapter β) key where
  act h := by
    obtain ⟨buttons, -, hnone, -⟩ := Adapter.act_ok h
    cases hnone
  tick h := by
    obtain ⟨frame, changes, b, -, hstored, -⟩ := Adapter.tick_ok h
    obtain rfl := Option.some.inj hstored
    exact (Dict.get?_insert_of_ne _ _ hpatches.symm).trans (Dict.get?_insert_of_ne _ _ hframe.symm)

/-- The balances of injectors from the catalog fit the words in which they are stored. -/
theorem max_le_of_buildAll {specs : List InjectorSpec} {injectors : List BuiltIn} {e : Energy}
    (h : BuiltIn.catalog.buildAll specs = .ok injectors) (he : e ∈ energies injectors) :
    e.max ≤ Words.max64 := by
  obtain ⟨spec, -, hbuild⟩ := Catalog.exists_spec_of_mem h (mem_energies.mp he)
  rcases builtIn_of_build hbuild with ⟨-, e', hoptions, he'⟩ | ⟨-, c, -, hc⟩
  · obtain rfl := BuiltIn.energy.inj he'
    exact Energy.max_le_of_ofOptions hoptions
  · cases hc

namespace HostedGame

/-- What the energy balances are after a run of moves, and what the next action does to them. -/
def Accounted (g : HostedGame BuiltIn) (e : Energy) (players : List PlayerId) (calls : List Call) :
    Prop :=
  g.ask fun s => s.Accounted e players calls

/-- **Energy is accounted for.** Take any game of a host with one energy injector and any challenges
around it, from its start through any run of actions and frames. The stored balances are those that the
processed actions make of full ones, each of them paid for out of a balance that covers its price; none
is ever above the maximum; what is held back or refused costs nothing, and what is processed, on its own
or released by an answer, is charged once. -/
theorem energy_is_accounted {id : String} {config : GameConfig} {fresh g : HostedGame BuiltIn}
    (hcreate : Host.create BuiltIn.catalog id config = .ok fresh) {e : Energy}
    (hone : energies fresh.injectors = [e]) {players : List PlayerId} {seed : Option UInt64}
    {events : List Event} (hstart : fresh.perform (.start players seed) = (.started (.ok events), g))
    {calls : List Call} (hcalls : ∀ c ∈ calls, c.isMove = true) : g.Accounted e players calls := by
  have he : e ∈ energies fresh.injectors := by
    rw [hone]
    exact List.mem_singleton_self e
  cases fresh with
  | clicker s₀ =>
      obtain ⟨rules, -, hconfig⟩ := clicker_of_create hcreate
      obtain ⟨injectors, hbuilt, rfl⟩ := create_of_ofConfig hconfig
      rw [perform_clicker, Prod.mk.injEq] at hstart
      obtain ⟨hanswer, rfl⟩ := hstart
      exact Session.accounted (spares_clicker (by decide) (by decide))
        (max_le_of_buildAll hbuilt he) hone (Prod.ext (Answer.started.inj hanswer) rfl) hcalls
  | duel s₀ =>
      obtain ⟨rules, -, hconfig⟩ := duel_of_create hcreate
      obtain ⟨injectors, hbuilt, rfl⟩ := create_of_ofConfig hconfig
      rw [perform_duel, Prod.mk.injEq] at hstart
      obtain ⟨hanswer, rfl⟩ := hstart
      exact Session.accounted (spares_adapter (by decide) (by decide))
        (max_le_of_buildAll hbuilt he) hone (Prod.ext (Answer.started.inj hanswer) rfl) hcalls

/-- A pass that a challenge holds back costs nothing, and the answer that releases it the price. -/
theorem energy_is_accounted_of_release :
    let config : GameConfig :=
      { gameType := "clicker"
        injectors := [⟨"energy", .null⟩, ⟨"challenge", .obj [("every", .nat 1)]⟩] }
    let fresh : Session Clicker BuiltIn :=
      .create "g" (Clicker.ofTarget 50) config [.energy {}, .challenge { options := { every := 1 } }]
    let s := (fresh.start ["p"] (some 7)).2.after [.act "p" { kind := "pass" }]
    let answer : Action := { kind := "answer_challenge", payload := [("answer", .int 27)] }
    s.balances? = some (.obj [("p", .nat 100)]) ∧
      (s.handleAction "p" answer).2.balances? = some (.obj [("p", .nat 95)]) := by
  intro config fresh s answer
  have hcreate : Host.create BuiltIn.catalog "g" config = .ok (.clicker fresh) := rfl
  have hone : energies (HostedGame.clicker fresh).injectors = [{}] := rfl
  have hstart : (HostedGame.clicker fresh).perform (.start ["p"] (some 7))
      = (.started (.ok [Event.started ["p"]]), .clicker (fresh.start ["p"] (some 7)).2) := rfl
  have hcalls : ∀ c ∈ [Call.act "p" { kind := "pass" }], c.isMove = true := by simp [Call.isMove]
  have haccounted : (fresh.start ["p"] (some 7)).2.Accounted {} ["p"] [.act "p" { kind := "pass" }] :=
    energy_is_accounted hcreate hone hstart hcalls
  have hmovers : (fresh.start ["p"] (some 7)).2.movers [.act "p" { kind := "pass" }] = [] := by
    decide +kernel
  have hprocessed : (s.processed? "p" answer).isSome = true := by decide +kernel
  obtain ⟨forwarded, hforwarded⟩ := Option.isSome_iff_exists.mp hprocessed
  have hbefore := haccounted.replayed
  have hafter := haccounted.charged "p" answer forwarded hforwarded
  rw [hmovers] at hbefore hafter
  exact ⟨hbefore, hafter⟩

end HostedGame

end Arcade
