import Arcade.Proofs.Duel.Resume
import Arcade.Proofs.Live.InStep
import Arcade.Proofs.Mechanics.Hooks
/-!
# Following a duel

What an adapter stores of any engine stays in step, frame by frame: the frame, the patches from the one
before, and the event of a new phase. A duel shows the same two fighters in all its frames
(`keepsCast`), so a client who was shown the first frame needs nothing but the patches from then on.
`Session.frames_patches_and_phases_in_step` says both.
-/

namespace Arcade

open Play Live

namespace Duel

variable {p q : String}

/-- An engine with two players in their seats. -/
def Cast (p q : String) (e : DuelEngine) : Prop :=
  ∃ m, e.current = some m ∧ m.Seats p q

theorem seats_of_frameOf {m m' : Match} (hframe : DuelEngine.frameOf m' = DuelEngine.frameOf m)
    (h : m.Seats p q) : m'.Seats p q := by
  obtain ⟨-, ⟨hleft, hright⟩, -, -, -, hwins, -⟩ := Match.frameOf_eq_iff.mp hframe
  refine ⟨(congrArg Entity.id hleft).trans h.left, (congrArg Entity.id hright).trans h.right, ?_⟩
  rw [hwins]
  exact h.wins

theorem cast_make (hne : p ≠ q) {e : DuelEngine} (h : Cast p q e) (c : EngineCall) :
    Cast p q (EngineCall.make e c).2 := by
  obtain ⟨m, hm, hseats⟩ := h
  rcases DuelEngine.make_current hm c with ⟨m', -, -, hframe, hmake⟩ | ⟨-, hmake⟩
  · rw [hmake]
    exact ⟨m', rfl, seats_of_frameOf hframe hseats⟩
  · rw [hmake]
    exact ⟨m.step e.config, rfl, Match.seats_step hne hseats⟩

/-- All frames of a duel show its two players, in the order of their seats. -/
theorem keepsCast (hne : p ≠ q) : KeepsCast (Cast p q) [p, q] where
  setInput player buttons h := cast_make hne h (.setInput player buttons)
  step h := cast_make hne h .step
  snapshot {engine frame} h hframe := by
    obtain ⟨m, hm, hseats⟩ := h
    simp only [Engine.snapshot, DuelEngine.snapshot, hm, Except.ok.injEq] at hframe
    rw [← hframe]
    show [m.left.id, m.right.id] = [p, q]
    rw [hseats.left, hseats.right]

/-- A duel that was started has two players, or no engine and nobody to show. -/
theorem casts_of_prepare {a a' : Game} {players : List PlayerId} (hnodup : players.Nodup)
    {stage stage' : Stage} {data : Data} (h : a.prepare players stage = ⟨.ok data, a', stage'⟩) :
    ∃ Q ids, KeepsCast Q ids ∧ ids.Nodup ∧ a'.slot.Casts Q ids := by
  cases hslot : a.slot with
  | disposed =>
      simp only [Adapter.prepare, hslot, Adapter.startEngine] at h
      cases h
  | detached =>
      refine ⟨fun _ => False, [], ⟨fun _ _ h => h, fun h => h, fun h => h.elim⟩, List.nodup_nil, ?_⟩
      simp only [Adapter.prepare, hslot, Adapter.startEngine, Adapter.capture] at h
      cases h
      rfl
  | attached engine =>
      rcases players with _ | ⟨left, _ | ⟨right, _ | ⟨third, rest⟩⟩⟩
      · simp only [Adapter.prepare, hslot, Adapter.startEngine, Engine.start, DuelEngine.start] at h
        cases h
      · simp only [Adapter.prepare, hslot, Adapter.startEngine, Engine.start, DuelEngine.start] at h
        cases h
      · have hne : left ≠ right := by simpa using hnodup
        refine ⟨Cast left right, [left, right], keepsCast hne, hnodup, ?_⟩
        simp only [Adapter.prepare, hslot, Adapter.startEngine, Engine.start, DuelEngine.start,
          Adapter.capture, Engine.snapshot, DuelEngine.snapshot] at h
        cases h
        exact ⟨_, rfl, Match.seats_begin _ left right _⟩
      · simp only [Adapter.prepare, hslot, Adapter.startEngine, Engine.start, DuelEngine.start] at h
        cases h

end Duel

namespace Play.Session

open Duel

/-- **Frames, patches and phases stay in step.** Take any engine behind the adapter, with any injectors
that leave the stored frame alone, from a start through any run of actions and frames, failed ones among
them. Each frame that is advanced is what the engine shows; it is stored with the patches from the frame
stored before it, and a phase event is handed over just if the two phases differ, whose data name both; so the
phase events of the run lead from the first phase to the last. Of a duel, moreover, a client who holds the
entities of the first frame and puts on the patches of each frame holds those of the last. -/
theorem frames_patches_and_phases_in_step :
    (∀ {β ι : Type} [Engine β] [Injector ι] {P : ι → Prop}, Pipeline.Avoids P frameKey →
      ∀ {s s' : Session (Adapter β) ι}, (∀ i ∈ s.injectors, P i) →
        ∀ {players seed events}, s.start players seed = (.ok events, s') →
          ∀ {calls : List Call}, (∀ c ∈ calls, c.isMove = true) →
            ∃ first current, s'.StaysInStep calls first current) ∧
    (∀ {ι : Type} [Injector ι] {P : ι → Prop}, Pipeline.Avoids P frameKey →
      ∀ {s s' : Session Duel.Game ι}, (∀ i ∈ s.injectors, P i) →
        ∀ {players seed events}, s.start players seed = (.ok events, s') →
          ∀ {calls : List Call}, (∀ c ∈ calls, c.isMove = true) →
            ∃ first current state, s'.StaysInStep calls first current ∧ s'.state = some state ∧
              (s'.answers calls).foldl Client.follow (Client.shown state)
                = Client.records current.entities) := by
  refine ⟨?_, ?_⟩
  · intro β ι _ _ P hP s s' hall players seed events hstart calls hcalls
    obtain ⟨first, hinstep, -⟩ := inStep_of_start hP hall hstart
    obtain ⟨current, -, hstep⟩ := staysInStep hP hinstep hcalls
    exact ⟨first, current, hstep⟩
  · intro ι _ P hP s s' hall players seed events hstart calls hcalls
    obtain ⟨first, hinstep, hcapture⟩ := inStep_of_start hP hall hstart
    obtain ⟨current, hcurrent, hstep⟩ := staysInStep hP hinstep hcalls
    obtain ⟨state, hstate, hstored⟩ := state_of_frameEntry hinstep.stored
    obtain ⟨Q, ids, hQ, hnodup, hslot⟩ : ∃ Q ids, KeepsCast Q ids ∧ ids.Nodup ∧
        s'.rules.slot.Casts Q ids := by
      cases begun_of_start hstart with
      | begun hcheck hprepare _ => exact casts_of_prepare (nodup_of_checkPlayers hcheck) hprepare
    obtain ⟨last, hlast, hfollow⟩ :=
      follow_after hP hQ hnodup hinstep hslot (hQ.capture hslot hcapture) hcalls
    -- the adapter has but one last frame
    obtain rfl : last = current := Option.some.inj (hlast.last.symm.trans hcurrent.last)
    refine ⟨first, last, state, hstep, hstate, ?_⟩
    rw [Client.shown_of_get? hstored]
    exact hfollow

/-- A minute of a duel in which a player walks once. -/
theorem frames_patches_and_phases_in_step_of_walk :
    let fresh : Session Duel.Game Mechanics.BuiltIn :=
      .create "g" (.attached Duel.descriptor {}) {} [.energy {}]
    let s := (fresh.start ["a", "b"] (some 7)).2
    let calls : List Call := .act "a" { kind := "move_right" } :: List.replicate 3600 (.tick 0)
    (∀ i ∈ fresh.injectors, (fun _ => True) i) ∧
      fresh.start ["a", "b"] (some 7) = (.ok [.started ["a", "b"]], s) ∧
      (∀ c ∈ calls, c.isMove = true) ∧ (∃ first current, s.StaysInStep calls first current) ∧
      ∃ first current state, s.StaysInStep calls first current ∧ s.state = some state ∧
        (s.answers calls).foldl Client.follow (Client.shown state)
          = Client.records current.entities := by
  intro fresh s calls
  have hP : Pipeline.Avoids (fun _ : Mechanics.BuiltIn => True) frameKey := Mechanics.avoids (by decide)
  have hall : ∀ i ∈ fresh.injectors, (fun _ => True) i := fun _ _ => trivial
  have hstart : fresh.start ["a", "b"] (some 7) = (.ok [.started ["a", "b"]], s) := rfl
  have hcalls : ∀ c ∈ calls, c.isMove = true := by
    intro c hc
    rcases List.mem_cons.mp hc with rfl | hc
    · rfl
    · rw [(List.mem_replicate.mp hc).2]
      rfl
  have hany := frames_patches_and_phases_in_step.1 hP hall hstart hcalls
  have hduel := frames_patches_and_phases_in_step.2 hP hall hstart hcalls
  exact ⟨hall, hstart, hcalls, hany, hduel⟩

end Play.Session

end Arcade
