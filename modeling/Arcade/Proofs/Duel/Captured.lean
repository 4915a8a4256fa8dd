import Arcade.Proofs.Duel.Followed
/-!
# Frames that were captured

A frame does not show all of a match, but all that it shows comes back. Whatever is called after its
start, an engine has its two players in their seats (`cast_after`), and the frame of such a match, taken
up by any engine that starts with these players, is shown by it again (`captured_frame_comes_back`).
-/

namespace Arcade.Duel

open Live

namespace DuelEngine

variable {e : DuelEngine} {p q : String}

theorem cast_start (e : DuelEngine) (p q : String) (seed : UInt64) :
    Cast p q (Engine.start e [p, q] seed).2 :=
  ⟨Match.begin e.config p q seed, rfl, Match.seats_begin e.config p q seed⟩

/-- Players keep their seats, whatever is called. -/
theorem cast_after (hne : p ≠ q) (h : Cast p q e) (calls : List EngineCall) :
    Cast p q (Run.after EngineCall.make e calls) :=
  Run.after_invariant (Cast p q) (fun _ => True) (fun _ c _ h => cast_make hne h c)
    (fun _ _ => trivial) h

/-- **A captured frame comes back.** Whatever inputs and steps follow its start, an engine shows a frame.
Any engine, in whatever state, that starts with the same two players and any seed goes on from this frame
and shows it again, field by field: the fighters with their poses, the phase, the clock, the round, the
wins and the winner. -/
theorem captured_frame_comes_back (engine other : DuelEngine) {left right : String}
    (hne : left ≠ right) (seed seed' : UInt64) (calls : List EngineCall) :
    let begun := Engine.start engine [left, right] seed
    let reached := Run.after EngineCall.make begun.2 calls
    let fresh := Engine.start other [left, right] seed'
    begun.1 = .ok () ∧ fresh.1 = .ok () ∧ ∃ frame, Engine.snapshot reached = .ok frame ∧
      (Engine.resume fresh.2 frame).1 = .ok () ∧
      Engine.snapshot (Engine.resume fresh.2 frame).2 = .ok frame := by
  intro begun reached fresh
  obtain ⟨m, hm, hseats⟩ := cast_after hne (cast_start engine left right seed) calls
  have hresume := resume_frameOf hne hseats other seed'
  refine ⟨rfl, rfl, frameOf m, ?_, ?_, ?_⟩
  · simp only [reached, begun, Engine.snapshot, snapshot, hm]
  · simp only [fresh, hresume]
  · -- what the rewinding changes, and the generator, are not shown
    simp only [fresh, hresume]
    rfl

/-- The first player has won a round by a knock-out. An engine that was busy with other players shows
the fallen fighter and the win again. -/
theorem captured_frame_comes_back_of_knock_out :
    let engine : DuelEngine := { config := { health := 1 } }
    let other := Run.after EngineCall.make (Engine.start engine ["c", "d"] 5).2 [.step, .step]
    let approach : List EngineCall := [.setInput "a" .moveRight, .setInput "b" .moveLeft, .step]
    let calls := List.replicate 60 .step ++ (List.replicate 16 approach).flatten
      ++ [.setInput "a" .special, .step]
    let reached := Run.after EngineCall.make (Engine.start engine ["a", "b"] 7).2 calls
    let fresh := (Engine.start other ["a", "b"] 8).2
    "a" ≠ "b" ∧ ∃ frame, Engine.snapshot reached = .ok frame ∧
      Engine.snapshot (Engine.resume fresh frame).2 = .ok frame ∧
      frame.entities.map (·.action) = ["special", "ko"] ∧
      frame.info.roundWins = [("a", 1), ("b", 0)] := by
  intro engine other approach calls reached fresh
  have hne : "a" ≠ "b" := by decide
  obtain ⟨-, -, frame, hframe, -, hagain⟩ := captured_frame_comes_back engine other hne 7 8 calls
  have hshown : (Engine.snapshot reached).toOption.map
      (fun frame => (frame.entities.map (·.action), frame.info.roundWins))
        = some (["special", "ko"], [("a", 1), ("b", 0)]) := by
    decide +kernel
  rw [hframe] at hshown
  obtain ⟨hposes, hwins⟩ := Prod.mk.inj (Option.some.inj hshown)
  exact ⟨hne, frame, hframe, hagain, hposes, hwins⟩

end DuelEngine

end Arcade.Duel
