import Arcade.Mechanics.BuiltIn
import Arcade.Proofs.Duel.Engine
import Arcade.Proofs.Host.Runs
import Arcade.Proofs.Live.Adapter
import Arcade.Proofs.Live.StoredFrame
/-!
# What a failed restore leaves behind

A session writes its own record last: players, state, seed, generator, id and buffered buttons are
what they were whenever a restore fails (`SameRecord`). But a duel begins its fresh match before it
looks at the entities of the frame. A restore that stops at an entity without a seat has therefore
already put an end to the match under way, and the next frame is number one of another match.

`failed_restore_may_restart_duel` tells the failures that are forgotten from those that are not.
-/

namespace Arcade

open Play Live Duel Mechanics

variable {ι : Type} [Injector ι]

/-- The number of the frame that a call has advanced to, as the answer shows it. -/
def Play.Answer.frameNumber? : Answer → Option UInt64
  | .ticked (.ok report) =>
    if report.advanced then (storedFrame? report.state).map fun f => f.frame else none
  | _ => none

theorem Play.Answer.advanced_of_frameNumber? {answer : Answer} {number : UInt64}
    (h : answer.frameNumber? = some number) :
    ∃ report, answer = .ticked (.ok report) ∧ report.advanced = true := by
  cases answer with
  | ticked result =>
      cases result with
      | error failure => simp [frameNumber?] at h
      | ok report =>
          cases hadvanced : report.advanced with
          | true => exact ⟨report, rfl, hadvanced⟩
          | false => simp [frameNumber?, hadvanced] at h
  | _ => simp [frameNumber?] at h

/-! ### The way of a failure through the layers -/

/-- A resumption that fails leaves all of the adapter but the engine as it was. -/
theorem Live.Adapter.resume_error {β : Type} [Engine β] {a a' : Adapter β} {players : List PlayerId}
    {state : GameState} {failure : Failure} (h : a.resume players state = (.error failure, a')) :
    ((∀ fault, failure ≠ .engine fault) ∧ a' = a) ∨
      ∃ fault frame slot, failure = .engine fault ∧ a' = { a with slot := slot } ∧
        resumeEngine a.slot players frame = (.error fault, slot) := by
  unfold resume at h
  cases hframe : storedFrame? state with
  | none =>
      rw [hframe] at h
      cases h
      exact Or.inl ⟨by simp, rfl⟩
  | some frame =>
      rw [hframe] at h
      dsimp only at h
      rcases hresume : resumeEngine a.slot players frame with ⟨answer, slot⟩
      rw [hresume] at h
      cases answer with
      | error fault =>
          cases h
          exact Or.inr ⟨fault, frame, slot, rfl, rfl, hresume⟩
      | ok _ => cases h

namespace Play.Session

variable {γ : Type} [GameRules γ]

omit [GameRules γ] [Injector ι] in
/-- No engine has anything to do with the seating. -/
theorem checkPlayers_error {s : Session γ ι} {players : List PlayerId}
    {failure : Failure} (h : s.checkPlayers players = .error failure) (fault : EngineFailure) :
    failure ≠ .engine fault := by
  unfold checkPlayers at h
  split at h
  · cases h
    simp
  · split at h
    · cases h
      simp
    · split at h
      · cases h
        simp
      · cases h

/-- A restore that fails leaves the session as it was, except that the rules may have failed after
changing what they hold beside the state. -/
theorem restore_error {s : Session γ ι} {c : Call}
    (hc : c.isRestore = true) {failure : Failure}
    (h : (s.perform c).1 = .restored (.error failure)) :
    ((∀ fault, failure ≠ .engine fault) ∧ (s.perform c).2 = s) ∨
      ∃ players state rules, GameRules.resume s.rules players state = (.error failure, rules) ∧
        (s.perform c).2 = { s with rules := rules } := by
  rcases restore_cases s hc with ⟨e, hp⟩ | ⟨players, state, seed, random, answer, t, id, ha, hp⟩
  · rw [hp] at h ⊢
    cases h
    exact Or.inl ⟨by simp, rfl⟩
  · rw [hp] at h ⊢
    obtain rfl : answer = .error failure := Answer.restored.inj h
    have hadopted := adopted s players state seed random
    rw [ha] at hadopted
    cases hadopted with
    | disposed _ => exact Or.inl ⟨by simp, rfl⟩
    | unseated _ hcheck => exact Or.inl ⟨checkPlayers_error hcheck, rfl⟩
    | unstarted _ _ => exact Or.inl ⟨by simp, rfl⟩
    | failed _ hresume => exact Or.inr ⟨players, state, _, hresume, rfl⟩

/-- The session of a duel after a restore that has failed. -/
theorem restore_error_duel {s : Session Duel.Game ι} {c : Call} (hc : c.isRestore = true)
    {failure : Failure} (h : (s.perform c).1 = .restored (.error failure)) :
    ((∀ p, failure ≠ .engine (.unknownPlayer p)) ∧ (s.perform c).2 = s) ∨
      ∃ p slot, failure = .engine (.unknownPlayer p) ∧ DuelEngine.Restarted s.rules.slot slot ∧
        (s.perform c).2 = { s with rules := { s.rules with slot := slot } } := by
  rcases restore_error hc h with ⟨hfailure, hs⟩ | ⟨players, state, rules, hresume, hs⟩
  · exact Or.inl ⟨fun p => hfailure _, hs⟩
  · rcases Adapter.resume_error hresume with ⟨hfailure, hrules⟩ | ⟨fault, frame, slot, hf, hrules, hslot⟩
    · rw [hrules] at hs
      exact Or.inl ⟨fun p => hfailure _, hs⟩
    · rw [hrules] at hs
      rcases DuelEngine.resumeEngine_error hslot with ⟨hfault, hsame⟩ | ⟨⟨p, hp⟩, hrestarted⟩
      · rw [hsame] at hs
        refine Or.inl ⟨fun p hp => ?_, hs⟩
        rw [hf] at hp
        exact hfault p (Failure.engine.inj hp)
      · exact Or.inr ⟨p, slot, by rw [hf, hp], hrestarted, hs⟩

/-! ### The next frame -/

omit [Injector ι] in
/-- The first frame that a restarted engine shows is frame number one. -/
theorem frameNumber?_of_restarted {s s' : Session Duel.Game ι} {slot : Slot DuelEngine}
    (hslot : DuelEngine.Restarted slot s.rules.slot) {seconds : Float} {report : TickReport}
    (h : s.tick seconds = (.ok report, s')) (hadvanced : report.advanced = true) :
    (Answer.ticked (.ok report)).frameNumber? = some 1 := by
  have hticked := ticked_of_eq h
  cases hticked with
  | decided _ _ _ => simp at hadvanced
  | advanced _ _ _ htick hsettle =>
      obtain ⟨frame, changes, b, hadvance, rfl, -⟩ := Adapter.tick_ok htick
      obtain ⟨engine, left, right, seed, m, -, hattached, honly⟩ := hslot
      rw [Adapter.advance_of_attached hattached, Prod.mk.injEq] at hadvance
      obtain ⟨hnumber, hwins⟩ := DuelEngine.frame_of_simulate (Prod.ext hadvance.1 rfl) rfl honly
      rw [Answer.frameNumber?, if_pos rfl, storedFrame?_of_get? ?_ hwins, Option.map_some, hnumber]
      rw [data_of_settle hsettle, Option.getD_some, get?_storeFrame]

/-! ### Games that are not in play -/

/-- Whether a session is under way: neither given up nor unstarted nor decided. -/
def InPlay (s : Session γ ι) : Prop :=
  s.disposed = false ∧ ∃ state, s.state = some state ∧ state.phase ≠ .ended

/-- A session that is not in play makes no use of its rules: it goes on in the same way around any
others. -/
theorem move_of_not_inPlay {s : Session γ ι} (hs : ¬ s.InPlay) (rules : γ) {c : Call}
    (hc : c.isMove = true) :
    (({ s with rules := rules } : Session γ ι).perform c).1 = (s.perform c).1 ∧
      (({ s with rules := rules } : Session γ ι).perform c).2
        = { (s.perform c).2 with rules := rules } ∧ ¬ (s.perform c).2.InPlay := by
  cases c with
  | act player action =>
      have hrefusal : ({ s with rules := rules } : Session γ ι).refusal? player
          = s.refusal? player := rfl
      simp only [perform, handleAction, answerAction, hrefusal]
      cases hr : s.refusal? player with
      | some refusal => exact ⟨rfl, rfl, hs⟩
      | none =>
          obtain ⟨hdisposed, state, hstate, -, hphase⟩ := state_of_refusal?_eq_none hr
          exact absurd ⟨hdisposed, state, hstate, hphase⟩ hs
  | tick seconds =>
      obtain ⟨id, _, config, maxPlayers, injectors, players, state, seed, random, events, disposed⟩ :=
        s
      simp only [perform, tick]
      cases disposed with
      | true => exact ⟨rfl, rfl, hs⟩
      | false =>
          cases state with
          | none => exact ⟨rfl, rfl, hs⟩
          | some state =>
              by_cases hphase : state.phase = .ended
              · have hended : state.isEnded = true := by simp [GameState.isEnded, hphase]
                simp only [hended, Bool.false_eq_true, if_false, if_true]
                exact ⟨trivial, trivial, hs⟩
              · exact absurd ⟨rfl, state, rfl, hphase⟩ hs
  | _ => simp [Call.isMove] at hc

/-- So nobody who plays on can tell which rules are behind it. -/
theorem answers_of_not_inPlay {s : Session γ ι} (hs : ¬ s.InPlay) (rules : γ) {calls : List Call}
    (hcalls : ∀ d ∈ calls, d.isMove = true) :
    ({ s with rules := rules } : Session γ ι).answers calls = s.answers calls :=
  Run.answers_eq_of_alike
    (fun t s : Session γ ι => ¬ s.InPlay ∧ ∃ rules, t = { s with rules := rules })
    (fun d => d.isMove = true)
    (fun _ _ _ hd h => by
      obtain ⟨hs, rules, rfl⟩ := h
      obtain ⟨hanswer, hnext, hstill⟩ := move_of_not_inPlay hs rules hd
      exact ⟨hanswer, hstill, rules, hnext⟩)
    hcalls ⟨hs, rules, rfl⟩

end Play.Session

/-! ### Hosted games -/

namespace HostedGame

/-- The same games, but for the engine of a duel. -/
inductive SameRecord : HostedGame ι → HostedGame ι → Prop
  | refl (g : HostedGame ι) : SameRecord g g
  | duel (s : Session Duel.Game ι) (slot : Slot DuelEngine) :
      SameRecord (.duel s) (.duel { s with rules := { s.rules with slot := slot } })

/-- Whether a game is under way: neither given up nor unstarted nor decided. -/
def InPlay (g : HostedGame ι) : Prop :=
  g.ask fun s => s.InPlay

/-- A restore that fails changes nothing, unless it fails for an entity that has no seat: then the
engine of the duel was restarted, and that is the only change. -/
theorem restore_error {g : HostedGame ι} {c : Call} (hc : c.isRestore = true) {failure : Failure}
    (h : (g.perform c).1 = .restored (.error failure)) :
    ((∀ p, failure ≠ .engine (.unknownPlayer p)) ∧ (g.perform c).2 = g) ∨
      ∃ p s slot, failure = .engine (.unknownPlayer p) ∧ g = .duel s ∧
        DuelEngine.Restarted s.rules.slot slot ∧
        (g.perform c).2 = .duel { s with rules := { s.rules with slot := slot } } := by
  cases g with
  | clicker s =>
      rw [perform_clicker] at h ⊢
      rcases Session.restore_error hc h with ⟨hfailure, hs⟩ | ⟨players, state, rules, hresume, -⟩
      · exact Or.inl ⟨fun p => hfailure _, congrArg HostedGame.clicker hs⟩
      · cases hresume
  | duel s =>
      rw [perform_duel] at h ⊢
      rcases Session.restore_error_duel hc h with ⟨hfailure, hs⟩ | ⟨p, slot, hp, hrestarted, hs⟩
      · exact Or.inl ⟨hfailure, congrArg HostedGame.duel hs⟩
      · exact Or.inr ⟨p, s, slot, hp, rfl, hrestarted, congrArg HostedGame.duel hs⟩

/-- **A failed restore may have restarted a duel.** It changes the record of no game, and the game
itself only if an entity of the frame has no seat. Even then a game that is not in play goes on as
if nothing had happened; but in play the next frame, if it can be advanced at all, is number one of a
fresh match. So where the next frame would have been a later one, the failed restore is forgotten
exactly if every entity had a seat. -/
theorem failed_restore_may_restart_duel (g : HostedGame ι) {c : Call} (hc : c.isRestore = true)
    {failure : Failure} (h : (g.perform c).1 = .restored (.error failure)) :
    SameRecord g (g.perform c).2 ∧
    ((∀ p, failure ≠ .engine (.unknownPlayer p)) → (g.perform c).2 = g) ∧
    (¬ g.InPlay → ∀ calls : List Call, (∀ d ∈ calls, d.isMove = true) →
      (g.perform c).2.answers calls = g.answers calls) ∧
    (∀ p, failure = .engine (.unknownPlayer p) → ∀ seconds report,
      ((g.perform c).2.perform (.tick seconds)).1 = .ticked (.ok report) →
      report.advanced = true →
      ((g.perform c).2.perform (.tick seconds)).1.frameNumber? = some 1) ∧
    (∀ seconds number, (g.perform (.tick seconds)).1.frameNumber? = some number → number ≠ 1 →
      ((∀ calls : List Call, (∀ d ∈ calls, d.isMove = true) →
          (g.perform c).2.answers calls = g.answers calls) ↔
        ∀ p, failure ≠ .engine (.unknownPlayer p))) := by
  rcases restore_error hc h with ⟨hfailure, hg⟩ | ⟨p, s, slot, hp, rfl, hrestarted, hg⟩
  · rw [hg]
    exact ⟨.refl g, fun _ => rfl, fun _ _ _ => rfl, fun p hp => absurd hp (hfailure p),
      fun _ _ _ _ => ⟨fun _ => hfailure, fun _ _ _ => rfl⟩⟩
  · let g' : HostedGame ι := .duel { s with rules := { s.rules with slot := slot } }
    have hfirst : ∀ seconds report, (g'.perform (.tick seconds)).1 = .ticked (.ok report) →
        report.advanced = true → (g'.perform (.tick seconds)).1.frameNumber? = some 1 := by
      intro seconds report hreport hadvanced
      rw [hreport]
      exact Session.frameNumber?_of_restarted (s := { s with rules := { s.rules with slot := slot } })
        hrestarted (Prod.ext (Answer.ticked.inj hreport) rfl) hadvanced
    rw [hg]
    refine ⟨.duel s slot, fun hnone => absurd hp (hnone p), fun hplay calls hcalls => ?_,
      fun _ _ => hfirst, fun seconds number hnumber hlater => ?_⟩
    · rw [answers_duel, answers_duel]
      exact Session.answers_of_not_inPlay hplay _ hcalls
    · refine ⟨fun hsame => ?_, fun hnone => absurd hp (hnone p)⟩
      -- one frame is enough to tell the two games apart
      have htick := (List.cons.inj (hsame [.tick seconds] (by simp [Call.isMove]))).1
      rw [← htick] at hnumber
      obtain ⟨report, hreport, hadvanced⟩ := Answer.advanced_of_frameNumber? hnumber
      rw [hfirst seconds report hreport hadvanced] at hnumber
      exact absurd (Option.some.inj hnumber).symm hlater

/-- A duel that has shown its second frame, and a restore from a frame of another duel. -/
theorem failed_restore_may_restart_duel_of_stranger :
    let fresh : HostedGame BuiltIn := .duel (.create "g" (.attached Duel.descriptor {}) {} [])
    let g := fresh.after [.start ["a", "b"] (some 7), .tick 0.1]
    let foreign := DuelEngine.frameOf (.begin {} "a" "c" 7)
    let c : Call := .restoreState ["a", "b"] (.playing (storeFrame [] foreign []))
    (g.perform c).1 = .restored (.error (.engine (.unknownPlayer "c"))) ∧
      ¬ ∀ calls : List Call, (∀ d ∈ calls, d.isMove = true) →
        (g.perform c).2.answers calls = g.answers calls := by
  intro fresh g foreign c
  have hanswer : (g.perform c).1 = .restored (.error (.engine (.unknownPlayer "c"))) := by
    simp only [fresh, g, foreign, c]
    rfl
  have hnext : (g.perform (.tick 0.1)).1.frameNumber? = some 2 := by decide +kernel
  obtain ⟨-, -, -, -, hforgotten⟩ := failed_restore_may_restart_duel g rfl hanswer
  refine ⟨hanswer, fun hsame => ?_⟩
  exact (hforgotten 0.1 2 hnext (by decide)).mp hsame "c" rfl

end HostedGame

end Arcade
