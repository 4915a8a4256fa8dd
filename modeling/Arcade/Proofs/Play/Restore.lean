import Arcade.Proofs.Play.Calls
/-!
# What a restore takes up

A restore that succeeds puts a record in place of the session's own: players, state, seed, generator and
id (`Call.record?`). What is left of the session before are its configuration and its injectors, and
that of the rules which taking a state up does not set anew (`restored_of_ok`). So two sessions made
alike, whose rules take states up alike, are the same but for their injectors afterwards
(`restored_of_sameMake`).
-/

namespace Arcade.Play

/-- The record that a restore takes up, in a session with the given id. -/
def Call.record? (id : String) : Call → Option SavedSession
  | .restoreState players state =>
    some ⟨id, players, Session.stateSeed state, state, .ofSeed (Session.stateSeed state)⟩
  | .restore saved => some saved
  | .restoreText text => (SavedSession.ofText text).toOption
  | _ => none

namespace Session

variable {γ ι : Type} [GameRules γ] [Injector ι] {s t : Session γ ι} {c : Call}

/-- The session with a record in place of its own, around rules that go on with it. -/
def takeUp (s : Session γ ι) (saved : SavedSession) (rules : γ) : Session γ ι :=
  { s with
    id := saved.id, rules := rules, players := saved.players, state := some saved.state
    seed := saved.seed, random := saved.random, events := {} }

/-- What must be the case for a record to be taken up. -/
structure TakesUp (s : Session γ ι) (saved : SavedSession) (rules : γ) : Prop where
  disposed : s.disposed = false
  seats : s.checkPlayers saved.players = .ok ()
  started : saved.state.phase ≠ .init
  resume : GameRules.resume s.rules saved.players saved.state = (.ok (), rules)

omit [Injector ι] in
theorem adopt_of_takesUp {saved : SavedSession} {rules : γ} (h : s.TakesUp saved rules) :
    s.adopt saved.players saved.state saved.seed saved.random
      = (.ok (), { s.takeUp saved rules with id := s.id }) := by
  unfold adopt
  simp only [h.disposed, h.seats, h.started, h.resume, takeUp, Bool.false_eq_true, if_false]

omit [Injector ι] in
theorem takesUp_of_adopt {saved : SavedSession}
    (h : (s.adopt saved.players saved.state saved.seed saved.random).1 = .ok ()) :
    ∃ rules, s.TakesUp saved rules := by
  have hadopted := adopted s saved.players saved.state saved.seed saved.random
  rw [h] at hadopted
  generalize (s.adopt saved.players saved.state saved.seed saved.random).2 = s' at hadopted
  cases hadopted with
  | adopted hdisposed hcheck hphase hresume => exact ⟨_, hdisposed, hcheck, hphase, hresume⟩

theorem restored_of_takesUp {saved : SavedSession} {rules : γ} (hc : c.record? s.id = some saved)
    (h : s.TakesUp saved rules) : s.perform c = (.restored (.ok ()), s.takeUp saved rules) := by
  have hadopt := adopt_of_takesUp h
  cases c with
  | restoreState players state =>
      obtain rfl := Option.some.inj hc
      simp only [perform, restoreState, hadopt]
      rfl
  | restore saved' =>
      obtain rfl : saved' = saved := Option.some.inj hc
      simp only [perform, restore, hadopt]
      rfl
  | restoreText text =>
      simp only [Call.record?] at hc
      cases htext : SavedSession.ofText text with
      | error fault =>
          rw [htext] at hc
          cases hc
      | ok saved' =>
          rw [htext] at hc
          obtain rfl : saved' = saved := Option.some.inj hc
          simp only [perform, restoreText, htext, restore, hadopt]
          rfl
  | _ => cases hc

/-- A restore that succeeds takes up its record, and nothing else changes. -/
theorem restored_of_ok (h : (s.perform c).1 = .restored (.ok ())) :
    ∃ saved rules, c.record? s.id = some saved ∧ s.TakesUp saved rules ∧
      (s.perform c).2 = s.takeUp saved rules := by
  have hrecord : ∃ saved, c.record? s.id = some saved ∧
      (s.adopt saved.players saved.state saved.seed saved.random).1 = .ok () := by
    have hrestore : ∀ saved, (s.restore saved).1 = .ok () →
        (s.adopt saved.players saved.state saved.seed saved.random).1 = .ok () := by
      intro saved hok
      unfold restore at hok
      split at hok
      next hadopt => rw [hadopt]
      · cases hok
    cases c with
    | restoreState players state => exact ⟨_, rfl, Answer.restored.inj h⟩
    | restore saved => exact ⟨saved, rfl, hrestore saved (Answer.restored.inj h)⟩
    | restoreText text =>
        have hok : (s.restoreText text).1 = .ok () := Answer.restored.inj h
        unfold restoreText at hok
        cases htext : SavedSession.ofText text with
        | error fault =>
            rw [htext] at hok
            cases hok
        | ok saved =>
            rw [htext] at hok
            exact ⟨saved, by rw [Call.record?, htext]; rfl, hrestore saved hok⟩
    | _ => cases h
  obtain ⟨saved, hc, hadopt⟩ := hrecord
  obtain ⟨rules, htakes⟩ := takesUp_of_adopt hadopt
  exact ⟨saved, rules, hc, htakes, by rw [restored_of_takesUp hc htakes]⟩

/-- Of sessions made alike, with rules that take states up alike, one restores what another does, and
they differ in their injectors alone then. -/
theorem restored_of_sameMake (hid : t.id = s.id) (hmake : SameMake t s)
    (hresume : ∀ {players state rules}, GameRules.resume s.rules players state = (.ok (), rules) →
      GameRules.resume t.rules players state = (.ok (), rules))
    (h : (s.perform c).1 = .restored (.ok ())) :
    t.perform c = (.restored (.ok ()), { (s.perform c).2 with injectors := t.injectors }) := by
  obtain ⟨saved, rules, hc, htakes, hs⟩ := restored_of_ok h
  -- seats are checked against the maximum alone, which sessions made alike have in common
  have htakes' : t.TakesUp saved rules := by
    refine ⟨hmake.disposed.trans htakes.disposed, ?_, htakes.started, hresume htakes.resume⟩
    have hseats := htakes.seats
    unfold checkPlayers at hseats ⊢
    rw [hmake.maxPlayers]
    exact hseats
  rw [← hid] at hc
  rw [restored_of_takesUp hc htakes', hs]
  simp only [takeUp, hmake.config, hmake.maxPlayers, hmake.disposed]

/-- Whatever was called on a session that is not given up, it is made as it was, around rules of which
the same is true as at first. -/
theorem sameMake_after {P : γ → Prop} (hP : KeptInPlay P) (h : P s.rules) (calls : List Call)
    (henabled : (s.after calls).disposed = false) :
    SameMake (s.after calls) s ∧ P (s.after calls).rules := by
  have hstep : ∀ (t : Session γ ι) (c : Call), c ≠ .dispose → SameMake t s ∧ P t.rules →
      SameMake (t.perform c).2 s ∧ P (t.perform c).2.rules := by
    intro t c hc ⟨hmake, hrules⟩
    have hnext := sameMake_perform t hc
    exact ⟨⟨hnext.config.trans hmake.config, hnext.maxPlayers.trans hmake.maxPlayers,
      hnext.disposed.trans hmake.disposed⟩, rules_perform_of_ne hP hrules hc⟩
  exact Run.after_invariant
    (fun t : Session γ ι => t.disposed = false → SameMake t s ∧ P t.rules) (fun _ => True)
    (fun _ c _ ht => invariant_of_enabled hstep ht c) (fun _ _ => trivial)
    (fun _ => ⟨⟨rfl, rfl, rfl⟩, h⟩) henabled

end Session

end Arcade.Play
