import Arcade.Clicker
import Arcade.Proofs.Mechanics.Questions
import Arcade.Proofs.Play.Movers
/-!
# Every so many actions are earned

In a session with one challenge, the processed actions of a player whose number is a multiple of the
challenge's `every` are those that a right answer has released, and each question releases one
(`every_nth_is_earned`). Other injectors may stand before and behind the challenge, and both they and
the rules may turn actions down at any moment.

`Asked` lists what one call can do to the challenge. Its counts, its questions and its note of a
release change at three different moments of a call, so none of them means anything by itself in
between; between two calls `Books` ties them to what was called: the counts are those of the processed
actions, and each question waits since the action that it holds back was submitted, which was due for
it then and is still.
-/

namespace Arcade.Play.Session

open Mechanics

variable {γ : Type} [GameRules γ] {s : Session γ BuiltIn} {c c' : Challenge} {player : PlayerId}
  {action : Action} {d : Call} {calls : List Call} {n raised : Nat} {q : Pending}

/-! ### One call -/

/-- A call releases the action that a question holds back: it is the right answer, and the rules apply
the action with the reward. -/
def Releases (s : Session γ BuiltIn) (reward : Float) (player : PlayerId) (q : Pending)
    (d : Call) : Prop :=
  ∃ answer, d = .act player answer ∧ Challenge.Solves answer q ∧
    s.processed? player answer = some q.held ∧
    s.multiplier? player answer = some (Pipeline.scaled 1.0 (some reward))

theorem Releases.mover? {reward : Float} (h : s.Releases reward player q d) :
    s.mover? d = some player := by
  obtain ⟨answer, rfl, -, hprocessed, -⟩ := h
  exact mover?_of_processed? hprocessed

/-- What a call does to the only challenge of a session. -/
inductive Asked (s : Session γ BuiltIn) (c : Challenge) : Call → Challenge → Prop
  /-- nothing that lasts -/
  | left {d : Call} {c' : Challenge} (hmover : s.mover? d = none) (hcounts : c'.counts = c.counts)
      (hpending : c'.pending = c.pending) : Asked s c d c'
  /-- an action that is due raises a question -/
  | raised {player : PlayerId} {action : Action} {q : Pending} {c' : Challenge}
      (hmover : s.mover? (.act player action) = none) (hcounts : c'.counts = c.counts)
      (hnone : Dict.get? c.pending player = none) (hdue : c.options.every ∣ c.count player + 1)
      (hheld : q.held = action) (hpending : c'.pending = Dict.insert c.pending player q) :
      Asked s c (.act player action) c'
  /-- an action that is not due is processed as it is -/
  | passed {player : PlayerId} {action : Action} {c' : Challenge}
      (hmover : s.mover? (.act player action) = some player)
      (hcounts : c'.counts = Dict.insert c.counts player (c.count player + 1))
      (hnone : Dict.get? c.pending player = none) (hundue : ¬ c.options.every ∣ c.count player + 1)
      (hpending : c'.pending = c.pending) (hprocessed : s.processed? player action = some action)
      (hfactor : s.multiplier? player action = some 1.0) : Asked s c (.act player action) c'
  /-- a question is answered, and the action that it held back is processed -/
  | released {player : PlayerId} {d : Call} {q : Pending} {c' : Challenge}
      (hmover : s.mover? d = some player)
      (hcounts : c'.counts = Dict.insert c.counts player (c.count player + 1))
      (hq : Dict.get? c.pending player = some q)
      (hpending : c'.pending = Dict.erase c.pending player)
      (hreleases : s.Releases c.options.reward player q d) : Asked s c d c'

/-- Where no turn is taken, a question is raised at most: what was released stays pending, for only
the hook behind the rules forgets it. -/
theorem asked_of_unmoved {joint : Pipeline.Joint} (hmover : s.mover? (.act player action) = none)
    (h : Consulted c player action 1.0 joint c') :
    c'.options = c.options ∧ Asked s c (.act player action) c' := by
  have hruled := c.ruled player action
  have hasked : (c.before player action).2.options = c.options ∧
      Asked s c (.act player action) (c.before player action).2 := by
    generalize (c.before player action).1 = verdict at hruled
    generalize (c.before player action).2 = c' at hruled ⊢
    cases hruled with
    | vetoed => exact ⟨rfl, .left hmover rfl rfl⟩
    | released _ _ => exact ⟨rfl, .left hmover rfl rfl⟩
    | issued hnone hdue => exact ⟨rfl, .raised hmover rfl hnone hdue rfl rfl⟩
    | passed _ _ => exact ⟨rfl, .left hmover rfl rfl⟩
  cases h with
  | unasked => exact ⟨rfl, .left hmover rfl rfl⟩
  | vetoed => exact hasked
  | agreed _ => exact hasked

/-- Where a turn is taken, it is by an action that is not due or was released, and it is counted. -/
theorem asked_of_processed {forwarded : Action} {multiplier : Float} {told : Option Json}
    (hmover : s.mover? (.act player action) = some player)
    (hprocessed : s.processed? player action = some forwarded)
    (hfactor : s.multiplier? player action = some multiplier)
    (h : Consulted c player action 1.0 (.proceed forwarded multiplier told) c') :
    (c'.after player).options = c.options ∧ Asked s c (.act player action) (c'.after player) := by
  cases h with
  | agreed hproceed =>
      have hruled := c.ruled player action
      generalize (c.before player action).1 = verdict at hruled hproceed hprocessed hfactor
      generalize (c.before player action).2 = c' at hruled ⊢
      cases hruled with
      | vetoed => cases hproceed
      | issued _ _ => cases hproceed
      | passed hnone hundue => exact ⟨rfl, .passed hmover rfl hnone hundue rfl hprocessed hfactor⟩
      | released hq hsolves =>
          exact ⟨rfl, .released hmover rfl hq (if_pos rfl) ⟨action, rfl, hsolves, hprocessed, hfactor⟩⟩

/-- Every action goes one of these ways. -/
theorem asked_act (hone : challenges s.injectors = [c]) (player : PlayerId) (action : Action) :
    ∃ c', challenges (s.perform (.act player action)).2.injectors = [c'] ∧
      c'.options = c.options ∧ Asked s c (.act player action) c' := by
  rcases hnext : s.handleAction player action with ⟨result, s'⟩
  simp only [perform, hnext]
  cases handled_of_eq hnext with
  | refused _ => exact ⟨c, hone, rfl, .left (mover?_of_state hnext rfl) rfl rfl⟩
  | vetoed _ _ hbefore =>
      obtain ⟨c', hone', hconsulted⟩ := consulted_of_before hone hbefore
      exact ⟨c', hone', asked_of_unmoved (mover?_of_state hnext rfl) hconsulted⟩
  | rejected _ _ hbefore _ =>
      obtain ⟨c', hone', hconsulted⟩ := consulted_of_before hone hbefore
      exact ⟨c', hone', asked_of_unmoved (mover?_of_state hnext rfl) hconsulted⟩
  | processed hrefusal hstate hbefore hact hpipeline hsettle =>
      obtain ⟨c', hone', hconsulted⟩ := consulted_of_before hone hbefore
      have hmover := mover?_of_settle hnext hstate hsettle rfl
      have hprocessed := processed?_of_proceed hrefusal hstate hbefore hact
      have hfactor := multiplier?_of_proceed hstate hbefore
      refine ⟨c'.after player, ?_, asked_of_processed hmover hprocessed hfactor hconsulted⟩
      exact (challenges_after hpipeline).trans (by rw [hone']; rfl)

/-- Frames ask nothing. -/
theorem asked (hone : challenges s.injectors = [c]) {d : Call} (hd : d.isMove = true) :
    ∃ c', challenges (s.perform d).2.injectors = [c'] ∧ c'.options = c.options ∧ Asked s c d c' := by
  cases d with
  | act player action => exact asked_act hone player action
  | tick seconds =>
      have hticked := ticked s seconds
      have hinjectors : (s.perform (.tick seconds)).2.injectors = s.injectors := by
        simp only [perform]
        generalize (s.tick seconds).1 = answer at hticked
        generalize (s.tick seconds).2 = s' at hticked ⊢
        cases hticked <;> rfl
      exact ⟨c, by rw [hinjectors, hone], rfl, .left rfl rfl rfl⟩
  | _ => cases hd

/-- The counts are those of the processed actions. -/
theorem Asked.count (h : Asked s c d c') (p : PlayerId) :
    c'.count p = c.count p + (s.mover? d).toList.count p := by
  have hcounted : ∀ player, c'.counts = Dict.insert c.counts player (c.count player + 1) →
      c'.count p = c.count p + [player].count p := by
    intro player hcounts
    by_cases hp : player = p
    · subst hp
      simp [Challenge.count, hcounts, Dict.get?_insert_self]
    · simp [Challenge.count, hcounts, Dict.get?_insert_of_ne _ _ hp, hp]
  cases h with
  | left hmover hcounts _ => simp [Challenge.count, hmover, hcounts]
  | raised hmover hcounts _ _ _ _ => simp [Challenge.count, hmover, hcounts]
  | passed hmover hcounts _ _ _ _ _ =>
      rw [hmover]
      exact hcounted _ hcounts
  | released hmover hcounts _ _ _ =>
      rw [hmover]
      exact hcounted _ hcounts

/-- A question stays until it is answered, and until then no action of the player is processed. -/
theorem Asked.stays_or_released (h : Asked s c d c') (hq : Dict.get? c.pending player = some q) :
    (s.mover? d ≠ some player ∧ Dict.get? c'.pending player = some q) ∨
      (s.mover? d = some player ∧ s.Releases c.options.reward player q d ∧
        Dict.get? c'.pending player = none) := by
  cases h with
  | left hmover _ hpending => exact Or.inl ⟨by rw [hmover]; simp, by rw [hpending, hq]⟩
  | @raised asker _ _ _ hmover _ hnone _ _ hpending =>
      have hne : asker ≠ player := by
        rintro rfl
        rw [hnone] at hq
        cases hq
      exact Or.inl ⟨by rw [hmover]; simp, by rw [hpending, Dict.get?_insert_of_ne _ _ hne, hq]⟩
  | @passed other _ _ hmover _ hnone _ hpending _ _ =>
      have hne : other ≠ player := by
        rintro rfl
        rw [hnone] at hq
        cases hq
      exact Or.inl ⟨by rw [hmover]; simpa using hne, by rw [hpending, hq]⟩
  | @released other _ q' _ hmover _ hq' hpending hreleases =>
      by_cases hp : other = player
      · subst hp
        obtain rfl := Option.some.inj (hq.symm.trans hq')
        exact Or.inr ⟨hmover, hreleases, by rw [hpending, Dict.get?_erase_self]⟩
      · exact Or.inl ⟨by rw [hmover]; simpa using hp, by rw [hpending, Dict.get?_erase_of_ne _ hp, hq]⟩

/-- A new question holds back the action of the call that raised it, which was due. -/
theorem Asked.raised_of_new (h : Asked s c d c') (hnone : Dict.get? c.pending player = none)
    (hq : Dict.get? c'.pending player = some q) :
    d = .act player q.held ∧ s.mover? d = none ∧ c.options.every ∣ c.count player + 1 := by
  cases h with
  | left _ _ hpending => simp [hpending, hnone] at hq
  | passed _ _ _ _ hpending _ _ => simp [hpending, hnone] at hq
  | @released other _ _ _ _ _ _ hpending _ =>
      rw [hpending] at hq
      by_cases hp : other = player
      · simp [hp, Dict.get?_erase_self] at hq
      · simp [Dict.get?_erase_of_ne _ hp, hnone] at hq
  | @raised asker action q' _ hmover _ _ hdue hheld hpending =>
      rw [hpending] at hq
      by_cases hp : asker = player
      · subst hp
        obtain rfl := Option.some.inj ((Dict.get?_insert_self _ _ _).symm.trans hq)
        exact ⟨by rw [hheld], hmover, hdue⟩
      · simp [Dict.get?_insert_of_ne _ _ hp, hnone] at hq

/-- An action that is processed is either due and released, or neither. -/
theorem Asked.processed_cases (h : Asked s c d c') {action : Action} (hd : d = .act player action)
    (hmover : s.mover? d = some player) :
    (∃ q, Dict.get? c.pending player = some q ∧ s.Releases c.options.reward player q d) ∨
      (Dict.get? c.pending player = none ∧ ¬ c.options.every ∣ c.count player + 1 ∧
        s.processed? player action = some action ∧ s.multiplier? player action = some 1.0) := by
  cases h with
  | left hstill _ _ =>
      rw [hstill] at hmover
      cases hmover
  | raised hstill _ _ _ _ _ =>
      rw [hstill] at hmover
      cases hmover
  | passed hmover' _ hnone hundue _ hprocessed hfactor =>
      cases hd
      exact Or.inr ⟨hnone, hundue, hprocessed, hfactor⟩
  | released hmover' _ hq _ hreleases =>
      obtain rfl := Option.some.inj (hmover.symm.trans hmover')
      exact Or.inl ⟨_, hq, hreleases⟩

/-! ### A run of calls -/

/-- At call number `now` a question waits for a player's answer, ever since his call number `raised`,
whose action it holds back. -/
structure Waits (s : Session γ BuiltIn) (calls : List Call) (player : PlayerId) (raised now : Nat)
    (q : Pending) : Prop where
  earlier : raised < now
  held : calls[raised]? = some (.act player q.held)
  unasked : (s.after (calls.take raised)).outstanding player = []
  asked : ∀ n, raised < n → n ≤ now → (s.after (calls.take n)).outstanding player = [q]

/-- Call number `n` releases the action that call number `raised` has submitted. -/
structure Earns (s : Session γ BuiltIn) (reward : Float) (calls : List Call) (player : PlayerId)
    (raised n : Nat) (q : Pending) : Prop extends s.Waits calls player raised n q where
  released : ∃ d, calls[n]? = some d ∧ (s.after (calls.take n)).Releases reward player q d

/-- What the counts and the questions of the only challenge have to do with the calls so far. -/
structure Books (s : Session γ BuiltIn) (calls : List Call) (n : Nat) (options : ChallengeOptions)
    (c : Challenge) : Prop where
  only : challenges (s.after (calls.take n)).injectors = [c]
  same : c.options = options
  counts : ∀ p, c.count p = (s.movers (calls.take n)).count p
  waits : ∀ p q, Dict.get? c.pending p = some q →
    options.every ∣ c.count p + 1 ∧ ∃ raised, s.Waits calls p raised n q

theorem Waits.succ (h : s.Waits calls player raised n q)
    (hnext : (s.after (calls.take (n + 1))).outstanding player = [q]) :
    s.Waits calls player raised (n + 1) q where
  earlier := Nat.lt_succ_of_lt h.earlier
  held := h.held
  unasked := h.unasked
  asked j hraised hj := by
    rcases Nat.lt_or_eq_of_le hj with hlt | rfl
    · exact h.asked j hraised (Nat.le_of_lt_succ hlt)
    · exact hnext

theorem Books.outstanding {options : ChallengeOptions} (h : s.Books calls n options c)
    (player : PlayerId) :
    (s.after (calls.take n)).outstanding player = (Dict.get? c.pending player).toList :=
  outstanding_of_challenges h.only player

theorem count_toList_of_ne {mover : Option PlayerId} (h : mover ≠ some player) :
    mover.toList.count player = 0 := by
  rw [List.count_eq_zero, Option.mem_toList]
  exact h

/-- One call keeps the books. -/
theorem books_succ {options : ChallengeOptions} (h : s.Books calls n options c)
    (hd : calls[n]? = some d)
    (hone : challenges (s.after (calls.take (n + 1))).injectors = [c'])
    (hoptions : c'.options = c.options) (hasked : (s.after (calls.take n)).Asked c d c') :
    s.Books calls (n + 1) options c' where
  only := hone
  same := hoptions.trans h.same
  counts p := by rw [hasked.count, h.counts, movers_take_succ hd, List.count_append]
  waits p q hq := by
    have hnow : (s.after (calls.take (n + 1))).outstanding p = [q] := by
      rw [outstanding_of_challenges hone, hq]
      rfl
    have hcount := hasked.count p
    -- a question is either raised by this call, or has been there and stays
    cases hold : Dict.get? c.pending p with
    | none =>
        obtain ⟨rfl, hmover, hdue⟩ := hasked.raised_of_new hold hq
        rw [hmover, Option.toList_none, List.count_nil, Nat.add_zero] at hcount
        have hunasked : (s.after (calls.take n)).outstanding p = [] := by
          rw [h.outstanding, hold]
          rfl
        refine ⟨by rwa [hcount, ← h.same], n, Nat.lt_succ_self n, hd, hunasked, ?_⟩
        intro j hraised hj
        rwa [Nat.le_antisymm hj hraised]
    | some q' =>
        rcases hasked.stays_or_released hold with ⟨hmover, hstays⟩ | ⟨-, -, hgone⟩
        · obtain rfl := Option.some.inj (hstays.symm.trans hq)
          obtain ⟨hdue, raised, hwaits⟩ := h.waits p q' hold
          rw [count_toList_of_ne hmover, Nat.add_zero] at hcount
          exact ⟨by rwa [hcount], raised, hwaits.succ hnow⟩
        · rw [hgone] at hq
          cases hq

/-- The books are in order at every moment of a run. -/
theorem books_of_moves (hone : challenges s.injectors = [c]) (hcounts : c.counts = [])
    (hpending : c.pending = []) (hcalls : ∀ d ∈ calls, d.isMove = true) (n : Nat)
    (hn : n ≤ calls.length) : ∃ c', s.Books calls n c.options c' := by
  induction n with
  | zero =>
      refine ⟨c, hone, rfl, ?_, ?_⟩
      · intro p
        simp [Challenge.count, hcounts]
      · intro p q hq
        simp [hpending] at hq
  | succ n ih =>
      obtain ⟨c₁, hbooks⟩ := ih (Nat.le_of_succ_le hn)
      have hd : calls[n]? = some calls[n] := List.getElem?_eq_getElem hn
      obtain ⟨c', hone', hoptions, hasked⟩ := asked hbooks.only (hcalls _ (List.getElem_mem hn))
      rw [← after_take_succ hd] at hone'
      exact ⟨c', books_succ hbooks hd hone' hoptions hasked⟩

/-! Of a run that begins with a challenge as good as new: -/

section

variable (hone : challenges s.injectors = [c]) (hcounts : c.counts = []) (hpending : c.pending = [])
  (hcalls : ∀ d ∈ calls, d.isMove = true)

include hone hcounts hpending hcalls

/-- The books are in order before each call, which then goes one of the ways of `Asked`. -/
theorem asked_at (hd : calls[n]? = some d) : ∃ c₁ c₂, s.Books calls n c.options c₁ ∧
    challenges (s.after (calls.take (n + 1))).injectors = [c₂] ∧
    (s.after (calls.take n)).Asked c₁ d c₂ := by
  obtain ⟨hn, rfl⟩ := List.getElem?_eq_some_iff.mp hd
  obtain ⟨c₁, hbooks⟩ := books_of_moves hone hcounts hpending hcalls n (Nat.le_of_lt hn)
  obtain ⟨c₂, hone', -, hasked⟩ := asked hbooks.only (hcalls _ (List.getElem_mem hn))
  rw [← after_take_succ hd] at hone'
  exact ⟨c₁, c₂, hbooks, hone', hasked⟩

/-- A question stays until the right answer takes it away. -/
theorem outstanding_succ (hd : calls[n]? = some d)
    (hq : q ∈ (s.after (calls.take n)).outstanding player) :
    ((s.after (calls.take n)).mover? d ≠ some player ∧
        (s.after (calls.take (n + 1))).outstanding player = [q]) ∨
      ((s.after (calls.take n)).Releases c.options.reward player q d ∧
        (s.after (calls.take (n + 1))).outstanding player = []) := by
  obtain ⟨c₁, c₂, hbooks, hone', hasked⟩ := asked_at hone hcounts hpending hcalls hd
  rw [hbooks.outstanding, Option.mem_toList] at hq
  rw [outstanding_of_challenges hone', ← hbooks.same]
  rcases hasked.stays_or_released hq with ⟨hmover, hstays⟩ | ⟨-, hreleases, hgone⟩
  · exact Or.inl ⟨hmover, by rw [hstays]; rfl⟩
  · exact Or.inr ⟨hreleases, by rw [hgone]; rfl⟩

/-- A processed action was released by an answer if its number says so, and else was let through as it
is. -/
theorem earned_iff (hd : calls[n]? = some (.act player action))
    (hmover : (s.after (calls.take n)).mover? (.act player action) = some player) :
    (c.options.every ∣ (s.movers (calls.take (n + 1))).count player ↔
        ∃ raised q, s.Earns c.options.reward calls player raised n q) ∧
      (¬ c.options.every ∣ (s.movers (calls.take (n + 1))).count player →
        (s.after (calls.take n)).processed? player action = some action ∧
          (s.after (calls.take n)).multiplier? player action = some 1.0) := by
  obtain ⟨c₁, c₂, hbooks, -, hasked⟩ := asked_at hone hcounts hpending hcalls hd
  have hk : (s.movers (calls.take (n + 1))).count player = c₁.count player + 1 := by
    rw [movers_take_succ hd, List.count_append, ← hbooks.counts, hmover]
    simp
  rw [hk, ← hbooks.same]
  rcases hasked.processed_cases rfl hmover with ⟨q, hq, hreleases⟩ |
    ⟨hnone, hundue, hprocessed, hfactor⟩
  · -- a question was there, and its books say that the next number is due
    obtain ⟨hdue, raised, hwaits⟩ := hbooks.waits player q hq
    rw [← hbooks.same] at hdue
    refine ⟨⟨?_, ?_⟩, ?_⟩
    · intro _
      exact ⟨raised, q, hwaits, _, hd, hreleases⟩
    · intro _
      exact hdue
    · intro hundue
      exact absurd hdue hundue
  · refine ⟨⟨?_, ?_⟩, ?_⟩
    · intro hdue
      exact absurd hdue hundue
    · rintro ⟨raised, q, hearns⟩
      have hasked' := hearns.asked n hearns.earlier (Nat.le_refl n)
      rw [hbooks.outstanding, hnone] at hasked'
      cases hasked'
    · intro _
      exact ⟨hprocessed, hfactor⟩

/-- A question that was answered is gone, so it does not release anything later. -/
theorem not_earns_later {n' : Nat} {q' : Pending} {reward : Float}
    (hearns : s.Earns c.options.reward calls player raised n q)
    (hearns' : s.Earns reward calls player raised n' q') : ¬ n < n' := by
  intro hlt
  obtain ⟨d, hd, hreleases⟩ := hearns.released
  have hwaits := hearns.asked n hearns.earlier (Nat.le_refl n)
  have hstill := hearns'.asked (n + 1) (Nat.lt_succ_of_lt hearns.earlier) hlt
  have hq : q ∈ (s.after (calls.take n)).outstanding player := by
    rw [hwaits]
    exact List.mem_singleton_self q
  rcases outstanding_succ hone hcounts hpending hcalls hd hq with ⟨hmover, -⟩ | ⟨-, hgone⟩
  · exact absurd hreleases.mover? hmover
  · rw [hgone] at hstill
    cases hstill

end

theorem challenges_of_start {s₀ : Session γ BuiltIn} (hone : challenges s₀.injectors = [c])
    {players : List PlayerId} {seed : Option UInt64} {events : List Event}
    (hstart : s₀.start players seed = (.ok events, s)) :
    challenges s.injectors = [c.fresh players] := by
  cases begun_of_start hstart with
  | begun _ _ hprepare =>
      rw [challenges_prepare hprepare, hone]
      rfl

/-- **Every so many actions are earned.** In a session with exactly one challenge, after any run of
actions and frames:

* the `k`-th processed action of a player was released by the right answer to a question, with the
  reward, exactly if `every` divides `k`, and it is then the action that raised the question; if not,
  it is the action submitted, with no reward;
* while a question waits for a player's answer, it stays the same, and no action of his is processed
  but by the right answer, which takes the question away;
* no question releases two actions. -/
theorem every_nth_is_earned {s₀ : Session γ BuiltIn} (hone : challenges s₀.injectors = [c])
    {players : List PlayerId} {seed : Option UInt64} {events : List Event}
    (hstart : s₀.start players seed = (.ok events, s)) (hcalls : ∀ d ∈ calls, d.isMove = true) :
    (∀ n player action, calls[n]? = some (.act player action) →
        (s.after (calls.take n)).mover? (.act player action) = some player →
        let k := (s.movers (calls.take (n + 1))).count player
        (c.options.every ∣ k ↔ ∃ raised q, s.Earns c.options.reward calls player raised n q) ∧
          (¬ c.options.every ∣ k →
            (s.after (calls.take n)).processed? player action = some action ∧
              (s.after (calls.take n)).multiplier? player action = some 1.0)) ∧
      (∀ n d player q, calls[n]? = some d → q ∈ (s.after (calls.take n)).outstanding player →
        ((s.after (calls.take n)).mover? d ≠ some player ∧
            (s.after (calls.take (n + 1))).outstanding player = [q]) ∨
          ((s.after (calls.take n)).Releases c.options.reward player q d ∧
            (s.after (calls.take (n + 1))).outstanding player = [])) ∧
      ∀ player raised n n' q q', s.Earns c.options.reward calls player raised n q →
        s.Earns c.options.reward calls player raised n' q' → n = n' := by
  have hfresh := challenges_of_start hone hstart
  rw [← c.options_fresh players]
  refine ⟨?_, ?_, ?_⟩
  · intro n player action hd hmover
    exact earned_iff hfresh rfl rfl hcalls hd hmover
  · intro n d player q hd hq
    exact outstanding_succ hfresh rfl rfl hcalls hd hq
  · intro player raised n n' q q' hearns hearns'
    have hle : n' ≤ n := Nat.not_lt.mp (not_earns_later hfresh rfl rfl hcalls hearns hearns')
    have hge : n ≤ n' := Nat.not_lt.mp (not_earns_later hfresh rfl rfl hcalls hearns' hearns)
    exact Nat.le_antisymm hge hle

/-- A player of whom every action is to be earned passes, and answers the question about that. -/
theorem every_nth_is_earned_by_answer :
    let s₀ : Session Clicker BuiltIn := .create "g" (Clicker.ofTarget 50) {}
      [.energy {}, .challenge { options := { every := 1 } }]
    let s := (s₀.start ["p"] (some 7)).2
    let answer : Action := { kind := "answer_challenge", payload := [("answer", .int 27)] }
    let calls : List Call := [.act "p" { kind := "pass" }, .act "p" answer]
    ∃ q, s.Earns 2.0 calls "p" 0 1 q := by
  intro s₀ s answer calls
  have hone : challenges s₀.injectors = [{ options := { every := 1 } }] := rfl
  have hstart : s₀.start ["p"] (some 7) = (.ok [Event.started ["p"]], s) := rfl
  have hcalls : ∀ d ∈ calls, d.isMove = true := by simp [calls, Call.isMove]
  have hprocessed : ((s.after (calls.take 1)).processed? "p" answer).isSome = true := by
    decide +kernel
  obtain ⟨held, hheld⟩ := Option.isSome_iff_exists.mp hprocessed
  obtain ⟨hearned, -, -⟩ := every_nth_is_earned hone hstart hcalls
  obtain ⟨hiff, -⟩ := hearned 1 "p" answer rfl (mover?_of_processed? hheld)
  obtain ⟨raised, q, hearns⟩ := hiff.mp (Nat.one_dvd _)
  obtain rfl : raised = 0 := Nat.lt_one_iff.mp hearns.earlier
  exact ⟨q, hearns⟩

end Arcade.Play.Session
