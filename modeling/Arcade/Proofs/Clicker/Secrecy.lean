import Arcade.Proofs.Clicker.Played
/-!
# Lucky numbers stay secret

Take the lucky number of one player out of the data (`conceal`): as long as this player does not win the
bonus, the game goes on all the same. A click of his crosses no number in either game
(`click_conceal`), and nobody else's click asks for it; injectors, the end of the game and everything that
another player can read do not ask for it at all. So a call on the concealed session gives the concealed
session after the call, and the same answer apart from the state (`handleAction_conceal`).

Two sessions that differ in this number only are the same once it is concealed. What the others read and
are told is therefore the same in both, call after call (`lucky_numbers_stay_secret`).
-/

namespace Arcade

open Play Mechanics

namespace Clicker

variable {p q player : PlayerId} {data : Data}

/-! ### The dictionary of lucky numbers -/

/-- Some data with other lucky numbers, if they are a dictionary. -/
def mapLucky (f : Dict Json → Dict Json) (data : Data) : Data :=
  match Dict.get? data "lucky" with
  | some (.obj lucky) => Dict.insert data "lucky" (.obj (f lucky))
  | _ => data

/-- Some data without the lucky number of a player. -/
def conceal (q : PlayerId) : Data → Data :=
  mapLucky fun lucky => Dict.erase lucky q

/-- Some data with another lucky number for a player. -/
def setLucky (q : PlayerId) (n : Json) : Data → Data :=
  mapLucky fun lucky => Dict.insert lucky q n

/-- Either there is a dictionary, which is replaced, or no number can be read, and nothing is done. -/
theorem mapLucky_cases (data : Data) :
    (∃ lucky, Dict.get? data "lucky" = some (.obj lucky) ∧
      ∀ f, mapLucky f data = Dict.insert data "lucky" (.obj (f lucky))) ∨
    ((∀ p, lucky? data p = none) ∧ ∀ f, mapLucky f data = data) := by
  unfold mapLucky lucky?
  cases Dict.get? data "lucky" with
  | none => exact Or.inr ⟨fun _ => rfl, fun _ => rfl⟩
  | some j =>
      cases j with
      | obj lucky => exact Or.inl ⟨lucky, rfl, fun _ => rfl⟩
      | _ => exact Or.inr ⟨fun _ => rfl, fun _ => rfl⟩

theorem mapLucky_mapLucky (f g : Dict Json → Dict Json) (data : Data) :
    mapLucky g (mapLucky f data) = mapLucky (fun lucky => g (f lucky)) data := by
  rcases mapLucky_cases data with ⟨lucky, -, hmap⟩ | ⟨-, hmap⟩
  · rw [hmap, hmap, mapLucky, Dict.get?_insert_self]
    exact Dict.insert_insert_self _ _ _ _
  · rw [hmap, hmap, hmap]

/-- A change that leaves the dictionary alone, and does not mind its being put in, can come first. -/
theorem mapLucky_comm {change : Data → Data} (f : Dict Json → Dict Json)
    (hkeep : Dict.get? (change data) "lucky" = Dict.get? data "lucky")
    (hput : ∀ j, change (Dict.insert data "lucky" j) = Dict.insert (change data) "lucky" j) :
    mapLucky f (change data) = change (mapLucky f data) := by
  unfold mapLucky
  rw [hkeep]
  split
  · exact (hput _).symm
  · rfl

theorem conceal_setLucky (n : Json) : conceal q (setLucky q n data) = conceal q data := by
  unfold conceal setLucky
  simp only [mapLucky_mapLucky, Dict.erase_insert_self]

/-! ### Data without a lucky number -/

theorem get?_conceal {key : String} (hkey : key ≠ "lucky") :
    Dict.get? (conceal q data) key = Dict.get? data key := by
  rcases mapLucky_cases data with ⟨lucky, -, hmap⟩ | ⟨-, hmap⟩
  · rw [conceal, hmap, Dict.get?_insert_of_ne _ _ hkey.symm]
  · rw [conceal, hmap]

theorem lucky?_conceal_self : lucky? (conceal q data) q = none := by
  rcases mapLucky_cases data with ⟨lucky, -, hmap⟩ | ⟨hnone, hmap⟩
  · rw [conceal, hmap, lucky?, Dict.get?_insert_self, Option.bind_some, Json.field?,
      Dict.get?_erase_self, Option.bind_none]
  · rw [conceal, hmap, hnone]

theorem lucky?_conceal_of_ne (hp : p ≠ q) : lucky? (conceal q data) p = lucky? data p := by
  rcases mapLucky_cases data with ⟨lucky, hlucky, hmap⟩ | ⟨-, hmap⟩
  · rw [conceal, hmap, lucky?, lucky?, Dict.get?_insert_self, hlucky, Option.bind_some,
      Option.bind_some, Json.field?, Json.field?, Dict.get?_erase_of_ne _ hp.symm]
  · rw [conceal, hmap]

/-- What is put in under another name is put in beside it. -/
theorem conceal_insert {key : String} (hkey : key ≠ "lucky") (value : Json) :
    conceal q (Dict.insert data key value) = Dict.insert (conceal q data) key value :=
  @mapLucky_comm data (Dict.insert · key value) _ (Dict.get?_insert_of_ne _ _ hkey)
    fun j => Dict.insert_comm _ hkey.symm j value

theorem conceal_erase {key : String} (hkey : key < "lucky") :
    conceal q (Dict.erase data key) = Dict.erase (conceal q data) key := by
  have hne : key ≠ "lucky" := fun h => String.lt_irrefl key (h ▸ hkey)
  exact @mapLucky_comm data (Dict.erase · key) _ (Dict.get?_erase_of_ne _ hne)
    fun j => Dict.erase_insert_of_lt _ hkey j

theorem conceal_mergeMultiplier (multiplier : Float) :
    Session.mergeMultiplier (conceal q data) multiplier
      = conceal q (Session.mergeMultiplier data multiplier) := by
  unfold Session.mergeMultiplier
  split
  · exact (conceal_insert (by decide) _).symm
  · exact (conceal_erase (by decide)).symm

/-! ### The rules do not ask for it -/

theorem score_conceal : score (conceal q data) = score data := score_congr (get?_conceal (by decide))

theorem scoreTable_conceal : scoreTable (conceal q data) = scoreTable data := by
  rw [scoreTable, get?_conceal (by decide), ← scoreTable]

theorem order_conceal : order (conceal q data) = order data := by
  rw [order, get?_conceal (by decide), ← order]

theorem hasClaimed_conceal : hasClaimed (conceal q data) player = hasClaimed data player := by
  rw [hasClaimed, get?_conceal (by decide), ← hasClaimed]

theorem setScore_conceal (total : Int64) :
    setScore (conceal q data) player total = conceal q (setScore data player total) := by
  rw [setScore, scoreTable_conceal, setScore, conceal_insert (by decide)]

theorem claim_conceal : claim (conceal q data) player = conceal q (claim data player) := by
  have hsame : Dict.get? (conceal q data) "luckyClaimed" = Dict.get? data "luckyClaimed" :=
    get?_conceal (by decide)
  unfold claim
  rw [hsame]
  split
  · exact (conceal_insert (by decide) _).symm
  · rfl

theorem crossed?_conceal {before total : Int64} (h : player = q → crossed? data player before total = none) :
    crossed? (conceal q data) player before total = crossed? data player before total := by
  by_cases hq : player = q
  · rw [h hq, crossed?, hq, lucky?_conceal_self]
    rfl
  · unfold crossed?
    rw [lucky?_conceal_of_ne hq, hasClaimed_conceal]

/-- A click that does not win the bonus of the player is the same click without his number. -/
theorem click_conceal {points : Int64} (h : ∀ e ∈ (click data player points).2, isBonusOf q e = false) :
    click (conceal q data) player points
      = (conceal q (click data player points).1, (click data player points).2) := by
  have hcrossed := @crossed?_conceal q player data (Int64.ofInt (score data player))
    (Int64.ofInt (score data player) + points)
  unfold click at h ⊢
  rw [score_conceal]
  dsimp only at h ⊢
  cases hcrosses : crossed? data player (Int64.ofInt (score data player))
      (Int64.ofInt (score data player) + points) with
  | none =>
      rw [hcrossed fun _ => hcrosses, hcrosses]
      dsimp only
      rw [setScore_conceal]
  | some n =>
      rw [hcrosses] at h
      -- the bonus that is won is told, so it is not his
      have hother : player ≠ q := by
        have hbonus := h _ List.mem_cons_self
        rw [isBonusOf_bonusEvent] at hbonus
        exact beq_eq_false_iff_ne.mp hbonus
      rw [hcrossed fun hq => absurd hq hother, hcrosses]
      dsimp only
      rw [claim_conceal, setScore_conceal]

/-- A state without the lucky number of a player. -/
def concealed (q : PlayerId) (state : GameState) : GameState :=
  { state with data := conceal q state.data }

variable {state : GameState}

theorem checkTurn_conceal : checkTurn (concealed q state) player = checkTurn state player := by
  unfold checkTurn whoseTurn? concealed
  rw [order_conceal]

theorem check_conceal {action : Action} :
    check (concealed q state) player action = check state player action := by
  rw [check, checkTurn_conceal, ← check]

theorem apply_conceal {action : Action} {multiplier : Float}
    (h : ∀ data events, apply state player action multiplier = .ok (data, events) →
      ∀ e ∈ events, isBonusOf q e = false) :
    apply (concealed q state) player action multiplier
      = (apply state player action multiplier).map fun done => (conceal q done.1, done.2) := by
  unfold apply at h ⊢
  rw [checkTurn_conceal]
  cases hturn : checkTurn state player with
  | error fault => rfl
  | ok _ =>
      rw [hturn] at h
      simp only [bind, Except.bind] at h ⊢
      by_cases hpass : action.kind = "pass"
      · simp only [hpass, if_true]
        rfl
      · by_cases hclick : action.kind = "click"
        · rw [if_neg hpass, if_pos hclick] at h
          rw [if_neg hpass, if_pos hclick, if_neg hpass, if_pos hclick]
          cases hcount : clickCount action with
          | error fault => rfl
          | ok count =>
              rw [hcount] at h
              exact congrArg Except.ok (click_conceal (h _ _ rfl))
        · simp only [hpass, hclick, if_false]
          rfl

/-! ### What may be seen -/

/-- What is shown are the lucky numbers of one player. -/
theorem viewOf_eq (state : GameState) (p : PlayerId) : viewOf state p =
    { state with data := mapLucky (fun lucky => lucky.filter fun e => e.1 == p) state.data } := by
  unfold viewOf mapLucky
  cases Dict.get? state.data "lucky" with
  | none => rfl
  | some j => cases j <;> rfl

/-- Everybody else sees the same. -/
theorem viewOf_conceal (hp : p ≠ q) : viewOf (concealed q state) p = viewOf state p := by
  rw [viewOf_eq, viewOf_eq, concealed, conceal]
  simp only [mapLucky_mapLucky, Dict.filter_erase_of_ne _ hp]

theorem isOver_conceal (c : Clicker) : c.isOver (concealed q state) = c.isOver state := by
  rw [isOver, concealed, scoreTable_conceal, ← isOver]

theorem leader_conceal (c : Clicker) (seats : List PlayerId) (best : Option (PlayerId × Int)) :
    c.leader (conceal q data) seats best = c.leader data seats best := by
  induction seats generalizing best with
  | nil => rfl
  | cons seat rest ih => rw [leader, leader, score_conceal, ih, ih]

theorem winner_conceal (c : Clicker) :
    GameRules.winner c (concealed q state) = GameRules.winner c state := by
  show c.leader (conceal q state.data) (order (conceal q state.data)) none
    = c.leader state.data (order state.data) none
  rw [leader_conceal, order_conceal]

theorem scores_conceal (c : Clicker) :
    GameRules.scores c (concealed q state) = GameRules.scores c state := by
  show Dict.ofList ((order (conceal q state.data)).map fun p => (p, score (conceal q state.data) p))
    = Dict.ofList ((order state.data).map fun p => (p, score state.data p))
  rw [order_conceal, score_conceal]

theorem settle_conceal (c : Clicker) (events : EventQueue) :
    Session.settle c (concealed q state) events
      = (concealed q (Session.settle c state events).1, (Session.settle c state events).2) := by
  have hlast : (concealed q state).advancePhase .ended = concealed q (state.advancePhase .ended) := by
    have hphase : (concealed q state).phase = state.phase := rfl
    unfold GameState.advancePhase
    rw [hphase]
    split <;> rfl
  have hover : GameRules.isOver c (concealed q state) = GameRules.isOver c state := isOver_conceal c
  unfold Session.settle Session.conclude
  rw [hover]
  cases GameRules.isOver c state with
  | false => rfl
  | true =>
      simp only [if_true]
      rw [hlast, winner_conceal, scores_conceal]

end Clicker

namespace Mechanics

open Clicker

variable {q player : PlayerId}

/-! ### Injectors do not ask for it -/

theorem before_conceal (i : BuiltIn) (action : Action) (data : Data) :
    Injector.before i player action (conceal q data) = Injector.before i player action data := by
  cases i with
  | challenge c => rfl
  | energy e =>
      have hbalance : e.balance (conceal q data) player = e.balance data player := by
        rw [Energy.balance, get?_conceal (by decide), ← Energy.balance]
      simp only [Injector.before, hbalance]

/-- An outcome without the lucky number of a player. -/
def concealedOutcome (q : PlayerId) (outcome : Outcome) : Outcome :=
  { outcome with data := conceal q outcome.data }

theorem after_conceal (i : BuiltIn) (action : Action) (outcome : Outcome) :
    Injector.after i player action (concealedOutcome q outcome)
      = (concealedOutcome q (Injector.after i player action outcome).1,
        (Injector.after i player action outcome).2) := by
  cases i with
  | challenge c => rfl
  | energy e =>
      have hcharged : e.charged player (conceal q outcome.data) = e.charged player outcome.data := by
        rw [Energy.charged, Energy.storedBalances, get?_conceal (by decide), ← Energy.storedBalances,
          ← Energy.charged]
      have hkey : Energy.key ≠ "lucky" := by decide
      simp only [Injector.after, concealedOutcome, Outcome.emit, Prod.map_apply, id, hcharged,
        conceal_insert hkey]

end Mechanics

namespace Play.Session

open Clicker

variable {q p player : PlayerId} {action : Action} {s s' : Session Clicker BuiltIn}

/-! ### A call on a concealed session -/

/-- A session without the lucky number of a player. -/
def conceal (q : PlayerId) (s : Session Clicker BuiltIn) : Session Clicker BuiltIn :=
  { s with state := s.state.map (concealed q) }

theorem refusal?_conceal : (s.conceal q).refusal? = s.refusal? := by
  refine refusal?_congr rfl rfl ?_
  cases hs : s.state <;> simp [conceal, hs, concealed]

/-- An answer with a concealed state. -/
def concealedResult (q : PlayerId) (r : ActionResult) : ActionResult :=
  { r with newState := r.newState.map (concealed q) }

/-- The rules do the same with a concealed state, unless they tell that the player has won the bonus. -/
theorem act_conceal {c rules : Clicker} {state : GameState} {multiplier : Float} {stage stage' : Stage}
    {answer : Except Refusal (Option Data)}
    (hact : GameRules.act c state player action multiplier stage = ⟨answer, rules, stage'⟩)
    (h : ∀ replacement, answer = .ok replacement → ∀ e ∈ stage'.events.pending, isBonusOf q e = false) :
    GameRules.act c (concealed q state) player action multiplier stage
      = ⟨answer.map (Option.map (Clicker.conceal q)), rules, stage'⟩ := by
  have hno : ∀ data events, apply state player action multiplier = .ok (data, events) →
      ∀ e ∈ events, isBonusOf q e = false := by
    intro data events happly e he
    simp only [GameRules.act, happly] at hact
    cases hact
    exact h _ rfl e (List.mem_append_right _ he)
  simp only [GameRules.act] at hact ⊢
  rw [apply_conceal hno]
  cases happly : apply state player action multiplier with
  | error fault =>
      rw [happly] at hact
      cases hact
      rfl
  | ok done =>
      rw [happly] at hact
      cases hact
      rfl

/-- Injectors and the end of the game add to what the rules have told. -/
theorem mem_of_told {c : Clicker} {forwarded : Action} {injectors injectors' : List BuiltIn}
    {first outcome : Outcome} {next state' : GameState} {queue : EventQueue} {ended : Bool} {e : Event}
    (hafter : Pipeline.after player forwarded injectors first = (outcome, injectors'))
    (hsettle : settle c next ⟨outcome.events⟩ = (state', queue, ended)) (he : e ∈ first.events) :
    e ∈ queue.pending := by
  obtain ⟨more, hmore, -⟩ := told_after hafter
  have hkept : e ∈ outcome.events := by
    rw [hmore]
    exact List.mem_append_left _ he
  rcases settle_cases hsettle with ⟨-, -, hqueue⟩ | ⟨-, -, hqueue⟩
  · rw [hqueue]
    exact hkept
  · rw [hqueue]
    exact List.mem_append_left _ hkept

/-- **A call on a concealed session.** Unless it tells that the player has won the bonus, it goes the same
way, with the same answer apart from the state. -/
theorem handleAction_conceal {r : ActionResult} (h : Handled s player action r s')
    (hno : ∀ e ∈ r.events, isBonusOf q e = false) :
    (s.conceal q).handleAction player action = (concealedResult q r, s'.conceal q) := by
  have hsame : (s.conceal q).refusal? player = s.refusal? player := congrFun refusal?_conceal player
  have hholds : ∀ {state}, s.state = some state → (s.conceal q).state = some (concealed q state) :=
    fun hstate => congrArg (Option.map _) hstate
  have hasked : ∀ state : GameState,
      Pipeline.before player action (concealed q state).data (s.conceal q).injectors
        = Pipeline.before player action state.data s.injectors :=
    fun state => Pipeline.before_congr (fun i a => before_conceal i a state.data) _ _
  refine Handled.handleAction_eq ?_
  cases h with
  | refused hrefusal => exact .refused (hsame.trans hrefusal)
  | vetoed hrefusal hstate hbefore =>
      exact .vetoed (hsame.trans hrefusal) (hholds hstate) ((hasked _).trans hbefore)
  | rejected hrefusal hstate hbefore hact =>
      exact .rejected (hsame.trans hrefusal) (hholds hstate) ((hasked _).trans hbefore)
        (act_conceal hact fun _ haccepted => nomatch haccepted)
  | @processed state forwarded multiplier challenge injectors replacement rules stage outcome injectors'
      state' queue ended hrefusal hstate hbefore hact hafter hsettle =>
      -- whatever the rules have told is among the events of the answer
      have htold : ∀ e ∈ stage.events.pending, isBonusOf q e = false :=
        fun e he => hno e (mem_of_told hafter hsettle he)
      have hreplaced : (replacement.map (Clicker.conceal q)).getD (concealed q state).data
          = Clicker.conceal q (replacement.getD state.data) := by
        cases replacement <;> rfl
      have hafter' : Pipeline.after player forwarded injectors
          ⟨(replacement.map (Clicker.conceal q)).getD (concealed q state).data, stage.events.pending,
            challenge⟩ = (concealedOutcome q outcome, injectors') := by
        have hmap := Pipeline.after_map (fun i o => @after_conceal q player i forwarded o) injectors
          ⟨replacement.getD state.data, stage.events.pending, challenge⟩
        rw [hafter] at hmap
        rw [hreplaced]
        exact hmap
      have hsettle' : settle rules ⟨state.turn + 1, state.phase,
          mergeMultiplier (concealedOutcome q outcome).data multiplier⟩ ⟨outcome.events⟩
            = (concealed q state', queue, ended) := by
        have hsettled := @settle_conceal q ⟨state.turn + 1, state.phase,
          mergeMultiplier outcome.data multiplier⟩ rules ⟨outcome.events⟩
        rw [hsettle, concealed, ← conceal_mergeMultiplier] at hsettled
        exact hsettled
      have hhandled := Handled.processed (hsame.trans hrefusal) (hholds hstate)
        ((hasked _).trans hbefore) (act_conceal hact fun _ _ => htold) hafter' hsettle'
      exact hhandled

/-! ### What a player can read -/

/-- All that a session tells a player who asks. -/
structure Reading where
  view : Option GameState
  validActions : List String
  /-- the verdict on any action of his -/
  validate : Action → Except Refusal Unit
  scores : Dict Int
  winner : Option PlayerId
  phase : Phase

/-- What a player can read of a session. -/
def reading (s : Session Clicker BuiltIn) (p : PlayerId) : Reading where
  view := s.view? p
  validActions := s.validActions p
  validate := s.validate p
  scores := s.scores
  winner := s.winner
  phase := s.phase

/-- Nobody else reads the number of a player. -/
theorem reading_conceal (hp : p ≠ q) : (s.conceal q).reading p = s.reading p := by
  unfold reading view? Session.validActions Session.validate scores winner phase
  cases hs : s.state with
  | none => simp only [conceal, hs, Option.map_none]
  | some state =>
      have hparticipant : (s.conceal q).isParticipant p = s.isParticipant p := rfl
      have hrules : (s.conceal q).rules = s.rules := rfl
      have hconcealed : (s.conceal q).state = some (concealed q state) := congrArg (Option.map _) hs
      have hended : (concealed q state).isEnded = state.isEnded := rfl
      have hview : GameRules.view s.rules (concealed q state) p = GameRules.view s.rules state p :=
        viewOf_conceal hp
      have hactions : GameRules.validActions s.rules (concealed q state) p
          = GameRules.validActions s.rules state p := by
        simp only [GameRules.validActions, checkTurn_conceal, hended]
      have hvalidate : GameRules.validate s.rules (concealed q state) p
          = GameRules.validate s.rules state p := by
        funext action
        simp only [GameRules.validate, check_conceal]
      simp only [hconcealed, hparticipant, hrules, hended, hview, hactions, hvalidate, scores_conceal,
        Option.bind_some, winner_conceal]
      rfl

/-! ### Two sessions, call after call -/

/-- One action of a player. -/
abbrev play (s : Session Clicker BuiltIn) (c : PlayerId × Action) : ActionResult × Session Clicker BuiltIn :=
  s.handleAction c.1 c.2

/-- What an answer tells apart from the state. -/
def withoutState (r : ActionResult) : ActionResult :=
  { r with newState := none }

/-- Whether a player wins no bonus in a run of actions. -/
def Unclaimed (q : PlayerId) (s : Session Clicker BuiltIn) (calls : List (PlayerId × Action)) : Prop :=
  ∀ r ∈ Run.answers play s calls, bonusesTold q r.events = 0

theorem Unclaimed.take {calls : List (PlayerId × Action)} (h : Unclaimed q s calls) (n : Nat) :
    Unclaimed q s (calls.take n) := by
  intro r hr
  refine h r ?_
  rw [← List.take_append_drop n calls, Run.answers_append]
  exact List.mem_append_left _ hr

/-- A run of the concealed session, unless the player wins the bonus in it. -/
theorem run_conceal {calls : List (PlayerId × Action)} (h : Unclaimed q s calls) :
    Run.after play (s.conceal q) calls = (Run.after play s calls).conceal q ∧
      Run.answers play (s.conceal q) calls = (Run.answers play s calls).map (concealedResult q) := by
  induction calls generalizing s with
  | nil => exact ⟨rfl, rfl⟩
  | cons c rest ih =>
      obtain ⟨hfirst, hrest⟩ := List.forall_mem_cons.mp h
      have hno : ∀ e ∈ (play s c).1.events, isBonusOf q e = false := by
        intro e he
        exact Bool.eq_false_iff.mpr (List.countP_eq_zero.mp hfirst e he)
      have hstep : play (s.conceal q) c = (concealedResult q (play s c).1, (play s c).2.conceal q) :=
        handleAction_conceal (handled s c.1 c.2) hno
      obtain ⟨hafter, hanswers⟩ := ih hrest
      rw [Run.after_cons, Run.answers_cons, hstep]
      exact ⟨hafter, congrArg (List.cons _) hanswers⟩

/-- Whether two sessions are the same but for the lucky number of one player. -/
def SameButLucky (q : PlayerId) (s t : Session Clicker BuiltIn) : Prop := s.conceal q = t.conceal q

/-- A session with another lucky number for a player. -/
def setLucky (q : PlayerId) (n : Json) (s : Session Clicker BuiltIn) : Session Clicker BuiltIn :=
  { s with state := s.state.map fun state => { state with data := Clicker.setLucky q n state.data } }

theorem sameButLucky_setLucky (q : PlayerId) (n : Json) (s : Session Clicker BuiltIn) :
    SameButLucky q s (s.setLucky q n) := by
  unfold SameButLucky conceal setLucky
  cases s.state with
  | none => rfl
  | some state => simp only [Option.map_some, concealed, conceal_setLucky]

/-- **Lucky numbers stay secret.** Take two sessions that are the same but for the lucky number of one
player, and one run of actions in which he wins the bonus in neither. Then every other player reads the same
in both after each of these actions, and each action is answered alike: with the same success, error, events
and challenge. -/
theorem lucky_numbers_stay_secret {s t : Session Clicker BuiltIn} (hsame : SameButLucky q s t)
    (calls : List (PlayerId × Action)) (hs : Unclaimed q s calls) (ht : Unclaimed q t calls) (hp : p ≠ q) :
    (∀ n, (Run.after play s (calls.take n)).reading p = (Run.after play t (calls.take n)).reading p) ∧
      (Run.answers play s calls).map withoutState = (Run.answers play t calls).map withoutState := by
  constructor
  · intro n
    calc (Run.after play s (calls.take n)).reading p
        = ((Run.after play s (calls.take n)).conceal q).reading p := (reading_conceal hp).symm
      _ = (Run.after play (s.conceal q) (calls.take n)).reading p := by rw [(run_conceal (hs.take n)).1]
      _ = (Run.after play (t.conceal q) (calls.take n)).reading p := by rw [hsame]
      _ = ((Run.after play t (calls.take n)).conceal q).reading p := by rw [(run_conceal (ht.take n)).1]
      _ = (Run.after play t (calls.take n)).reading p := reading_conceal hp
  · have htold : ∀ results : List ActionResult,
        (results.map (concealedResult q)).map withoutState = results.map withoutState := by
      intro results
      rw [List.map_map]
      rfl
    rw [← htold, ← (run_conceal hs).2, hsame, (run_conceal ht).2, htold]

/-- The first player wins his own bonus, and is refused when he clicks out of turn. He cannot tell the thirteen
of the second player from a seventeen, which that player sees for himself. -/
theorem lucky_numbers_stay_secret_of_two :
    let energy : BuiltIn := .energy { max := 20 }
    let fresh : Session Clicker BuiltIn := .create "g" (Clicker.ofTarget 20) {} [energy]
    let s := (fresh.start ["a", "b"] (some 7)).2
    let t := s.setLucky "b" (.int 17)
    let clicks : Action := { kind := "click", payload := [("count", .int 5)] }
    let calls := [("a", clicks), ("b", clicks), ("a", clicks), ("a", clicks)]
    (Run.after play s calls).reading "a" = (Run.after play t calls).reading "a" ∧
      (Run.answers play s calls).map withoutState = (Run.answers play t calls).map withoutState ∧
      (((Run.after play s calls).reading "b").view.bind fun state => lucky? state.data "b") = some 13 ∧
      (((Run.after play t calls).reading "b").view.bind fun state => lucky? state.data "b") = some 17 := by
  intro energy fresh s t clicks calls
  have hsame : SameButLucky "b" s t := sameButLucky_setLucky "b" (.int 17) s
  have hs : Unclaimed "b" s calls := by unfold Unclaimed; decide +kernel
  have ht : Unclaimed "b" t calls := by unfold Unclaimed; decide +kernel
  have hother : "a" ≠ "b" := by decide
  obtain ⟨hread, htold⟩ := lucky_numbers_stay_secret hsame calls hs ht hother
  exact ⟨hread 4, htold, by decide +kernel, by decide +kernel⟩

end Play.Session

end Arcade
