import Arcade.Proofs.Clicker.Accounts
/-!
# Fair play in clicker

The seats take turns, and the scores are what the events have told: the points of a player's clicks, and
the bonus, which he wins once, when his score reaches his lucky number (`FairPlay`).

What a call does is read off `Played`. The order of the seats, the lucky numbers, the target and the
configuration are kept by every call (`fixed_after`); accounts and claims are kept by every call whose
sums fit (`accounts_after`). A started game `Opens` with neither points nor claims, and with lucky numbers
below the target, so from there the events of a run tell everything.
-/

namespace Arcade

open Play Mechanics Checked

namespace Clicker

variable {data data' : Data} {player p : PlayerId} {points : Int64}

/-- The names under which a game keeps what never changes. -/
def fixedKeys : List String := ["order", "lucky", "target", configKey]

theorem get?_click_of_fixed (data : Data) (player : PlayerId) (points : Int64) {key : String}
    (hkey : key ∈ fixedKeys) : Dict.get? (click data player points).1 key = Dict.get? data key := by
  have hne : ∀ k ∈ fixedKeys, k ≠ "scores" ∧ k ≠ "luckyClaimed" := by decide
  exact get?_click data player points (hne key hkey).1 (hne key hkey).2

theorem SameGame.fixed (h : SameGame data data') {key : String} (hkey : key ∈ fixedKeys) :
    Dict.get? data' key = Dict.get? data key := by
  have hne : ∀ k ∈ fixedKeys, k ≠ Energy.key ∧ k ≠ multiplierKey := by decide
  exact h key (hne key hkey).1 (hne key hkey).2

theorem score_click_of_ne (data : Data) (player : PlayerId) (points : Int64) (hp : p ≠ player) :
    score (click data player points).1 p = score data p := by
  rcases click_cases data player points with ⟨-, hclick⟩ | ⟨n, -, hclick⟩
  · rw [hclick, score_setScore_of_ne _ hp]
  · rw [hclick, score_setScore_of_ne _ hp, score_claim]

end Clicker

namespace Play.Session

open Clicker

variable {s : Session Clicker BuiltIn} {players : List PlayerId} {calls : List Call} {c : Call}
  {player : PlayerId} {action : Action}

/-! ### One call -/

/-- Whether the sums of the clicks that a call processes are 64-bit integers. -/
def CallAddsUp (s : Session Clicker BuiltIn) (c : Call) : Prop :=
  ∀ player action points, c = .act player action → s.clickPoints? player action = some points →
    Clicker.AddsUp s.data player points

/-- A game of clicker under way, with its seats. -/
structure Seated (s : Session Clicker BuiltIn) (players : List PlayerId) : Prop where
  queue : s.events = {}
  order : Clicker.order s.data = players
  rewarding : ∀ i ∈ s.injectors, Rewarding i

theorem Played.fixed {events : List Event} {s' : Session Clicker BuiltIn} (h : s.Played c events s')
    {key : String} (hkey : key ∈ fixedKeys) : Dict.get? s'.data key = Dict.get? s.data key := by
  cases h with
  | idle _ _ hsame _ => exact hsame.fixed hkey
  | passed _ _ _ _ _ _ hsame _ => exact hsame.fixed hkey
  | clicked _ _ _ _ _ _ _ hsame _ _ =>
      exact (hsame.fixed hkey).trans (get?_click_of_fixed _ _ _ hkey)

theorem seated_perform (h : s.Seated players) (hc : c.isMove = true) :
    (s.perform c).2.Seated players := by
  have horder := (played h.queue hc).fixed (show "order" ∈ fixedKeys by decide)
  have havoids : Pipeline.Avoids Rewarding "order" := rewarding_avoids (by decide)
  exact ⟨events_perform h.queue c, (order_congr horder).trans h.order,
    injectors_perform_of_avoids havoids h.rewarding hc⟩

/-- A turn is taken by the player whose seat is next, and nothing else takes one. -/
theorem Seated.turn (h : s.Seated players) (hc : c.isMove = true) :
    (s.mover? c = none ∧ (s.perform c).2.turn = s.turn) ∨
      ∃ player, s.mover? c = some player ∧ (s.perform c).2.turn = s.turn + 1 ∧
        players[s.turn.toNat % players.length]? = some player := by
  have hplayed := played h.queue hc
  rw [← h.order]
  cases hplayed with
  | idle hmover hturn _ _ => exact Or.inl ⟨hmover, hturn⟩
  | passed _ hmover hseat _ _ hturn _ _ => exact Or.inr ⟨_, hmover, hturn, hseat⟩
  | clicked _ hmover hseat _ _ _ hturn _ _ _ => exact Or.inr ⟨_, hmover, hturn, hseat⟩

/-- A call whose sums fit keeps the accounts and the claims. -/
theorem accounts_perform (h : s.Seated players) (hfair : Fair s.data) (hc : c.isMove = true)
    (hadds : s.CallAddsUp c) :
    Accounts s.data (s.perform c).2.data (s.perform c).1.events ∧ Fair (s.perform c).2.data := by
  cases played h.queue hc with
  | idle _ _ hsame haside => exact ⟨accounts_of_sameGame hsame haside, fair_of_sameGame hfair hsame⟩
  | passed _ _ _ _ _ _ hsame haside =>
      exact ⟨accounts_of_sameGame hsame haside, fair_of_sameGame hfair hsame⟩
  | @clicked player action forwarded points more hcall _ _ _ _ hpoints _ hsame hevents haside =>
      have hnonneg := clickPoints?_nonneg h.rewarding hpoints
      have hclicked := clicked_of_addsUp (hadds player action points hcall hpoints)
      have hlater := fair_of_clicked hclicked hfair hnonneg
      rw [hevents]
      exact ⟨(accounts_of_clicked hclicked hfair hnonneg).trans (accounts_of_sameGame hsame haside),
        fair_of_sameGame hlater hsame⟩

/-! ### A run of calls -/

/-- The events that a run of calls hands over. -/
def told (s : Session Clicker BuiltIn) (calls : List Call) : List Event :=
  (s.answers calls).flatMap Answer.events

/-- Whether the sums of all clicks that a run of calls processes are 64-bit integers. -/
def AddsUp (s : Session Clicker BuiltIn) (calls : List Call) : Prop :=
  ∀ earlier c later, calls = earlier ++ c :: later → (s.after earlier).CallAddsUp c

theorem AddsUp.of_append {first second : List Call} (h : s.AddsUp (first ++ second)) :
    s.AddsUp first ∧ (s.after first).AddsUp second := by
  constructor
  · intro earlier c later hsplit
    refine h earlier c (later ++ second) ?_
    rw [hsplit, List.append_assoc, List.cons_append]
  · intro earlier c later hsplit
    have hcall := h (first ++ earlier) c later (by rw [hsplit, List.append_assoc])
    rwa [after, Run.after_append] at hcall

theorem addsUp_nil : s.AddsUp [] := by
  intro earlier c later hsplit
  simp at hsplit

theorem addsUp_cons {rest : List Call} (hfirst : s.CallAddsUp c) (hrest : (s.perform c).2.AddsUp rest) :
    s.AddsUp (c :: rest) := by
  intro earlier d later hsplit
  cases earlier with
  | nil =>
      obtain rfl : c = d := (List.cons.inj hsplit).1
      exact hfirst
  | cons first more =>
      obtain ⟨rfl, hmore⟩ := List.cons.inj hsplit
      exact hrest more d later hmore

theorem callAddsUp_act {points? : Option Int64} (hread : s.clickPoints? player action = points?)
    (hfits : ∀ points, points? = some points → Clicker.AddsUp s.data player points) :
    s.CallAddsUp (.act player action) := by
  intro q other points hcall hpoints
  cases hcall
  exact hfits points (hread.symm.trans hpoints)

theorem seated_after (h : s.Seated players) (hcalls : ∀ c ∈ calls, c.isMove = true) :
    (s.after calls).Seated players :=
  Run.after_invariant (fun s => Seated s players) (fun c : Call => c.isMove = true)
    (fun _ _ hc hs => seated_perform hs hc) hcalls h

theorem fixed_after (h : s.Seated players) (hcalls : ∀ c ∈ calls, c.isMove = true) {key : String}
    (hkey : key ∈ fixedKeys) : Dict.get? (s.after calls).data key = Dict.get? s.data key := by
  have hstep : ∀ (t : Session Clicker BuiltIn) (c : Call), c.isMove = true →
      t.Seated players ∧ Dict.get? t.data key = Dict.get? s.data key →
      (t.perform c).2.Seated players ∧
        Dict.get? (t.perform c).2.data key = Dict.get? s.data key := by
    intro t c hc ⟨ht, hsame⟩
    exact ⟨seated_perform ht hc, ((played ht.queue hc).fixed hkey).trans hsame⟩
  exact (Run.after_invariant _ _ hstep hcalls ⟨h, rfl⟩).2

/-- The seats take turns, as long as the turns can be counted. -/
theorem seat_of_mover (h : s.Seated players) (hcalls : ∀ c ∈ calls, c.isMove = true) {k : Nat}
    (hcount : s.turn.toNat + k < UInt64.size) (hk : (s.movers calls)[k]? = some player) :
    players[(s.turn.toNat + k) % players.length]? = some player := by
  induction calls generalizing s k with
  | nil => simp at hk
  | cons c rest ih =>
      obtain ⟨hc, hrest⟩ := List.forall_mem_cons.mp hcalls
      have hnext := seated_perform h hc
      rw [movers_cons] at hk
      rcases h.turn hc with ⟨hmover, hturn⟩ | ⟨q, hmover, hturn, hseat⟩
      · rw [hmover] at hk
        rw [← hturn] at hcount ⊢
        exact ih hnext hrest hcount hk
      · rw [hmover] at hk
        cases k with
        | zero =>
            obtain rfl : q = player := Option.some.inj hk
            exact hseat
        | succ k =>
            have hword : ((s.perform c).2.turn).toNat = s.turn.toNat + 1 := by
              rw [hturn]
              exact toNat_next64 (by omega)
            have hlater := ih hnext hrest (by omega) hk
            rwa [hword, Nat.add_assoc, Nat.add_comm 1 k] at hlater

theorem accounts_after (h : s.Seated players) (hfair : Fair s.data)
    (hcalls : ∀ c ∈ calls, c.isMove = true) (hadds : s.AddsUp calls) :
    Accounts s.data (s.after calls).data (s.told calls) ∧ Fair (s.after calls).data := by
  induction calls generalizing s with
  | nil => exact ⟨accounts_of_sameGame (.refl s.data) fun e he => absurd he List.not_mem_nil, hfair⟩
  | cons c rest ih =>
      obtain ⟨hc, hrest⟩ := List.forall_mem_cons.mp hcalls
      have hfirst : s.CallAddsUp c := hadds [] c rest rfl
      have hsplit : s.AddsUp ([c] ++ rest) := hadds
      obtain ⟨haccounts, hnext⟩ := accounts_perform h hfair hc hfirst
      obtain ⟨hlater, hlast⟩ := ih (seated_perform h hc) hnext hrest (AddsUp.of_append hsplit).2
      exact ⟨haccounts.trans hlater, hlast⟩

/-! ### The start -/

/-- How a game of clicker opens. -/
structure Opens (s : Session Clicker BuiltIn) (players : List PlayerId) : Prop extends
    s.Seated players where
  turn : s.turn = 0
  scores : ∀ p, score s.data p = 0
  claims : Dict.get? s.data "luckyClaimed" = some (.arr [])
  lucky : ∀ p ∈ players, ∃ n, lucky? s.data p = some n
  bounds : ∀ p n, lucky? s.data p = some n → 1 ≤ n ∧ n ≤ s.rules.target - 1

end Play.Session

namespace Clicker

theorem get?_lucky_freshData (c : Clicker) (players : List PlayerId) (lucky : List (String × Json)) :
    Dict.get? (c.freshData players lucky) "lucky" = some (.obj (Dict.ofList lucky)) :=
  Dict.get?_ofList_append_cons [("scores", _), ("order", _)] _ (by simp)

theorem get?_claims_freshData (c : Clicker) (players : List PlayerId) (lucky : List (String × Json)) :
    Dict.get? (c.freshData players lucky) "luckyClaimed" = some (.arr []) :=
  Dict.get?_ofList_append_cons [("scores", _), ("order", _), ("lucky", _)] _ (by simp)

/-- Every game is opened without points. -/
theorem score_freshData (c : Clicker) (players : List PlayerId) (lucky : List (String × Json))
    (p : PlayerId) : score (c.freshData players lucky) p = 0 := by
  rw [score, scoreTable, get?_scores_freshData]
  simp only [Option.bind_some, Json.asObj?, Option.getD_some]
  rw [Dict.get?_ofList_map]
  split <;> rfl

theorem luckyLimit_toInt {c : Clicker} (h : 2 ≤ c.target) :
    c.luckyLimit.toInt = min (c.target - 1) Words.maxInt32 := by
  rw [luckyLimit, Int32.toInt_ofInt_of_le] <;> simp only [Words.maxInt32] <;> omega

/-- Everybody draws a lucky number, from one to one less than the target. -/
theorem drawLucky_bounds {c : Clicker} (h : 2 ≤ c.target) (players : List PlayerId) (stage : Stage) :
    (c.drawLucky players stage).1.map Prod.fst = players ∧
      ∀ e ∈ (c.drawLucky players stage).1, ∃ n : Int32, e.2 = .int n.toInt ∧ 1 ≤ n.toInt ∧
        n.toInt ≤ c.target - 1 := by
  induction players generalizing stage with
  | nil => exact ⟨rfl, fun e he => absurd he List.not_mem_nil⟩
  | cons p rest ih =>
      obtain ⟨hnames, hbounds⟩ := ih (stage.drawBetween 1 c.luckyLimit).2
      have hlimit := luckyLimit_toInt h
      have hle : (1 : Int32) ≤ c.luckyLimit := by
        rw [Int32.le_iff_toInt_le, hlimit]
        have hone : (1 : Int32).toInt = 1 := rfl
        simp only [hone, Words.maxInt32]
        omega
      obtain ⟨hlow, hhigh⟩ := Generator.between_bounds stage.random hle
      refine ⟨congrArg (List.cons p) hnames, List.forall_mem_cons.mpr ⟨⟨_, rfl, hlow, ?_⟩, hbounds⟩⟩
      have htarget : min (c.target - 1) Words.maxInt32 ≤ c.target - 1 := Int.min_le_left _ _
      exact Int.le_trans (hlimit ▸ hhigh) htarget

/-- Everybody has the lucky number that was drawn for him. -/
theorem lucky?_freshData {c : Clicker} (h : 2 ≤ c.target) (players : List PlayerId) (stage : Stage) :
    let data := c.freshData players (c.drawLucky players stage).1
    (∀ p ∈ players, ∃ n, lucky? data p = some n) ∧
      ∀ p n, lucky? data p = some n → 1 ≤ n ∧ n ≤ c.target - 1 := by
  intro data
  obtain ⟨hnames, hbounds⟩ := drawLucky_bounds h players stage
  have hread : ∀ p, lucky? data p
      = (Dict.get? (Dict.ofList (c.drawLucky players stage).1) p).bind Json.asInt64? := by
    intro p
    rw [lucky?, get?_lucky_freshData]
    rfl
  have hdrawn : ∀ p j, Dict.get? (Dict.ofList (c.drawLucky players stage).1) p = some j →
      ∃ n, j.asInt64? = some n ∧ 1 ≤ n ∧ n ≤ c.target - 1 := by
    intro p j hj
    obtain ⟨n, rfl, hlow, hhigh⟩ := hbounds _ (Dict.mem_ofList (Dict.mem_of_get? hj))
    have hfits : Fits64 n.toInt := by
      have hmin := n.le_toInt
      have hmax := n.toInt_lt
      simp only [Fits64, Words.minInt64, Words.maxInt64]
      omega
    exact ⟨n.toInt, if_pos hfits, hlow, hhigh⟩
  constructor
  · intro p hp
    obtain ⟨j, hj⟩ := Dict.exists_get?_insertAll [] (hnames ▸ hp)
    obtain ⟨n, hn, -⟩ := hdrawn p j hj
    exact ⟨n, (hread p).trans (by rw [Dict.ofList, hj]; exact hn)⟩
  · intro p n hn
    obtain ⟨j, hj, hjn⟩ := Option.bind_eq_some_iff.mp ((hread p).symm.trans hn)
    obtain ⟨m, hm, hlow, hhigh⟩ := hdrawn p j hj
    obtain rfl : m = n := Option.some.inj (hm.symm.trans hjn)
    exact ⟨hlow, hhigh⟩

end Clicker

namespace Play.Session

open Clicker

variable {s s₀ : Session Clicker BuiltIn} {players : List PlayerId} {seed : Option UInt64}
  {events : List Event} {calls : List Call}

/-- A started game has its seats in order. -/
theorem seated_of_start (hrewarding : ∀ i ∈ s₀.injectors, Rewarding i)
    (hstart : s₀.start players seed = (.ok events, s)) : s.Seated players := by
  have havoids : Pipeline.Avoids Rewarding "order" := rewarding_avoids (by decide)
  have hkept := injectors_start_of_avoids havoids hrewarding hstart
  cases begun_of_start hstart with
  | begun _ hprepare hinjectors =>
      obtain rfl := congrArg Ran.rules hprepare
      obtain rfl := Except.ok.inj (congrArg Ran.answer hprepare)
      exact ⟨rfl, order_openingData _ hinjectors, hkept⟩

/-- A started game has no points and no claims, and a lucky number for everybody. -/
theorem opens_of_start (htarget : 2 ≤ s₀.rules.target) (hrewarding : ∀ i ∈ s₀.injectors, Rewarding i)
    (hstart : s₀.start players seed = (.ok events, s)) : s.Opens players := by
  have hseated := seated_of_start hrewarding hstart
  cases begun_of_start hstart with
  | @begun data fragment rules stage injectors hcheck hprepare hinjectors =>
      obtain rfl : s₀.rules = rules := congrArg Ran.rules hprepare
      obtain rfl : s₀.rules.freshData players
          (s₀.rules.drawLucky players ⟨.ofSeed (s₀.seedFor players seed), {}⟩).1 = data :=
        Except.ok.inj (congrArg Ran.answer hprepare)
      obtain ⟨hdrawn, hbounds⟩ :=
        lucky?_freshData htarget players ⟨.ofSeed (s₀.seedFor players seed), {}⟩
      generalize (s₀.rules.drawLucky players ⟨.ofSeed (s₀.seedFor players seed), {}⟩).1 = numbers
        at hseated hdrawn hbounds ⊢
      -- the injectors and the host write beside what the rules have written
      have hopening : ∀ key, key ≠ configKey → key ≠ Energy.key →
          Dict.get? (s₀.openingData (s₀.rules.freshData players numbers) fragment) key
            = Dict.get? (s₀.rules.freshData players numbers) key :=
        fun key => get?_openingData _ hinjectors
      have hscore := score_congr (hopening "scores" (by decide) (by decide))
      have hlucky := lucky?_congr (hopening "lucky" (by decide) (by decide))
      refine ⟨hseated, rfl, ?_, ?_, ?_, ?_⟩
      · intro p
        exact (congrFun hscore p).trans (score_freshData _ players numbers p)
      · exact (hopening "luckyClaimed" (by decide) (by decide)).trans
          (get?_claims_freshData _ players numbers)
      · intro p hp
        obtain ⟨n, hn⟩ := hdrawn p hp
        exact ⟨n, (congrFun hlucky p).trans hn⟩
      · intro p n hn
        exact hbounds p n ((congrFun hlucky p).symm.trans hn)

/-- So opens every game that a host creates with its built-in injectors. -/
theorem opens_of_create {id : String} {config : GameConfig} {fresh : Session Clicker BuiltIn}
    (hcreate : Host.create BuiltIn.catalog id config = .ok (.clicker fresh))
    (hstart : fresh.start players seed = (.ok events, s)) :
    2 ≤ fresh.rules.target ∧ s.Opens players := by
  obtain ⟨rules, hrules, hconfig⟩ := HostedGame.clicker_of_create hcreate
  obtain ⟨injectors, hbuilt, rfl⟩ := HostedGame.create_of_ofConfig hconfig
  have htarget : 2 ≤ rules.target := Clicker.two_le_target_of_ofConfig hrules
  exact ⟨htarget, opens_of_start htarget (rewarding_of_buildAll hbuilt) hstart⟩

theorem Opens.claimCount (h : s.Opens players) (p : PlayerId) : claimCount s.data p = 0 := by
  rw [Clicker.claimCount, Clicker.claims, h.claims]
  rfl

/-- Nobody has reached his lucky number when a game is opened, and nobody has claimed the bonus. -/
theorem Opens.fair (h : s.Opens players) : Fair s.data := by
  refine ⟨⟨[], h.claims⟩, fun p => ?_⟩
  have hreached : reached s.data p = false := by
    rw [reached, h.scores p]
    cases hn : lucky? s.data p with
    | none => rfl
    | some n =>
        have hpositive := (h.bounds p n hn).1
        simp only [Option.any_some, decide_eq_false_iff_not]
        omega
  rw [h.claimCount p, hreached]
  rfl

/-! ### The play is fair -/

/-- What is fair about a run of calls from the start of a game. -/
structure FairPlay (s : Session Clicker BuiltIn) (players : List PlayerId) (calls : List Call) :
    Prop where
  /-- the processed actions go round the seats, as many as a turn counts -/
  turns : ∀ k player, k < UInt64.size → (s.movers calls)[k]? = some player →
    players[k % players.length]? = some player
  lucky : ∀ p ∈ players, ∃ n, lucky? (s.after calls).data p = some n ∧
    1 ≤ n ∧ n ≤ s.rules.target - 1
  /-- a score is what the events have told -/
  scores : ∀ p, score (s.after calls).data p
    = pointsTold p (s.told calls) + luckyBonus.toInt * bonusesTold p (s.told calls)
  grows : ∀ earlier later, calls = earlier ++ later → ∀ p,
    score (s.after earlier).data p ≤ score (s.after calls).data p
  once : ∀ p, bonusesTold p (s.told calls) ≤ 1
  /-- the list of claims holds those who have reached their lucky numbers, once -/
  claims : ∀ p, claimCount (s.after calls).data p = if reached (s.after calls).data p then 1 else 0
  /-- a further action changes no score but that of its player -/
  own : ∀ player action p, p ≠ player →
    score ((s.after calls).handleAction player action).2.data p = score (s.after calls).data p
  /-- a pass changes nothing of the game -/
  passes : ∀ player action forwarded, (s.after calls).processed? player action = some forwarded →
    forwarded.kind = "pass" →
      SameGame (s.after calls).data ((s.after calls).handleAction player action).2.data
  fixed : ∀ key ∈ fixedKeys, Dict.get? (s.after calls).data key = Dict.get? s.data key

theorem score_handleAction_of_ne (h : s.events = {}) (player : PlayerId) (action : Action)
    {p : PlayerId} (hp : p ≠ player) :
    score (s.handleAction player action).2.data p = score s.data p := by
  cases played_act h player action with
  | idle _ _ hsame _ => rw [hsame.score]
  | passed _ _ _ _ _ _ hsame _ => rw [hsame.score]
  | clicked hcall _ _ _ _ _ _ hsame _ _ =>
      cases hcall
      rw [hsame.score, score_click_of_ne _ _ _ hp]

theorem sameGame_of_pass (h : s.events = {}) {player : PlayerId} {action forwarded : Action}
    (hprocessed : s.processed? player action = some forwarded) (hpass : forwarded.kind = "pass") :
    SameGame s.data (s.handleAction player action).2.data := by
  cases played_act h player action with
  | idle hmover _ _ _ =>
      rw [mover?_of_processed? hprocessed] at hmover
      cases hmover
  | passed _ _ _ _ _ _ hsame _ => exact hsame
  | clicked hcall _ _ hclicked hclick _ _ _ _ _ =>
      cases hcall
      obtain rfl := Option.some.inj (hprocessed.symm.trans hclicked)
      rw [hpass] at hclick
      exact absurd hclick (by decide)

/-- **Clicker is played fairly.** Take any game of clicker that a host creates with its built-in
injectors, from its start with any players and seed through any run of calls whose sums fit 64 bits. The
seats take turns; lucky numbers are drawn below the target; a score is the sum of the points and the
bonus that the events have told of, and never falls; the bonus is won once, when the score reaches the
lucky number, and the list of claims says by whom. An action changes no score but its player's, a pass
nothing of the game, and seats, lucky numbers, target and configuration stay as they are. -/
theorem clicker_is_fair {id : String} {config : GameConfig} {fresh : Session Clicker BuiltIn}
    (hcreate : Host.create BuiltIn.catalog id config = .ok (.clicker fresh))
    (hstart : fresh.start players seed = (.ok events, s)) (hcalls : ∀ c ∈ calls, c.isMove = true)
    (hadds : s.AddsUp calls) : s.FairPlay players calls := by
  obtain ⟨-, hopens⟩ := opens_of_create hcreate hstart
  have hseated := hopens.toSeated
  have hlast := seated_after hseated hcalls
  have hfair := hopens.fair
  obtain ⟨haccounts, hfair'⟩ := accounts_after hseated hfair hcalls hadds
  have hlucky := lucky?_congr (fixed_after hseated hcalls (show "lucky" ∈ fixedKeys by decide))
  constructor
  · intro k player hcount hk
    have hzero : s.turn.toNat = 0 := by
      rw [hopens.turn]
      rfl
    have hseat := seat_of_mover hseated hcalls (by rwa [hzero, Nat.zero_add]) hk
    rwa [hzero, Nat.zero_add] at hseat
  · intro p hp
    obtain ⟨n, hn⟩ := hopens.lucky p hp
    exact ⟨n, by rw [hlucky, hn], hopens.bounds p n hn⟩
  · intro p
    rw [haccounts.scores p, hopens.scores p, Int.zero_add]
  · rintro earlier later rfl p
    obtain ⟨hfirst, hsecond⟩ := hadds.of_append
    obtain ⟨hcalls₁, hcalls₂⟩ := List.forall_mem_append.mp hcalls
    obtain ⟨-, hmid⟩ := accounts_after hseated hfair hcalls₁ hfirst
    have hlater := (accounts_after (seated_after hseated hcalls₁) hmid hcalls₂ hsecond).1.grows p
    have hsplit : s.after (earlier ++ later) = (s.after earlier).after later := List.foldl_append
    rw [hsplit]
    exact hlater
  · intro p
    have hcount := haccounts.claims p
    rw [hfair'.claimed p, hopens.claimCount p, Nat.zero_add] at hcount
    rw [← hcount]
    split <;> decide
  · exact hfair'.claimed
  · intro player action p hp
    exact score_handleAction_of_ne hlast.queue player action hp
  · intro player action forwarded hprocessed hpass
    exact sameGame_of_pass hlast.queue hprocessed hpass
  · intro key hkey
    exact fixed_after hseated hcalls hkey

/-- A click that a challenge has held back is worth two points, and crosses the lucky number. -/
theorem clicker_is_fair_of_bonus :
    let config : GameConfig :=
      { gameType := "clicker", options := .obj [("target", .nat 2)]
        injectors := [⟨"challenge", .obj [("every", .nat 1), ("max_operand", .nat 1)]⟩] }
    let fresh : Session Clicker BuiltIn :=
      .create "g" (Clicker.ofTarget 2) config [.challenge { options := { every := 1, maxOperand := 1 } }]
    let answer : Action := { kind := "answer_challenge", payload := [("answer", .int 2)] }
    let s := (fresh.start ["p"] (some 7)).2.after [.act "p" { kind := "click" }, .act "p" answer]
    score s.data "p" = 7 ∧ claimCount s.data "p" = 1 := by
  intro config fresh answer s
  have hcreate : Host.create BuiltIn.catalog "g" config = .ok (.clicker fresh) := rfl
  have hstart : fresh.start ["p"] (some 7)
      = (.ok [Event.started ["p"]], (fresh.start ["p"] (some 7)).2) := rfl
  have hcalls : ∀ c ∈ [Call.act "p" { kind := "click" }, Call.act "p" answer], c.isMove = true := by
    simp [Call.isMove]
  have hheld : (fresh.start ["p"] (some 7)).2.clickPoints? "p" { kind := "click" } = none := by
    decide +kernel
  have hreleased : ((fresh.start ["p"] (some 7)).2.perform (.act "p" { kind := "click" })).2.clickPoints?
      "p" answer = some 2 := by decide +kernel
  have hadds : (fresh.start ["p"] (some 7)).2.AddsUp [.act "p" { kind := "click" }, .act "p" answer] := by
    refine addsUp_cons (callAddsUp_act hheld fun points hnone => nomatch hnone)
      (addsUp_cons (callAddsUp_act hreleased fun points htwo => ?_) addsUp_nil)
    obtain rfl := Option.some.inj htwo
    exact ⟨by decide +kernel, by decide +kernel⟩
  have hfair := clicker_is_fair hcreate hstart hcalls hadds
  obtain ⟨hpoints, hbonuses, hreached⟩ :
      pointsTold "p" ((fresh.start ["p"] (some 7)).2.told
          [.act "p" { kind := "click" }, .act "p" answer]) = 2 ∧
        bonusesTold "p" ((fresh.start ["p"] (some 7)).2.told
          [.act "p" { kind := "click" }, .act "p" answer]) = 1 ∧ reached s.data "p" = true := by
    decide +kernel
  have hscore := hfair.scores "p"
  have hclaims := hfair.claims "p"
  rw [hpoints, hbonuses] at hscore
  rw [hreached] at hclaims
  exact ⟨hscore, hclaims⟩

end Play.Session

end Arcade
