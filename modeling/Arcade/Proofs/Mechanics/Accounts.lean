import Arcade.Proofs.Dict
import Arcade.Proofs.Mechanics.Questions
import Arcade.Proofs.Play.Movers
/-!
# Energy accounts

The balances that an energy injector keeps are a function of the players whose actions were processed,
in order: all begin full, and each processed action takes its price from one balance and gives all
balances their share (`Energy.replay`).

The price is checked before the action, on the data of the state, and taken after it, from the data that
the rules have given back, with other injectors and a possible refusal in between. `charged_book` says
what the charge makes of the balances, down to nothing if the price is too high; `balanced_act` says that
it never is, for whoever is charged has just been found to have the price. This is the step of the
invariant `Balanced`, on which the accounts of a whole run rest (`accounted`).
-/

namespace Arcade

open Play

namespace Mechanics

/-- Balances as they are stored, one for each player. -/
def book (players : List PlayerId) (balance : PlayerId → Nat) : Json :=
  .obj (Dict.ofList (players.map fun p => (p, .nat (balance p))))

namespace Energy

variable {e : Energy} {players : List PlayerId} {balance : PlayerId → Nat} {player : PlayerId}
  {data : Data}

/-- The balances at the start. -/
def full (e : Energy) (_ : PlayerId) : Nat := e.max

/-- The balances after a processed action of a player: he pays the price, and then everybody gets his
share. -/
def paid (e : Energy) (player : PlayerId) (balance : PlayerId → Nat) (p : PlayerId) : Nat :=
  min ((if p = player then balance p - e.cost else balance p) + e.regen) e.max

/-- The balances after processed actions of some players, one after the other. -/
def replay (e : Energy) (balance : PlayerId → Nat) : List PlayerId → PlayerId → Nat
  | [] => balance
  | player :: rest => e.replay (e.paid player balance) rest

theorem paid_le (e : Energy) (player : PlayerId) (balance : PlayerId → Nat) (p : PlayerId) :
    e.paid player balance p ≤ e.max :=
  Nat.min_le_right _ _

theorem balanceOf_nat (e : Energy) {n : Nat} (h : n ≤ Words.max64) :
    e.balanceOf (some (.nat n)) = n := by
  have hfits : (0 : Int) ≤ n ∧ (n : Int) ≤ Words.max64 := by omega
  simp only [balanceOf, Json.nat, Option.bind_some, Json.asUInt64?, Number.asUInt64?, if_pos hfits]
  rfl

theorem field?_book (hplayer : player ∈ players) :
    (book players balance).field? player = some (.nat (balance player)) := by
  have hentry := Dict.get?_ofList_map players (fun p => Json.nat (balance p)) player
  rwa [if_pos hplayer] at hentry

theorem balance_of_book (hmax : e.max ≤ Words.max64) (hbound : ∀ p, balance p ≤ e.max)
    (hplayer : player ∈ players) (hdata : Dict.get? data key = some (book players balance)) :
    e.balance data player = balance player := by
  rw [Energy.balance, hdata, Option.bind_some, field?_book hplayer]
  exact e.balanceOf_nat (Nat.le_trans (hbound player) hmax)

/-- What is charged after an action of a player, of balances that are within their bounds. -/
theorem charged_book (hmax : e.max ≤ Words.max64) (hbound : ∀ p, balance p ≤ e.max)
    (hplayer : player ∈ players) (hdata : Dict.get? data key = some (book players balance)) :
    .obj (e.charged player data) = book players (e.paid player balance) := by
  have hentry := Dict.get?_ofList_map players (fun p => Json.nat (balance p)) player
  rw [if_pos hplayer] at hentry
  have hstored : storedBalances data = Dict.ofList (players.map fun p => (p, .nat (balance p))) := by
    rw [storedBalances, hdata]
    rfl
  have hread : ∀ p, e.balanceOf (some (.nat (balance p))) = balance p := fun p =>
    e.balanceOf_nat (Nat.le_trans (hbound p) hmax)
  have hspent : e.spend player (storedBalances data)
      = Dict.ofList (players.map fun p =>
          (p, .nat (if p = player then balance p - e.cost else balance p))) := by
    rw [hstored, spend, hentry, hread, Dict.insert_ofList_map _ hplayer]
    congr 2
    funext p
    by_cases hp : p = player
    · rw [if_pos hp, if_pos hp, hp]
    · rw [if_neg hp, if_neg hp]
  -- a lowered balance is within the bounds too, so it is read back as it was written
  have hshare : ∀ p, e.balanceOf (some (.nat (if p = player then balance p - e.cost else balance p)))
      = if p = player then balance p - e.cost else balance p := by
    intro p
    refine e.balanceOf_nat (Nat.le_trans ?_ hmax)
    split
    · exact Nat.le_trans (Nat.sub_le _ _) (hbound p)
    · exact hbound p
  rw [charged, hspent, regenerate, Dict.mapValues_ofList_map]
  simp only [hshare]
  rfl

end Energy

/-! ### In a pipeline -/

/-- The energy injectors among some injectors, in order. -/
def energies : List BuiltIn → List Energy
  | [] => []
  | .energy e :: rest => e :: energies rest
  | .challenge _ :: rest => energies rest

variable {player : PlayerId} {action : Action} {data : Data} {injectors injectors' : List BuiltIn}
  {e : Energy}

theorem mem_energies : e ∈ energies injectors ↔ .energy e ∈ injectors := by
  induction injectors with
  | nil => simp [energies]
  | cons i rest ih => cases i <;> simp [energies, ih]

theorem energies_before {joint : Pipeline.Joint}
    (h : Pipeline.before player action data injectors = (joint, injectors')) :
    energies injectors' = energies injectors := by
  have hall : ∀ action multiplier told,
      energies (Pipeline.beforeFrom player data injectors action multiplier told).2
        = energies injectors := by
    clear h
    induction injectors with
    | nil => exact fun _ _ _ => rfl
    | cons i rest ih =>
        intro action multiplier told
        cases hp : (Injector.before i player action data).1.proceed with
        | false =>
            rw [Pipeline.beforeFrom_cons_of_veto hp]
            cases i <;> rfl
        | true =>
            rw [Pipeline.beforeFrom_cons_of_proceed hp]
            cases i with
            | energy e => exact congrArg (List.cons e) (ih _ _ _)
            | challenge c => exact ih _ _ _
  obtain ⟨-, rfl⟩ := Prod.mk.inj h
  exact hall action 1.0 none

theorem energies_after {outcome outcome' : Outcome}
    (h : Pipeline.after player action injectors outcome = (outcome', injectors')) :
    energies injectors' = energies injectors := by
  obtain ⟨-, rfl⟩ := Prod.mk.inj h
  clear h
  induction injectors generalizing outcome with
  | nil => rfl
  | cons i rest ih =>
      cases i with
      | energy e => exact congrArg (List.cons e) ih
      | challenge c => exact ih

theorem energies_prepare {players : List PlayerId} {fragment : Data}
    (h : Pipeline.prepare players injectors = (fragment, injectors')) :
    energies injectors' = energies injectors := by
  obtain ⟨-, rfl⟩ := Prod.mk.inj h
  clear h
  induction injectors with
  | nil => rfl
  | cons i rest ih =>
      cases i with
      | energy e => exact congrArg (List.cons e) ih
      | challenge c => exact ih

/-- Nobody gets past an energy injector whose price he cannot pay. -/
theorem cost_le_of_proceed {forwarded : Action} {multiplier : Float} {told : Option Json}
    (h : Pipeline.before player action data injectors = (.proceed forwarded multiplier told, injectors'))
    (he : e ∈ energies injectors) : e.cost ≤ e.balance data player := by
  -- what is asked of an energy injector does not depend on what the others made of the action
  have hall : ∀ action multiplier told forwarded factor said,
      (Pipeline.beforeFrom player data injectors action multiplier told).1
        = .proceed forwarded factor said → e.cost ≤ e.balance data player := by
    clear h
    induction injectors with
    | nil => exact absurd he List.not_mem_nil
    | cons i rest ih =>
        intro action multiplier told forwarded factor said hjoint
        cases hp : (Injector.before i player action data).1.proceed with
        | false =>
            rw [Pipeline.beforeFrom_cons_of_veto hp] at hjoint
            cases hjoint
        | true =>
            rw [Pipeline.beforeFrom_cons_of_proceed hp] at hjoint
            cases i with
            | challenge c => exact ih he _ _ _ _ _ _ hjoint
            | energy e' =>
                rcases List.mem_cons.mp he with rfl | he
                · change (ite (e.balance data player < e.cost) _ _ : Verdict).proceed = true at hp
                  split at hp
                  · cases hp
                  next hpays => exact Nat.not_lt.mp hpays
                · exact ih he _ _ _ _ _ _ hjoint
  exact hall action 1.0 none forwarded multiplier told (congrArg Prod.fst h)

theorem fragment_of_none {players : List PlayerId} (h : energies injectors = []) :
    (Pipeline.prepare players injectors).1 = [] := by
  induction injectors with
  | nil => rfl
  | cons i rest ih =>
      cases i with
      | energy e => cases h
      | challenge c =>
          rw [Pipeline.prepare]
          dsimp only
          rw [ih h]
          rfl

/-- All that a pipeline with one energy injector adds to the data of a fresh game are its balances. -/
theorem fragment_of_only {players : List PlayerId} {fragment : Data}
    (hone : energies injectors = [e])
    (h : Pipeline.prepare players injectors = (fragment, injectors')) :
    fragment = [(Energy.key, book players e.full)] := by
  obtain ⟨rfl, -⟩ := Prod.mk.inj h
  clear h
  induction injectors with
  | nil => cases hone
  | cons i rest ih =>
      cases i with
      | energy e' =>
          obtain ⟨rfl, hrest⟩ := List.cons.inj hone
          rw [Pipeline.prepare]
          dsimp only
          rw [fragment_of_none hrest]
          rfl
      | challenge c =>
          rw [Pipeline.prepare]
          dsimp only
          rw [ih hone]
          rfl

theorem after_of_none {outcome : Outcome} (h : energies injectors = []) :
    (Pipeline.after player action injectors outcome).1 = outcome := by
  induction injectors with
  | nil => rfl
  | cons i rest ih =>
      cases i with
      | energy e => cases h
      | challenge c => exact ih h

/-- One energy injector charges once, whatever stands around it. -/
theorem get?_after_of_only {outcome outcome' : Outcome} (hone : energies injectors = [e])
    (h : Pipeline.after player action injectors outcome = (outcome', injectors')) :
    Dict.get? outcome'.data Energy.key = some (.obj (e.charged player outcome.data)) := by
  obtain ⟨rfl, -⟩ := Prod.mk.inj h
  clear h
  induction injectors with
  | nil => cases hone
  | cons i rest ih =>
      cases i with
      | challenge c => exact ih hone
      | energy e' =>
          obtain ⟨rfl, hrest⟩ := List.cons.inj hone
          rw [Pipeline.after]
          dsimp only
          rw [after_of_none hrest]
          exact Dict.get?_insert_self _ _ _

end Mechanics

/-! ### Sessions -/

/-- Rules that leave alone what the data hold under a name. -/
structure Play.Spares (γ : Type) [GameRules γ] (key : String) : Prop where
  act : ∀ {rules : γ} {state player action multiplier stage data rules' stage'},
    GameRules.act rules state player action multiplier stage = ⟨.ok (some data), rules', stage'⟩ →
      Dict.get? data key = Dict.get? state.data key
  tick : ∀ {rules : γ} {state seconds stage data rules' stage'},
    GameRules.tick rules state seconds stage = ⟨.ok (some data), rules', stage'⟩ →
      Dict.get? data key = Dict.get? state.data key

namespace Play.Session

open Mechanics

variable {γ : Type} [GameRules γ] {s : Session γ BuiltIn} {e : Energy} {players : List PlayerId}
  {balance : PlayerId → Nat} {player : PlayerId} {action : Action} {calls : List Call} {c : Call}

/-- The energy balances as they are stored. -/
def balances? (s : Session γ BuiltIn) : Option Json :=
  s.state.bind fun state => Dict.get? state.data Energy.key

/-- A game under way with one energy injector, which has stored a balance for each player. -/
structure Balanced (s : Session γ BuiltIn) (e : Energy) (players : List PlayerId)
    (balance : PlayerId → Nat) : Prop where
  only : energies s.injectors = [e]
  seats : s.players = players
  stored : s.balances? = some (book players balance)
  bounded : ∀ p, balance p ≤ e.max

omit [GameRules γ] in
theorem Balanced.of_holds (h : s.Balanced e players balance) {state : GameState}
    (hstate : s.state = some state) :
    Dict.get? state.data Energy.key = some (book players balance) := by
  have hstored := h.stored
  rwa [balances?, hstate] at hstored

/-- What is not processed costs nothing. What is processed was paid for by its player, who had the whole
price. -/
theorem balanced_act (hγ : Spares γ Energy.key) (hmax : e.max ≤ Words.max64)
    (h : s.Balanced e players balance) (player : PlayerId) (action : Action) :
    (s.mover? (.act player action) = none ∧
        (s.handleAction player action).2.Balanced e players balance) ∨
      (s.mover? (.act player action) = some player ∧ player ∈ players ∧ e.cost ≤ balance player ∧
        (s.handleAction player action).2.Balanced e players (e.paid player balance)) := by
  rcases hnext : s.handleAction player action with ⟨result, s'⟩
  dsimp only
  cases handled_of_eq hnext with
  | refused _ => exact Or.inl ⟨mover?_of_state hnext rfl, h.only, h.seats, h.stored, h.bounded⟩
  | vetoed _ _ hbefore =>
      have hone := (energies_before hbefore).trans h.only
      exact Or.inl ⟨mover?_of_state hnext rfl, hone, h.seats, h.stored, h.bounded⟩
  | rejected _ _ hbefore _ =>
      have hone := (energies_before hbefore).trans h.only
      exact Or.inl ⟨mover?_of_state hnext rfl, hone, h.seats, h.stored, h.bounded⟩
  | @processed state forwarded multiplier told injectors replacement rules stage outcome injectors'
      state' queue ended hrefusal hstate hbefore hact hafter hsettle =>
      obtain ⟨-, _, _, hseat, -⟩ := state_of_refusal?_eq_none hrefusal
      rw [h.seats] at hseat
      have hdata := h.of_holds hstate
      -- the check has read the data of the state, and the rules have left the balances in it alone
      have hpays : e.cost ≤ balance player := by
        have he : e ∈ energies s.injectors := by
          rw [h.only]
          exact List.mem_singleton_self e
        have hcost := cost_le_of_proceed hbefore he
        rwa [Energy.balance_of_book hmax h.bounded hseat hdata] at hcost
      have hkept : Dict.get? (replacement.getD state.data) Energy.key
          = some (book players balance) := by
        cases replacement with
        | none => exact hdata
        | some data => exact (hγ.act hact).trans hdata
      have hone := (energies_before hbefore).trans h.only
      have hstored : Dict.get? state'.data Energy.key
          = some (book players (e.paid player balance)) := by
        rw [data_of_settle hsettle, get?_mergeMultiplier _ _ (by decide),
          get?_after_of_only hone hafter, Energy.charged_book hmax h.bounded hseat hkept]
      exact Or.inr ⟨mover?_of_settle hnext hstate hsettle rfl, hseat, hpays,
        (energies_after hafter).trans hone, h.seats, hstored, e.paid_le player balance⟩

theorem balanced_tick (hγ : Spares γ Energy.key) (h : s.Balanced e players balance)
    (seconds : Float) : (s.tick seconds).2.Balanced e players balance := by
  have hticked := ticked s seconds
  generalize (s.tick seconds).1 = answer at hticked
  generalize (s.tick seconds).2 = s' at hticked ⊢
  cases hticked with
  | disposed _ => exact h
  | unstarted _ _ => exact h
  | decided _ _ _ => exact h
  | failed _ _ _ _ => exact ⟨h.only, h.seats, h.stored, h.bounded⟩
  | @advanced state replacement rules stage state' queue ended _ hstate _ htick hsettle =>
      have hdata := h.of_holds hstate
      have hstored : Dict.get? state'.data Energy.key = some (book players balance) := by
        rw [data_of_settle hsettle]
        cases replacement with
        | none => exact hdata
        | some data => exact (hγ.tick htick).trans hdata
      exact ⟨h.only, h.seats, hstored, h.bounded⟩

/-- One call moves the balances as its mover has it, and nobody pays what he does not have. -/
theorem balanced_perform (hγ : Spares γ Energy.key) (hmax : e.max ≤ Words.max64)
    (h : s.Balanced e players balance) (hc : c.isMove = true) :
    (s.mover? c = none ∧ (s.perform c).2.Balanced e players balance) ∨
      ∃ player, s.mover? c = some player ∧ player ∈ players ∧ e.cost ≤ balance player ∧
        (s.perform c).2.Balanced e players (e.paid player balance) := by
  cases c with
  | act player action =>
      rcases balanced_act hγ hmax h player action with hstill | hmoved
      · exact Or.inl hstill
      · exact Or.inr ⟨player, hmoved⟩
  | tick seconds => exact Or.inl ⟨rfl, balanced_tick hγ h seconds⟩
  | _ => cases hc

/-- A run of moves charges its movers one after the other, and each of them has the price when it is his
turn to pay. -/
theorem balanced_after (hγ : Spares γ Energy.key) (hmax : e.max ≤ Words.max64)
    (h : s.Balanced e players balance) (hcalls : ∀ c ∈ calls, c.isMove = true) :
    (s.after calls).Balanced e players (e.replay balance (s.movers calls)) ∧
      ∀ earlier player later, s.movers calls = earlier ++ player :: later →
        player ∈ players ∧ e.cost ≤ e.replay balance earlier player := by
  induction calls generalizing s balance with
  | nil => exact ⟨h, fun earlier player later hsplit => by simp at hsplit⟩
  | cons c rest ih =>
      have hc : c.isMove = true := hcalls c List.mem_cons_self
      have hrest : ∀ d ∈ rest, d.isMove = true := fun d hd => hcalls d (List.mem_cons_of_mem c hd)
      rw [movers_cons]
      rcases balanced_perform hγ hmax h hc with ⟨hmover, hstill⟩ | ⟨q, hmover, hseat, hpays, hmoved⟩
      · rw [hmover]
        exact ih hstill hrest
      · rw [hmover]
        obtain ⟨hbalanced, hpaid⟩ := ih hmoved hrest
        refine ⟨hbalanced, ?_⟩
        intro earlier player later hsplit
        -- the first to pay is the mover of this call, all others come after it
        cases earlier with
        | nil =>
            obtain rfl := (List.cons.inj hsplit).1
            exact ⟨hseat, hpays⟩
        | cons first more =>
            obtain ⟨rfl, hmore⟩ := List.cons.inj hsplit
            exact hpaid more player later hmore

/-- A game begins with full balances. -/
theorem balanced_of_start {s₀ : Session γ BuiltIn} (hone : energies s₀.injectors = [e])
    {seed : Option UInt64} {events : List Event} (hstart : s₀.start players seed = (.ok events, s)) :
    s.Balanced e players e.full := by
  cases begun_of_start hstart with
  | @begun data fragment rules stage injectors _ _ hprepare =>
      obtain rfl := fragment_of_only hone hprepare
      have hconfig : configKey ≠ Energy.key := by decide
      have hstored : Dict.get? (s₀.openingData data [(Energy.key, book players e.full)]) Energy.key
          = some (book players e.full) := by
        rw [openingData, Dict.get?_insert_of_ne _ _ hconfig]
        exact Dict.get?_insert_self _ _ _
      exact ⟨(energies_prepare hprepare).trans hone, rfl, hstored, fun _ => Nat.le_refl _⟩

/-- What the balances are after a run of moves, and what the next action does to them. -/
structure Accounted (s : Session γ BuiltIn) (e : Energy) (players : List PlayerId)
    (calls : List Call) : Prop where
  /-- they are those that the processed actions make of full ones -/
  replayed : (s.after calls).balances? = some (book players (e.replay e.full (s.movers calls)))
  bounded : ∀ p, e.replay e.full (s.movers calls) p ≤ e.max
  /-- nobody has paid what he did not have -/
  paid : ∀ earlier player later, s.movers calls = earlier ++ player :: later →
    player ∈ players ∧ e.cost ≤ e.replay e.full earlier player
  /-- what an injector holds back costs nothing, and neither does what is refused -/
  spared : ∀ player action, ((s.after calls).Vetoes player action ∨
      ((s.after calls).handleAction player action).1.success = false) →
    ((s.after calls).handleAction player action).2.balances? = (s.after calls).balances?
  /-- what is processed is charged once, be it the action submitted or the one that it releases -/
  charged : ∀ player action forwarded, (s.after calls).processed? player action = some forwarded →
    ((s.after calls).handleAction player action).2.balances?
      = some (book players (e.paid player (e.replay e.full (s.movers calls))))

/-- **The accounts are exact.** -/
theorem accounted (hγ : Spares γ Energy.key) (hmax : e.max ≤ Words.max64) {s₀ : Session γ BuiltIn}
    (hone : energies s₀.injectors = [e]) {seed : Option UInt64} {events : List Event}
    (hstart : s₀.start players seed = (.ok events, s)) (hcalls : ∀ c ∈ calls, c.isMove = true) :
    s.Accounted e players calls := by
  obtain ⟨hbalanced, hpaid⟩ := balanced_after hγ hmax (balanced_of_start hone hstart) hcalls
  refine ⟨hbalanced.stored, hbalanced.bounded, hpaid, ?_, ?_⟩
  · intro player action hdown
    have hmover := mover?_of_turnedDown hdown
    rcases balanced_act hγ hmax hbalanced player action with ⟨-, hstill⟩ | ⟨hmoved, -⟩
    · rw [hstill.stored, hbalanced.stored]
    · rw [hmover] at hmoved
      cases hmoved
  · intro player action forwarded hprocessed
    have hmover := mover?_of_processed? hprocessed
    rcases balanced_act hγ hmax hbalanced player action with ⟨hstill, -⟩ | ⟨-, -, -, hmoved⟩
    · rw [hmover] at hstill
      cases hstill
    · exact hmoved.stored

end Play.Session

end Arcade
