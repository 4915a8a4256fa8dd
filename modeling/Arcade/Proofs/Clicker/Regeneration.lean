import Arcade.Proofs.Clicker.FairPlay
import Arcade.Proofs.Host.Accounts
/-!
# Energy that comes back in time

In a game of clicker every processed action gives every seat its share of energy, and between two actions
of one player every other seat has one. So if a round of shares covers the price, whoever's turn it is
has a full balance again.

A balance is full only at that point. What holds all the time is said of all seats at once: some turns
before his next one, a player lacks no more than the shares of those turns (`Energy.Refills`). An action
takes the seats one turn further, and its own player from no turn before his next to a whole round
(`refills_paid`).
-/

namespace Arcade

open Play Mechanics

namespace Mechanics

variable {e : Energy} {players : List PlayerId} {turn : Nat} {balance : PlayerId → Nat}
  {player p : PlayerId}

namespace Energy

/-- Some turns before it is a player's turn, his balance lacks no more than those turns will give back. -/
def Refills (e : Energy) (players : List PlayerId) (turn : Nat) (balance : PlayerId → Nat) : Prop :=
  ∀ d < players.length, ∀ p, players[(turn + d) % players.length]? = some p →
    e.max ≤ balance p + d * e.regen

theorem refills_full : e.Refills players turn e.full := by
  intro d _ p _
  exact Nat.le_add_right e.max _

/-- Whose turn it is has a full balance. -/
theorem Refills.full (h : e.Refills players turn balance) (hbound : ∀ p, balance p ≤ e.max)
    (hp : players[turn % players.length]? = some p) : balance p = e.max := by
  have hsome : 0 < players.length := List.length_pos_of_mem (List.mem_of_getElem? hp)
  have hrest := h 0 hsome p hp
  rw [Nat.zero_mul, Nat.add_zero] at hrest
  exact Nat.le_antisymm (hbound p) hrest

/-- Fewer turns than there are seats lead to another seat. -/
theorem seat_ne_of_later (hnodup : players.Nodup) {d : Nat} (hd : 0 < d) (hround : d < players.length)
    (hplayer : players[turn % players.length]? = some player)
    (hp : players[(turn + d) % players.length]? = some p) : p ≠ player := by
  intro hsame
  have hin : (turn + d) % players.length < players.length := Nat.mod_lt _ (by omega)
  have hindex : (turn + d) % players.length = turn % players.length :=
    (List.getElem?_inj hin hnodup).mp (by rw [hp, hplayer, hsame])
  have hmultiple := Nat.sub_mod_eq_zero_of_mod_eq hindex
  rw [Nat.add_sub_cancel_left, Nat.mod_eq_of_lt hround] at hmultiple
  omega

/-- The action of the player whose turn it is leaves everybody one turn closer to his own, and himself a
whole round of shares away. -/
theorem refills_paid (hnodup : players.Nodup) (hregen : e.cost ≤ players.length * e.regen)
    (h : e.Refills players turn balance) (hplayer : players[turn % players.length]? = some player) :
    e.Refills players (turn + 1) (e.paid player balance) := by
  intro d hd p hp
  have hshares : (d + 1) * e.regen = d * e.regen + e.regen := Nat.succ_mul d e.regen
  rw [Nat.add_assoc, Nat.add_comm 1 d] at hp
  by_cases hround : d + 1 = players.length
  · -- the round is complete, so this is the player of the action
    rw [hround, Nat.add_mod_right, hplayer] at hp
    obtain rfl := Option.some.inj hp
    have hfull := h 0 (by omega) player hplayer
    rw [← hround, hshares] at hregen
    rw [paid, if_pos rfl]
    omega
  · have hlacks := h (d + 1) (by omega) p hp
    have hother := seat_ne_of_later hnodup (Nat.succ_pos d) (by omega) hplayer hp
    rw [paid, if_neg hother]
    omega

end Energy

/-- An energy injector stays the one that it is. -/
theorem energy_avoids (e : Energy) {key : String} (hkey : key ≠ Energy.key) :
    Pipeline.Avoids (· = BuiltIn.energy e) key where
  prepare players hi := ⟨((avoids hkey).prepare players trivial).1, by rw [hi]; rfl⟩
  before player action data hi := by
    rw [hi]
    rfl
  after player action outcome hi :=
    ⟨((avoids hkey).after player action outcome trivial).1, by rw [hi]; rfl⟩

end Mechanics

namespace Play.Session

variable {s s₀ : Session Clicker BuiltIn} {e : Energy} {players : List PlayerId} {calls : List Call}
  {c : Call} {p : PlayerId}

/-- Whoever has the price is not held back where nothing but energy is asked for. -/
theorem not_vetoes_of_pays {γ : Type} [GameRules γ] {s : Session γ BuiltIn} {action : Action}
    (honly : ∀ i ∈ s.injectors, i = .energy e) {state : GameState} (hstate : s.state = some state)
    (hpays : e.cost ≤ e.balance state.data p) : ¬ s.Vetoes p action := by
  intro hvetoes
  obtain ⟨state', name, told, injectors', -, hstate', hvetoed⟩ := hvetoes
  obtain rfl : state = state' := Option.some.inj (hstate.symm.trans hstate')
  obtain ⟨ahead, _, behind, i, i', forwarded, _, _, verdict, hsplit, -, -, hi, hveto, -⟩ :=
    Pipeline.exists_split_of_vetoed hvetoed
  obtain rfl : i = .energy e := honly i (by rw [hsplit]; simp)
  obtain rfl : (if e.balance state.data p < e.cost then Verdict.veto _ else .pass) = verdict :=
    congrArg Prod.fst hi
  rw [if_neg (Nat.not_lt.mpr hpays)] at hveto
  cases hveto

/-- A game under way in which every balance will be full when its player's turn comes. -/
structure Refilled (s : Session Clicker BuiltIn) (e : Energy) (players : List PlayerId)
    (balance : PlayerId → Nat) : Prop where
  seated : s.Seated players
  balanced : s.Balanced e players balance
  refills : e.Refills players s.turn.toNat balance

theorem refilled_perform (hnodup : players.Nodup) (hmax : e.max ≤ Words.max64)
    (hregen : e.cost ≤ players.length * e.regen) (hc : c.isMove = true)
    (hcount : s.turn.toNat + (s.mover? c).toList.length < UInt64.size)
    (h : ∃ balance, s.Refilled e players balance) :
    (s.perform c).2.turn.toNat = s.turn.toNat + (s.mover? c).toList.length ∧
      ∃ balance, (s.perform c).2.Refilled e players balance := by
  obtain ⟨balance, hseated, hbalanced, hrefills⟩ := h
  have hnext := seated_perform hseated hc
  have hspares : Spares Clicker Energy.key := spares_clicker (by decide) (by decide)
  rcases hseated.turn hc with ⟨hnobody, hturn⟩ | ⟨player, hmover, hturn, hseat⟩
  · rcases balanced_perform hspares hmax hbalanced hc with ⟨-, hkept⟩ | ⟨q, hmover, -⟩
    · exact ⟨by rw [hturn, hnobody]; rfl, balance, hnext, hkept, hturn ▸ hrefills⟩
    · rw [hnobody] at hmover
      cases hmover
  · rcases balanced_perform hspares hmax hbalanced hc with ⟨hnobody, -⟩ | ⟨q, hpayer, -, -, hpaid⟩
    · rw [hnobody] at hmover
      cases hmover
    · obtain rfl : player = q := Option.some.inj (hmover.symm.trans hpayer)
      rw [hmover] at hcount ⊢
      have hword : (s.perform c).2.turn.toNat = s.turn.toNat + 1 := by
        rw [hturn]
        exact Checked.toNat_next64 hcount
      exact ⟨hword, e.paid player balance, hnext, hpaid,
        hword ▸ Energy.refills_paid hnodup hregen hrefills hseat⟩

theorem refilled_after (hnodup : players.Nodup) (hmax : e.max ≤ Words.max64)
    (hregen : e.cost ≤ players.length * e.regen) (hcalls : ∀ c ∈ calls, c.isMove = true)
    (hcount : s.turn.toNat + (s.movers calls).length < UInt64.size)
    (h : ∃ balance, s.Refilled e players balance) :
    ∃ balance, (s.after calls).Refilled e players balance := by
  induction calls generalizing s with
  | nil => exact h
  | cons c rest ih =>
      obtain ⟨hc, hrest⟩ := List.forall_mem_cons.mp hcalls
      rw [movers_cons, List.length_append, ← Nat.add_assoc] at hcount
      obtain ⟨hturn, hnext⟩ :=
        refilled_perform hnodup hmax hregen hc (Nat.lt_of_le_of_lt (Nat.le_add_right _ _) hcount) h
      exact ih hrest (by rwa [hturn]) hnext

/-- **Energy is back in time.** Take any game of clicker whose only injector asks for energy, at a price
that a full balance covers and that a round of shares gives back, from its start with any players and
seed through any run of actions and frames that takes no more turns than a turn can count. Whose turn it is
has a full balance in store, so nothing that he submits is held back. -/
theorem full_on_his_turn {seed : Option UInt64} {events : List Event} {state : GameState}
    (hinjectors : s₀.injectors = [.energy e]) (hcost : e.cost ≤ e.max) (hmax : e.max ≤ Words.max64)
    (hregen : e.cost ≤ players.length * e.regen)
    (hstart : s₀.start players seed = (.ok events, s)) (hcalls : ∀ c ∈ calls, c.isMove = true)
    (hcount : (s.movers calls).length < UInt64.size)
    (hstate : (s.after calls).state = some state) (hturn : Clicker.whoseTurn? state = some p) :
    (s.after calls).balances?.bind (·.field? p) = some (.nat e.max) ∧
      ∀ action, ¬ (s.after calls).Vetoes p action := by
  have hone : energies s₀.injectors = [e] := by
    rw [hinjectors]
    rfl
  have honly : ∀ i ∈ s₀.injectors, i = .energy e := by
    rw [hinjectors]
    exact fun i hi => List.mem_singleton.mp hi
  have hrewarding : ∀ i ∈ s₀.injectors, Rewarding i := by
    intro i hi
    rw [honly i hi]
    trivial
  have hopening : s.Refilled e players e.full :=
    ⟨seated_of_start hrewarding hstart, balanced_of_start hone hstart, Energy.refills_full⟩
  have hzero : s.turn.toNat = 0 := by
    rw [turn_of_start hstart]
    rfl
  obtain ⟨balance, hseated, hbalanced, hrefills⟩ := refilled_after (nodup_of_start hstart) hmax hregen
    hcalls (by rwa [hzero, Nat.zero_add]) ⟨e.full, hopening⟩
  have hkept : ∀ i ∈ (s.after calls).injectors, i = .energy e := by
    have havoids := energy_avoids e (show "order" ≠ Energy.key by decide)
    exact injectors_after_of_avoids havoids (injectors_start_of_avoids havoids honly hstart) hcalls
  have hseat : players[(s.after calls).turn.toNat % players.length]? = some p := by
    rw [← hseated.order, data_of_holds hstate, turn_of_holds hstate]
    exact hturn
  have hfull := hrefills.full hbalanced.bounded hseat
  have hp : p ∈ players := List.mem_of_getElem? hseat
  constructor
  · rw [hbalanced.stored, Option.bind_some, Energy.field?_book hp, hfull]
  · intro action
    refine not_vetoes_of_pays hkept hstate ?_
    rw [Energy.balance_of_book hmax hbalanced.bounded hp (hbalanced.of_holds hstate), hfull]
    exact hcost

/-- An action may cost all there is, if two shares give it back to two players. -/
theorem full_on_his_turn_of_two :
    let energy : Energy := { max := 10, cost := 10, regen := 5 }
    let fresh : Session Clicker BuiltIn := .create "g" (Clicker.ofTarget 50) {} [.energy energy]
    let pass : Action := { kind := "pass" }
    let s := (fresh.start ["a", "b"] (some 7)).2.after [.act "a" pass, .act "a" pass, .act "b" pass]
    s.balances?.bind (·.field? "a") = some (.nat 10) ∧ ¬ s.Vetoes "a" pass := by
  intro energy fresh pass s
  have hstart : fresh.start ["a", "b"] (some 7)
      = (.ok [Event.started ["a", "b"]], (fresh.start ["a", "b"] (some 7)).2) := rfl
  have hcalls : ∀ c ∈ [Call.act "a" pass, .act "a" pass, .act "b" pass], c.isMove = true := by
    simp [Call.isMove]
  have hturn : s.state.bind Clicker.whoseTurn? = some "a" := by decide +kernel
  obtain ⟨state, hstate, hseat⟩ := Option.bind_eq_some_iff.mp hturn
  have hcount : ((fresh.start ["a", "b"] (some 7)).2.movers
      [.act "a" pass, .act "a" pass, .act "b" pass]).length < UInt64.size := by decide +kernel
  obtain ⟨hstored, hpassed⟩ := full_on_his_turn (e := energy) rfl (by decide) (by decide) (by decide)
    hstart hcalls hcount hstate hseat
  exact ⟨hstored, hpassed pass⟩

end Play.Session

end Arcade
