import Arcade.Mechanics.BuiltIn
import Arcade.Play.Session
import Arcade.Proofs.Play.Pipeline
/-!
# The questions of a challenge

What a challenge does with an action is said once, by the cases of `Ruled`: it holds the action back,
lets it through, asks a question about it, or releases the action that a question has held back. Every
question can be answered (`answerable_before`), no verdict forgets one (`pending_before`), and nothing
but the action that it holds back gets past it (`held_of_proceed`).

In a pipeline of built-in injectors all but the challenges let an action pass as it is, or hold it
back. So what becomes of an action is for the challenge to say if there is one only (`Consulted`), and
every one of them hears of each processed action (`challenges_after`).
-/

namespace Arcade

open Play

namespace Mechanics.Challenge

variable {c : Challenge} {player : PlayerId} {action : Action}

/-- The right answer of every question can be given: it fits 64 bits. -/
def Answerable (c : Challenge) : Prop :=
  ∀ p q, Dict.get? c.pending p = some q → (Json.int q.answer).asInt64? = some q.answer

/-- The action that answers a question rightly. -/
def rightAnswer (q : Pending) : Action :=
  { kind := answerKind, payload := [("answer", .int q.answer)] }

/-- Whether an action answers a question rightly. -/
def Solves (action : Action) (q : Pending) : Prop :=
  action.kind = answerKind ∧ (action.field? "answer").bind Json.asInt64? = some q.answer

/-- What a challenge does with an action, and what it is afterwards. -/
inductive Ruled (c : Challenge) (player : PlayerId) (action : Action) : Verdict → Challenge → Prop
  /-- held back, and nothing is asked that was not asked before -/
  | vetoed {told : Json} : Ruled c player action (.veto told) { c with releasing := none }
  /-- the held action is released -/
  | released {q : Pending} (hq : Dict.get? c.pending player = some q) (hsolves : Solves action q) :
      Ruled c player action
        { action := some q.held, multiplier := some c.options.reward
          challenge := some (solved c.options.reward) }
        { c with releasing := some player }
  /-- held back by a new question -/
  | issued {told : Json} {random : Generator} {left right : UInt32}
      (hnone : Dict.get? c.pending player = none)
      (hdue : c.options.every ∣ c.count player + 1) :
      Ruled c player action (.veto told)
        { c with
          releasing := none, random := random
          pending := Dict.insert c.pending player
            ⟨(left.toNat : Int) + 1, (right.toNat : Int) + 1, action⟩ }
  /-- let through -/
  | passed (hnone : Dict.get? c.pending player = none)
      (hundue : ¬ c.options.every ∣ c.count player + 1) :
      Ruled c player action .pass { c with releasing := none }

theorem ruled (c : Challenge) (player : PlayerId) (action : Action) :
    Ruled c player action (c.before player action).1 (c.before player action).2 := by
  unfold before
  dsimp only
  split
  next hkind =>
    unfold judge
    dsimp only
    cases hq : Dict.get? c.pending player with
    | none => exact .vetoed
    | some q =>
        dsimp only
        split
        next hfield => exact .released hq ⟨hkind, hfield⟩
        · exact .vetoed
  · cases hq : Dict.get? c.pending player with
    | some q => exact .vetoed
    | none =>
        dsimp only
        split
        next hdue => exact .issued hq (Nat.dvd_of_mod_eq_zero hdue)
        next hundue => exact .passed hq fun hdue => hundue (Nat.mod_eq_zero_of_dvd hdue)

theorem options_fresh (c : Challenge) (players : List PlayerId) :
    (c.fresh players).options = c.options := by
  rw [fresh]

theorem options_before (c : Challenge) (player : PlayerId) (action : Action) :
    (c.before player action).2.options = c.options := by
  have hruled := c.ruled player action
  generalize (c.before player action).1 = verdict at hruled
  generalize (c.before player action).2 = c' at hruled ⊢
  cases hruled <;> rfl

theorem answerable_before (h : c.Answerable) : (c.before player action).2.Answerable := by
  have hruled := c.ruled player action
  generalize (c.before player action).1 = verdict at hruled
  generalize (c.before player action).2 = c' at hruled ⊢
  cases hruled with
  | vetoed => exact h
  | released _ _ => exact h
  | passed _ _ => exact h
  | @issued told random left right hnone _ =>
      intro p q hq
      by_cases hp : player = p
      · subst hp
        obtain rfl := Option.some.inj ((Dict.get?_insert_self _ _ _).symm.trans hq)
        have hleft : left.toNat < 4294967296 := left.toNat_lt
        have hright : right.toNat < 4294967296 := right.toNat_lt
        -- the answer is a sum of two words of 32 bits
        have hfits : Words.minInt64 ≤ (left.toNat : Int) + 1 + (right.toNat + 1) ∧
            (left.toNat : Int) + 1 + (right.toNat + 1) ≤ Words.maxInt64 := by
          simp only [Words.minInt64, Words.maxInt64]
          omega
        simp only [Pending.answer, Json.int, Json.asInt64?, Number.asInt64?, if_pos hfits]
      · exact h p q ((Dict.get?_insert_of_ne _ _ hp).symm.trans hq)

/-- No verdict forgets a question. -/
theorem pending_before {p : PlayerId} {q : Pending} (h : Dict.get? c.pending p = some q) :
    Dict.get? (c.before player action).2.pending p = some q := by
  have hruled := c.ruled player action
  generalize (c.before player action).1 = verdict at hruled
  generalize (c.before player action).2 = c' at hruled ⊢
  cases hruled with
  | vetoed => exact h
  | released _ _ => exact h
  | passed _ _ => exact h
  | issued hnone _ =>
      have hp : player ≠ p := by
        rintro rfl
        rw [hnone] at h
        cases h
      exact (Dict.get?_insert_of_ne _ _ hp).trans h

theorem answerable_after (h : c.Answerable) : (c.after player).Answerable := by
  intro p q hq
  unfold after at hq
  split at hq
  · by_cases hp : player = p
    · rw [hp, Dict.get?_erase_self] at hq
      cases hq
    · exact h p q ((Dict.get?_erase_of_ne _ hp).symm.trans hq)
  · exact h p q hq

/-- A player with a question gets nothing past it but the action that it holds back. -/
theorem held_of_proceed {q : Pending} (hq : Dict.get? c.pending player = some q)
    (h : (c.before player action).1.proceed = true) :
    (c.before player action).1.action = some q.held := by
  have hruled := c.ruled player action
  generalize (c.before player action).1 = verdict at hruled h ⊢
  generalize (c.before player action).2 = c' at hruled
  cases hruled with
  | vetoed => cases h
  | released hq' _ =>
      obtain rfl := Option.some.inj (hq.symm.trans hq')
      rfl
  | issued _ _ => cases h
  | passed hnone _ =>
      rw [hq] at hnone
      cases hnone

/-- The right answer releases the action that the question holds back. -/
theorem before_rightAnswer {q : Pending} (hc : c.Answerable)
    (hq : Dict.get? c.pending player = some q) :
    (c.before player (rightAnswer q)).1.proceed = true := by
  have hfield : ((rightAnswer q).field? "answer").bind Json.asInt64? = some q.answer :=
    hc player q hq
  have hkind : (rightAnswer q).kind = answerKind := rfl
  unfold before judge
  simp only [if_pos hkind, hq, if_pos hfield]

/-- An action that is due raises a question, and is held back by it. -/
theorem before_of_due (hkind : action.kind ≠ answerKind)
    (hnone : Dict.get? c.pending player = none)
    (hdue : (c.count player + 1) % c.options.every = 0) :
    (c.before player action).1.proceed = false ∧
      ∃ q, Dict.get? (c.before player action).2.pending player = some q ∧ q.held = action := by
  have hcount : count { c with releasing := none } player = c.count player := rfl
  unfold before
  simp only [if_neg hkind, hnone, hcount, if_pos hdue]
  exact ⟨rfl, _, Dict.get?_insert_self _ _ _, rfl⟩

/-- Nothing is asked about an action that is not due. -/
theorem before_of_undue (hkind : action.kind ≠ answerKind)
    (hnone : Dict.get? c.pending player = none)
    (hundue : (c.count player + 1) % c.options.every ≠ 0) :
    c.before player action = (.pass, { c with releasing := none }) := by
  have hcount : count { c with releasing := none } player = c.count player := rfl
  unfold before
  simp only [if_neg hkind, hnone, hcount, if_neg hundue]

end Mechanics.Challenge

/-! ### In a pipeline -/

namespace Mechanics

/-- The challenges among some injectors, in order. -/
def challenges : List BuiltIn → List Challenge
  | [] => []
  | .energy _ :: rest => challenges rest
  | .challenge c :: rest => c :: challenges rest

variable {player : PlayerId} {action : Action} {data : Data} {injectors : List BuiltIn}
  {c : Challenge}

theorem mem_challenges : c ∈ challenges injectors ↔ .challenge c ∈ injectors := by
  induction injectors with
  | nil => simp [challenges]
  | cons i rest ih => cases i <;> simp [challenges, ih]

theorem pass_of_proceed {e : Energy}
    (h : (Injector.before (BuiltIn.energy e) player action data).1.proceed = true) :
    (Injector.before (BuiltIn.energy e) player action data).1 = .pass := by
  change (ite (e.balance data player < e.cost) _ _ : Verdict).proceed = true at h
  change (ite (e.balance data player < e.cost) _ _ : Verdict) = .pass
  split at h
  · cases h
  next hpays => rw [if_neg hpays]

/-- Where there is no challenge, an action is held back or passes as it is. -/
theorem joint_of_unchallenged (player : PlayerId) (data : Data) (h : challenges injectors = [])
    (action : Action) (multiplier : Float) (told : Option Json) :
    let asked := Pipeline.beforeFrom player data injectors action multiplier told
    challenges asked.2 = [] ∧ ((∃ name said, asked.1 = .vetoed name said) ∨
      ∃ said, asked.1 = .proceed action multiplier said) := by
  induction injectors generalizing told with
  | nil => exact ⟨rfl, Or.inr ⟨told, rfl⟩⟩
  | cons i rest ih =>
      cases i with
      | challenge c => cases h
      | energy e =>
          cases hp : (Injector.before (BuiltIn.energy e) player action data).1.proceed with
          | false =>
              rw [Pipeline.beforeFrom_cons_of_veto hp]
              exact ⟨h, Or.inl ⟨_, _, rfl⟩⟩
          | true =>
              rw [Pipeline.beforeFrom_cons_of_proceed hp, pass_of_proceed hp]
              exact ih h told

/-- What a pipeline with one challenge can do with an action, and what the challenge is
afterwards. -/
inductive Consulted (c : Challenge) (player : PlayerId) (action : Action) (multiplier : Float) :
    Pipeline.Joint → Challenge → Prop
  /-- held back before the challenge was asked -/
  | unasked {name : String} {told : Option Json} :
      Consulted c player action multiplier (.vetoed name told) c
  /-- held back by the challenge, or behind it -/
  | vetoed {name : String} {told : Option Json} :
      Consulted c player action multiplier (.vetoed name told) (c.before player action).2
  /-- let through, as the challenge will have it -/
  | agreed {told : Option Json} (hproceed : (c.before player action).1.proceed = true) :
      Consulted c player action multiplier
        (.proceed ((c.before player action).1.action.getD action)
          (Pipeline.scaled multiplier (c.before player action).1.multiplier) told)
        (c.before player action).2

theorem consulted (hone : challenges injectors = [c]) (multiplier : Float) (told : Option Json) :
    ∃ c', challenges (Pipeline.beforeFrom player data injectors action multiplier told).2 = [c'] ∧
      Consulted c player action multiplier
        (Pipeline.beforeFrom player data injectors action multiplier told).1 c' := by
  induction injectors generalizing told with
  | nil => cases hone
  | cons i rest ih =>
      cases i with
      | energy e =>
          cases hp : (Injector.before (BuiltIn.energy e) player action data).1.proceed with
          | false =>
              rw [Pipeline.beforeFrom_cons_of_veto hp]
              exact ⟨c, hone, .unasked⟩
          | true =>
              -- the challenge is asked about the action as it was submitted
              rw [Pipeline.beforeFrom_cons_of_proceed hp, pass_of_proceed hp]
              exact ih hone told
      | challenge c =>
          obtain ⟨rfl, hrest⟩ := List.cons.inj hone
          refine ⟨(c.before player action).2, ?_⟩
          cases hp : (Injector.before (BuiltIn.challenge c) player action data).1.proceed with
          | false =>
              rw [Pipeline.beforeFrom_cons_of_veto hp]
              exact ⟨congrArg (List.cons _) hrest, .vetoed⟩
          | true =>
              have hverdict : Injector.before (BuiltIn.challenge c) player action data
                  = ((c.before player action).1, .challenge (c.before player action).2) := rfl
              obtain ⟨hnone, hjoint⟩ := joint_of_unchallenged player data hrest
                ((c.before player action).1.action.getD action)
                (Pipeline.scaled multiplier (c.before player action).1.multiplier)
                ((c.before player action).1.challenge.or told)
              rw [Pipeline.beforeFrom_cons_of_proceed hp, hverdict]
              refine ⟨congrArg (List.cons _) hnone, ?_⟩
              rcases hjoint with ⟨name, said, hvetoed⟩ | ⟨said, hagreed⟩
              · rw [hvetoed]
                exact .vetoed
              · rw [hagreed]
                exact .agreed hp

theorem consulted_of_before {joint : Pipeline.Joint} {injectors' : List BuiltIn}
    (hone : challenges injectors = [c])
    (h : Pipeline.before player action data injectors = (joint, injectors')) :
    ∃ c', challenges injectors' = [c'] ∧ Consulted c player action 1.0 joint c' := by
  obtain ⟨rfl, rfl⟩ := Prod.mk.inj h
  exact consulted hone 1.0 none

theorem challenges_after {injectors' : List BuiltIn} {outcome outcome' : Outcome}
    (h : Pipeline.after player action injectors outcome = (outcome', injectors')) :
    challenges injectors' = (challenges injectors).map fun c => c.after player := by
  obtain ⟨-, rfl⟩ := Prod.mk.inj h
  clear h
  induction injectors generalizing outcome with
  | nil => rfl
  | cons i rest ih =>
      cases i with
      | energy e => exact ih
      | challenge c => exact congrArg (List.cons _) ih

theorem challenges_prepare {players : List PlayerId} {fragment : Data} {injectors' : List BuiltIn}
    (h : Pipeline.prepare players injectors = (fragment, injectors')) :
    challenges injectors' = (challenges injectors).map fun c => c.fresh players := by
  obtain ⟨-, rfl⟩ := Prod.mk.inj h
  clear h
  induction injectors with
  | nil => rfl
  | cons i rest ih =>
      cases i with
      | energy e => exact ih
      | challenge c => exact congrArg (List.cons _) ih

end Mechanics

/-- The questions that wait for a player's answer. -/
def Play.Session.outstanding {γ : Type} (s : Session γ Mechanics.BuiltIn) (player : PlayerId) :
    List Mechanics.Pending :=
  (Mechanics.challenges s.injectors).filterMap fun c => Dict.get? c.pending player

theorem Play.Session.outstanding_of_challenges {γ : Type} {s : Session γ Mechanics.BuiltIn}
    {c : Mechanics.Challenge} (h : Mechanics.challenges s.injectors = [c]) (player : PlayerId) :
    s.outstanding player = (Dict.get? c.pending player).toList := by
  unfold outstanding
  rw [h]
  cases hq : Dict.get? c.pending player with
  | none => exact List.filterMap_cons_none hq
  | some q => exact List.filterMap_cons_some hq

theorem Play.Session.outstanding_of_unasked {γ : Type} {s : Session γ Mechanics.BuiltIn}
    (h : ∀ c ∈ Mechanics.challenges s.injectors, c.pending = []) (player : PlayerId) :
    s.outstanding player = [] := by
  refine List.filterMap_eq_nil_iff.mpr ?_
  intro c hc
  rw [h c hc]
  rfl

end Arcade
