import Arcade.Play.Injector
import Arcade.Proofs.Dict
import Arcade.Proofs.Play.Calls
/-!
# What a pipeline does before an action

A joint verdict is reached by asking the injectors one after the other. `beforeFrom_cons_of_proceed`
and `beforeFrom_cons_of_veto` are the two steps of that, and everything else about the hook before
an action is an induction over them. `stopped_of_vetoed` says where a veto comes from: from the
first injector that holds back the action as its predecessors have made it, and the injectors behind
it are left as they were.
-/

namespace Arcade.Play.Pipeline

variable {ι : Type} [Injector ι] {player : PlayerId} {data : Data}

@[simp] theorem beforeFrom_nil (action : Action) (multiplier : Float) (challenge : Option Json) :
    beforeFrom player data ([] : List ι) action multiplier challenge
      = (.proceed action multiplier challenge, []) := rfl

/-- An injector that lets the action through hands it on to the rest. -/
theorem beforeFrom_cons_of_proceed {i : ι} {rest : List ι} {action : Action} {multiplier : Float}
    {challenge : Option Json} (h : (Injector.before i player action data).1.proceed = true) :
    beforeFrom player data (i :: rest) action multiplier challenge =
      let verdict := (Injector.before i player action data).1
      let asked := beforeFrom player data rest (verdict.action.getD action)
        (scaled multiplier verdict.multiplier) (verdict.challenge.or challenge)
      (asked.1, (Injector.before i player action data).2 :: asked.2) := by
  rw [beforeFrom]
  simp only [h, if_true]

/-- An injector that holds the action back has the last word. -/
theorem beforeFrom_cons_of_veto {i : ι} {rest : List ι} {action : Action} {multiplier : Float}
    {challenge : Option Json} (h : (Injector.before i player action data).1.proceed = false) :
    beforeFrom player data (i :: rest) action multiplier challenge =
      (.vetoed (Injector.name (Injector.before i player action data).2)
          (Injector.before i player action data).1.challenge,
        (Injector.before i player action data).2 :: rest) := by
  rw [beforeFrom]
  simp only [h, Bool.false_eq_true, if_false]

/-- Where a veto has stopped a pipeline: the injectors ahead of it have let the action through, and
those behind it are left as they were. -/
inductive Stopped (player : PlayerId) (action : Action) (data : Data) : List ι → List ι → Prop
  | intro {ahead ahead' behind : List ι} {i i' : ι} {forwarded : Action} {multiplier : Float}
      {challenge : Option Json} {verdict : Verdict}
      (hahead : before player action data ahead = (.proceed forwarded multiplier challenge, ahead'))
      (hi : Injector.before i player forwarded data = (verdict, i'))
      (hveto : verdict.proceed = false) :
      Stopped player action data (ahead ++ i :: behind) (ahead' ++ i' :: behind)

/-- A veto of a pipeline that is already under way comes from one of its injectors, which is named and
speaks alone. -/
theorem exists_split_of_vetoed {injectors injectors' : List ι} {action : Action}
    {multiplier : Float} {challenge : Option Json} {name : String} {told : Option Json}
    (h : beforeFrom player data injectors action multiplier challenge
      = (.vetoed name told, injectors')) :
    ∃ ahead ahead' behind i i' forwarded factor said verdict,
      injectors = ahead ++ i :: behind ∧ injectors' = ahead' ++ i' :: behind ∧
      beforeFrom player data ahead action multiplier challenge
        = (.proceed forwarded factor said, ahead') ∧
      Injector.before i player forwarded data = (verdict, i') ∧ verdict.proceed = false ∧
      name = Injector.name i' ∧ told = verdict.challenge := by
  induction injectors generalizing action multiplier challenge injectors' with
  | nil => simp at h
  | cons i rest ih =>
      cases hp : (Injector.before i player action data).1.proceed with
      | false =>
          rw [beforeFrom_cons_of_veto hp] at h
          cases h
          exact ⟨[], [], rest, i, _, action, multiplier, challenge, _, rfl, rfl, rfl, rfl, hp, rfl, rfl⟩
      | true =>
          rw [beforeFrom_cons_of_proceed hp] at h
          rcases hr : beforeFrom player data rest
            ((Injector.before i player action data).1.action.getD action)
            (scaled multiplier (Injector.before i player action data).1.multiplier)
            ((Injector.before i player action data).1.challenge.or challenge) with ⟨joint, rest'⟩
          simp only [hr, Prod.mk.injEq] at h
          obtain ⟨rfl, rfl⟩ := h
          obtain ⟨ahead, ahead', behind, j, j', forwarded, factor, said, verdict, rfl, rfl, hahead,
            hj, hspoken⟩ := ih hr
          refine ⟨i :: ahead, (Injector.before i player action data).2 :: ahead', behind, j, j',
            forwarded, factor, said, verdict, rfl, rfl, ?_, hj, hspoken⟩
          rw [beforeFrom_cons_of_proceed hp]
          simp only [hahead]

/-- A veto stops the pipeline at one injector. -/
theorem stopped_of_vetoed {injectors injectors' : List ι} {action : Action} {name : String}
    {told : Option Json}
    (h : before player action data injectors = (.vetoed name told, injectors')) :
    Stopped player action data injectors injectors' := by
  obtain ⟨ahead, ahead', behind, i, i', forwarded, factor, said, verdict, rfl, rfl, hahead, hi,
    hveto, -⟩ := exists_split_of_vetoed h
  exact .intro hahead hi hveto

/-- What is true of one, of every factor that an injector gives, and of products, is true of the factor
that all injectors together give. -/
theorem multiplier_of_proceed {Q : Float → Prop} (hone : Q 1.0) (hmul : ∀ a b, Q a → Q b → Q (a * b))
    {injectors injectors' : List ι} {action forwarded : Action} {multiplier : Float}
    {told : Option Json}
    (hfactor : ∀ i ∈ injectors, ∀ action m,
      (Injector.before i player action data).1.multiplier = some m → Q m)
    (h : before player action data injectors = (.proceed forwarded multiplier told, injectors')) :
    Q multiplier := by
  have hall : ∀ action start told forwarded multiplier said, Q start →
      (beforeFrom player data injectors action start told).1 = .proceed forwarded multiplier said →
        Q multiplier := by
    clear h
    induction injectors with
    | nil =>
        intro action start told forwarded multiplier said hstart hjoint
        cases hjoint
        exact hstart
    | cons i rest ih =>
        intro action start told forwarded multiplier said hstart hjoint
        cases hp : (Injector.before i player action data).1.proceed with
        | false =>
            rw [beforeFrom_cons_of_veto hp] at hjoint
            cases hjoint
        | true =>
            rw [beforeFrom_cons_of_proceed hp] at hjoint
            have hscaled : Q (scaled start (Injector.before i player action data).1.multiplier) := by
              cases hm : (Injector.before i player action data).1.multiplier with
              | none => exact hstart
              | some m =>
                  have hQm : Q m := hfactor i List.mem_cons_self action m hm
                  rw [scaled]
                  split
                  · exact hmul start m hstart hQm
                  · exact hstart
            exact ih (fun j hj => hfactor j (List.mem_cons_of_mem i hj)) _ _ _ _ _ _ hscaled hjoint
  exact hall action 1.0 none forwarded multiplier told hone (congrArg Prod.fst h)

/-- Injectors that judge by two data alike give the same joint verdict on both. -/
theorem before_congr {data data' : Data} (h : ∀ (i : ι) (action : Action),
      Injector.before i player action data' = Injector.before i player action data)
    (action : Action) (injectors : List ι) :
    before player action data' injectors = before player action data injectors := by
  have hall : ∀ (injectors : List ι) (action : Action) (multiplier : Float) (challenge : Option Json),
      beforeFrom player data' injectors action multiplier challenge
        = beforeFrom player data injectors action multiplier challenge := by
    intro injectors
    induction injectors with
    | nil => exact fun _ _ _ => rfl
    | cons i rest ih =>
        intro action multiplier challenge
        simp only [beforeFrom, h, ih]
  exact hall injectors action 1.0 none

/-! ### After an action -/

/-- Whether an injector changes what an outcome holds under a name. -/
def Rewrites (i : ι) (key : String) : Prop :=
  ∃ player action outcome,
    Dict.get? (Injector.after i player action outcome).1.data key ≠ Dict.get? outcome.data key

/-- Whether one of the hooks after an action changes, on this outcome, what it holds under a name. -/
def Rewritten (player : PlayerId) (action : Action) (key : String) : List ι → Outcome → Prop
  | [], _ => False
  | i :: rest, outcome =>
    let next := (Injector.after i player action outcome).1
    Dict.get? next.data key ≠ Dict.get? outcome.data key ∨ Rewritten player action key rest next

/-- What is rewritten is so by an injector that can. -/
theorem exists_rewrites_of_rewritten {action : Action} {injectors : List ι} {outcome : Outcome}
    {key : String} (h : Rewritten player action key injectors outcome) :
    ∃ i ∈ injectors, Rewrites i key := by
  induction injectors generalizing outcome with
  | nil => exact h.elim
  | cons i rest ih =>
      rcases h with hne | hrest
      · exact ⟨i, List.mem_cons_self, player, action, outcome, hne⟩
      · obtain ⟨j, hj, hrewrites⟩ := ih hrest
        exact ⟨j, List.mem_cons_of_mem i hj, hrewrites⟩

/-- What no hook rewrites is the same after the hooks. -/
theorem get?_after_of_not_rewritten {action : Action} {injectors injectors' : List ι}
    {outcome outcome' : Outcome} {key : String}
    (hspare : ¬ Rewritten player action key injectors outcome)
    (h : after player action injectors outcome = (outcome', injectors')) :
    Dict.get? outcome'.data key = Dict.get? outcome.data key := by
  induction injectors generalizing outcome injectors' with
  | nil =>
      obtain rfl : outcome = outcome' := congrArg Prod.fst h
      rfl
  | cons i rest ih =>
      obtain ⟨houtcome, -⟩ := Prod.mk.inj h
      obtain ⟨hfirst, hrest⟩ := not_or.mp hspare
      exact (ih hrest (Prod.ext houtcome rfl)).trans (Classical.not_not.mp hfirst)

/-- What no injector can rewrite is the same after the hooks. -/
theorem get?_after {action : Action} {injectors injectors' : List ι} {outcome outcome' : Outcome}
    {key : String} (hspare : ∀ i ∈ injectors, ¬ Rewrites i key)
    (h : after player action injectors outcome = (outcome', injectors')) :
    Dict.get? outcome'.data key = Dict.get? outcome.data key := by
  refine get?_after_of_not_rewritten (fun hrewritten => ?_) h
  obtain ⟨i, hi, hrewrites⟩ := exists_rewrites_of_rewritten hrewritten
  exact hspare i hi hrewrites

/-- What every injector carries over to a changed outcome, the whole list carries over. -/
theorem after_map {f : Outcome → Outcome} {action : Action} (h : ∀ (i : ι) (outcome : Outcome),
      Injector.after i player action (f outcome)
        = (f (Injector.after i player action outcome).1, (Injector.after i player action outcome).2))
    (injectors : List ι) (outcome : Outcome) :
    after player action injectors (f outcome)
      = (f (after player action injectors outcome).1, (after player action injectors outcome).2) := by
  induction injectors generalizing outcome with
  | nil => rfl
  | cons i rest ih => simp only [after, h, ih]

/-! ### Injectors that leave a name alone -/

/-- A kind of injectors, which their own hooks keep within it, that touch nothing under a name: they put
no value of their own there when a game starts, and change none after an action. -/
structure Avoids (P : ι → Prop) (key : String) : Prop where
  prepare : ∀ {i} (players : List PlayerId), P i →
    (∀ e ∈ (Injector.prepare i players).1, e.1 ≠ key) ∧ P (Injector.prepare i players).2
  before : ∀ {i} (player : PlayerId) (action : Action) (data : Data), P i →
    P (Injector.before i player action data).2
  after : ∀ {i} (player : PlayerId) (action : Action) (outcome : Outcome), P i →
    Dict.get? (Injector.after i player action outcome).1.data key = Dict.get? outcome.data key ∧
      P (Injector.after i player action outcome).2

variable {P : ι → Prop} {key : String} {injectors injectors' : List ι}

theorem prepare_of_avoids (hP : Avoids P key) (hall : ∀ i ∈ injectors, P i)
    {players : List PlayerId} {fragment : Data}
    (h : prepare players injectors = (fragment, injectors')) :
    (∀ e ∈ fragment, e.1 ≠ key) ∧ ∀ i ∈ injectors', P i := by
  induction injectors generalizing fragment injectors' with
  | nil =>
      cases h
      exact ⟨fun e he => absurd he List.not_mem_nil, fun i hi => absurd hi List.not_mem_nil⟩
  | cons i rest ih =>
      obtain ⟨rfl, rfl⟩ := Prod.mk.inj h
      obtain ⟨hfirst, hi⟩ := hP.prepare players (hall i List.mem_cons_self)
      obtain ⟨hfragments, hrest⟩ := ih (fun j hj => hall j (List.mem_cons_of_mem i hj)) rfl
      refine ⟨fun e he => ?_, List.forall_mem_cons.mpr ⟨hi, hrest⟩⟩
      rcases Dict.mem_insertAll he with he | he
      · exact hfirst e he
      · exact hfragments e he

theorem beforeFrom_of_avoids (hP : Avoids P key) (hall : ∀ i ∈ injectors, P i) (player : PlayerId)
    (data : Data) (action : Action) (multiplier : Float) (challenge : Option Json) :
    ∀ i ∈ (beforeFrom player data injectors action multiplier challenge).2, P i := by
  induction injectors generalizing action multiplier challenge with
  | nil => exact hall
  | cons i rest ih =>
      have hi := hP.before player action data (hall i List.mem_cons_self)
      have hrest : ∀ j ∈ rest, P j := fun j hj => hall j (List.mem_cons_of_mem i hj)
      cases hp : (Injector.before i player action data).1.proceed with
      | true =>
          rw [beforeFrom_cons_of_proceed hp]
          exact List.forall_mem_cons.mpr ⟨hi, ih hrest _ _ _⟩
      | false =>
          rw [beforeFrom_cons_of_veto hp]
          exact List.forall_mem_cons.mpr ⟨hi, hrest⟩

theorem before_of_avoids (hP : Avoids P key) (hall : ∀ i ∈ injectors, P i) {action : Action}
    {joint : Joint} (h : before player action data injectors = (joint, injectors')) :
    ∀ i ∈ injectors', P i := by
  have hkind := beforeFrom_of_avoids hP hall player data action 1.0 none
  rw [before] at h
  rwa [h] at hkind

theorem after_of_avoids (hP : Avoids P key) (hall : ∀ i ∈ injectors, P i) {action : Action}
    {outcome outcome' : Outcome} (h : after player action injectors outcome = (outcome', injectors')) :
    Dict.get? outcome'.data key = Dict.get? outcome.data key ∧ ∀ i ∈ injectors', P i := by
  induction injectors generalizing outcome injectors' with
  | nil =>
      cases h
      exact ⟨rfl, hall⟩
  | cons i rest ih =>
      obtain ⟨houtcome, rfl⟩ := Prod.mk.inj h
      obtain ⟨hfirst, hi⟩ := hP.after player action outcome (hall i List.mem_cons_self)
      obtain ⟨hsame, hrest⟩ :=
        ih (fun j hj => hall j (List.mem_cons_of_mem i hj)) (Prod.ext houtcome rfl)
      exact ⟨hsame.trans hfirst, List.forall_mem_cons.mpr ⟨hi, hrest⟩⟩

end Arcade.Play.Pipeline

namespace Arcade.Play.Session

variable {γ ι : Type} [GameRules γ] [Injector ι] {P : ι → Prop} {key : String} {s : Session γ ι}

theorem injectors_start_of_avoids {s₀ : Session γ ι} (hP : Pipeline.Avoids P key)
    (h : ∀ i ∈ s₀.injectors, P i) {players : List PlayerId} {seed : Option UInt64} {events : List Event}
    (hstart : s₀.start players seed = (.ok events, s)) : ∀ i ∈ s.injectors, P i := by
  cases begun_of_start hstart with
  | begun _ _ hinjectors => exact (Pipeline.prepare_of_avoids hP h hinjectors).2

/-- Neither actions nor frames lead out of a kind of injectors that their own hooks keep within it. -/
theorem injectors_perform_of_avoids (hP : Pipeline.Avoids P key) (h : ∀ i ∈ s.injectors, P i) {c : Call}
    (hc : c.isMove = true) : ∀ i ∈ (s.perform c).2.injectors, P i := by
  cases c with
  | act player action =>
      show ∀ i ∈ (s.handleAction player action).2.injectors, P i
      have hhandled := handled s player action
      generalize (s.handleAction player action).1 = result at hhandled
      generalize (s.handleAction player action).2 = s' at hhandled ⊢
      cases hhandled with
      | refused _ => exact h
      | vetoed _ _ hbefore => exact Pipeline.before_of_avoids hP h hbefore
      | rejected _ _ hbefore _ => exact Pipeline.before_of_avoids hP h hbefore
      | processed _ _ hbefore _ hafter _ =>
          exact (Pipeline.after_of_avoids hP (Pipeline.before_of_avoids hP h hbefore) hafter).2
  | tick seconds =>
      show ∀ i ∈ (s.tick seconds).2.injectors, P i
      have hticked := ticked s seconds
      generalize (s.tick seconds).1 = answer at hticked
      generalize (s.tick seconds).2 = s' at hticked ⊢
      cases hticked <;> exact h
  | _ => cases hc

theorem injectors_after_of_avoids (hP : Pipeline.Avoids P key) (h : ∀ i ∈ s.injectors, P i)
    {calls : List Call} (hcalls : ∀ c ∈ calls, c.isMove = true) : ∀ i ∈ (s.after calls).injectors, P i :=
  Run.after_invariant (fun s : Session γ ι => ∀ i ∈ s.injectors, P i) (fun c : Call => c.isMove = true)
    (fun _ _ hc hs => injectors_perform_of_avoids hP hs hc) hcalls h

end Arcade.Play.Session
