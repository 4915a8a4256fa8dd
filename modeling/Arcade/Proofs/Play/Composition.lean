import Arcade.Proofs.Play.Pipeline
import Arcade.Sample.Probe
/-!
# Pipelines one behind the other

A pipeline may be cut anywhere: its two parts, run one behind the other, do what the whole does. The
hook before an action is the one with an early exit, so what a run of it comes to is said twice, in
two ways that mention no accumulator. `Passed` is the run in which every injector lets the action
through, with the list of their verdicts; the multiplier and what the player is told are read off
that list. A veto is a run that has passed up to one injector, which holds back the action that the
ones ahead of it have made.

The main result, `pipeline_composes`, holds of injectors of any kind, whatever they answer and keep
to themselves.
-/

namespace Arcade.Play.Pipeline

open Sample

variable {ι : Type} [Injector ι] {player : PlayerId} {data : Data}

/-! ### A run without a veto -/

/-- The injectors let an action through one after the other: their verdicts, the action that comes out,
and the injectors afterwards. -/
inductive Passed (player : PlayerId) (data : Data) :
    List ι → Action → List Verdict → Action → List ι → Prop
  | nil (action : Action) : Passed player data [] action [] action []
  | cons {i i' : ι} {rest rest' : List ι} {action forwarded : Action} {verdict : Verdict}
      {verdicts : List Verdict} (hi : Injector.before i player action data = (verdict, i'))
      (hpass : verdict.proceed = true)
      (hrest : Passed player data rest (verdict.action.getD action) verdicts forwarded rest') :
      Passed player data (i :: rest) action (verdict :: verdicts) forwarded (i' :: rest')

/-- The factors that some verdicts report and that count: those that are finite, in order. -/
def factors (verdicts : List Verdict) : List Float :=
  (verdicts.filterMap Verdict.multiplier).filter Float.isFinite

/-- The last thing that some verdicts have to say to the player. -/
def lastTold (verdicts : List Verdict) : Option Json :=
  (verdicts.filterMap Verdict.challenge).getLast?

theorem scaled_foldl (multiplier : Float) (verdict : Verdict) (verdicts : List Verdict) :
    (factors (verdict :: verdicts)).foldl (· * ·) multiplier
      = (factors verdicts).foldl (· * ·) (scaled multiplier verdict.multiplier) := by
  cases hm : verdict.multiplier with
  | none => simp only [factors, List.filterMap_cons, hm, scaled]
  | some m =>
      by_cases hfinite : m.isFinite = true
      · simp only [factors, List.filterMap_cons, hm, List.filter_cons, hfinite, if_true, scaled,
          List.foldl_cons]
      · simp only [factors, List.filterMap_cons, hm, List.filter_cons, hfinite, if_false, scaled,
          Bool.false_eq_true]

theorem lastTold_cons (verdict : Verdict) (verdicts : List Verdict) (told : Option Json) :
    (lastTold (verdict :: verdicts)).or told
      = (lastTold verdicts).or (verdict.challenge.or told) := by
  cases hc : verdict.challenge with
  | none => simp only [lastTold, List.filterMap_cons, hc, Option.none_or]
  | some said =>
      rw [lastTold, List.filterMap_cons, hc, List.getLast?_cons, lastTold]
      cases (verdicts.filterMap Verdict.challenge).getLast? <;> rfl

/-- A pipeline under way lets an action through exactly when all its injectors do; the multiplier has
taken in their finite factors from left to right, and of what they told the last is left. -/
theorem beforeFrom_eq_proceed_iff {injectors injectors' : List ι} {action forwarded : Action}
    {start multiplier : Float} {said told : Option Json} :
    beforeFrom player data injectors action start said
        = (.proceed forwarded multiplier told, injectors') ↔
      ∃ verdicts, Passed player data injectors action verdicts forwarded injectors' ∧
        multiplier = (factors verdicts).foldl (· * ·) start ∧ told = (lastTold verdicts).or said := by
  induction injectors generalizing action start said injectors' with
  | nil =>
      constructor
      · intro h
        cases h
        exact ⟨[], .nil forwarded, rfl, rfl⟩
      · intro h
        obtain ⟨verdicts, hpassed, rfl, rfl⟩ := h
        cases hpassed
        rfl
  | cons i rest ih =>
      cases hp : (Injector.before i player action data).1.proceed with
      | false =>
          rw [beforeFrom_cons_of_veto hp]
          constructor
          · intro h
            cases h
          · intro h
            obtain ⟨verdicts, hpassed, -⟩ := h
            cases hpassed with
            | cons hi hpass _ => simp [hi, hpass] at hp
      | true =>
          rw [beforeFrom_cons_of_proceed hp]
          constructor
          · intro h
            obtain ⟨hjoint, rfl⟩ := Prod.mk.inj h
            obtain ⟨verdicts, hpassed, rfl, rfl⟩ := ih.mp (Prod.ext hjoint rfl)
            exact ⟨_, .cons rfl hp hpassed, (scaled_foldl _ _ _).symm, (lastTold_cons _ _ _).symm⟩
          · intro h
            obtain ⟨verdicts, hpassed, rfl, rfl⟩ := h
            cases hpassed with
            | cons hi hpass hrest =>
                have hasked := ih.mpr ⟨_, hrest, scaled_foldl _ _ _, lastTold_cons _ _ _⟩
                simp only [hi, hasked]

theorem before_eq_proceed_iff {injectors injectors' : List ι} {action forwarded : Action}
    {multiplier : Float} {told : Option Json} :
    before player action data injectors = (.proceed forwarded multiplier told, injectors') ↔
      ∃ verdicts, Passed player data injectors action verdicts forwarded injectors' ∧
        multiplier = (factors verdicts).foldl (· * ·) 1.0 ∧ told = lastTold verdicts := by
  simp only [before, beforeFrom_eq_proceed_iff, Option.or_none]

/-! ### Cuts -/

/-- The injectors of the second part are asked after those of the first, unless one of these has held the
action back. -/
theorem beforeFrom_append (first second : List ι) (action : Action) (start : Float)
    (said : Option Json) :
    beforeFrom player data (first ++ second) action start said =
      match beforeFrom player data first action start said with
      | (.vetoed name told, first') => (.vetoed name told, first' ++ second)
      | (.proceed forwarded multiplier told, first') =>
        (beforeFrom player data second forwarded multiplier told).map id (first' ++ ·) := by
  induction first generalizing action start said with
  | nil => rfl
  | cons i rest ih =>
      rw [List.cons_append]
      cases hp : (Injector.before i player action data).1.proceed with
      | false =>
          rw [beforeFrom_cons_of_veto hp, beforeFrom_cons_of_veto hp]
          rfl
      | true =>
          rw [beforeFrom_cons_of_proceed hp, beforeFrom_cons_of_proceed hp]
          simp only [ih]
          generalize beforeFrom player data rest _ _ _ = asked
          obtain ⟨joint, rest'⟩ := asked
          cases joint <;> rfl

/-- Two parts let an action through exactly when the first does and the second does with what the first
has made of it. -/
theorem passed_append_iff {first second injectors' : List ι} {action forwarded : Action}
    {verdicts : List Verdict} :
    Passed player data (first ++ second) action verdicts forwarded injectors' ↔
      ∃ ofFirst ofSecond between first' second',
        Passed player data first action ofFirst between first' ∧
        Passed player data second between ofSecond forwarded second' ∧
        verdicts = ofFirst ++ ofSecond ∧ injectors' = first' ++ second' := by
  constructor
  · intro h
    induction first generalizing action verdicts injectors' with
    | nil => exact ⟨[], verdicts, action, [], injectors', .nil action, h, rfl, rfl⟩
    | cons i rest ih =>
        cases h with
        | cons hi hpass hrest =>
            obtain ⟨ofFirst, ofSecond, between, first', second', hfirst, hsecond, rfl, rfl⟩ := ih hrest
            exact ⟨_, ofSecond, between, _, second', .cons hi hpass hfirst, hsecond, rfl, rfl⟩
  · intro h
    obtain ⟨ofFirst, ofSecond, between, first', second', hfirst, hsecond, rfl, rfl⟩ := h
    induction hfirst with
    | nil _ => exact hsecond
    | cons hi hpass _ ih => exact .cons hi hpass (ih hsecond)

/-- A pipeline holds an action back exactly when its injectors pass it on up to one that holds back what
they have made of it. That one is named, it alone speaks to the player, and those behind it are not
asked. -/
theorem before_eq_vetoed_iff {injectors injectors' : List ι} {action : Action} {told : Option Json}
    {name : String} :
    before player action data injectors = (.vetoed name told, injectors') ↔
      ∃ ahead ahead' behind i i' verdicts forwarded verdict,
        injectors = ahead ++ i :: behind ∧ injectors' = ahead' ++ i' :: behind ∧
        Passed player data ahead action verdicts forwarded ahead' ∧
        Injector.before i player forwarded data = (verdict, i') ∧ verdict.proceed = false ∧
        name = Injector.name i' ∧ told = verdict.challenge := by
  constructor
  · intro h
    obtain ⟨ahead, ahead', behind, i, i', forwarded, _, _, verdict, rfl, rfl, hahead, hi, hspoken⟩ :=
      exists_split_of_vetoed h
    obtain ⟨verdicts, hpassed, -, -⟩ := before_eq_proceed_iff.mp hahead
    exact ⟨ahead, ahead', behind, i, i', verdicts, forwarded, verdict, rfl, rfl, hpassed, hi, hspoken⟩
  · intro h
    obtain ⟨ahead, ahead', behind, i, i', verdicts, forwarded, verdict, rfl, rfl, hpassed, hi, hveto,
      rfl, rfl⟩ := h
    have hahead := before_eq_proceed_iff.mpr ⟨verdicts, hpassed, rfl, rfl⟩
    have hlast : (Injector.before i player forwarded data).1.proceed = false := by rw [hi, hveto]
    rw [before] at hahead ⊢
    rw [beforeFrom_append, hahead]
    simp only [beforeFrom_cons_of_veto hlast, hi, Prod.map, id]

theorem after_append {action : Action} (first second : List ι) (outcome : Outcome) :
    after player action (first ++ second) outcome =
      (after player action second (after player action first outcome).1).map id
        ((after player action first outcome).2 ++ ·) := by
  induction first generalizing outcome with
  | nil => rfl
  | cons i rest ih =>
      rw [List.cons_append, after]
      simp only [ih]
      rfl

/-! ### The data of a fresh game -/

variable {players : List PlayerId}

theorem sorted_prepare {injectors : List ι}
    (h : ∀ i ∈ injectors, Dict.Sorted (Injector.prepare i players).1) :
    Dict.Sorted (prepare players injectors).1 := by
  cases injectors with
  | nil => exact List.Pairwise.nil
  | cons i rest => exact Dict.sorted_insertAll (h i List.mem_cons_self) _

theorem get?_prepare_cons {i : ι} {rest : List ι} (key : String)
    (hrest : ∀ j ∈ rest, Dict.Sorted (Injector.prepare j players).1) :
    Dict.get? (prepare players (i :: rest)).1 key
      = (Dict.get? (prepare players rest).1 key).or (Dict.get? (Injector.prepare i players).1 key) :=
  Dict.get?_insertAll_of_sorted _ (sorted_prepare hrest) key

theorem get?_prepare_eq_none_iff {injectors : List ι} {key : String}
    (h : ∀ i ∈ injectors, Dict.Sorted (Injector.prepare i players).1) :
    Dict.get? (prepare players injectors).1 key = none ↔
      ∀ i ∈ injectors, Dict.get? (Injector.prepare i players).1 key = none := by
  induction injectors with
  | nil => simp [prepare]
  | cons first rest ih =>
      have hrest := fun j hj => h j (List.mem_cons_of_mem first hj)
      rw [get?_prepare_cons key hrest, Option.or_eq_none_iff, ih hrest, List.forall_mem_cons, and_comm]

/-- Of the values that injectors put under a name, that of the last one to put any is left. -/
theorem get?_prepare_eq_some_iff {injectors : List ι} {key : String} {value : Json}
    (h : ∀ i ∈ injectors, Dict.Sorted (Injector.prepare i players).1) :
    Dict.get? (prepare players injectors).1 key = some value ↔
      ∃ ahead i behind, injectors = ahead ++ i :: behind ∧
        Dict.get? (Injector.prepare i players).1 key = some value ∧
        ∀ j ∈ behind, Dict.get? (Injector.prepare j players).1 key = none := by
  induction injectors with
  | nil => simp [prepare]
  | cons first rest ih =>
      have hrest := fun j hj => h j (List.mem_cons_of_mem first hj)
      rw [get?_prepare_cons key hrest, Option.or_eq_some_iff, ih hrest]
      constructor
      · intro hvalue
        rcases hvalue with hbehind | hfirst
        · obtain ⟨ahead, i, behind, rfl, hi, hlast⟩ := hbehind
          exact ⟨first :: ahead, i, behind, rfl, hi, hlast⟩
        · exact ⟨[], first, rest, rfl, hfirst.2, (get?_prepare_eq_none_iff hrest).mp hfirst.1⟩
      · intro hvalue
        obtain ⟨ahead, i, behind, hinjectors, hi, hlast⟩ := hvalue
        cases ahead with
        | nil =>
            obtain ⟨rfl, rfl⟩ := List.cons.inj hinjectors
            exact .inr ⟨(get?_prepare_eq_none_iff hrest).mpr hlast, hi⟩
        | cons _ ahead =>
            obtain ⟨rfl, rfl⟩ := List.cons.inj hinjectors
            exact .inl ⟨ahead, i, behind, rfl, hi, hlast⟩

theorem prepare_snd (players : List PlayerId) (injectors : List ι) :
    (prepare players injectors).2 = injectors.map fun i => (Injector.prepare i players).2 := by
  induction injectors with
  | nil => rfl
  | cons i rest ih => exact congrArg (List.cons _) ih

/-! ### The pipeline of two parts -/

/-- Two lists of injectors, one behind the other, do what the two do in turn.

* Before an action the second is asked with what the first has made of it, unless the first vetoes.
* The whole lets the action through exactly when both parts do. The multiplier is the product of the
  finite factors, from left to right; what is told is the last thing that was to be told.
* The whole vetoes exactly when, in order of registration, some injector holds back the action that the
  injectors ahead of it have made. It is named, it alone is heard, and the ones behind it stay as they
  were.
* After an action the second is handed the outcome of the first.
* In a fresh game the last injector that has a value for a name puts it there. -/
theorem pipeline_composes (first second : List ι) (players : List PlayerId) (player : PlayerId)
    (action : Action) (data : Data) (outcome : Outcome)
    (hfragments : ∀ i ∈ first ++ second, Dict.Sorted (Injector.prepare i players).1) :
    (before player action data (first ++ second) =
      match before player action data first with
      | (.vetoed name told, first') => (.vetoed name told, first' ++ second)
      | (.proceed forwarded multiplier told, first') =>
        (beforeFrom player data second forwarded multiplier told).map id (first' ++ ·)) ∧
    (∀ forwarded multiplier told injectors',
      before player action data (first ++ second) = (.proceed forwarded multiplier told, injectors') ↔
        ∃ ofFirst ofSecond between first' second',
          Passed player data first action ofFirst between first' ∧
          Passed player data second between ofSecond forwarded second' ∧
          injectors' = first' ++ second' ∧
          multiplier = (factors (ofFirst ++ ofSecond)).foldl (· * ·) 1.0 ∧
          told = lastTold (ofFirst ++ ofSecond)) ∧
    (∀ name told injectors',
      before player action data (first ++ second) = (.vetoed name told, injectors') ↔
        ∃ ahead ahead' behind i i' verdicts forwarded verdict,
          first ++ second = ahead ++ i :: behind ∧ injectors' = ahead' ++ i' :: behind ∧
          Passed player data ahead action verdicts forwarded ahead' ∧
          Injector.before i player forwarded data = (verdict, i') ∧ verdict.proceed = false ∧
          name = Injector.name i' ∧ told = verdict.challenge) ∧
    (after player action (first ++ second) outcome =
      (after player action second (after player action first outcome).1).map id
        ((after player action first outcome).2 ++ ·)) ∧
    (∀ key value, Dict.get? (prepare players (first ++ second)).1 key = some value ↔
      ∃ ahead i behind, first ++ second = ahead ++ i :: behind ∧
        Dict.get? (Injector.prepare i players).1 key = some value ∧
        ∀ j ∈ behind, Dict.get? (Injector.prepare j players).1 key = none) ∧
    (prepare players (first ++ second)).2
      = (first ++ second).map fun i => (Injector.prepare i players).2 := by
  refine ⟨beforeFrom_append first second action 1.0 none, ?_, ?_, after_append first second outcome, ?_,
    prepare_snd players (first ++ second)⟩
  · intro forwarded multiplier told injectors'
    rw [before_eq_proceed_iff]
    constructor
    · intro h
      obtain ⟨verdicts, hpassed, hmultiplier, htold⟩ := h
      obtain ⟨ofFirst, ofSecond, between, first', second', hfirst, hsecond, rfl, rfl⟩ :=
        passed_append_iff.mp hpassed
      exact ⟨ofFirst, ofSecond, between, first', second', hfirst, hsecond, rfl, hmultiplier, htold⟩
    · intro h
      obtain ⟨ofFirst, ofSecond, between, first', second', hfirst, hsecond, rfl, hmultiplier, htold⟩ := h
      have hpassed := passed_append_iff.mpr
        ⟨ofFirst, ofSecond, between, first', second', hfirst, hsecond, rfl, rfl⟩
      exact ⟨ofFirst ++ ofSecond, hpassed, hmultiplier, htold⟩
  · intro name told injectors'
    exact before_eq_vetoed_iff
  · intro key value
    exact get?_prepare_eq_some_iff hfragments

/-- Two injectors, of which the first makes passes of clicks, and the second holds passes back: together they
hold back a click, and let a wave through with the words of the first. Both leave their stamps, in their
order, and the second says what a fresh game holds. -/
theorem pipeline_composes_of_probes :
    let first : List Trial := [.probe {
      name := "first", renames := [("click", .str "pass")], challenge := some (.str "one")
      stamp := some "a", fragment := [("seat", .nat 1)] }]
    let second : List Trial := [.probe {
      name := "second", vetoOn := some "pass", stamp := some "b", fragment := [("seat", .nat 2)] }]
    (∀ i ∈ first ++ second, Dict.Sorted (Injector.prepare i ["ann"]).1) ∧
      before "ann" { kind := "click" } [] (first ++ second) = (.vetoed "second" none, first ++ second) ∧
      before "ann" { kind := "wave" } [] (first ++ second)
        = (.proceed { kind := "wave" } 1.0 (some (.str "one")), first ++ second) ∧
      Dict.get? (after "ann" { kind := "wave" } (first ++ second) ⟨[], [], none⟩).1.data "trail"
        = some (.str "ab") ∧
      Dict.get? (prepare ["ann"] (first ++ second)).1 "seat" = some (.nat 2) := by
  intro first second
  have hfragments : ∀ i ∈ first ++ second, Dict.Sorted (Injector.prepare i ["ann"]).1 := by
    intro i hi
    rcases List.mem_cons.mp hi with rfl | hi
    · exact List.pairwise_singleton _ _
    · obtain rfl := List.mem_singleton.mp hi
      exact List.pairwise_singleton _ _
  have hlaws (kind : String) :=
    pipeline_composes first second ["ann"] "ann" { kind := kind } [] ⟨[], [], none⟩ hfragments
  obtain ⟨-, -, hveto, -, hfragment, -⟩ := hlaws "click"
  obtain ⟨-, hproceed, -, hafter, -, -⟩ := hlaws "wave"
  have hclick : Passed "ann" [] first { kind := "click" }
      [{ action := some { kind := "pass" }, challenge := some (.str "one") }] { kind := "pass" } first :=
    .cons rfl rfl (.nil _)
  have hwave : Passed "ann" [] first { kind := "wave" } [{ challenge := some (.str "one") }]
      { kind := "wave" } first := .cons rfl rfl (.nil _)
  have hwave' : Passed "ann" [] second { kind := "wave" } [{}] { kind := "wave" } second :=
    .cons rfl rfl (.nil _)
  refine ⟨hfragments, (hveto _ _ _).mpr ?_, (hproceed _ _ _ _).mpr ?_, ?_, (hfragment _ _).mpr ?_⟩
  · exact ⟨first, first, [], _, _, _, _, _, rfl, rfl, hclick, rfl, rfl, rfl, rfl⟩
  · exact ⟨_, _, _, _, _, hwave, hwave', rfl, rfl, rfl⟩
  · rw [hafter]
    rfl
  · exact ⟨first, _, [], rfl, rfl, fun j hj => absurd hj List.not_mem_nil⟩

end Arcade.Play.Pipeline
