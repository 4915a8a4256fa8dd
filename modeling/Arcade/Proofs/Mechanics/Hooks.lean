import Arcade.Mechanics.BuiltIn
import Arcade.Proofs.Dict
import Arcade.Proofs.Play.Lifecycle
import Arcade.Proofs.Play.Pipeline
/-!
# What built-in injectors do to the data of a game

Of all names in the data they touch one, that of the energy balances: when a game starts
(`key_of_mem_prepare`) and after each processed action (`not_rewrites`). The only events they emit are
those about balances, so they never tell the end of a game (`discreet`).
-/

namespace Arcade.Mechanics

open Play

/-- No built-in injector tells the end of a game. -/
theorem discreet : Discreet BuiltIn := by
  intro i player action outcome h
  cases i with
  | challenge c => exact h
  | energy e => exact quiet_append.mpr ⟨h, by simp [Quiet, Event.tellsEnd]⟩

/-- What built-in injectors add to the data of a fresh game are energy balances. -/
theorem key_of_mem_prepare {players : List PlayerId} {injectors : List BuiltIn} {e : String × Json}
    (h : e ∈ (Pipeline.prepare players injectors).1) : e.1 = Energy.key := by
  induction injectors with
  | nil => exact absurd h List.not_mem_nil
  | cons i rest ih =>
      rcases Dict.mem_insertAll h with hfirst | hrest
      · cases i with
        | energy energy => exact congrArg Prod.fst (List.mem_singleton.mp hfirst)
        | challenge c => exact absurd hfirst List.not_mem_nil
      · exact ih hrest

/-- After an action built-in injectors change nothing in the data but energy balances. -/
theorem not_rewrites (i : BuiltIn) {key : String} (hkey : key ≠ Energy.key) :
    ¬ Pipeline.Rewrites i key := by
  rintro ⟨player, action, outcome, hne⟩
  cases i with
  | challenge c => exact hne rfl
  | energy e => exact hne (Dict.get?_insert_of_ne _ _ hkey.symm)

/-- Built-in injectors touch nothing but energy balances. -/
theorem avoids {key : String} (hkey : key ≠ Energy.key) :
    Pipeline.Avoids (fun _ : BuiltIn => True) key where
  prepare {i} players _ := by
    refine ⟨fun e he => ?_, trivial⟩
    cases i with
    | energy energy =>
        rw [congrArg Prod.fst (List.mem_singleton.mp he)]
        exact hkey.symm
    | challenge c => exact absurd he List.not_mem_nil
  before _ _ _ _ := trivial
  after player action outcome _ :=
    ⟨Classical.byContradiction fun hne => not_rewrites _ hkey ⟨player, action, outcome, hne⟩, trivial⟩

end Arcade.Mechanics
