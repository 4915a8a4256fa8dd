import Arcade.Mechanics.BuiltIn
import Arcade.Proofs.Json.Decoding
import Arcade.Proofs.Mechanics.Questions
/-!
# Built-in injectors as they are built

What a configuration asks for is built from the catalog one by one (`exists_spec_of_mem`), and is an
energy injector or a challenge, by its name (`builtIn_of_build`). A challenge begins without a question
(`Challenge.pending_of_ofOptions`), and the maximum of an energy injector fits the word in which balances
are stored (`Energy.max_le_of_ofOptions`).
-/

namespace Arcade

open Play

theorem Play.Catalog.exists_spec_of_mem {ι : Type} {catalog : Catalog ι} {specs : List InjectorSpec}
    {injectors : List ι} (h : catalog.buildAll specs = .ok injectors) {i : ι} (hi : i ∈ injectors) :
    ∃ spec ∈ specs, catalog.build spec = .ok i := by
  induction specs generalizing injectors with
  | nil =>
      obtain rfl := Except.ok.inj h
      exact absurd hi List.not_mem_nil
  | cons spec rest ih =>
      simp only [buildAll] at h
      cases hspec : catalog.build spec with
      | error fault =>
          rw [hspec] at h
          cases h
      | ok first =>
          cases hrest : catalog.buildAll rest with
          | error fault =>
              rw [hspec, hrest] at h
              cases h
          | ok more =>
              rw [hspec, hrest] at h
              obtain rfl := Except.ok.inj h
              rcases List.mem_cons.mp hi with rfl | hi
              · exact ⟨spec, List.mem_cons_self, hspec⟩
              · obtain ⟨spec', hmem, hbuild⟩ := ih hrest hi
                exact ⟨spec', List.mem_cons_of_mem _ hmem, hbuild⟩

namespace Mechanics

/-- What is built from the catalog goes by its name. -/
theorem builtIn_of_build {spec : InjectorSpec} {i : BuiltIn}
    (h : BuiltIn.catalog.build spec = .ok i) :
    (spec.name = "energy" ∧ ∃ e, Energy.ofOptions spec.options = .ok e ∧ i = .energy e) ∨
      (spec.name = "challenge" ∧ ∃ c, Challenge.ofOptions spec.options = .ok c ∧ i = .challenge c) := by
  simp only [Catalog.build, BuiltIn.catalog, Dict.get?] at h
  by_cases hchallenge : "challenge" = spec.name
  · rw [if_pos hchallenge] at h
    dsimp only at h
    cases hc : Challenge.ofOptions spec.options with
    | error fault =>
        rw [hc] at h
        cases h
    | ok c =>
        rw [hc] at h
        cases h
        exact Or.inr ⟨hchallenge.symm, c, rfl, rfl⟩
  · by_cases henergy : "energy" = spec.name
    · rw [if_neg hchallenge, if_pos henergy] at h
      dsimp only at h
      cases he : Energy.ofOptions spec.options with
      | error fault =>
          rw [he] at h
          cases h
      | ok e =>
          rw [he] at h
          cases h
          exact Or.inl ⟨henergy.symm, e, rfl, rfl⟩
    · rw [if_neg hchallenge, if_neg henergy] at h
      cases h

/-- A challenge begins without a question. -/
theorem Challenge.pending_of_ofOptions {options : Json} {c : Challenge}
    (h : Challenge.ofOptions options = .ok c) : c.pending = [] := by
  unfold ofOptions at h
  split at h
  · cases h
    rfl
  · split at h
    · cases h
    · split at h
      · cases h
      · split at h
        · cases h
        · cases h
          rfl

/-- No question waits in injectors that were just built. -/
theorem unasked_of_buildAll {specs : List InjectorSpec} {injectors : List BuiltIn}
    (h : BuiltIn.catalog.buildAll specs = .ok injectors) :
    ∀ c ∈ challenges injectors, c.pending = [] := by
  intro c hc
  obtain ⟨spec, -, hbuild⟩ := Catalog.exists_spec_of_mem h (mem_challenges.mp hc)
  rcases builtIn_of_build hbuild with ⟨-, e, -, he⟩ | ⟨-, c', hoptions, hc'⟩
  · cases he
  · obtain rfl := BuiltIn.challenge.inj hc'
    exact Challenge.pending_of_ofOptions hoptions

theorem le_max64_of_nat {r : Json.Reading} {n : Nat} (h : Json.Decode.nat r = .ok n) :
    n ≤ Words.max64 := by
  unfold Json.Decode.nat Json.Decode.word at h
  cases hread : Json.Decode.intWithin 0 Words.max64 "u64" r with
  | error fault =>
      rw [hread] at h
      cases h
  | ok k =>
      rw [hread] at h
      obtain rfl : k.toNat = n := Except.ok.inj h
      unfold Json.Decode.intWithin at hread
      split at hread
      · split at hread
        next hbounds =>
          cases hread
          omega
        · cases hread
      · cases hread

/-- The maximum that options ask for fits a word. -/
theorem Energy.max_le_of_ofOptions {options : Json} {e : Energy}
    (h : Energy.ofOptions options = .ok e) : e.max ≤ Words.max64 := by
  unfold ofOptions at h
  split at h
  · cases h
    decide
  · split at h
    · cases h
    next e' hdecode =>
      have hstart : schema.start.max ≤ Words.max64 := by decide
      have hstore : ∀ f ∈ schema.fields, ∀ r (s s' : Energy), f.store r s = .ok s' →
          s.max ≤ Words.max64 → s'.max ≤ Words.max64 := by
        intro f hf r s s' hstore hs
        simp only [schema, List.mem_cons, List.not_mem_nil, or_false] at hf
        rcases hf with rfl | rfl | rfl <;> obtain ⟨n, hn, rfl⟩ := Json.Field.store_of hstore
        · exact le_max64_of_nat hn
        · exact hs
        · exact hs
      obtain ⟨e'', hmax, hfinish⟩ := Json.Schema.invariant_of_decode hstart hstore hdecode
      obtain rfl : e'' = e' := Except.ok.inj hfinish
      split at h
      · cases h
      · obtain rfl : e'' = e := Except.ok.inj h
        exact hmax

end Mechanics

end Arcade
