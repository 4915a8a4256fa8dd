import Arcade.Duel.Engine
import Arcade.Proofs.Dict
/-!
# What a duel engine does

Entities are adopted one after the other, and so are inputs; either only reaches the fighters
(`OnlyFighters`), also when it stops at somebody who has no seat. If all have a seat, each fighter is as
the last entity with his id shows him (`adoptAll_ok`). A resumption that fails in the middle leaves a
match in its first countdown behind (`Restarted`, `resumeEngine_error`), and the next frame that such an
engine shows is frame number one (`frame_of_simulate`).
-/

namespace Arcade.Duel

open Live

/-- Two matches that differ at most in their fighters. -/
def OnlyFighters (m m' : Match) : Prop :=
  m' = { m with left := m'.left, right := m'.right }

theorem OnlyFighters.refl (m : Match) : OnlyFighters m m := rfl

theorem OnlyFighters.trans {m m' m'' : Match} (h : OnlyFighters m m') (h' : OnlyFighters m' m'') :
    OnlyFighters m m'' := by
  unfold OnlyFighters at h h' ⊢
  rw [h] at h'
  exact h'

theorem onlyFighters_of_updateFighter? {m m' : Match} {id : String} {f : Fighter → Fighter}
    (h : m.updateFighter? id f = some m') : OnlyFighters m m' := by
  unfold Match.updateFighter? at h
  split at h
  · cases h
    rfl
  · split at h
    · cases h
      rfl
    · cases h

/-- What a frame shows. -/
theorem Match.frameOf_eq_iff {m m' : Match} : DuelEngine.frameOf m' = DuelEngine.frameOf m ↔
    m'.frame = m.frame ∧ (m'.left.entity = m.left.entity ∧ m'.right.entity = m.right.entity) ∧
      m'.phase = m.phase ∧ m'.round = m.round ∧ m'.timerFrames = m.timerFrames ∧
      m'.roundWins = m.roundWins ∧ m'.winner = m.winner := by
  simp [DuelEngine.frameOf]

namespace DuelEngine

/-- Entities are adopted unless one of them has no seat. -/
theorem adoptAll_cases {entities : List Entity} {m m' : Match} {answer : Except EngineFailure Unit}
    (h : adoptAll entities m = (answer, m')) :
    OnlyFighters m m' ∧ (answer = .ok () ∨ ∃ p, answer = .error (.unknownPlayer p)) := by
  induction entities generalizing m with
  | nil =>
      cases h
      exact ⟨.refl _, Or.inl rfl⟩
  | cons e rest ih =>
      rw [adoptAll] at h
      cases hu : m.updateFighter? e.id (·.adopt e) with
      | none =>
          rw [hu] at h
          cases h
          exact ⟨.refl _, Or.inr ⟨e.id, rfl⟩⟩
      | some m₁ =>
          rw [hu] at h
          obtain ⟨honly, hanswer⟩ := ih h
          exact ⟨(onlyFighters_of_updateFighter? hu).trans honly, hanswer⟩

/-- A fighter as a list of entities shows him, by the last one with his id. -/
def shownIn (entities : List Entity) (f : Fighter) : Fighter :=
  match (entities.filter fun e => e.id = f.id).getLast? with
  | some e => f.adopt e
  | none => f

theorem id_shownIn (entities : List Entity) (f : Fighter) : (shownIn entities f).id = f.id := by
  unfold shownIn
  split <;> rfl

theorem shownIn_cons (e : Entity) (rest : List Entity) (f : Fighter) :
    shownIn (e :: rest) f = shownIn rest (if e.id = f.id then f.adopt e else f) := by
  unfold shownIn
  by_cases hid : e.id = f.id
  · -- who is adopted twice is as the second time shows him
    have hagain : ∀ e', (f.adopt e).adopt e' = f.adopt e' := fun _ => rfl
    have hsame : (f.adopt e).id = f.id := rfl
    rw [if_pos hid, hsame, List.filter_cons_of_pos (by simpa using hid), List.getLast?_cons]
    cases (rest.filter fun e => e.id = f.id).getLast? with
    | none => rfl
    | some e' => exact (hagain e').symm
  · rw [if_neg hid, List.filter_cons_of_neg (by simpa using hid)]

/-- Entities that all have a seat make the fighters what they show. -/
theorem adoptAll_ok {entities : List Entity} {m m' : Match}
    (h : adoptAll entities m = (.ok (), m')) (hne : m.left.id ≠ m.right.id) :
    m' = { m with left := shownIn entities m.left, right := shownIn entities m.right } := by
  induction entities generalizing m with
  | nil =>
      cases h
      rfl
  | cons e rest ih =>
      rw [adoptAll, Match.updateFighter?] at h
      by_cases hleft : m.left.id = e.id
      · have hright : e.id ≠ m.right.id := hleft ▸ hne
        rw [if_pos hleft] at h
        rw [ih h hne, shownIn_cons, shownIn_cons, if_pos hleft.symm, if_neg hright]
      · rw [if_neg hleft] at h
        by_cases hright : m.right.id = e.id
        · rw [if_pos hright] at h
          rw [ih h hne, shownIn_cons, shownIn_cons, if_neg (Ne.symm hleft), if_pos hright.symm]
        · rw [if_neg hright] at h
          cases h

/-- A fresh match was begun in the engine, and some of its fighters may have been adopted. -/
def Restarted (slot slot' : Slot DuelEngine) : Prop :=
  ∃ engine left right seed m, slot = .attached engine ∧
    slot' = .attached { engine with current := some m } ∧
    OnlyFighters (Match.begin engine.config left right seed) m

/-- A resumption that fails leaves the engine as it was, unless it fails for an entity that has no
seat: by then the engine has begun a fresh match. -/
theorem resumeEngine_error {slot slot' : Slot DuelEngine} {players : List PlayerId} {frame : Frame}
    {fault : EngineFailure}
    (h : Adapter.resumeEngine slot players frame = (.error fault, slot')) :
    ((∀ p, fault ≠ .unknownPlayer p) ∧ slot' = slot) ∨
      ((∃ p, fault = .unknownPlayer p) ∧ Restarted slot slot') := by
  cases slot with
  | disposed =>
      cases h
      exact Or.inl ⟨by simp, rfl⟩
  | detached => cases h
  | attached engine =>
      rcases players with _ | ⟨left, _ | ⟨right, _ | ⟨third, rest⟩⟩⟩
      · cases h
        exact Or.inl ⟨by simp, rfl⟩
      · cases h
        exact Or.inl ⟨by simp, rfl⟩
      · -- the seats are two, so the fresh match has begun before the first entity is looked at
        right
        rcases hadopt : adoptAll frame.entities
          (Match.begin engine.config left right (Adapter.frameSeed frame)) with ⟨answer, m⟩
        obtain ⟨honly, hanswer⟩ := adoptAll_cases hadopt
        simp only [Adapter.resumeEngine, Engine.start, start, Engine.resume, resume, hadopt] at h
        rcases hanswer with rfl | ⟨p, rfl⟩
        · cases h
        · cases h
          exact ⟨⟨p, rfl⟩, engine, left, right, _, m, rfl, rfl, honly⟩
      · cases h
        exact Or.inl ⟨by simp, rfl⟩

/-- Inputs only reach the fighters. -/
theorem setInputs_current {inputs : InputBuffer} {players : List PlayerId} {engine engine' : DuelEngine}
    {answer : Except EngineFailure Unit} {m : Match}
    (h : Adapter.setInputs inputs players engine = (answer, engine'))
    (hm : engine.current = some m) : ∃ m', engine'.current = some m' ∧ OnlyFighters m m' := by
  induction players generalizing engine m with
  | nil =>
      cases h
      exact ⟨m, hm, .refl m⟩
  | cons p rest ih =>
      simp only [Adapter.setInputs, Engine.setInput, setInput, hm] at h
      cases hu : m.updateFighter? p (fun f => { f with input := inputs.pressed p }) with
      | none =>
          rw [hu] at h
          cases h
          exact ⟨m, hm, .refl m⟩
      | some m₁ =>
          rw [hu] at h
          obtain ⟨m', hm', honly⟩ := ih h rfl
          exact ⟨m', hm', (onlyFighters_of_updateFighter? hu).trans honly⟩

/-- The next frame of a match that has just begun is its first. -/
theorem frame_of_simulate {inputs : InputBuffer} {players : List PlayerId}
    {engine engine' : DuelEngine} {m : Match} {frame : Frame} {config : Config}
    {left right : String} {seed : UInt64}
    (h : Adapter.simulate inputs players engine = (.ok frame, engine'))
    (hm : engine.current = some m)
    (hbegun : OnlyFighters (Match.begin config left right seed) m) :
    frame.frame = 1 ∧ Dict.Sorted frame.info.roundWins := by
  unfold Adapter.simulate at h
  rcases hset : Adapter.setInputs inputs players engine with ⟨answer, engine₁⟩
  rw [hset] at h
  cases answer with
  | error failure => cases h
  | ok _ =>
      obtain ⟨m₁, hm₁, honly⟩ := setInputs_current hset hm
      have hstill : OnlyFighters (Match.begin config left right seed) m₁ := hbegun.trans honly
      unfold OnlyFighters at hstill
      rw [hstill] at hm₁
      simp only [Engine.step, step, hm₁, Engine.snapshot, snapshot, Prod.mk.injEq,
        Except.ok.injEq] at h
      obtain ⟨rfl, -⟩ := h
      exact ⟨rfl, Dict.sorted_ofList _⟩

end DuelEngine

end Arcade.Duel
