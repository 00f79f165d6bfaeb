/-
**When a fade that has come to its end runs again.**

A fade registers one motion, and when its sprite has faded away, the motion is gone. The fade learns of that
only when it runs the next time, and from then on it never does anything. But if it is called off before it
has learned of its end, it forgets that it ever ran, and the next time it fades anew.

* `Bench.FadesAway`: in a frame the motion of a fade comes to its end;
* `Bench.Fades`: a fade has registered one motion at most;
* `Bench.Rests`: nothing of a fade is registered;
* `Bench.StaysOut`: it registers nothing any more, however often it runs;
* `Deed.restarts`: a fade is called off before it runs, and runs later;
* `Bench.fades_once_iff`: every run.
-/

import Storybook.Proofs.Watching.Bench

namespace Storybook

/-! ### One frame -/

namespace Motion

variable {sprite : SpriteId} {speed delta : Single} {stage : Stage}

/-- A fade stays the same. -/
theorem motion_step_fade :
    ((fade sprite speed).step stage delta).motion = .fade sprite speed := by
  unfold step
  dsimp only [Motion.sprite]
  split
  · rfl
  · split <;> rfl

/-- A fade ends when the alpha of its sprite is not above zero any more. -/
theorem finished_step_fade {there : Sprite} (found : stage.find? sprite = some there) :
    ((fade sprite speed).step stage delta).finished = true ↔ ¬ 0 < there.alpha - speed * delta := by
  unfold step
  dsimp only [Motion.sprite]
  rw [found]
  by_cases visible : 0 < there.alpha - speed * delta <;> simp [visible]

end Motion

namespace Bench

variable {bench : Bench} {sprite : SpriteId} {speed : Single} {state : FadeState} {tick : TickId}

/-- **In a frame the sprite of a fade fades away**: on the stage that the motion meets, its alpha would not
be above zero any more. -/
def FadesAway (sprite : SpriteId) (speed : Single) (span : Nat) (bench : Bench) : Prop :=
  ∃ there, (bench.met span).find? sprite = some there ∧ ¬ 0 < there.alpha - speed * Span.frames span

/-- **The motion of a fade ends when its sprite fades away**, and only then while the sprite is there. -/
theorem motions_tick_fade (only : bench.motions = [(tick, .fade sprite speed)])
    (live : bench.around.world.stage.isLive sprite = true) (span : Nat) :
    (bench.perform (.others (.tick span))).motions = [] ↔ bench.FadesAway sprite speed span := by
  have there := Stage.isLive_iff.mpr (mem_keys_met live span)
  obtain ⟨met, found⟩ := Option.isSome_iff_exists.mp there
  have ends : ((Motion.fade sprite speed).step (bench.met span) (Span.frames span)).finished = true ↔
      ¬ 0 < met.alpha - speed * Span.frames span := Motion.finished_step_fade found
  rw [motions_tick only]
  dsimp only
  constructor
  · intro gone
    refine ⟨met, found, ends.mp ?_⟩
    by_contra goesOn
    rw [if_neg goesOn] at gone
    cases gone
  · rintro ⟨other, same, faded⟩
    cases found.symm.trans same
    rw [if_pos (ends.mpr faded)]

/-! ### One motion at most -/

/-- **A fade has registered one motion at most**, and it knows of it. -/
structure Fades (sprite : SpriteId) (speed : Single) (state : FadeState) (bench : Bench) : Prop where
  sound : bench.Sound
  effect : bench.effect = .fadeOut sprite speed state
  motions : bench.motions = [] ∨
    ∃ tick, state = .fading tick ∧ bench.motions = [(tick, .fade sprite speed)]

/-- **Nothing of a fade is registered.** -/
structure Rests (sprite : SpriteId) (speed : Single) (state : FadeState) (bench : Bench) : Prop where
  sound : bench.Sound
  effect : bench.effect = .fadeOut sprite speed state
  motions : bench.motions = []

theorem Rests.fades (rests : Rests sprite speed state bench) : Fades sprite speed state bench :=
  ⟨rests.sound, rests.effect, Or.inl rests.motions⟩

/-- A fade that runs goes on. -/
theorem execute_of_isRegistered {world : World} (runs : world.animator.isRegistered tick = true) :
    (Effect.fadeOut sprite speed (.fading tick)).execute world =
      (.fadeOut sprite speed (.fading tick), world) := by
  simp only [Effect.execute, FadeState.execute, FadeState.refresh, if_pos runs]

/-- A fade whose motion is gone is done. -/
theorem execute_of_not_isRegistered {world : World} (ended : ¬ world.animator.isRegistered tick = true) :
    (Effect.fadeOut sprite speed (.fading tick)).execute world =
      (.fadeOut sprite speed .done, world) := by
  simp only [Effect.execute, FadeState.execute, FadeState.refresh, if_neg ended]

/-- Nothing is registered under the handle of an effect that has registered nothing. -/
theorem not_isRegistered_of_motions (none : bench.motions = []) (mine : tick ∈ bench.held) :
    ¬ bench.around.world.animator.isRegistered tick = true := by
  intro there
  obtain ⟨entry, member, rfl⟩ := Animator.isRegistered_iff.mp there
  exact List.filter_eq_nil_iff.mp none entry member (decide_eq_true mine)

namespace Rests

/-- A fade of which nothing is registered fades anew when it is idle. -/
theorem execute_idle (rests : Rests sprite speed .idle bench) :
    ∃ tick, Fades sprite speed (.fading tick) (bench.perform .execute) ∧
      (bench.perform .execute).motions = [(tick, .fade sprite speed)] := by
  have sound := rests.sound.perform .execute
  have registered := rests.sound.under_register (.fade sprite speed)
  rw [perform_execute rests.effect] at sound ⊢
  dsimp only at registered
  rw [rests.motions] at registered
  exact ⟨_, ⟨sound, rfl, Or.inr ⟨_, rfl, registered⟩⟩, registered⟩

/-- **A fade that runs after its end is done.** -/
theorem execute_fading (rests : Rests sprite speed (.fading tick) bench) :
    Rests sprite speed .done (bench.perform .execute) := by
  have sound := rests.sound.perform .execute
  have mine : tick ∈ bench.held := by
    refine rests.sound.mine tick ?_
    rw [rests.effect]
    exact List.mem_singleton.mpr rfl
  rw [perform_execute rests.effect,
    execute_of_not_isRegistered (not_isRegistered_of_motions rests.motions mine)] at sound ⊢
  exact ⟨sound, rfl, rests.motions⟩

/-- A fade that is called off has nothing registered, and is idle unless it is done. -/
theorem cancel (rests : Rests sprite speed state bench) :
    Rests sprite speed (if state = .done then .done else .idle) (bench.perform .cancel) := by
  have sound := rests.sound.perform .cancel
  rw [perform_cancel rests.effect] at sound ⊢
  cases state with
  | idle => exact ⟨sound, rfl, rests.motions⟩
  | done => exact ⟨sound, rfl, rests.motions⟩
  | fading tick =>
    refine ⟨sound, rfl, ?_⟩
    have none : bench.around.world.animator.under bench.held = [] := rests.motions
    show (bench.around.world.animator.deregister tick).2.under bench.held = []
    rw [Animator.under_deregister, none, List.filter_nil]

theorem others (rests : Rests sprite speed state bench) (doing : Doing) :
    Rests sprite speed state (bench.perform (.others doing)) :=
  ⟨rests.sound.perform _, rests.effect, rests.sound.motions_others_eq_nil rests.motions doing⟩

/-- **A fade that is done stays so, whatever happens.** -/
theorem done (rests : Rests sprite speed .done bench) (deed : Deed) :
    Rests sprite speed .done (bench.perform deed) := by
  cases deed with
  | execute =>
    have sound := rests.sound.perform .execute
    rw [perform_execute rests.effect] at sound ⊢
    exact ⟨sound, rfl, rests.motions⟩
  | cancel => exact rests.cancel
  | others doing => exact rests.others doing

end Rests

namespace Fades

/-- A fade that has registered nothing rests. -/
theorem rests (fades : Fades sprite speed state bench) (none : bench.motions = []) :
    Rests sprite speed state bench :=
  ⟨fades.sound, fades.effect, none⟩

/-- The only motion of a fade is registered under the handle that it holds. -/
theorem isRegistered (only : bench.motions = [(tick, .fade sprite speed)]) :
    bench.around.world.animator.isRegistered tick = true := by
  have member : (tick, Motion.fade sprite speed) ∈ bench.motions := only ▸ List.mem_cons_self
  exact Animator.isRegistered_of_mem_under member

/-- **A fade never registers a second motion**, whatever happens. -/
theorem perform (fades : Fades sprite speed state bench) (deed : Deed) :
    ∃ after, Fades sprite speed after (bench.perform deed) := by
  have sound := fades.sound.perform deed
  rcases fades.motions with none | ⟨tick, rfl, only⟩
  · have rests := fades.rests none
    cases deed with
    | execute =>
      cases state with
      | idle =>
        obtain ⟨tick, next, _⟩ := rests.execute_idle
        exact ⟨_, next⟩
      | fading tick => exact ⟨_, rests.execute_fading.fades⟩
      | done => exact ⟨_, (rests.done .execute).fades⟩
    | cancel => exact ⟨_, rests.cancel.fades⟩
    | others doing => exact ⟨_, (rests.others doing).fades⟩
  · cases deed with
    | execute =>
      -- it runs already
      rw [perform_execute fades.effect, execute_of_isRegistered (isRegistered only)] at sound ⊢
      refine ⟨_, sound, rfl, Or.inr ⟨tick, rfl, ?_⟩⟩
      refine (Animator.under_append_of_subset _ fun other member => ?_).trans only
      exact fades.sound.mine other (fades.effect ▸ member)
    | cancel =>
      rw [perform_cancel fades.effect] at sound ⊢
      exact ⟨_, sound, rfl, Or.inl (Animator.under_deregister_only _ only)⟩
    | others doing =>
      refine ⟨.fading tick, sound, fades.effect, ?_⟩
      rcases doing.tick_or_still with ⟨span, rfl⟩ | still
      · rw [motions_tick only]
        dsimp only
        rw [Motion.motion_step_fade]
        split
        · exact Or.inl rfl
        · exact Or.inr ⟨tick, rfl, rfl⟩
      · rw [fades.sound.motions_others still]
        exact Or.inr ⟨tick, rfl, only⟩

theorem run (fades : Fades sprite speed state bench) (deeds : List Deed) :
    ∃ after, Fades sprite speed after (bench.run deeds) := by
  induction deeds generalizing bench state with
  | nil => exact ⟨state, fades⟩
  | cons deed rest ih =>
    obtain ⟨after, next⟩ := fades.perform deed
    exact ih next

end Fades

/-! ### After the end -/

end Bench

/-- The next call that comes calls an effect off, and it runs later. -/
def Deed.restarts : List Deed → Bool
  | [] => false
  | .others _ :: rest => restarts rest
  | .execute :: _ => false
  | .cancel :: rest => .execute ∈ rest

namespace Bench

variable {bench : Bench} {sprite : SpriteId} {speed : Single} {state : FadeState} {tick : TickId}

/-- **The effect registers nothing any more, however often it runs.** -/
def StaysOut (bench : Bench) (later : List Deed) : Prop :=
  ∀ first rest, later = first ++ .execute :: rest → (bench.run (first ++ [.execute])).motions = []

theorem staysOut_cons {deed : Deed} {rest : List Deed} : bench.StaysOut (deed :: rest) ↔
    (deed = .execute → (bench.perform .execute).motions = []) ∧ (bench.perform deed).StaysOut rest := by
  constructor
  · intro out
    refine ⟨fun same => out [] rest (same ▸ rfl), fun first others split => ?_⟩
    exact out (deed :: first) others (split ▸ rfl)
  · rintro ⟨now, later⟩ first others split
    cases first with
    | nil =>
      obtain ⟨rfl, rfl⟩ := List.cons.inj split
      exact now rfl
    | cons other first =>
      obtain ⟨rfl, rfl⟩ := List.cons.inj split
      exact later first others rfl

namespace Rests

variable {later : List Deed}

/-- A fade that is done never registers anything again. -/
theorem staysOut_done (rests : Rests sprite speed .done bench) : bench.StaysOut later := by
  induction later generalizing bench with
  | nil => exact fun first others split => by simp at split
  | cons deed rest ih =>
    exact staysOut_cons.mpr ⟨fun _ => (rests.done .execute).motions, ih (rests.done deed)⟩

/-- A fade that is idle registers a motion as soon as it runs. -/
theorem staysOut_idle (rests : Rests sprite speed .idle bench) :
    bench.StaysOut later ↔ .execute ∉ later := by
  induction later generalizing bench with
  | nil => exact ⟨fun _ => List.not_mem_nil, fun _ first others split => by simp at split⟩
  | cons deed rest ih =>
    rw [staysOut_cons]
    cases deed with
    | execute =>
      obtain ⟨tick, _, registered⟩ := rests.execute_idle
      refine ⟨fun out => ?_, fun never => absurd List.mem_cons_self never⟩
      cases registered.symm.trans (out.1 rfl)
    | cancel => simpa using ih rests.cancel
    | others doing => simpa using ih (rests.others doing)

/-- **A fade whose motion has ended registers nothing any more, unless it is called off before it runs.** -/
theorem staysOut_fading (rests : Rests sprite speed (.fading tick) bench) :
    bench.StaysOut later ↔ Deed.restarts later = false := by
  induction later generalizing bench with
  | nil => exact ⟨fun _ => rfl, fun _ first others split => by simp at split⟩
  | cons deed rest ih =>
    rw [staysOut_cons]
    cases deed with
    | execute =>
      have done := rests.execute_fading
      exact ⟨fun _ => rfl, fun _ => ⟨fun _ => done.motions, done.staysOut_done⟩⟩
    | cancel =>
      have idle : Rests sprite speed .idle (bench.perform .cancel) := rests.cancel
      simpa [Deed.restarts] using idle.staysOut_idle
    | others doing => simpa [Deed.restarts] using ih (rests.others doing)

end Rests

/-- **When a fade comes to its end once and for all.** Whatever happens to a fade and around it, it has
registered one motion at most. In a frame this motion ends when the sprite fades away, and only then while
the sprite is there. After that no run of the fade registers a motion again, unless the next call after the
end calls the fade off, and it runs later. -/
theorem fades_once_iff (viewport : Viewport) (resources : Asset.Resources) (audio : Audio)
    (before : List Doing) (sprite : SpriteId) (speed : Single) (deeds : List Deed) :
    let bench := (watch (.fadeOut sprite speed .idle)
      ((Surroundings.initial viewport resources audio).run before)).run deeds
    (bench.motions = [] ∨ ∃ tick, bench.motions = [(tick, .fade sprite speed)]) ∧
    ∀ span, bench.motions ≠ [] → bench.around.world.stage.isLive sprite = true →
      let ended := bench.perform (.others (.tick span))
      (ended.motions = [] ↔ bench.FadesAway sprite speed span) ∧
        (bench.FadesAway sprite speed span →
          ∀ later, ended.StaysOut later ↔ ¬ Deed.restarts later = true) := by
  intro bench
  have apart := Surroundings.apart_run (Surroundings.apart_initial viewport resources audio) before
  have made : Rests sprite speed .idle (watch (.fadeOut sprite speed .idle) _) :=
    ⟨sound_watch nofun apart rfl, rfl, List.filter_eq_nil_iff.mpr nofun⟩
  obtain ⟨state, fades⟩ := made.fades.run deeds
  refine ⟨fades.motions.imp_right fun ⟨tick, _, only⟩ => ⟨tick, only⟩, fun span runs live => ?_⟩
  obtain ⟨tick, rfl, only⟩ := fades.motions.resolve_left runs
  have ends := motions_tick_fade only live span
  refine ⟨ends, fun faded later => ?_⟩
  have rests : Rests sprite speed (.fading tick) (bench.perform (.others (.tick span))) :=
    ⟨fades.sound.perform _, fades.effect, ends.mpr faded⟩
  rw [rests.staysOut_fading, Bool.not_eq_true]

/-- A ghost on a stage. -/
def ghostStage : Stage where
  issued := 1
  sprites := [(⟨1⟩, .ofTexture "ghost.png" ⟨20, 50⟩)]
  order := [⟨1⟩]
  viewport := ⟨200, 200⟩

/-- A ghost has faded away. If its fade is called off then, it fades a second time. If it runs first, it
never does. -/
theorem fades_once_ghost :
    let bench := (watch (.fadeOut ⟨1⟩ 1 .idle)
      ((Surroundings.initial ⟨200, 200⟩ .empty (.silent 500 [])).run [.arrange ghostStage])).run [.execute]
    let ended := bench.perform (.others (.tick 50000000))
    (bench.motions ≠ [] ∧ bench.around.world.stage.isLive ⟨1⟩ = true ∧
      bench.FadesAway ⟨1⟩ 1 50000000) ∧
    ¬ ended.StaysOut [.cancel, .execute] ∧ ended.StaysOut [.execute, .cancel, .execute] ∧
      (ended.run [.cancel, .execute]).motions = [(⟨2⟩, .fade ⟨1⟩ 1)] := by
  intro bench ended
  have runs : bench.motions ≠ [] := by decide +kernel
  have live : bench.around.world.stage.isLive ⟨1⟩ = true := by decide +kernel
  have gone : ended.motions = [] := by decide +kernel
  obtain ⟨ends, again⟩ := (fades_once_iff _ _ _ [.arrange ghostStage] ⟨1⟩ 1 [.execute]).2 50000000 runs live
  have faded : bench.FadesAway ⟨1⟩ 1 50000000 := ends.mp gone
  refine ⟨⟨runs, live, faded⟩, fun out => ?_, ?_, by decide +kernel⟩
  · exact (again faded _).mp out (by decide)
  · exact (again faded _).mpr (by decide)

end Bench

end Storybook
