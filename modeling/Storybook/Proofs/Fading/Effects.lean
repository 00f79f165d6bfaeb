/-
**Fades that have come to their end.**

A fade has come to its end when its motion has left the animator, or when it was seen to have done so
before. What effects do, to their own sprite or to others, never brings one to its end, and never takes
it back, as long as its character stays.

* `World.removals`: how often a sprite was reported to be removed;
* `Animator.Agrees`: motions come and go under some handles only;
* `Effect.hasFaded`, `Effect.hasFaded_execute`: a fade has come to its end, and stays so;
* `Chain.agrees_fireEach`, `Chain.hasFaded_fireEach`: the effects of a chain.
-/

import Storybook.Proofs.Holding.Effects

namespace Storybook

/-! ### Reports -/

namespace World

/-- **How often a sprite was reported to be removed.** -/
def removals (world : World) (sprite : SpriteId) : Nat :=
  world.events.toList.count (.spriteRemoved sprite)

/-- While no end of a motion is reported, no removal is. -/
theorem Quiet.removals {before after : World} (quiet : before.Quiet after) (sprite : SpriteId) :
    after.removals sprite = before.removals sprite := by
  obtain ⟨new, added, all⟩ := quiet
  have none : .spriteRemoved sprite ∉ new := fun member => all _ member trivial
  unfold World.removals
  rw [added, List.count_append, List.count_eq_zero_of_not_mem none, Nat.add_zero]

end World

/-! ### Handles that are left alone -/

namespace Animator

/-- Between the two animators motions have come and gone only under the handles `own`, and under new
ones. -/
structure Agrees (own : List TickId) (before after : Animator) : Prop where
  issued : before.issued ≤ after.issued
  others : ∀ tick ∉ own, tick.number ≤ before.issued →
    after.isRegistered tick = before.isRegistered tick

variable {own more : List TickId} {first second third : Animator}

theorem Agrees.refl (animator : Animator) : Agrees own animator animator :=
  ⟨Nat.le_refl _, fun _ _ _ => rfl⟩

theorem Agrees.trans (left : Agrees own first second) (right : Agrees own second third) :
    Agrees own first third where
  issued := Nat.le_trans left.issued right.issued
  others tick other given := (right.others tick other (Nat.le_trans given left.issued)).trans
    (left.others tick other given)

theorem Agrees.mono (agrees : Agrees own first second) (inside : ∀ tick ∈ own, tick ∈ more) :
    Agrees more first second :=
  ⟨agrees.issued, fun tick other => agrees.others tick (mt (inside tick) other)⟩

variable (animator : Animator)

theorem agrees_reserve : Agrees own animator animator.reserve.2 :=
  ⟨Nat.le_succ _, fun _ _ _ => rfl⟩

theorem agrees_register (motion : Motion) : Agrees own animator (animator.register motion).2 := by
  refine ⟨Nat.le_succ _, fun tick _ given => ?_⟩
  have old : (⟨animator.issued + 1⟩ : TickId) ≠ tick := by
    rintro rfl
    exact Nat.not_succ_le_self _ given
  show (animator.entries ++ [((⟨animator.issued + 1⟩ : TickId), motion)]).any _ = animator.entries.any _
  simp [old]

theorem agrees_deregister {tick : TickId} (mine : tick ∈ own) :
    Agrees own animator (animator.deregister tick).2 := by
  refine ⟨Nat.le_refl _, fun other foreign _ => ?_⟩
  have different : tick ≠ other := fun same => foreign (same ▸ mine)
  rw [Bool.eq_iff_iff, isRegistered_iff, isRegistered_iff]
  constructor
  · rintro ⟨entry, member, same⟩
    exact ⟨entry, (mem_deregister.mp member).1, same⟩
  · rintro ⟨entry, member, rfl⟩
    exact ⟨entry, mem_deregister.mpr ⟨member, different⟩, rfl⟩

theorem agrees_registerReserved {tick : TickId} (mine : tick ∈ own) (motion : Motion) :
    Agrees own animator (animator.registerReserved tick motion).2 := by
  refine ⟨?_, fun other foreign _ => ?_⟩
  · unfold registerReserved
    split <;> exact Nat.le_refl _
  · have different : tick ≠ other := fun same => foreign (same ▸ mine)
    unfold registerReserved
    split
    · rfl
    · show (animator.entries ++ [(tick, motion)]).any _ = animator.entries.any _
      simp [different]

/-- A motion that is registered under a new handle is there. -/
theorem isRegistered_register (motion : Motion) :
    (animator.register motion).2.isRegistered (animator.register motion).1 = true :=
  isRegistered_iff.mpr ⟨_, List.mem_append_right _ List.mem_cons_self, rfl⟩

end Animator

/-- **What places hold is left alone** while motions come and go under the handles of others. -/
theorem Held.undisturbed {loose : List Loose} {places rest : List Holding} {world : World}
    {timers : TimerQueue Task} {after : Animator}
    (held : Held loose (places ++ rest) world.animator timers)
    (agrees : Animator.Agrees (places.map Holding.tick) world.animator after) {holding : Holding}
    (member : holding ∈ rest) :
    after.isRegistered holding.tick = world.animator.isRegistered holding.tick := by
  have distinct := held.distinct
  rw [List.map_append, List.nodup_append] at distinct
  refine agrees.others holding.tick (fun mine => ?_) (held.issued holding (List.mem_append_right _ member))
  exact distinct.2.2 _ mine _ (List.mem_map_of_mem member) rfl

/-! ### Effects -/

namespace Effect

/-- The handles that an effect holds. -/
def ticks (effect : Effect) : List TickId :=
  effect.holding?.toList.map Holding.tick

/-- An effect is a fade. -/
def isFade : Effect → Bool
  | fadeOut _ _ _ => true
  | _ => false

/-- **A fade has come to its end.** -/
def hasFaded (world : World) : Effect → Bool
  | fadeOut _ _ state => state.refresh world = .done
  | _ => false

variable {before after : World}

theorem hasFaded_fading (sprite : SpriteId) (speed : Single) (tick : TickId) (world : World) :
    (fadeOut sprite speed (.fading tick)).hasFaded world = !world.animator.isRegistered tick := by
  unfold hasFaded FadeState.refresh
  by_cases runs : world.animator.isRegistered tick <;> simp [runs]

/-- What a fade holds waits for no timer. -/
theorem hasFaded_congr {effect : Effect} (same : ∀ holding ∈ effect.holding?, holding.timer = none →
    after.animator.isRegistered holding.tick = before.animator.isRegistered holding.tick) :
    effect.hasFaded after = effect.hasFaded before := by
  cases effect with
  | fadeOut sprite speed state =>
    cases state with
    | fading tick =>
      rw [hasFaded_fading, hasFaded_fading]
      exact congrArg Bool.not (same ⟨tick, .fade sprite speed, none⟩ rfl rfl)
    | _ => rfl
  | _ => rfl

/-- Only a fade comes to its end. -/
theorem isFade_of_hasFaded {effect : Effect} (faded : effect.hasFaded before = true) :
    effect.isFade = true := by
  cases effect with
  | fadeOut sprite speed state => rfl
  | _ => cases faded

theorem isFade_execute (effect : Effect) (world : World) :
    (effect.execute world).1.isFade = effect.isFade := by
  cases effect <;> rfl

/-- **A fade that runs neither comes to its end by that, nor is it taken back.** -/
theorem hasFaded_execute (effect : Effect) (world : World) :
    (effect.execute world).1.hasFaded (effect.execute world).2 = effect.hasFaded world := by
  cases effect with
  | fadeOut sprite speed state =>
    cases state with
    | idle =>
      let fades := world.registerMotion (.fade sprite speed)
      show (fadeOut sprite speed (.fading fades.1)).hasFaded fades.2 = false
      rw [hasFaded_fading]
      exact congrArg Bool.not (world.animator.isRegistered_register (.fade sprite speed))
    | fading tick =>
      simp only [execute, FadeState.execute, FadeState.refresh, hasFaded]
      by_cases runs : world.animator.isRegistered tick = true <;> simp [runs]
    | done => rfl
  | _ => rfl

theorem animator_silence (sound : String) (world : World) :
    (silence sound world).animator = world.animator := by
  unfold silence
  split <;> rfl

/-- An effect that runs takes out motions only under the handle that it holds. -/
theorem agrees_execute (effect : Effect) (world : World) :
    Animator.Agrees effect.ticks world.animator (effect.execute world).2.animator := by
  cases effect with
  | audio sound =>
    have silent := animator_silence sound world
    exact silent.symm ▸ .refl _
  | move sprite velocity pause state =>
    show Animator.Agrees _ _ (state.execute sprite velocity pause world).2.animator
    unfold MoveState.execute
    split
    · unfold MoveState.start
      dsimp only
      split
      · exact world.animator.agrees_register _
      · exact world.animator.agrees_reserve
    · exact .refl _
  | bounce sprite offset => exact .refl _
  | transition sprite image texture => exact .refl _
  | fadeOut sprite speed state =>
    show Animator.Agrees _ _ (state.execute sprite speed world).2.animator
    unfold FadeState.execute
    split
    · exact world.animator.agrees_register _
    · exact .refl _
  | spin sprite speed state =>
    cases state with
    | idle => exact world.animator.agrees_register _
    | active tick => exact world.animator.agrees_deregister (List.mem_singleton.mpr rfl)

/-- So does an effect that is called off. -/
theorem agrees_cancel (effect : Effect) (world : World) :
    Animator.Agrees effect.ticks world.animator (effect.cancel world).2.animator := by
  have mine (tick : TickId) : Animator.Agrees [tick] world.animator (world.animator.deregister tick).2 :=
    world.animator.agrees_deregister (List.mem_singleton.mpr rfl)
  cases effect with
  | audio sound =>
    have silent := animator_silence sound world
    exact silent.symm ▸ .refl _
  | move sprite velocity pause state => cases state <;> first | exact mine _ | exact .refl _
  | bounce sprite offset => exact .refl _
  | transition sprite image texture => exact .refl _
  | fadeOut sprite speed state => cases state <;> first | exact mine _ | exact .refl _
  | spin sprite speed state => cases state <;> first | exact mine _ | exact .refl _

end Effect

/-! ### Chains -/

/-- The handles that effects hold. -/
def ticksOf (effects : List Effect) : List TickId :=
  (holdingsOf effects).map Holding.tick

theorem ticksOf_cons (effect : Effect) (effects : List Effect) :
    ticksOf (effect :: effects) = effect.ticks ++ ticksOf effects := by
  unfold ticksOf
  rw [holdingsOf_cons, List.map_append]
  rfl

namespace Chain

variable {loose : List Loose} {rest : List Holding}

theorem agrees_fireEach (trigger : Trigger) (character : CharacterId) (effects : List Effect) :
    ∀ world : World, Animator.Agrees (ticksOf effects) world.animator
      (fireEach trigger character effects world).2.animator := by
  induction effects with
  | nil => exact fun world => .refl _
  | cons effect later ih =>
    intro world
    rw [ticksOf_cons]
    have first := effect.agrees_execute (world.report (.effectExecuted character trigger effect.kind))
    exact (first.mono fun _ => List.mem_append_left _).trans
      ((ih _).mono fun _ => List.mem_append_right _)

theorem agrees_cancelEach (effects : List Effect) :
    ∀ world : World, Animator.Agrees (ticksOf effects) world.animator
      (cancelEach effects world).2.animator := by
  induction effects with
  | nil => exact fun world => .refl _
  | cons effect later ih =>
    intro world
    rw [ticksOf_cons]
    exact ((effect.agrees_cancel world).mono fun _ => List.mem_append_left _).trans
      ((ih _).mono fun _ => List.mem_append_right _)

theorem isFade_fireEach (trigger : Trigger) (character : CharacterId) (effects : List Effect) :
    ∀ world : World, (fireEach trigger character effects world).1.map Effect.isFade =
      effects.map Effect.isFade := by
  induction effects with
  | nil => exact fun _ => rfl
  | cons effect later ih =>
    intro world
    simp only [fireEach, List.map_cons]
    rw [effect.isFade_execute, ih]

/-- Effects of which the same are told of are as many. -/
theorem countP_of_map {effects fired : List Effect} {p q : Effect → Bool}
    (same : fired.map q = effects.map p) : fired.countP q = effects.countP p := by
  have counted := congrArg (List.countP id) same
  rw [List.countP_map, List.countP_map] at counted
  exact counted

/-- Of effects that are left alone, as many have faded. -/
theorem countP_hasFaded {effects : List Effect} {before after : World}
    (same : ∀ holding ∈ holdingsOf effects, holding.timer = none →
      after.animator.isRegistered holding.tick = before.animator.isRegistered holding.tick) :
    effects.countP (Effect.hasFaded after) = effects.countP (Effect.hasFaded before) := by
  refine List.countP_congr fun effect member => Bool.eq_iff_iff.mp ?_
  refine Effect.hasFaded_congr fun holding holds => same holding ?_
  exact List.mem_filterMap.mpr ⟨effect, member, holds⟩

/-- **When a chain runs, the same of its fades have come to their end as before.** While the first effect
runs, the later ones are left alone, and then the other way round. -/
theorem hasFaded_fireEach (trigger : Trigger) (character : CharacterId) (effects : List Effect) :
    ∀ {rest : List Holding} {world : World},
      Held loose (holdingsOf effects ++ rest) world.animator world.timers →
        (fireEach trigger character effects world).1.map
            (Effect.hasFaded (fireEach trigger character effects world).2) =
          effects.map (Effect.hasFaded world) := by
  induction effects with
  | nil => exact fun _ => rfl
  | cons effect later ih =>
    intro rest world held
    rw [holdingsOf_cons, List.append_assoc] at held
    let reported := world.report (.effectExecuted character trigger effect.kind)
    have before : Held loose (effect.holding?.toList ++ (holdingsOf later ++ rest))
        reported.animator reported.timers := held
    let run := effect.execute reported
    have after : Held loose (run.1.holding?.toList ++ (holdingsOf later ++ rest)) run.2.animator
        run.2.timers := effect.held_execute before
    have turned := after.perm (List.perm_append_comm_assoc _ _ _)
    have agrees := effect.agrees_execute reported
    have others : later.map (Effect.hasFaded run.2) = later.map (Effect.hasFaded world) := by
      refine List.map_congr_left fun other member => Effect.hasFaded_congr fun holding holds _ => ?_
      refine before.undisturbed agrees (List.mem_append_left _ ?_)
      exact List.mem_filterMap.mpr ⟨other, member, holds⟩
    have first : run.1.hasFaded (fireEach trigger character later run.2).2 = run.1.hasFaded run.2 := by
      refine Effect.hasFaded_congr fun holding holds _ => ?_
      refine turned.undisturbed (agrees_fireEach trigger character later run.2) ?_
      exact List.mem_append_left _ (Option.mem_toList.mpr holds)
    have same : run.1.hasFaded run.2 = effect.hasFaded world := effect.hasFaded_execute reported
    let fired := fireEach trigger character later run.2
    show run.1.hasFaded fired.2 :: fired.1.map (Effect.hasFaded fired.2) = _
    rw [first, ih turned, others, same, List.map_cons]

end Chain

end Storybook
