/-
**Who holds what.**

Everything that an effect or a gravity puts into the motions and the timers, it holds by a handle,
by which it can take it out again. A holding is the handle of a motion together with the motion
itself and, while the motion still waits for its start, the timer that is to register it.

* `Holding`, `Effect.holding?`, `Character.holdings`, `Scene.holdings`: what each place holds;
* `Loose`: a handle that was given up, with the motion that strays under it, if there is one;
* `Awaited`: the timers that places wait for start what the places hold;
* `Held`: every motion that is registered and every timer that starts one is held, but for the strays,
  and no handle is held twice;
* `Held.register`, `Held.wait`, `Held.settle`, `Held.release`: what the steps of an effect do to it;
* `Held.start`, `Held.stray`: what the start of a motion by a timer does to it.
-/

import Mathlib.Data.List.Perm.Basic
import Storybook.Play.Scene
import Storybook.Proofs.Motions
import Storybook.Proofs.Timers

namespace Storybook

/-! ### Places and what they hold -/

/-- The handle of a motion, the motion at rest, and the timer that is to register it if it waits. -/
structure Holding where
  tick : TickId
  motion : Motion
  timer : Option TimerId
deriving DecidableEq, Repr

/-- What a move holds. -/
def MoveState.holding? (motion : Motion) : MoveState → Option Holding
  | pending timer tick => some ⟨tick, motion, some timer⟩
  | moving tick => some ⟨tick, motion, none⟩
  | idle => none

/-- What a fade holds. -/
def FadeState.holding? (motion : Motion) : FadeState → Option Holding
  | fading tick => some ⟨tick, motion, none⟩
  | _ => none

/-- What a spin holds. -/
def SpinState.holding? (motion : Motion) : SpinState → Option Holding
  | active tick => some ⟨tick, motion, none⟩
  | idle => none

namespace Effect

/-- What an effect holds. -/
def holding? : Effect → Option Holding
  | move sprite velocity _ state => state.holding? (.drift sprite velocity)
  | fadeOut sprite speed state => state.holding? (.fade sprite speed)
  | spin sprite speed state => state.holding? (.spin sprite speed)
  | _ => none

/-- The sprite that an effect works on. -/
def sprite? : Effect → Option SpriteId
  | audio _ => none
  | move sprite _ _ _ => some sprite
  | bounce sprite _ => some sprite
  | transition sprite _ _ => some sprite
  | fadeOut sprite _ _ => some sprite
  | spin sprite _ _ => some sprite

/-- An effect holds motions of its own sprite only. -/
theorem sprite?_of_holding? {effect : Effect} {holding : Holding}
    (holds : effect.holding? = some holding) : effect.sprite? = some holding.motion.sprite := by
  cases effect with
  | move sprite velocity pause state => cases state <;> cases holds <;> rfl
  | fadeOut sprite speed state =>
    cases state <;> cases holds
    rfl
  | spin sprite speed state =>
    cases state <;> cases holds
    rfl
  | _ => cases holds

end Effect

/-- The effects of a chain that may be missing. -/
def Bindings.effectsOf : Option Chain → List Effect
  | some chain => chain.effects
  | .none => []

/-- The effects of all chains. -/
def Bindings.effects (bindings : Bindings) : List Effect :=
  effectsOf bindings.onLoad ++ effectsOf bindings.touch

/-- What effects hold, in their order. -/
def holdingsOf (effects : List Effect) : List Holding :=
  effects.filterMap Effect.holding?

namespace Character

/-- What the gravity of a character holds. -/
def gravityHolding? (character : Character) : Option Holding :=
  match character.gravity, character.sprite with
  | some tick, some sprite => some ⟨tick, .gravity sprite character.spec.gravity 0, none⟩
  | _, _ => none

/-- What a character holds: its effects, then its gravity. -/
def holdings (character : Character) : List Holding :=
  holdingsOf character.bindings.effects ++ character.gravityHolding?.toList

end Character

/-- What characters hold. -/
def heldBy (characters : List Character) : List Holding :=
  characters.flatMap Character.holdings

/-- What the characters of a scene hold. -/
def Scene.holdings (scene : Scene) : List Holding :=
  heldBy scene.characters

/-! ### Everything is held -/

/-- A timer that is to start a motion. -/
def Timer.Starts (timer : Timer Task) : Prop :=
  ∃ tick motion, timer.task = .startMotion tick motion

/-- A handle that no place holds any more. A motion that is registered under it strays. -/
structure Loose where
  tick : TickId
  motion : Option Motion
deriving DecidableEq, Repr

/-- The timer that a place waits for starts what the place holds, and all handles of timers have been
given out. -/
structure Awaited (holdings : List Holding) (timers : TimerQueue Task) : Prop where
  given : ∀ timer ∈ timers.timers, timer.id.number ≤ timers.issued
  known : ∀ holding ∈ holdings, ∀ id ∈ holding.timer, id.number ≤ timers.issued
  starts : ∀ holding ∈ holdings, ∀ timer ∈ timers.timers, holding.timer = some timer.id →
    timer.task = .startMotion holding.tick holding.motion

/-- Every motion that is registered and every timer that is to start one is held, and no handle is
held twice. Only under loose handles there are motions that nothing holds. -/
structure Held (loose : List Loose) (holdings : List Holding) (animator : Animator)
    (timers : TimerQueue Task) : Prop where
  distinct : (holdings.map Holding.tick).Nodup
  issued : ∀ holding ∈ holdings, holding.tick.number ≤ animator.issued
  motions : ∀ entry ∈ animator.entries, ⟨entry.1, some entry.2⟩ ∈ loose ∨
    ∃ holding ∈ holdings, holding.tick = entry.1 ∧ holding.motion = entry.2.atRest
  starts : ∀ timer ∈ timers.timers, ∀ tick motion, timer.task = .startMotion tick motion →
    timer.period = none ∧ ⟨tick, motion, some timer.id⟩ ∈ holdings
  single : (loose.map Loose.tick).Nodup
  given : ∀ handle ∈ loose, handle.tick.number ≤ animator.issued
  apart : ∀ handle ∈ loose, ∀ holding ∈ holdings, holding.tick ≠ handle.tick
  strays : ∀ handle ∈ loose, ∀ motion, handle.motion = some motion →
    (handle.tick, motion) ∈ animator.entries
  once : (animator.entries.map Prod.fst).Nodup
  awaited : Awaited holdings timers

variable {loose : List Loose} {holding : Holding} {holdings rest : List Holding}
  {animator after : Animator} {timers later : TimerQueue Task}

namespace Awaited

theorem subset (awaited : Awaited holdings timers) (inside : ∀ holding ∈ rest, holding ∈ holdings) :
    Awaited rest timers where
  given := awaited.given
  known holding member := awaited.known holding (inside holding member)
  starts holding member := awaited.starts holding (inside holding member)

/-- A place that waits for no timer does not matter. -/
theorem cons (awaited : Awaited rest timers) (started : holding.timer = none) :
    Awaited (holding :: rest) timers where
  given := awaited.given
  known other member := by
    rcases List.mem_cons.mp member with rfl | inside
    · rw [started]
      exact fun _ none => nomatch none
    · exact awaited.known other inside
  starts other member timer queued waits := by
    rcases List.mem_cons.mp member with rfl | inside
    · cases started.symm.trans waits
    · exact awaited.starts other inside timer queued waits

/-- No place waits for a timer that comes under a new handle. -/
theorem grow (awaited : Awaited holdings timers) (grows : timers.Grows later) :
    Awaited holdings later where
  given timer member := by
    have issued := grows.issued
    rcases grows.fresh timer member with old | new
    · have below := awaited.given timer old
      omega
    · exact new.2
  known holding member id waits := Nat.le_trans (awaited.known holding member id waits) grows.issued
  starts holding member timer queued waits := by
    rcases grows.fresh timer queued with old | new
    · exact awaited.starts holding member timer old waits
    · have below := awaited.known holding member timer.id waits
      omega

theorem renew (awaited : Awaited holdings timers) (issued : later.issued = timers.issued)
    (renewed : ∀ timer ∈ later.timers, ∃ old ∈ timers.timers, timer.Renews old) :
    Awaited holdings later where
  given timer member := by
    obtain ⟨old, there, renews⟩ := renewed timer member
    rw [issued, renews.id]
    exact awaited.given old there
  known := issued ▸ awaited.known
  starts holding member timer queued waits := by
    obtain ⟨old, there, renews⟩ := renewed timer queued
    rw [renews.task]
    exact awaited.starts holding member old there (renews.id ▸ waits)

/-- A place may wait for the timer that is set for its start. -/
theorem wait (awaited : Awaited rest timers) (tick : TickId) (motion : Motion) (pause : Nat) :
    Awaited (⟨tick, motion, some (timers.schedule pause (.startMotion tick motion)).1⟩ :: rest)
      (timers.schedule pause (.startMotion tick motion)).2 := by
  have grown : Awaited rest (timers.schedule pause (.startMotion tick motion)).2 :=
    awaited.grow (timers.grows_insert _ _ _)
  refine ⟨grown.given, fun other member id waits => ?_, fun other member timer queued waits => ?_⟩
  · rcases List.mem_cons.mp member with rfl | inside
    · cases waits
      exact Nat.le_refl _
    · exact grown.known other inside id waits
  · rcases List.mem_cons.mp member with rfl | inside
    · rcases TimerQueue.mem_schedule.mp queued with rfl | old
      · rfl
      · have below := awaited.given timer old
        rw [← Option.some.inj waits] at below
        exact absurd below (Nat.not_succ_le_self _)
    · exact grown.starts other inside timer queued waits

end Awaited

namespace Held

/-- Where no place holds anything and nothing is loose, no motion is registered. -/
theorem entries_eq_nil (held : Held [] [] animator timers) : animator.entries = [] := by
  refine List.eq_nil_iff_forall_not_mem.mpr fun entry member => ?_
  rcases held.motions entry member with stray | ⟨_, place, _⟩
  · cases stray
  · cases place

/-- The order of the places does not matter. -/
theorem perm (held : Held loose holdings animator timers) (same : holdings.Perm rest) :
    Held loose rest animator timers :=
  { held with
    distinct := (same.map Holding.tick).nodup_iff.mp held.distinct
    issued := fun holding member => held.issued holding (same.mem_iff.mpr member)
    motions := fun entry member => (held.motions entry member).imp_right
      fun ⟨holding, inside, stands⟩ => ⟨holding, same.mem_iff.mp inside, stands⟩
    starts := fun timer member tick motion task =>
      (held.starts timer member tick motion task).imp_right same.mem_iff.mp
    apart := fun handle member holding inside =>
      held.apart handle member holding (same.mem_iff.mpr inside)
    awaited := held.awaited.subset fun _ => same.mem_iff.mpr }

/-- Nor does the order of the loose handles. -/
theorem permLoose {other : List Loose} (held : Held loose holdings animator timers)
    (same : loose.Perm other) : Held other holdings animator timers :=
  { held with
    motions := fun entry member => (held.motions entry member).imp_left same.mem_iff.mp
    single := (same.map Loose.tick).nodup_iff.mp held.single
    given := fun handle member => held.given handle (same.mem_iff.mpr member)
    apart := fun handle member => held.apart handle (same.mem_iff.mpr member)
    strays := fun handle member => held.strays handle (same.mem_iff.mpr member) }

/-- Nothing more is to be held when timers go, or when timers for other tasks come. -/
theorem retime (held : Held loose holdings animator timers) (grows : timers.Grows later)
    (waiting : ∀ timer ∈ later.timers, timer ∈ timers.timers ∨ ¬ timer.Starts) :
    Held loose holdings animator later :=
  { held with
    awaited := held.awaited.grow grows
    starts := fun timer member tick motion task => by
      rcases waiting timer member with old | other
      · exact held.starts timer old tick motion task
      · exact absurd ⟨tick, motion, task⟩ other }

/-- Nothing more is to be held when the timers are later occurrences of what they were. -/
theorem renew (held : Held loose holdings animator timers) (issued : later.issued = timers.issued)
    (renewed : ∀ timer ∈ later.timers, ∃ old ∈ timers.timers, timer.Renews old) :
    Held loose holdings animator later :=
  { held with
    awaited := held.awaited.renew issued renewed
    starts := fun timer member tick motion task => by
      obtain ⟨old, there, renews⟩ := renewed timer member
      rw [renews.period, renews.id]
      exact held.starts old there tick motion (renews.task ▸ task) }

/-! ### What an effect does -/

/-- A motion is registered under a handle that was given out. -/
theorem number_le (held : Held loose holdings animator timers) {entry : TickId × Motion}
    (member : entry ∈ animator.entries) : entry.1.number ≤ animator.issued := by
  rcases held.motions entry member with stray | ⟨holding, inside, same, _⟩
  · exact held.given _ stray
  · exact same ▸ held.issued holding inside

/-- A motion that comes last under a handle of its own is the only one there. -/
theorem once_concat (held : Held loose holdings animator timers) {tick : TickId}
    (new : ∀ entry ∈ animator.entries, entry.1 ≠ tick) (motion : Motion) :
    ((animator.entries ++ [(tick, motion)]).map Prod.fst).Nodup := by
  rw [List.map_append, List.map_singleton]
  refine List.nodup_append.mpr ⟨held.once, List.nodup_singleton _, ?_⟩
  intro other listed last same
  obtain ⟨entry, member, rfl⟩ := List.mem_map.mp listed
  rw [List.mem_singleton.mp same]
  exact new entry member

/-- A new place takes a handle that has not been given out before. -/
theorem distinct_cons (held : Held loose rest animator timers)
    (new : animator.issued < holding.tick.number) :
    ((holding :: rest).map Holding.tick).Nodup := by
  refine List.nodup_cons.mpr ⟨fun member => ?_, held.distinct⟩
  obtain ⟨old, inside, same⟩ := List.mem_map.mp member
  have below := held.issued old inside
  rw [same] at below
  exact absurd below (Nat.not_le_of_lt new)

theorem issued_cons (held : Held loose rest animator timers)
    (given : holding.tick.number = animator.issued + 1) :
    ∀ other ∈ holding :: rest, other.tick.number ≤ animator.issued + 1 := by
  intro other member
  rcases List.mem_cons.mp member with rfl | inside
  · exact Nat.le_of_eq given
  · exact Nat.le_succ_of_le (held.issued other inside)

theorem apart_cons (held : Held loose rest animator timers)
    (new : animator.issued < holding.tick.number) :
    ∀ handle ∈ loose, ∀ other ∈ holding :: rest, other.tick ≠ handle.tick := by
  intro handle member other inside
  rcases List.mem_cons.mp inside with rfl | inside
  · intro same
    rw [same] at new
    exact absurd (held.given handle member) (Nat.not_le_of_lt new)
  · exact held.apart handle member other inside

/-- A motion that is registered anew is held by its new handle. -/
theorem register (held : Held loose rest animator timers) (motion : Motion)
    (still : motion.atRest = motion) :
    Held loose (⟨(animator.register motion).1, motion, none⟩ :: rest)
      (animator.register motion).2 timers where
  distinct := held.distinct_cons (Nat.lt_succ_self _)
  issued := held.issued_cons rfl
  motions entry member := by
    rcases List.mem_append.mp member with old | new
    · exact (held.motions entry old).imp_right fun ⟨holding, inside, stands⟩ =>
        ⟨holding, List.mem_cons_of_mem _ inside, stands⟩
    · rw [List.mem_singleton.mp new]
      exact Or.inr ⟨_, List.mem_cons_self, rfl, still.symm⟩
  starts timer member tick other task :=
    (held.starts timer member tick other task).imp_right (List.mem_cons_of_mem _)
  single := held.single
  given handle member := Nat.le_succ_of_le (held.given handle member)
  apart := held.apart_cons (Nat.lt_succ_self _)
  strays handle member motion moves :=
    List.mem_append_left _ (held.strays handle member motion moves)
  once := held.once_concat (fun entry member same =>
    absurd (same ▸ held.number_le member) (Nat.not_succ_le_self _)) motion
  awaited := held.awaited.cons rfl

/-- A motion that is to start later is held together with its timer. -/
theorem wait (held : Held loose rest animator timers) (motion : Motion) (pause : Nat) :
    Held loose
      (⟨animator.reserve.1, motion,
        some (timers.schedule pause (.startMotion animator.reserve.1 motion)).1⟩ :: rest)
      animator.reserve.2 (timers.schedule pause (.startMotion animator.reserve.1 motion)).2 where
  distinct := held.distinct_cons (Nat.lt_succ_self _)
  issued := held.issued_cons rfl
  motions entry member := (held.motions entry member).imp_right fun ⟨holding, inside, stands⟩ =>
    ⟨holding, List.mem_cons_of_mem _ inside, stands⟩
  starts timer member tick other task := by
    rcases TimerQueue.mem_schedule.mp member with rfl | old
    · cases task
      exact ⟨rfl, List.mem_cons_self⟩
    · exact (held.starts timer old tick other task).imp_right (List.mem_cons_of_mem _)
  single := held.single
  given handle member := Nat.le_succ_of_le (held.given handle member)
  apart := held.apart_cons (Nat.lt_succ_self _)
  strays := held.strays
  once := held.once
  awaited := held.awaited.wait _ motion pause

/-- When the timer of a waiting motion has gone, its place holds the handle alone. -/
theorem settle {tick : TickId} {motion : Motion} {timer : TimerId}
    (held : Held loose (⟨tick, motion, some timer⟩ :: rest) animator timers)
    (gone : timers.isPending timer = false) :
    Held loose (⟨tick, motion, none⟩ :: rest) animator timers :=
  { held with
    issued := fun holding member => by
      rcases List.mem_cons.mp member with rfl | inside
      · exact held.issued ⟨tick, motion, some timer⟩ List.mem_cons_self
      · exact held.issued holding (List.mem_cons_of_mem _ inside)
    motions := fun entry member => (held.motions entry member).imp_right
      fun ⟨holding, inside, stands⟩ => by
        rcases List.mem_cons.mp inside with rfl | inside
        · exact ⟨_, List.mem_cons_self, stands⟩
        · exact ⟨holding, List.mem_cons_of_mem _ inside, stands⟩
    starts := fun other member tick' motion' task => by
      obtain ⟨once, inside⟩ := held.starts other member tick' motion' task
      refine ⟨once, ?_⟩
      rcases List.mem_cons.mp inside with same | inside
      · have pending : timers.isPending timer = true := TimerQueue.isPending_iff.mpr
          ⟨other, member, Option.some.inj (congrArg Holding.timer same)⟩
        rw [gone] at pending
        cases pending
      · exact List.mem_cons_of_mem _ inside
    apart := fun handle member other inside => by
      rcases List.mem_cons.mp inside with rfl | inside
      · exact held.apart handle member ⟨tick, motion, some timer⟩ List.mem_cons_self
      · exact held.apart handle member other (List.mem_cons_of_mem _ inside)
    awaited := (held.awaited.subset fun _ => List.mem_cons_of_mem _).cons rfl }

/-- A place may let go of what is in the motions and the timers no more. -/
theorem release (held : Held loose (holding :: rest) animator timers)
    (issued : after.issued = animator.issued)
    (entries : ∀ entry, entry ∈ after.entries ↔ entry ∈ animator.entries ∧ holding.tick ≠ entry.1)
    (fewer : after.entries.Sublist animator.entries) (counted : later.issued = timers.issued)
    (waiting : ∀ timer ∈ later.timers, timer ∈ timers.timers ∧ holding.timer ≠ some timer.id) :
    Held loose rest after later where
  distinct := (List.nodup_cons.mp held.distinct).2
  issued other member := issued ▸ held.issued other (List.mem_cons_of_mem _ member)
  motions entry member := by
    obtain ⟨old, other⟩ := (entries entry).mp member
    refine (held.motions entry old).imp_right fun ⟨found, inside, stands⟩ => ⟨found, ?_, stands⟩
    rcases List.mem_cons.mp inside with rfl | inside
    · exact absurd stands.1 other
    · exact inside
  starts timer member tick motion task := by
    obtain ⟨old, other⟩ := waiting timer member
    obtain ⟨once, inside⟩ := held.starts timer old tick motion task
    refine ⟨once, ?_⟩
    rcases List.mem_cons.mp inside with same | inside
    · exact absurd (same ▸ rfl) other
    · exact inside
  single := held.single
  given handle member := issued ▸ held.given handle member
  apart handle member other inside :=
    held.apart handle member other (List.mem_cons_of_mem _ inside)
  strays handle member motion moves := (entries _).mpr
    ⟨held.strays handle member motion moves, held.apart handle member holding List.mem_cons_self⟩
  once := held.once.sublist (fewer.map Prod.fst)
  awaited := by
    have grows : timers.Grows later :=
      ⟨Nat.le_of_eq counted.symm, fun timer member => Or.inl (waiting timer member).1⟩
    exact (held.awaited.subset fun _ => List.mem_cons_of_mem _).grow grows

/-! ### What a timer does -/

/-- A motion that is held may be registered under its handle. -/
theorem start (held : Held loose holdings animator timers) (member : holding ∈ holdings)
    (still : holding.motion.atRest = holding.motion) :
    Held loose holdings (animator.registerReserved holding.tick holding.motion).2 timers := by
  unfold Animator.registerReserved
  split
  · exact held
  · rename_i free
    have new : ∀ entry ∈ animator.entries, entry.1 ≠ holding.tick := fun entry inside same =>
      free (Animator.isRegistered_iff.mpr ⟨entry, inside, same⟩)
    exact
      { held with
        once := held.once_concat new holding.motion
        motions := fun entry inside => by
          rcases List.mem_append.mp inside with old | new
          · exact held.motions entry old
          · rw [List.mem_singleton.mp new]
            exact Or.inr ⟨holding, member, rfl, still.symm⟩
        strays := fun handle member motion moves =>
          List.mem_append_left _ (held.strays handle member motion moves) }

/-- Handles that have been given out may be kept as loose ones, if nothing holds them. -/
theorem loosen {handles : List TickId} (held : Held loose holdings animator timers)
    (single : (handles ++ loose.map Loose.tick).Nodup)
    (given : ∀ tick ∈ handles, tick.number ≤ animator.issued)
    (apart : ∀ tick ∈ handles, ∀ holding ∈ holdings, holding.tick ≠ tick) :
    Held (handles.map (⟨·, none⟩) ++ loose) holdings animator timers :=
  { held with
    motions := fun entry member =>
      (held.motions entry member).imp_left (List.mem_append_right _)
    single := by
      rw [List.map_append, List.map_map]
      exact (List.map_id handles).symm ▸ single
    given := fun handle member => by
      rcases List.mem_append.mp member with new | old
      · obtain ⟨tick, inside, rfl⟩ := List.mem_map.mp new
        exact given tick inside
      · exact held.given handle old
    apart := fun handle member => by
      rcases List.mem_append.mp member with new | old
      · obtain ⟨tick, inside, rfl⟩ := List.mem_map.mp new
        exact apart tick inside
      · exact held.apart handle old
    strays := fun handle member motion moves => by
      rcases List.mem_append.mp member with new | old
      · obtain ⟨tick, _, rfl⟩ := List.mem_map.mp new
        cases moves
      · exact held.strays handle old motion moves }

/-- A motion that is started under a loose handle strays. -/
theorem stray {tick : TickId} (held : Held (⟨tick, none⟩ :: loose) holdings animator timers)
    (motion : Motion) :
    Held (⟨tick, some motion⟩ :: loose) holdings (animator.registerReserved tick motion).2 timers := by
  have outside : ∀ entry ∈ animator.entries, entry.1 ≠ tick := by
    intro entry member same
    rcases held.motions entry member with wanders | ⟨holding, inside, stands, _⟩
    · refine (List.nodup_cons.mp held.single).1 ?_
      rcases List.mem_cons.mp wanders with none | wanders
      · cases none
      · exact List.mem_map.mpr ⟨_, wanders, same⟩
    · exact held.apart _ List.mem_cons_self holding inside (stands.trans same)
  have new : ¬ animator.isRegistered tick = true := fun registered => by
    obtain ⟨entry, member, same⟩ := Animator.isRegistered_iff.mp registered
    exact outside entry member same
  unfold Animator.registerReserved
  rw [if_neg new]
  refine ⟨held.distinct, held.issued, fun entry member => ?_, held.starts, held.single,
    fun handle member => ?_, fun handle member => ?_, fun handle member other moves => ?_,
    held.once_concat outside motion, held.awaited⟩
  · rcases List.mem_append.mp member with old | last
    · refine (held.motions entry old).imp_left fun wanders => ?_
      rcases List.mem_cons.mp wanders with none | wanders
      · cases none
      · exact List.mem_cons_of_mem _ wanders
    · rw [List.mem_singleton.mp last]
      exact Or.inl List.mem_cons_self
  · rcases List.mem_cons.mp member with rfl | old
    · exact held.given ⟨tick, none⟩ List.mem_cons_self
    · exact held.given handle (List.mem_cons_of_mem _ old)
  · rcases List.mem_cons.mp member with rfl | old
    · exact held.apart ⟨tick, none⟩ List.mem_cons_self
    · exact held.apart handle (List.mem_cons_of_mem _ old)
  · rcases List.mem_cons.mp member with rfl | old
    · cases moves
      exact List.mem_append_right _ List.mem_cons_self
    · exact List.mem_append_left _ (held.strays handle (List.mem_cons_of_mem _ old) other moves)

end Held

end Storybook
