/-
**Every first appearance is the same.**

What is seen of a character, and what it is about to do, is told by its outfit: the character with its chains
and the states of its effects, its sprite, the motions of that sprite, and the timers that are to start such
motions. When a character that is not on the stage appears, its outfit depends on its story and the assets
alone, up to the names of the handles.

* `Character.outfit`: the outfit of a character in a world;
* `Outfit.Alike`: two outfits are the same up to the names of the handles;
* `World.Proper`: nothing in a world is of a sprite that is still to come;
* `Character.outfit_appear`: the outfit of every first appearance is that in a blank world, renamed.
-/

import Storybook.Proofs.Entry
import Storybook.Proofs.Mirroring.Cast
import Storybook.Proofs.Renewal.Parts

namespace Storybook

/-! ### Outfits -/

/-- Whether a task is to start a motion of the sprite of a character. -/
def Task.starts (sprite : Option SpriteId) : Task → Bool
  | startMotion _ motion => sprite = some motion.sprite
  | _ => false

/-- What is seen of a character, and what it is about to do. -/
structure Outfit where
  character : Character
  /-- Its sprite on the stage. -/
  sprite : Option Sprite
  isDrawn : Bool
  motions : List (TickId × Motion)
  /-- The timers that are to start motions of its sprite, as they are seen from now. -/
  waits : List Wait
deriving DecidableEq, Repr

/-- **The outfit of a character** in a world. -/
def Character.outfit (character : Character) (world : World) : Outfit where
  character
  sprite := character.sprite.bind world.stage.find?
  isDrawn := character.sprite.any world.stage.isAttached
  motions := world.animator.entries.filter fun entry => character.sprite = some entry.2.sprite
  waits := world.timers.waits.filter fun wait => wait.task.starts character.sprite

theorem Wait.rename_rename (names later : Renaming) (wait : Wait) :
    (wait.rename names).rename later = wait.rename (names.andThen later) := by
  simp only [rename, Task.rename_rename, Renaming.andThen, Function.comp_apply]

namespace Outfit

variable (names later : Renaming)

def rename (outfit : Outfit) : Outfit where
  character := outfit.character.rename names
  sprite := outfit.sprite
  isDrawn := outfit.isDrawn
  motions := outfit.motions.map fun entry => (names.tick entry.1, entry.2.rename names)
  waits := outfit.waits.map (Wait.rename names)

theorem rename_rename (outfit : Outfit) :
    (outfit.rename names).rename later = outfit.rename (names.andThen later) := by
  have ticks (tick : TickId) : later.tick (names.tick tick) = (names.andThen later).tick tick := rfl
  simp only [rename, Character.rename_rename, List.map_map, Function.comp_def, Motion.rename_rename,
    Wait.rename_rename, ticks]

/-- Two outfits are the same up to the names of the handles: each is the other one renamed. -/
def Alike (first second : Outfit) : Prop :=
  ∃ there back : Renaming, second = first.rename there ∧ first = second.rename back

/-- **Renamings of one outfit are alike.** -/
theorem alike_of_names (outfit : Outfit) (first second : Lag) :
    (outfit.rename first.names).Alike (outfit.rename second.names) := by
  refine ⟨first.unnames.andThen second.names, second.unnames.andThen first.names, ?_, ?_⟩
  · rw [rename_rename, Lag.names_unnames]
  · rw [rename_rename, Lag.names_unnames]

end Outfit

/-! ### Outfits in worlds that mirror each other -/

theorem Motion.sprite_rename (names : Renaming) (motion : Motion) :
    (motion.rename names).sprite = names.sprite motion.sprite := by
  cases motion <;> rfl

variable {lag : Lag} {past : List Event} {first second world : World} {own : List SpriteId}

theorem Task.starts_rename (sprite : Option SpriteId) (task : Task) :
    (task.rename lag.names).starts (sprite.map lag.names.sprite) = task.starts sprite := by
  cases task with
  | startMotion tick motion =>
    cases sprite with
    | none => rfl
    | some sprite => simp [Task.rename, Task.starts, Motion.sprite_rename, Lag.sprite_inj]
  | playSound link => rfl
  | retrigger id => rfl

/-- **In worlds that mirror each other outfits are the same**, up to the names of the handles. -/
theorem World.Mirrors.outfit (mirrors : first.Mirrors lag past second) (character : Character) :
    (character.rename lag.names).outfit second = (character.outfit first).rename lag.names := by
  have sprite : (character.sprite.map lag.names.sprite).bind second.stage.find? =
      character.sprite.bind first.stage.find? := by
    cases character.sprite with
    | none => rfl
    | some sprite => exact mirrors.find? sprite
  have drawn : (character.sprite.map lag.names.sprite).any second.stage.isAttached =
      character.sprite.any first.stage.isAttached := by
    cases character.sprite with
    | none => rfl
    | some sprite => exact mirrors.isAttached sprite
  have motions : second.animator.entries.filter
        (fun entry => character.sprite.map lag.names.sprite = some entry.2.sprite) =
      (first.animator.entries.filter fun entry => character.sprite = some entry.2.sprite).map
        lag.motion := by
    rw [mirrors.motions, List.filter_map]
    refine congrArg (List.map lag.motion) (List.filter_congr fun entry _ => ?_)
    cases character.sprite <;> simp [Lag.motion, Motion.sprite_rename, Lag.sprite_inj]
  have waits : second.timers.waits.filter
        (fun wait => wait.task.starts (character.sprite.map lag.names.sprite)) =
      (first.timers.waits.filter fun wait => wait.task.starts character.sprite).map
        (Wait.rename lag.names) := by
    rw [mirrors.waits, List.filter_map]
    refine congrArg (List.map (Wait.rename lag.names)) (List.filter_congr fun wait _ => ?_)
    exact Task.starts_rename character.sprite wait.task
  unfold Character.outfit Outfit.rename
  dsimp only
  rw [show (character.rename lag.names).sprite = character.sprite.map lag.names.sprite from rfl, sprite,
    drawn, motions, waits]
  rfl

/-- The outfit of a character is told by a part of the world that holds its sprite. -/
theorem Character.outfit_only {character : Character} (mine : ∀ sprite ∈ character.sprite, sprite ∈ own)
    (world : World) : character.outfit (world.only own) = character.outfit world := by
  have sprite : character.sprite.bind (world.only own).stage.find? =
      character.sprite.bind world.stage.find? := by
    cases stands : character.sprite with
    | none => rfl
    | some sprite => exact World.find?_only (mine sprite stands)
  have drawn : character.sprite.any (world.only own).stage.isAttached =
      character.sprite.any world.stage.isAttached := by
    cases stands : character.sprite with
    | none => rfl
    | some sprite => exact World.isAttached_only (mine sprite stands)
  have motions : (world.only own).animator.entries.filter
        (fun entry => character.sprite = some entry.2.sprite) =
      world.animator.entries.filter fun entry => character.sprite = some entry.2.sprite := by
    refine List.filter_filter.trans (List.filter_congr fun entry _ => ?_)
    by_cases moves : character.sprite = some entry.2.sprite
    · simp [moves, mine _ moves]
    · simp [moves]
  have waits : (world.only own).timers.waits.filter (fun wait => wait.task.starts character.sprite) =
      world.timers.waits.filter fun wait => wait.task.starts character.sprite := by
    unfold TimerQueue.waits
    rw [List.filter_map, List.filter_map]
    refine congrArg (List.map _) (List.filter_filter.trans (List.filter_congr fun timer _ => ?_))
    cases task : timer.task with
    | startMotion tick motion =>
      by_cases moves : character.sprite = some motion.sprite
      · simp [task, Task.starts, Task.isForeign, moves, mine _ moves]
      · simp [task, Task.starts, moves]
    | playSound link => simp [task, Task.starts]
    | retrigger id => simp [task, Task.starts]
  unfold outfit
  rw [sprite, drawn, motions, waits]

/-! ### First appearances -/

/-- **Nothing in a world is of a sprite that is still to come**, and its timers are in order. -/
structure World.Proper (world : World) : Prop where
  sprites : ∀ id ∈ world.stage.keys, id.number ≤ world.stage.issued
  drawn : ∀ id ∈ world.stage.order, id.number ≤ world.stage.issued
  motions : ∀ entry ∈ world.animator.entries, entry.2.sprite.number ≤ world.stage.issued
  starts : ∀ timer ∈ world.timers.timers, ∀ tick motion, timer.task = .startMotion tick motion →
    motion.sprite.number ≤ world.stage.issued
  ordered : Timer.Ordered world.timers.timers

/-- Nothing is of the next sprite. -/
theorem World.Proper.isBare (proper : world.Proper) :
    (world.only [⟨world.stage.issued + 1⟩]).IsBare := by
  have later {id : SpriteId} (given : id.number ≤ world.stage.issued) :
      id ∉ [(⟨world.stage.issued + 1⟩ : SpriteId)] := by
    intro member
    rw [List.mem_singleton.mp member] at given
    exact Nat.not_succ_le_self _ given
  refine ⟨?_, ?_, ?_, ?_⟩
  · refine List.filter_eq_nil_iff.mpr fun entry member inside => ?_
    exact later (proper.sprites entry.1 (List.mem_map_of_mem member)) (of_decide_eq_true inside)
  · refine List.filter_eq_nil_iff.mpr fun id member inside => ?_
    exact later (proper.drawn id member) (of_decide_eq_true inside)
  · refine List.filter_eq_nil_iff.mpr fun entry member inside => ?_
    exact later (proper.motions entry member) (of_decide_eq_true inside)
  · refine List.filter_eq_nil_iff.mpr fun timer member mine => ?_
    cases task : timer.task with
    | startMotion tick motion =>
      have given := proper.starts timer member tick motion task
      have next : motion.sprite ∈ [(⟨world.stage.issued + 1⟩ : SpriteId)] := by
        simpa [task, Task.isForeign] using mine
      exact later given next
    | playSound link => simp [task, Task.isForeign] at mine
    | retrigger id => simp [task, Task.isForeign] at mine

/-- A character that appears gets the next sprite, if its picture is loaded. -/
theorem Character.sprite_appear (character : Character) (binder : Binder) (world : World) :
    ∀ sprite ∈ (character.appear binder world).1.sprite, sprite = ⟨world.stage.issued + 1⟩ := by
  intro sprite stands
  have issued : (character.withdraw world).2.stage.issued = world.stage.issued := by
    unfold withdraw
    split
    · rw [stage_disappear]
      cases character.sprite <;> rfl
    · rfl
  rw [appear_eq] at stands
  split at stands
  · rename_i texture _
    have arrives := (character.withdraw world).1.arrives_enterStage binder texture
      (character.withdraw world).2
    rw [← issued]
    exact (Option.some.inj (arrives.sprite.symm.trans stands)).symm
  · cases (character.sprite_withdraw world).symm.trans stands

/-- The outfit of a character that appears for the first time in a blank world. -/
def Story.Character.outfit (spec : Story.Character) (id : CharacterId) (binder : Binder)
    (resources : Asset.Resources) : Outfit :=
  let (character, world) := (Character.ofSpec id spec).appear binder (.blank resources)
  character.outfit world

/-- **Every first appearance is the same**, up to the names of the handles. -/
theorem Character.outfit_appear (proper : world.Proper) (id : CharacterId) (spec : Story.Character)
    (binder : Binder) :
    ((ofSpec id spec).appear binder world).1.outfit ((ofSpec id spec).appear binder world).2 =
      (spec.outfit id binder world.resources).rename world.lag.names := by
  let own : List SpriteId := [⟨world.stage.issued + 1⟩]
  let shown := (ofSpec id spec).appear binder world
  have absent : (ofSpec id spec).sprite = none := rfl
  have mirrors := World.mirrors_blank proper.isBare
  obtain ⟨same, mirrored⟩ := mirrors.appear absent binder
  have part : (ofSpec id spec).appear binder (world.only own) = (shown.1, shown.2.only own) :=
    appear_only absent binder List.mem_cons_self proper.ordered
  have mine : ∀ sprite ∈ shown.1.sprite, sprite ∈ own := fun sprite stands =>
    List.mem_singleton.mpr (sprite_appear _ binder world sprite stands)
  have looks : (shown.2.only own) = ((ofSpec id spec).appear binder (world.only own)).2 := by rw [part]
  have wears : shown.1 = ((ofSpec id spec).appear binder (world.only own)).1 := by rw [part]
  show shown.1.outfit shown.2 = _
  rw [← outfit_only mine, looks, wears]
  exact (congrArg (outfit · _) same).trans (mirrored.outfit _)

end Storybook
