/-
**Off the stage, characters are as at first.**

A character that has left the stage has lost all that it had there, so that it is again as it was before it
first appeared. A character that appears again therefore does what it would do if it appeared for the first
time in the world that it has left.

* `Character.Clean`: off the stage, a character is as at first;
* `Character.Clean.appear_eq`: a clean character appears as it does for the first time;
* `Player.Clean`, `Player.Reaches.clean`: all characters in play are clean, in every state that a player
  comes to.
-/

import Storybook.Proofs.Arrivals
import Storybook.Proofs.Enduring

namespace Storybook

/-! ### Characters -/

namespace Character

/-- **Off the stage, a character is as it was** before it first appeared. -/
def Clean (character : Character) : Prop :=
  character.sprite = none → character = ofSpec character.id character.spec

variable {character : Character}

theorem clean_ofSpec (id : CharacterId) (spec : Story.Character) : (ofSpec id spec).Clean :=
  fun _ => rfl

/-- A clean character that leaves the stage is as at first. -/
theorem Clean.withdraw_fst (clean : character.Clean) (world : World) :
    (character.withdraw world).1 = ofSpec character.id character.spec := by
  unfold withdraw
  split
  · rfl
  · rename_i offstage
    exact clean (Option.not_isSome_iff_eq_none.mp offstage)

/-- **A clean character appears as it does for the first time**, once it has left the stage. -/
theorem Clean.appear_eq (clean : character.Clean) (binder : Binder) (world : World) :
    character.appear binder world =
      (ofSpec character.id character.spec).appear binder (character.withdraw world).2 := by
  have first := clean.withdraw_fst world
  have again : character.appear binder world =
      (character.withdraw world).1.appear binder (character.withdraw world).2 := by
    rw [Character.appear_eq, first, (character.turns_withdraw world).acts.resources.symm]
    rfl
  rw [again, first]

theorem Clean.appear (clean : character.Clean) (binder : Binder) (world : World) :
    (character.appear binder world).1.Clean := by
  rw [Character.appear_eq]
  split
  · rename_i texture _
    have arrives := (character.withdraw world).1.arrives_enterStage binder texture
      (character.withdraw world).2
    exact fun offstage => nomatch arrives.sprite.symm.trans offstage
  · rw [clean.withdraw_fst world]
    exact clean_ofSpec _ _

theorem Clean.touch (clean : character.Clean) (world : World) : (character.touch world).2.1.Clean := by
  unfold Character.touch
  split
  · rename_i stands _
    exact fun offstage => nomatch stands.symm.trans offstage
  · exact clean

/-- **Whatever becomes of a character, it is clean.** -/
theorem clean_endures (resources : Asset.Resources) : Endures resources Clean where
  ofSpec := clean_ofSpec
  appear binder world _ clean := clean.appear binder world
  touch world clean := clean.touch world

end Character

/-! ### Players -/

/-- All characters of a scene are clean. -/
def Scene.Clean (scene : Scene) : Prop :=
  ∀ character ∈ scene.characters, character.Clean

namespace Player

/-- All characters in play are clean. -/
def Clean (player : Player) : Prop :=
  ∀ scene, player.scene = some scene → scene.Clean

variable {player : Player}

/-- **In every state that a player comes to, all characters in play are clean.** -/
theorem Reaches.clean {document : Story.Document} {resources : Asset.Resources} {audio : Audio}
    {viewport : Viewport} {options : SceneOptions}
    (reaches : (ofResources document resources audio viewport options).Reaches player) : player.Clean :=
  fun scene current => ((reaches.visits.upkeeps (Character.clean_endures resources)).scene scene current).all

end Player

end Storybook
