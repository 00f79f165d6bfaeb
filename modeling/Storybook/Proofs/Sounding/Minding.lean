/-
**Voices that a scene minds.**

A scene minds the voices that it stops when it is torn down: those that its sound chain waits for, and
those of the effects of its characters. Whatever is done with the scene, it goes on minding them, and it
minds every voice that begins, but for one kind: the chain does not wait for a sound that nothing follows.

* `Audio.Minded`: every voice is minded, or it is one of a list;
* `SoundChain.Minds`, `Character.Minds`, `Scene.Minds`: the voices that are minded;
* `SoundChain.unwatched`, `Scene.unwatched`: the playing of a sound that nothing follows;
* `Scene.minded_retrigger`, `Scene.minded_touch`, `Scene.minded_playSound`, `Scene.minded_finish`: while a
  scene is played;
* `Scene.minded_enter`, `Scene.minded_teardown`: the beginning and the end of a scene.
-/

import Storybook.Proofs.Sounding.Scenes
import Storybook.Proofs.Working

namespace Storybook

variable {free left more : List PlaybackId} {minds others : Voice → Prop}

/-! ### Voices -/

namespace Audio

variable {audio after : Audio} {stops starts : List String}

/-- Voices are told apart by their handles. -/
theorem Ordered.unique (ordered : audio.Ordered) {voice other : Voice} (member : voice ∈ audio.voices)
    (member' : other ∈ audio.voices) (same : voice.id = other.id) : voice = other := by
  have distinct : (audio.voices.map Voice.id).Nodup :=
    List.pairwise_map.mpr (ordered.rises.imp fun lower same => Nat.ne_of_lt lower (congrArg _ same))
  exact List.inj_on_of_nodup_map distinct member member' same

/-- Every voice is minded, but for those of `free`, and the playings of `left` are over. -/
structure Minded (free left : List PlaybackId) (minds : Voice → Prop) (audio : Audio) : Prop where
  ordered : audio.Ordered
  ended : ∀ playback ∈ left, playback.number ≤ audio.issued ∧ ¬ audio.IsActive playback
  minded : ∀ voice ∈ audio.voices, voice.id ∈ free ∨ minds voice

namespace Minded

theorem mono (minded : Minded free left minds audio) (keeps : ∀ voice, minds voice → others voice) :
    Minded free left others audio :=
  ⟨minded.ordered, minded.ended, fun voice speaks => (minded.minded voice speaks).imp_right (keeps voice)⟩

/-- **When voices are stopped and others begin**, it is enough to mind the voices that were minded and
are not stopped, and those that begin. -/
theorem alter (minded : Minded free left minds audio) (alters : Alters stops starts audio after)
    (old : ∀ voice ∈ audio.voices, minds voice → voice.sound ∉ stops → others voice)
    (new : ∀ voice, voice.sound ∈ starts → others voice) : Minded free left others after where
  ordered := alters.ordered minded.ordered
  ended playback member := by
    obtain ⟨given, ended⟩ := minded.ended playback member
    refine ⟨Nat.le_trans given alters.issued, fun ⟨voice, speaks, same⟩ => ended ⟨voice, ?_, same⟩⟩
    exact (alters.old speaks (same ▸ given)).1
  minded voice speaks := by
    rcases alters.sounds voice speaks with before | begins
    · have spared := (alters.old speaks (minded.ordered.numbered voice before)).2
      exact (minded.minded voice before).imp_right fun known => old voice before known spared
    · exact Or.inr (new voice begins)

/-- **When a sound is played**, it is enough to mind the new voice by its handle. -/
theorem play (minded : Minded free left minds audio) (sound : String)
    (old : ∀ voice, minds voice → others voice)
    (new : ∀ voice : Voice, voice.id = (audio.play sound).1 → voice.sound = sound →
      voice.id ∈ more ∨ others voice) : Minded (free ++ more) left others (audio.play sound).2 := by
  have spared : Minded free left (fun _ => True) (audio.play sound).2 :=
    minded.alter (audio.alters_play sound) (fun _ _ _ _ => trivial) fun _ _ => trivial
  refine ⟨spared.ordered, spared.ended, fun voice speaks => ?_⟩
  rcases List.mem_append.mp speaks with before | last
  · exact (minded.minded voice before).imp (List.mem_append_left _) (old voice)
  · cases List.mem_singleton.mp last
    exact (new _ rfl rfl).imp_left (List.mem_append_right _)

/-- **When time passes**, the playings that end are over. -/
theorem update (minded : Minded free [] minds audio) (none : audio.finished = []) (span : Nat) :
    Minded free (audio.update span).finished minds (audio.update span) where
  ordered := minded.ordered.thin (Nat.le_refl _) List.filter_sublist
  ended playback told := by
    obtain ⟨voice, speaks, rfl, soon⟩ := (mem_finished_update none).mp told
    refine ⟨minded.ordered.numbered voice speaks, fun ⟨other, goes, same⟩ => ?_⟩
    obtain ⟨member, later⟩ := mem_voices_update.mp goes
    cases minded.ordered.unique member speaks same
    exact Nat.not_lt.mpr soon later
  minded voice speaks := minded.minded voice (mem_voices_update.mp speaks).1

/-- What is noted of the playings that are over does not matter. -/
theorem drain (minded : Minded free left minds audio) : Minded free left minds audio.drainFinished.2 :=
  ⟨⟨minded.ordered.numbered, minded.ordered.rises⟩, minded.ended, minded.minded⟩

theorem forget (minded : Minded free left minds audio) : Minded free [] minds audio :=
  ⟨minded.ordered, nofun, minded.minded⟩

end Minded

end Audio

/-! ### Sound chains -/

namespace SoundChain

variable {chain : SoundChain} {world : World}

/-- The chain waits for the end of a voice. -/
def Minds (chain : SoundChain) (voice : Voice) : Prop :=
  ∃ link, (voice.id, link) ∈ chain.awaiting ∧ chain.file? link = some voice.sound

/-- The playing of a sound that nothing follows: the chain does not wait for its end. -/
def unwatched (chain : SoundChain) (link : Nat) (audio : Audio) : List PlaybackId :=
  match chain.links[link]? with
  | some sound => if sound.next.isSome then [] else [(audio.play sound.file).1]
  | none => []

/-- **A sound is played**: the chain minds its voice, if other sounds may follow it. -/
theorem minded_play (minded : world.audio.Minded free left fun voice => chain.Minds voice ∨ others voice)
    (link : Nat) :
    (chain.play link world).2.audio.Minded (free ++ chain.unwatched link world.audio) left
      fun voice => (chain.play link world).1.Minds voice ∨ others voice := by
  unfold play unwatched
  dsimp only
  cases found : chain.links[link]? with
  | none => exact (List.append_nil free).symm ▸ minded
  | some sound =>
    have loud := minded.alter (world.audio.alters_setVolume sound.file sound.volume)
      (fun _ _ known _ => known) nofun
    dsimp only
    by_cases follows : sound.next.isSome
    · simp only [if_pos follows]
      refine loud.play sound.file (fun voice => Or.imp_left ?_) fun voice same about => Or.inr (Or.inl ?_)
      · exact fun ⟨link, awaited, file⟩ => ⟨link, List.mem_append_left _ awaited, file⟩
      · refine ⟨link, List.mem_append_right _ (List.mem_singleton.mpr (congrArg (·, link) same)), ?_⟩
        rw [about]
        exact congrArg (Option.map Story.Sound.file) found
    · simp only [if_neg follows]
      exact loud.play sound.file (fun _ known => known) fun voice same _ =>
        Or.inl (List.mem_singleton.mpr same)

/-- The end of another playing is told to the chain. -/
theorem Minds.finish {voice : Voice} (minds : chain.Minds voice) {playback : PlaybackId}
    (other : voice.id ≠ playback) (world : World) : (chain.finish playback world).2.1.Minds voice := by
  obtain ⟨link, awaited, file⟩ := minds
  refine ⟨link, mem_awaiting_finish.mpr ⟨awaited, other⟩, ?_⟩
  unfold file?
  rw [links_finish]
  exact file

end SoundChain

/-! ### Characters -/

namespace Character

variable {character : Character} {world : World}

/-- The voice is of an effect of a character on the stage. -/
def Minds (character : Character) (voice : Voice) : Prop :=
  voice.sound ∈ character.withdrawSounds

theorem touchSounds_subset (character : Character) : character.touchSounds ⊆ character.withdrawSounds := by
  unfold touchSounds withdrawSounds Bindings.effects
  rw [soundsOf_append]
  split
  · exact List.subset_append_right _ _
  · exact List.Subset.refl _

theorem onLoadSounds_subset (character : Character) :
    character.onLoadSounds ⊆ character.withdrawSounds := by
  unfold onLoadSounds withdrawSounds Bindings.effects
  rw [soundsOf_append]
  split
  · exact List.subset_append_left _ _
  · exact List.Subset.refl _

/-- A character that is touched keeps the sounds of its effects. -/
theorem withdrawSounds_touch (character : Character) (world : World) :
    (character.touch world).2.1.withdrawSounds = character.withdrawSounds := by
  unfold touch
  split
  · rename_i chain _ bound
    have same : soundsOf (Bindings.effectsOf (some (chain.fire character.id world).1)) =
        soundsOf (Bindings.effectsOf character.bindings.touch) := by
      rw [bound]
      exact Chain.soundsOf_fireEach _ _ _ world
    unfold withdrawSounds Bindings.effects
    dsimp only
    rw [soundsOf_append, soundsOf_append, same]
  · rfl

theorem minded_touch
    (minded : world.audio.Minded free left fun voice => character.Minds voice ∨ others voice) :
    (character.touch world).2.2.audio.Minded free left
      fun voice => (character.touch world).2.1.Minds voice ∨ others voice := by
  have same := character.withdrawSounds_touch world
  unfold Minds
  rw [same]
  refine minded.alter (character.alters_touch world) (fun _ _ known _ => known) fun voice begins => ?_
  exact Or.inl (character.touchSounds_subset begins)

/-- **A character that appears** stops the voices of its old effects, and minds those of its new ones. -/
theorem minded_appear
    (minded : world.audio.Minded free left fun voice => character.Minds voice ∨ others voice)
    (binder : Binder) :
    (character.appear binder world).2.audio.Minded free left
      fun voice => (character.appear binder world).1.Minds voice ∨ others voice := by
  refine minded.alter (character.alters_appear world binder) (fun voice _ known spared => ?_)
    fun voice begins => Or.inl (onLoadSounds_subset _ begins)
  exact Or.inr (known.resolve_left fun old => spared (List.mem_append_left _ old))

end Character

/-! ### Scenes -/

namespace Scene

variable {scene : Scene} {world : World}

/-- The voices that a scene stops when it is torn down. -/
def Minds (scene : Scene) (voice : Voice) : Prop :=
  scene.state ≠ .tornDown ∧
    (scene.sounds.Minds voice ∨ ∃ character ∈ scene.characters, character.Minds voice)

theorem mem_leavingSounds {voice : Voice} (minds : scene.Minds voice) :
    voice.sound ∈ scene.leavingSounds := by
  obtain ⟨stands, known⟩ := minds
  unfold leavingSounds
  rw [if_neg stands]
  rcases known with ⟨link, awaited, file⟩ | ⟨character, member, known⟩
  · exact List.mem_append_left _ (List.mem_filterMap.mpr ⟨_, awaited, file⟩)
  · refine List.mem_append_right _ (List.mem_flatMap.mpr ⟨character, member, ?_⟩)
    unfold Character.Minds Character.withdrawSounds at known
    split at known
    · exact known
    · cases known

/-- **A scene that is torn down stops the voices that it minds.** -/
theorem minded_teardown (minded : world.audio.Minded free left scene.Minds) :
    (scene.teardown world).2.audio.Minded free left fun _ => False :=
  minded.alter (scene.alters_teardown world) (fun _ _ known spared => spared (mem_leavingSounds known)) nofun

/-- What a scene minds beside the voices of one of its characters. -/
theorem exists_minds_setCharacter (stands : scene.state ≠ .tornDown) {id : CharacterId}
    {character : Character} (found : scene.character? id = some character) :
    ∃ others : Voice → Prop, (∀ voice, scene.Minds voice ↔ character.Minds voice ∨ others voice) ∧
      ∀ changed voice, (scene.setCharacter id changed).Minds voice ↔ changed.Minds voice ∨ others voice := by
  obtain ⟨inside, rfl⟩ := List.getElem?_eq_some_iff.mp found
  have minds : ∀ changed voice, (scene.setCharacter id changed).Minds voice ↔
      changed.Minds voice ∨ scene.sounds.Minds voice ∨
        ∃ other ∈ scene.characters.take id.index ++ scene.characters.drop (id.index + 1),
          other.Minds voice := by
    intro changed voice
    unfold Minds setCharacter
    dsimp only
    have among : ∀ other, other ∈ scene.characters.set id.index changed ↔ other = changed ∨
        other ∈ scene.characters.take id.index ++ scene.characters.drop (id.index + 1) := by
      rw [List.set_eq_take_append_cons_drop, if_pos inside]
      exact fun other => List.perm_middle.mem_iff.trans List.mem_cons
    simp only [and_iff_right stands, among, or_and_right, exists_or, exists_eq_left]
    exact or_left_comm
  refine ⟨_, fun voice => ?_, minds⟩
  rw [← minds]
  unfold setCharacter
  rw [List.set_getElem_self]

/-- What is done to one of its characters. -/
theorem minded_setCharacter (stands : scene.state ≠ .tornDown) {id : CharacterId} {character : Character}
    (found : scene.character? id = some character) {changed : Character} {after : World}
    (minded : world.audio.Minded free left scene.Minds)
    (keeps : ∀ {others : Voice → Prop},
      (world.audio.Minded free left fun voice => character.Minds voice ∨ others voice) →
        after.audio.Minded free left fun voice => changed.Minds voice ∨ others voice) :
    after.audio.Minded free left (scene.setCharacter id changed).Minds := by
  obtain ⟨others, own, rest⟩ := exists_minds_setCharacter stands found
  exact (keeps (minded.mono fun voice => (own voice).mp)).mono fun voice => (rest changed voice).mpr

theorem minded_touch (minded : world.audio.Minded free left scene.Minds) (id : CharacterId) :
    (scene.touch id world).2.2.audio.Minded free left (scene.touch id world).2.1.Minds := by
  unfold touch
  split
  · rename_i active
    split
    · rename_i found
      exact minded_setCharacter (active ▸ nofun) found minded Character.minded_touch
    · exact minded
  · exact minded

theorem minded_pointerUpAt (minded : world.audio.Minded free left scene.Minds) (x y : Single) :
    (scene.pointerUpAt x y world).2.2.audio.Minded free left (scene.pointerUpAt x y world).2.1.Minds := by
  rw [pointerUpAt_eq]
  split
  · exact minded_touch minded _
  · exact minded

theorem minded_retrigger (minded : world.audio.Minded free left scene.Minds) (id : CharacterId) :
    (scene.retrigger id world).2.audio.Minded free left (scene.retrigger id world).1.Minds := by
  unfold retrigger
  split
  · rename_i active
    split
    · rename_i found
      exact minded_setCharacter (active ▸ nofun) found minded fun minded => Character.minded_appear minded _
    · exact minded
  · exact minded

/-- The playing of a sound that nothing follows. -/
def unwatched (scene : Scene) (link : Nat) (world : World) : List PlaybackId :=
  if scene.state = .tornDown then [] else scene.sounds.unwatched link world.audio

/-- **A sound of a scene is played**: the scene minds it, if other sounds may follow it. -/
theorem minded_playSound (minded : world.audio.Minded free left scene.Minds) (link : Nat) :
    (scene.playSound link world).2.audio.Minded (free ++ scene.unwatched link world) left
      (scene.playSound link world).1.Minds := by
  unfold playSound unwatched
  split
  · exact (List.append_nil free).symm ▸ minded
  · rename_i stands
    have played := SoundChain.minded_play (minded.mono fun voice known => known.2) link
    exact played.mono fun voice known => ⟨stands, known⟩

/-- **The end of a playing is told to a scene**: no voice of it is left. -/
theorem minded_finish (minded : world.audio.Minded free left scene.Minds) {playback : PlaybackId}
    (told : playback ∈ left) :
    (scene.finish playback world).2.2.audio.Minded free left (scene.finish playback world).2.1.Minds := by
  refine minded.alter (.of_eq (scene.sounds.audio_finish playback world)) (fun voice speaks known _ => ?_) nofun
  have other : voice.id ≠ playback := fun same => (minded.ended playback told).2 ⟨voice, speaks, same⟩
  exact ⟨known.1, known.2.imp_left fun minds => minds.finish other world⟩

/-! ### Beginning and end -/

theorem minded_appearEach (binder : Binder) (characters : List Character) :
    ∀ {others : Voice → Prop} {world : World},
      (world.audio.Minded free left
        fun voice => (∃ character ∈ characters, character.Minds voice) ∨ others voice) →
      (appearEach binder characters world).2.audio.Minded free left fun voice =>
        (∃ character ∈ (appearEach binder characters world).1, character.Minds voice) ∨ others voice := by
  induction characters with
  | nil => exact fun minded => minded
  | cons character rest ih =>
    intro others world minded
    simp only [List.exists_mem_cons_iff, or_assoc] at minded
    have appeared := Character.minded_appear minded binder
    have all := ih (appeared.mono fun voice => or_left_comm.mp)
    refine all.mono fun voice known => ?_
    simp only [appearEach, List.exists_mem_cons_iff, or_assoc]
    exact or_left_comm.mp known

/-- **A scene that is entered** minds the voices of the effects that its characters run. -/
theorem minded_enter (new : scene.state = .uninitialized)
    (minded : world.audio.Minded free left fun _ => False) :
    (scene.enter world).2.audio.Minded free left (scene.enter world).1.Minds := by
  let begun := scene.enterSounds (scene.remarkEntry world)
  let drawn := begun.1.drawBackground begun.2
  have silent : drawn.2.audio = world.audio :=
    (sounds_drawBackground begun.1 begun.2).2.trans (SoundChain.awaiting_scheduleAll _ scene.sounds _).2
  rw [← silent] at minded
  have appeared := minded_appearEach drawn.1.binder drawn.1.characters (minded.mono fun _ => Or.inr)
  rw [enter_eq new]
  refine appeared.alter (.of_eq (audio_setRetriggers _ _)) (fun voice _ known _ => ?_) nofun
  exact ⟨nofun, Or.inr (known.resolve_right not_false)⟩

end Scene

end Storybook
