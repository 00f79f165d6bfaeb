/-
**Voices that are silenced.**

An audio effect stops all voices of its sound, whoever has started them: when it runs, since it starts
the sound over, and when it is called off. Nothing else that a character does stops a voice, and a
voice that is started has a handle of its own.

* `Audio.Silences`: between two states, the voices of some sounds are stopped and all others go on;
* `Audio.Alters`: and the voices that begin are of some sounds;
* `soundsOf`: the sounds that effects are about;
* `Character.touchSounds`, `Character.appearSounds`: the sounds that a character silences;
* `Character.alters_touch`, `Character.alters_appear`: it silences these and no others.
-/

import Storybook.Proofs.Holding.Characters

namespace Storybook

/-! ### Voices -/

namespace Audio

/-- A playing goes on. -/
def IsActive (audio : Audio) (playback : PlaybackId) : Prop :=
  ∃ voice ∈ audio.voices, voice.id = playback

/-- A playing goes on now, and ends by itself when a span has passed, if it is not stopped before. -/
def EndsWithin (audio : Audio) (playback : PlaybackId) (span : Nat) : Prop :=
  ∃ voice ∈ audio.voices, voice.id = playback ∧ voice.ending ≤ audio.now + span

/-- The handles of all voices have been given out. -/
def Numbered (audio : Audio) : Prop :=
  ∀ voice ∈ audio.voices, voice.id.number ≤ audio.issued

/-- Between the two states the voices of some sounds are stopped, and the others go on. A voice that
was not there before has a new handle. -/
structure Silences (sounds : List String) (before after : Audio) : Prop where
  now : after.now = before.now
  issued : before.issued ≤ after.issued
  finished : after.finished = before.finished
  spared : ∀ voice ∈ before.voices, voice.sound ∉ sounds → voice ∈ after.voices
  voices : ∀ voice ∈ after.voices, voice ∈ before.voices ∧ voice.sound ∉ sounds ∨
    before.issued < voice.id.number ∧ voice.id.number ≤ after.issued

variable {sounds : List String} {first second third : Audio}

theorem Silences.refl (audio : Audio) : Silences [] audio audio where
  now := rfl
  issued := Nat.le_refl _
  finished := rfl
  spared _ member _ := member
  voices _ member := Or.inl ⟨member, List.not_mem_nil⟩

theorem Silences.of_eq (same : second = first) : Silences [] first second :=
  same ▸ .refl first

theorem Silences.trans {earlier later : List String} (left : Silences earlier first second)
    (right : Silences later second third) : Silences (earlier ++ later) first third where
  now := right.now.trans left.now
  issued := Nat.le_trans left.issued right.issued
  finished := right.finished.trans left.finished
  spared voice member other := by
    obtain ⟨before, after⟩ := not_or.mp (mt List.mem_append.mpr other)
    exact right.spared voice (left.spared voice member before) after
  voices voice member := by
    rcases right.voices voice member with ⟨old, after⟩ | ⟨new, given⟩
    · rcases left.voices voice old with ⟨oldest, before⟩ | ⟨new, given⟩
      · exact Or.inl ⟨oldest, fun inside => (List.mem_append.mp inside).elim before after⟩
      · exact Or.inr ⟨new, Nat.le_trans given right.issued⟩
    · exact Or.inr ⟨Nat.lt_of_le_of_lt left.issued new, given⟩

theorem Silences.numbered (silences : Silences sounds first second) (numbered : first.Numbered) :
    second.Numbered := by
  intro voice member
  rcases silences.voices voice member with ⟨old, _⟩ | ⟨_, given⟩
  · exact Nat.le_trans (numbered voice old) silences.issued
  · exact given

/-- A voice whose handle was given out before is one that was there before, of another sound. -/
theorem Silences.old (silences : Silences sounds first second) {voice : Voice}
    (member : voice ∈ second.voices) (given : voice.id.number ≤ first.issued) :
    voice ∈ first.voices ∧ voice.sound ∉ sounds :=
  (silences.voices voice member).resolve_right fun new => Nat.not_lt.mpr given new.1

/-- The voices are listed in the order of their handles, which have been given out. -/
structure Ordered (audio : Audio) : Prop where
  numbered : audio.Numbered
  rises : audio.voices.Pairwise fun one other => one.id.number < other.id.number

/-- Between the two states the voices of some sounds are stopped, the others go on, and voices of some
sounds begin. -/
structure Alters (stops starts : List String) (before after : Audio) : Prop
    extends Silences stops before after where
  ordered : before.Ordered → after.Ordered
  sounds : ∀ voice ∈ after.voices, voice ∈ before.voices ∨ voice.sound ∈ starts

variable {stops starts : List String}

theorem Alters.refl (audio : Audio) : Alters [] [] audio audio where
  toSilences := .refl audio
  ordered := id
  sounds _ := Or.inl

theorem Alters.of_eq (same : second = first) : Alters [] [] first second :=
  same ▸ .refl first

theorem Alters.trans {ends begins : List String} (left : Alters stops starts first second)
    (right : Alters ends begins second third) : Alters (stops ++ ends) (starts ++ begins) first third where
  toSilences := left.toSilences.trans right.toSilences
  ordered := right.ordered ∘ left.ordered
  sounds voice member := by
    rcases right.sounds voice member with old | new
    · exact (left.sounds voice old).imp_right (List.mem_append_left _)
    · exact Or.inr (List.mem_append_right _ new)

theorem silences_stop (audio : Audio) (sound : String) :
    Silences [sound] audio (audio.stop sound) where
  now := rfl
  issued := Nat.le_refl _
  finished := rfl
  spared voice member other := by
    refine List.mem_filter.mpr ⟨member, decide_eq_true fun same => ?_⟩
    exact other (List.mem_singleton.mpr same)
  voices voice member := by
    obtain ⟨old, other⟩ := List.mem_filter.mp member
    exact Or.inl ⟨old, fun inside => of_decide_eq_true other (List.mem_singleton.mp inside)⟩

/-- Voices that go do not disturb the order of the others. -/
theorem Ordered.thin (ordered : first.Ordered) (issued : first.issued ≤ second.issued)
    (sublist : second.voices.Sublist first.voices) : second.Ordered where
  numbered voice member := Nat.le_trans (ordered.numbered voice (sublist.subset member)) issued
  rises := ordered.rises.sublist sublist

theorem alters_stop (audio : Audio) (sound : String) : Alters [sound] [] audio (audio.stop sound) where
  toSilences := audio.silences_stop sound
  ordered before := before.thin (Nat.le_refl _) List.filter_sublist
  sounds _ member := Or.inl (List.mem_of_mem_filter member)

theorem alters_stopEach (sounds : List String) :
    ∀ audio : Audio, Alters sounds [] audio (sounds.foldl stop audio) := by
  induction sounds with
  | nil => exact .refl
  | cons sound rest ih => exact fun audio => (audio.alters_stop sound).trans (ih _)

theorem silences_play (audio : Audio) (sound : String) : Silences [] audio (audio.play sound).2 where
  now := rfl
  issued := Nat.le_succ _
  finished := rfl
  spared _ member _ := List.mem_append_left _ member
  voices voice member := by
    rcases List.mem_append.mp member with old | new
    · exact Or.inl ⟨old, List.not_mem_nil⟩
    · cases List.mem_singleton.mp new
      exact Or.inr ⟨Nat.lt_succ_self _, Nat.le_refl _⟩

theorem alters_play (audio : Audio) (sound : String) : Alters [] [sound] audio (audio.play sound).2 where
  toSilences := audio.silences_play sound
  ordered before := by
    refine ⟨(audio.silences_play sound).numbered before.numbered, ?_⟩
    refine List.pairwise_append.mpr ⟨before.rises, List.pairwise_singleton .., fun voice old new last => ?_⟩
    cases List.mem_singleton.mp last
    exact Nat.lt_succ_of_le (before.numbered voice old)
  sounds voice member := by
    refine (List.mem_append.mp member).imp_right fun new => ?_
    cases List.mem_singleton.mp new
    exact List.mem_singleton_self sound

theorem alters_setVolume (audio : Audio) (sound : String) (volume : Single) :
    Alters [] [] audio (audio.setVolume sound volume) where
  toSilences := { Silences.refl audio with issued := Nat.le_refl _ }
  ordered before := before.thin (Nat.le_refl _) (.refl _)
  sounds _ := Or.inl

/-- The playings that end by themselves while time passes are those whose end is reached. -/
theorem mem_finished_update {audio : Audio} (none : audio.finished = []) {span : Nat}
    {playback : PlaybackId} :
    playback ∈ (audio.update span).finished ↔ audio.EndsWithin playback span := by
  unfold update EndsWithin
  dsimp only
  rw [none, List.nil_append, List.mem_map]
  refine exists_congr fun voice => ?_
  rw [List.mem_mergeSort, List.mem_filter, decide_eq_true_iff, and_assoc, and_comm (b := _ ≤ _)]

/-- The other voices go on. -/
theorem mem_voices_update {audio : Audio} {span : Nat} {voice : Voice} :
    voice ∈ (audio.update span).voices ↔
      voice ∈ audio.voices ∧ audio.now + span < voice.ending := by
  unfold update
  rw [List.mem_filter, decide_eq_true_iff]

end Audio

/-! ### Effects -/

namespace Effect

/-- The sound of an audio effect. -/
def sound? : Effect → Option String
  | audio sound => some sound
  | _ => none

theorem alters_silence (sound : String) (world : World) :
    Audio.Alters [sound] [] world.audio (silence sound world).audio := by
  unfold silence
  split
  · exact world.audio.alters_stop sound
  · rename_i silent
    refine { Audio.Alters.refl world.audio with spared := fun _ member _ => member, voices := ?_ }
    refine fun voice member => Or.inl ⟨member, fun inside => silent ?_⟩
    exact List.any_eq_true.mpr ⟨voice, member, decide_eq_true (List.mem_singleton.mp inside)⟩

/-- An audio effect that runs starts its sound over. -/
theorem alters_execute (effect : Effect) (world : World) :
    Audio.Alters effect.sound?.toList effect.sound?.toList world.audio (effect.execute world).2.audio := by
  cases effect with
  | audio sound => exact (alters_silence sound world).trans (Audio.alters_play _ sound)
  | move sprite velocity pause state =>
    refine .of_eq (?_ : (state.execute sprite velocity pause world).2.audio = world.audio)
    unfold MoveState.execute MoveState.start
    split
    · dsimp only
      split <;> rfl
    · rfl
  | fadeOut sprite speed state =>
    refine .of_eq (?_ : (state.execute sprite speed world).2.audio = world.audio)
    unfold FadeState.execute
    split <;> rfl
  | spin sprite speed state => cases state <;> exact .refl _
  | _ => exact .refl _

/-- One that is called off stops it. -/
theorem alters_cancel (effect : Effect) (world : World) :
    Audio.Alters effect.sound?.toList [] world.audio (effect.cancel world).2.audio := by
  cases effect with
  | audio sound => exact alters_silence sound world
  | move sprite velocity pause state => cases state <;> exact .refl _
  | fadeOut sprite speed state => cases state <;> exact .refl _
  | spin sprite speed state => cases state <;> exact .refl _
  | _ => exact .refl _

/-- An effect keeps its sound. -/
theorem sound?_execute (effect : Effect) (world : World) :
    (effect.execute world).1.sound? = effect.sound? := by
  cases effect <;> rfl

end Effect

/-! ### Chains -/

/-- The sounds of the audio effects among some effects, in order. -/
def soundsOf (effects : List Effect) : List String :=
  effects.flatMap fun effect => effect.sound?.toList

theorem soundsOf_append (first second : List Effect) :
    soundsOf (first ++ second) = soundsOf first ++ soundsOf second :=
  List.flatMap_append

namespace Chain

theorem alters_fireEach (trigger : Trigger) (character : CharacterId) (effects : List Effect) :
    ∀ world : World, Audio.Alters (soundsOf effects) (soundsOf effects) world.audio
      (fireEach trigger character effects world).2.audio := by
  induction effects with
  | nil => exact fun world => .refl world.audio
  | cons effect later ih =>
    intro world
    exact (effect.alters_execute (world.report (.effectExecuted character trigger effect.kind))).trans (ih _)

theorem alters_cancelEach (effects : List Effect) :
    ∀ world : World, Audio.Alters (soundsOf effects) [] world.audio (cancelEach effects world).2.audio := by
  induction effects with
  | nil => exact fun world => .refl world.audio
  | cons effect later ih => exact fun world => (effect.alters_cancel world).trans (ih _)

/-- The effects of a chain keep their sounds. -/
theorem soundsOf_fireEach (trigger : Trigger) (character : CharacterId) (effects : List Effect) :
    ∀ world : World, soundsOf (fireEach trigger character effects world).1 = soundsOf effects := by
  induction effects with
  | nil => exact fun _ => rfl
  | cons effect later ih =>
    intro world
    unfold soundsOf at ih ⊢
    simp only [fireEach, List.flatMap_cons]
    rw [effect.sound?_execute, ih]

end Chain

/-! ### Characters -/

namespace Bindings

theorem alters_cancelChain (chain : Option Chain) (world : World) :
    Audio.Alters (soundsOf (effectsOf chain)) [] world.audio (cancelChain chain world).audio := by
  cases chain with
  | none => exact .refl _
  | some chain => exact Chain.alters_cancelEach chain.effects world

theorem alters_cancel (bindings : Bindings) (world : World) :
    Audio.Alters (soundsOf bindings.effects) [] world.audio (bindings.cancel world).audio := by
  unfold effects
  rw [soundsOf_append]
  exact (alters_cancelChain bindings.onLoad world).trans (alters_cancelChain bindings.touch _)

end Bindings

namespace Character

variable (character : Character) (world : World)

/-- The sounds that a character silences when it is touched, and starts over then. -/
def touchSounds : List String :=
  if character.sprite.isSome then soundsOf (Bindings.effectsOf character.bindings.touch) else []

/-- **A character that is touched starts the sounds of its effects over.** -/
theorem alters_touch :
    Audio.Alters character.touchSounds character.touchSounds world.audio
      (character.touch world).2.2.audio := by
  unfold touchSounds
  split
  · rename_i shown
    obtain ⟨sprite, stands⟩ := Option.isSome_iff_exists.mp shown
    unfold touch
    split
    · rename_i bound
      rw [bound]
      exact Chain.alters_fireEach _ character.id _ world
    · rename_i still
      cases bound : character.bindings.touch with
      | none => exact .refl _
      | some chain => exact (still sprite chain stands bound).elim
  · rename_i hidden
    unfold touch
    split
    · rename_i stands _
      exact absurd (stands ▸ rfl) hidden
    · exact .refl _

theorem alters_disappear :
    Audio.Alters (soundsOf character.bindings.effects) [] world.audio
      (character.disappear world).2.audio := by
  have cancelled := character.bindings.alters_cancel world
  unfold disappear
  cases character.gravity <;> cases character.sprite <;> exact cancelled

/-- The sounds that a character silences when it leaves the stage. -/
def withdrawSounds : List String :=
  if character.sprite.isSome then soundsOf character.bindings.effects else []

theorem alters_withdraw :
    Audio.Alters character.withdrawSounds [] world.audio (character.withdraw world).2.audio := by
  unfold withdraw withdrawSounds
  split
  · exact character.alters_disappear world
  · exact .refl _

/-- The sounds of the effects that a character runs for its appearance, if it appears. -/
def onLoadSounds : List String :=
  if character.sprite.isSome then soundsOf (Bindings.effectsOf character.bindings.onLoad) else []

theorem alters_fireOnLoad {sprite : SpriteId} (stands : character.sprite = some sprite) :
    Audio.Alters (character.fireOnLoad world).1.onLoadSounds (character.fireOnLoad world).1.onLoadSounds
      world.audio (character.fireOnLoad world).2.audio := by
  have shown : (character.fireOnLoad world).1.sprite.isSome = true := by
    rw [(character.runs_fireOnLoad world).sprite, stands]
    rfl
  unfold onLoadSounds
  rw [if_pos shown]
  unfold fireOnLoad
  split
  · rename_i bound
    dsimp only
    rw [bound]
    exact .refl _
  · rename_i chain bound
    have same := Chain.soundsOf_fireEach chain.trigger character.id chain.effects world
    have fired := Chain.alters_fireEach chain.trigger character.id chain.effects world
    rw [← same] at fired
    exact fired

/-- The sounds that a character silences when it appears: those of the effects that are called off,
and those of the effects that it runs then. -/
def appearSounds (binder : Binder) : List String :=
  character.withdrawSounds ++ (character.appear binder world).1.onLoadSounds

/-- Gravity starts silently. -/
theorem sounds_startGravity (sprite : SpriteId) :
    (character.startGravity sprite world).1.onLoadSounds = character.onLoadSounds ∧
      (character.startGravity sprite world).2.audio = world.audio := by
  unfold startGravity
  dsimp only
  split <;> exact ⟨rfl, rfl⟩

theorem alters_enterStage (binder : Binder) (texture : Asset.Texture) :
    Audio.Alters (character.enterStage binder texture world).1.onLoadSounds
      (character.enterStage binder texture world).1.onLoadSounds world.audio
      (character.enterStage binder texture world).2.audio := by
  let made := world.createSprite (newSprite character.spec texture)
  let bound := binder.bind character.spec made.1 made.2
  have fresh : Binder.Fresh made.1 made.2 bound := binder.fresh_bind _ _ _
  let shown := ((bound.world.reportAll (bound.skipped.map (.effectSkipped character.name))).attachSprite
    made.1).report (.characterShown character.id character.name)
  have still : shown.audio = world.audio := by
    refine Eq.trans ?_ fresh.audio
    dsimp only [shown, World.report, World.attachSprite]
    rw [World.reportAll_eq]
  have fired := (character.dressed made.1 bound.bindings).alters_fireOnLoad shown rfl
  obtain ⟨same, silent⟩ := sounds_startGravity
    ((character.dressed made.1 bound.bindings).fireOnLoad shown).1
    ((character.dressed made.1 bound.bindings).fireOnLoad shown).2 made.1
  rw [← same, ← silent, still] at fired
  exact fired

/-- **A character that appears silences the sounds of its effects**, and no others. Those of the effects
for its appearance are started over. -/
theorem alters_appear (binder : Binder) :
    Audio.Alters (character.appearSounds world binder) (character.appear binder world).1.onLoadSounds
      world.audio (character.appear binder world).2.audio := by
  have withdrawn := character.alters_withdraw world
  unfold appearSounds
  rw [appear_eq]
  split
  · exact withdrawn.trans (alters_enterStage _ _ binder _)
  · have offstage := character.sprite_withdraw world
    unfold onLoadSounds
    rw [offstage]
    exact withdrawn.trans (.refl _)

end Character

end Storybook
