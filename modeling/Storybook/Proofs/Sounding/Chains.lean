/-
**Playings that a sound chain waits for.**

A sound chain waits for the end of a playing by its handle, but an audio effect stops voices by the
name of their sound. So a playing that the chain waits for goes on, unless it has ended by itself or
an audio effect was about its sound.

* `SoundChain.cut`: the awaited playings of some sounds;
* `SoundChain.Tracks`: the awaited playings go on, but for those that were cut and those whose end
  is still to be told to the chain;
* `SoundChain.Tracks.silence`, `SoundChain.Tracks.play`, `SoundChain.Tracks.finish`,
  `SoundChain.Tracks.update`: that stays so;
* `SoundChain.Continues`: the sounds that follow a playing wait for their turn.
-/

import Storybook.Proofs.Holding.Sounds
import Storybook.Proofs.Sounding.Voices

namespace Storybook.SoundChain

variable {lost left : List PlaybackId} {sounds : List String} {chain : SoundChain}
  {audio after : Audio} {world : World}

/-- The file of a sound. -/
def file? (chain : SoundChain) (link : Nat) : Option String :=
  chain.links[link]?.map Story.Sound.file

/-- The awaited playings of some sounds. -/
def cut (chain : SoundChain) (sounds : List String) : List PlaybackId :=
  (chain.awaiting.filter fun entry => (chain.file? entry.2).any (· ∈ sounds)).map Prod.fst

theorem mem_cut {playback : PlaybackId} :
    playback ∈ chain.cut sounds ↔
      ∃ link, (playback, link) ∈ chain.awaiting ∧ ∃ file ∈ chain.file? link, file ∈ sounds := by
  unfold cut
  constructor
  · intro member
    obtain ⟨⟨_, link⟩, inside, rfl⟩ := List.mem_map.mp member
    obtain ⟨awaited, about⟩ := List.mem_filter.mp inside
    obtain ⟨file, found, named⟩ := (Option.any_eq_true _ _).mp about
    exact ⟨link, awaited, file, found, of_decide_eq_true named⟩
  · rintro ⟨link, awaited, file, found, named⟩
    refine List.mem_map.mpr ⟨(playback, link), List.mem_filter.mpr ⟨awaited, ?_⟩, rfl⟩
    exact (Option.any_eq_true _ _).mpr ⟨file, found, decide_eq_true named⟩

theorem cut_nil (chain : SoundChain) : chain.cut [] = [] := by
  refine List.eq_nil_iff_forall_not_mem.mpr fun playback member => ?_
  obtain ⟨_, _, _, _, none⟩ := mem_cut.mp member
  cases none

/-- The chain and the voices agree: an awaited playing goes on if it was not lost, unless its end is
left to be told to the chain. -/
structure Tracks (lost left : List PlaybackId) (chain : SoundChain) (audio : Audio) : Prop where
  single : (chain.awaiting.map Prod.fst).Nodup
  issued : ∀ entry ∈ chain.awaiting, entry.1.number ≤ audio.issued
  files : ∀ entry ∈ chain.awaiting, ∀ voice ∈ audio.voices, voice.id = entry.1 →
    chain.file? entry.2 = some voice.sound
  active : ∀ entry ∈ chain.awaiting, entry.1 ∉ left → (audio.IsActive entry.1 ↔ entry.1 ∉ lost)

/-- A chain that waits for nothing. -/
theorem Tracks.of_nil (none : chain.awaiting = []) : chain.Tracks lost left audio := by
  refine ⟨?_, ?_, ?_, ?_⟩ <;> rw [none]
  · exact List.nodup_nil
  · exact fun _ member => nomatch member
  · exact fun _ member => nomatch member
  · exact fun _ member => nomatch member

/-! ### Silence -/

/-- **When sounds are silenced, exactly the awaited playings of these sounds are lost.** -/
theorem Tracks.silence (tracks : chain.Tracks lost left audio)
    (silences : Audio.Silences sounds audio after) :
    chain.Tracks (lost ++ chain.cut sounds) left after where
  single := tracks.single
  issued entry member := Nat.le_trans (tracks.issued entry member) silences.issued
  files entry member voice speaks same := by
    have old := silences.old speaks (same ▸ tracks.issued entry member)
    exact tracks.files entry member voice old.1 same
  active entry member told := by
    rw [List.mem_append, not_or, ← tracks.active entry member told]
    constructor
    · rintro ⟨voice, speaks, same⟩
      obtain ⟨old, other⟩ := silences.old speaks (same ▸ tracks.issued entry member)
      refine ⟨⟨voice, old, same⟩, fun gone => other ?_⟩
      obtain ⟨link, awaited, file, found, named⟩ := mem_cut.mp gone
      have own : entry = (entry.1, link) :=
        List.inj_on_of_nodup_map tracks.single member awaited rfl
      have file' := tracks.files entry member voice old same
      rw [own, Option.mem_def.mp found] at file'
      exact Option.some.inj file' ▸ named
    · rintro ⟨⟨voice, old, same⟩, spared⟩
      refine ⟨voice, silences.spared voice old fun named => spared ?_, same⟩
      exact mem_cut.mpr ⟨entry.2, member, voice.sound, tracks.files entry member voice old same, named⟩

/-- Where no sound is silenced, nothing is lost. -/
theorem Tracks.spare (tracks : chain.Tracks lost left audio)
    (silences : Audio.Silences [] audio after) : chain.Tracks lost left after := by
  have same := tracks.silence silences
  rw [chain.cut_nil, List.append_nil] at same
  exact same

/-! ### The course of a chain -/

theorem awaiting_scheduleAll (links : List Nat) :
    ∀ (chain : SoundChain) (world : World),
      (chain.scheduleAll links world).1.awaiting = chain.awaiting ∧
        (chain.scheduleAll links world).2.audio = world.audio := by
  induction links with
  | nil => exact fun _ _ => ⟨rfl, rfl⟩
  | cons link rest ih => exact fun chain world => ih (chain.schedule link world).1 _

/-- What a chain waits for depends on the sounds that it has and on the playings, and on nothing
else. -/
theorem Tracks.congr {other : SoundChain} (tracks : chain.Tracks lost left audio)
    (links : other.links = chain.links) (awaiting : other.awaiting = chain.awaiting) :
    other.Tracks lost left audio := by
  refine ⟨?_, ?_, ?_, ?_⟩ <;> rw [awaiting]
  · exact tracks.single
  · exact tracks.issued
  · unfold file?
    rw [links]
    exact tracks.files
  · exact tracks.active

/-- A playing that has just begun is awaited. -/
theorem Tracks.await (tracks : chain.Tracks lost left audio) (numbered : audio.Numbered)
    (given : ∀ playback ∈ lost, playback.number ≤ audio.issued) {link : Nat} {sound : String}
    (file : chain.file? link = some sound) :
    { chain with awaiting := chain.awaiting ++ [((audio.play sound).1, link)] }.Tracks lost left
      (audio.play sound).2 := by
  have spared := tracks.spare (audio.silences_play sound)
  have fresh : ∀ entry ∈ chain.awaiting, entry.1 ≠ (audio.play sound).1 := by
    intro entry member same
    exact Nat.not_succ_le_self _ (congrArg PlaybackId.number same ▸ tracks.issued entry member)
  refine ⟨?_, ?_, ?_, ?_⟩
  · rw [List.map_append]
    refine List.nodup_append.mpr ⟨spared.single, List.nodup_singleton _, fun old member new last => ?_⟩
    obtain ⟨entry, inside, rfl⟩ := List.mem_map.mp member
    exact List.mem_singleton.mp last ▸ fresh entry inside
  · refine List.forall_mem_append.mpr ⟨spared.issued, List.forall_mem_singleton.mpr ?_⟩
    exact Nat.le_refl _
  · refine List.forall_mem_append.mpr ⟨spared.files, List.forall_mem_singleton.mpr ?_⟩
    intro voice speaks same
    rcases List.mem_append.mp speaks with old | new
    · exact absurd (same ▸ numbered voice old) (Nat.not_succ_le_self _)
    · cases List.mem_singleton.mp new
      exact file
  · refine List.forall_mem_append.mpr ⟨spared.active, List.forall_mem_singleton.mpr fun _ => ?_⟩
    refine iff_of_true ⟨_, List.mem_append_right _ List.mem_cons_self, rfl⟩ fun gone => ?_
    exact Nat.not_succ_le_self _ (given _ gone)

/-- A sound of the chain begins. -/
theorem alters_play (chain : SoundChain) (link : Nat) (world : World) :
    Audio.Alters [] (chain.file? link).toList world.audio (chain.play link world).2.audio := by
  unfold play file?
  dsimp only
  split
  · rename_i none
    rw [none]
    exact .refl _
  · rename_i sound found
    rw [found]
    have volume := world.audio.alters_setVolume sound.file sound.volume
    split <;> exact volume.trans (Audio.alters_play _ sound.file)

/-- **A sound is played**: if other sounds may follow it, the chain waits for its end. -/
theorem Tracks.play (tracks : chain.Tracks lost left world.audio) (numbered : world.audio.Numbered)
    (given : ∀ playback ∈ lost, playback.number ≤ world.audio.issued) (link : Nat) :
    (chain.play link world).1.Tracks lost left (chain.play link world).2.audio := by
  have played := tracks.spare (chain.alters_play link world).toSilences
  unfold SoundChain.play at played ⊢
  dsimp only at played ⊢
  split
  · exact tracks.congr rfl rfl
  · rename_i sound found
    rw [found] at played
    have volume := tracks.spare (world.audio.alters_setVolume sound.file sound.volume).toSilences
    split
    · have file : chain.file? link = some sound.file := by
        unfold file?
        rw [found]
        rfl
      exact (volume.await numbered given file).congr rfl rfl
    · rename_i last
      dsimp only at played
      rw [if_neg last] at played
      exact played.congr rfl rfl

/-- A sound that is played changes nothing about the playings that are awaited before. -/
theorem mem_awaiting_play {entry : PlaybackId × Nat} (awaited : entry ∈ chain.awaiting) (link : Nat)
    (world : World) : entry ∈ (chain.play link world).1.awaiting := by
  unfold play
  dsimp only
  split
  · exact awaited
  · split
    · exact List.mem_append_left _ awaited
    · exact awaited

/-- The playings that a chain waits for are those that it has waited for, but for the one that has
ended. -/
theorem mem_awaiting_finish {playback : PlaybackId} {entry : PlaybackId × Nat} :
    entry ∈ (chain.finish playback world).2.1.awaiting ↔
      entry ∈ chain.awaiting ∧ entry.1 ≠ playback := by
  unfold finish
  split
  · rename_i unknown
    refine (and_iff_left_of_imp fun member same => ?_).symm
    exact bne_iff_ne.mp (List.lookup_eq_none_iff.mp unknown entry member) same.symm
  · dsimp only
    rw [(awaiting_scheduleAll _ _ _).1, List.mem_filter, decide_eq_true_iff]

theorem sublist_finish (chain : SoundChain) (playback : PlaybackId) (world : World) :
    (chain.finish playback world).2.1.awaiting.Sublist chain.awaiting := by
  unfold finish
  split
  · exact .refl _
  · dsimp only
    rw [(awaiting_scheduleAll _ _ _).1]
    exact List.filter_sublist

theorem audio_finish (chain : SoundChain) (playback : PlaybackId) (world : World) :
    (chain.finish playback world).2.2.audio = world.audio := by
  unfold finish
  split
  · rfl
  · exact (awaiting_scheduleAll _ _ _).2

/-- **The end of a playing is told to the chain**, which does not wait for it any longer. -/
theorem Tracks.finish {playback : PlaybackId}
    (tracks : chain.Tracks lost (playback :: left) world.audio) :
    (chain.finish playback world).2.1.Tracks lost left (chain.finish playback world).2.2.audio := by
  rw [audio_finish]
  refine ⟨?_, fun entry member => ?_, fun entry member => ?_, fun entry member told => ?_⟩
  · exact tracks.single.sublist ((chain.sublist_finish playback world).map Prod.fst)
  · exact tracks.issued entry (mem_awaiting_finish.mp member).1
  · unfold file?
    rw [links_finish]
    exact tracks.files entry (mem_awaiting_finish.mp member).1
  · obtain ⟨old, other⟩ := mem_awaiting_finish.mp member
    exact tracks.active entry old fun inside => (List.mem_cons.mp inside).elim other told

/-- **Time passes**: an awaited playing goes on, or its end is reached and left to be told. -/
theorem Tracks.update (tracks : chain.Tracks lost [] audio) (none : audio.finished = []) (span : Nat) :
    chain.Tracks lost (audio.update span).finished (audio.update span) where
  single := tracks.single
  issued := tracks.issued
  files entry member voice speaks :=
    tracks.files entry member voice (Audio.mem_voices_update.mp speaks).1
  active entry member told := by
    rw [← tracks.active entry member List.not_mem_nil]
    constructor
    · rintro ⟨voice, speaks, same⟩
      exact ⟨voice, (Audio.mem_voices_update.mp speaks).1, same⟩
    · rintro ⟨voice, speaks, same⟩
      refine ⟨voice, Audio.mem_voices_update.mpr ⟨speaks, ?_⟩, same⟩
      by_contra ended
      exact told ((Audio.mem_finished_update none).mpr ⟨voice, speaks, same, Nat.not_lt.mp ended⟩)

/-- A chain that is stopped stops the voices of the sounds that it waits for. -/
theorem alters_stop (chain : SoundChain) (world : World) :
    Audio.Alters (chain.awaiting.filterMap fun entry => chain.file? entry.2) [] world.audio
      (chain.stop world).2.audio := by
  have stopped := Audio.alters_stopEach (chain.awaiting.filterMap fun entry => chain.file? entry.2)
    (chain.pending.foldl World.cancelTimer world).audio
  rw [World.cancelTimers_eq] at stopped
  unfold stop
  rw [World.cancelTimers_eq]
  exact stopped

/-! ### What follows -/

/-- A sound waits for its turn: its timer is set. -/
def Waits (chain : SoundChain) (timers : TimerQueue Task) (link : Nat) : Prop :=
  ∃ timer ∈ timers.timers, timer.task = .playSound link ∧ timer.id ∈ chain.pending ∧
    timer.due = timers.now + Span.millis ((chain.links[link]?.bind Story.Sound.wait).getD 0)

/-- The sounds that follow a sound wait for their turn. -/
def Continues (chain : SoundChain) (timers : TimerQueue Task) (link : Nat) : Prop :=
  ∀ next ∈ successors chain.links link, chain.Waits timers next

/-- A sound waits when it is scheduled, and goes on waiting when others are. -/
theorem waits_schedule {next link : Nat} (waits : chain.Waits world.timers next ∨ next = link) :
    (chain.schedule link world).1.Waits (chain.schedule link world).2.timers next := by
  rcases waits with ⟨timer, member, task, pending, due⟩ | rfl
  · exact ⟨timer, TimerQueue.mem_schedule.mpr (Or.inr member), task, List.mem_append_left _ pending, due⟩
  · refine ⟨_, TimerQueue.mem_schedule.mpr (Or.inl rfl), rfl, ?_, rfl⟩
    exact List.mem_append_right _ (List.mem_singleton.mpr rfl)

theorem waits_scheduleAll {next : Nat} (links : List Nat) :
    ∀ {chain : SoundChain} {world : World}, chain.Waits world.timers next ∨ next ∈ links →
      (chain.scheduleAll links world).1.Waits (chain.scheduleAll links world).2.timers next := by
  induction links with
  | nil => exact fun waits => waits.resolve_right List.not_mem_nil
  | cons link rest ih =>
    intro chain world waits
    refine ih ?_
    rw [List.mem_cons, ← or_assoc] at waits
    exact waits.imp_left waits_schedule

/-- **When the end of a playing is told to the chain, the sounds that follow it wait for their turn.** -/
theorem continues_finish (tracks : chain.Tracks lost left audio) {playback : PlaybackId} {link : Nat}
    (awaited : (playback, link) ∈ chain.awaiting) :
    (chain.finish playback world).2.1.Continues (chain.finish playback world).2.2.timers link := by
  unfold Continues
  rw [links_finish]
  intro next follows
  unfold finish
  split
  · rename_i unknown
    exact absurd rfl (bne_iff_ne.mp (List.lookup_eq_none_iff.mp unknown _ awaited))
  · rename_i known found
    obtain ⟨before, after, split, _⟩ := List.lookup_eq_some_iff.mp found
    have told : (playback, known) ∈ chain.awaiting :=
      split ▸ List.mem_append_right _ List.mem_cons_self
    cases List.inj_on_of_nodup_map tracks.single awaited told rfl
    exact waits_scheduleAll _ (Or.inr follows)

/-- They go on waiting when other playings end. -/
theorem Continues.finish {link : Nat} (continues : chain.Continues world.timers link)
    (playback : PlaybackId) :
    (chain.finish playback world).2.1.Continues (chain.finish playback world).2.2.timers link := by
  unfold Continues
  rw [links_finish]
  intro next follows
  unfold SoundChain.finish
  split
  · exact continues next follows
  · exact waits_scheduleAll _ (Or.inl (continues next follows))

end Storybook.SoundChain
