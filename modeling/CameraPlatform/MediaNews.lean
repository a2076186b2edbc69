import CameraPlatform.SampleRouting

/-!
# What is printed about media

The handlers of a medium print a line when it is prepared and another one when it is unprepared, each
once, under the name of the profile whose factory made the medium. So the flags of a medium tell what
was printed about it.
-/

namespace CameraPlatform
open ByteString RefHeap History

/-- The medium that an event is a signal of. -/
def BridgeEvent.medium? : BridgeEvent → Option Nat
  | .newSample .. => none
  | .configure _ => none
  | .prepared i => some i
  | .unprepared i => some i

/-- The lines about a medium whose signals call `mount`, up to now. -/
def Medium.news (m : Medium) (mount : Mount) : List Bytes :=
  (if m.prepared then [mount.startedText] else []) ++ if m.unprepared then [mount.stoppedText] else []

namespace Bridge

/-- All that was printed about medium `n` are the lines `news`, with the name of the mount of its factory. -/
def Announced (b : Bridge) (n : Nat) (news : List Bytes) : Prop :=
  match b.media[n]? with
  | none => news = []
  | some m => ∃ a mount, b.factoryOf a = some m.factory ∧ b.nameOf a = some mount.name ∧ news = m.news mount

section
variable {b b' : Bridge} {n i a : Nat} {news : List Bytes} {m : Medium}

theorem announced_none (hn : b.media[n]? = none) : b.Announced n news ↔ news = [] := by
  rw [Announced, hn]

theorem announced_some (hn : b.media[n]? = some m) : b.Announced n news ↔
    ∃ a mount, b.factoryOf a = some m.factory ∧ b.nameOf a = some mount.name ∧ news = m.news mount := by
  rw [Announced, hn]

theorem Announced.congr (h : b.Announced n news) (hs : SameMounts b b') (hm : b'.media[n]? = b.media[n]?) :
    b'.Announced n news := by
  cases hn : b.media[n]? with
  | none => exact (announced_none (hm.trans hn)).mpr ((announced_none hn).mp h)
  | some m =>
    obtain ⟨a, mount, hf, hname, rfl⟩ := (announced_some hn).mp h
    exact (announced_some (hm.trans hn)).mpr ⟨a, mount, (hs.factory a).trans hf, (hs.name a).trans hname, rfl⟩

theorem printed_prepared (hp : ∀ m, ¬ b.Prepares i m) : b.printed (.prepared i) = [] := by
  cases hm : b.media[i]? with
  | none => simp only [printed, hm]
  | some m =>
    simp only [printed, hm]
    refine if_neg fun hg => hp m ⟨hm, ?_⟩
    simpa [and_assoc] using hg

theorem printed_unprepared (hp : ∀ m, ¬ b.Unprepares i m) : b.printed (.unprepared i) = [] := by
  cases hm : b.media[i]? with
  | none => simp only [printed, hm]
  | some m =>
    simp only [printed, hm]
    refine if_neg fun hg => hp m ⟨hm, ?_⟩
    simpa using hg

/-- The handlers of a medium print for the mount of its factory. -/
theorem Wired.lines_medium (hw : b.Wired) (hm : m ∈ b.media) (ha : b.factoryOf a = some m.factory) {mount : Mount}
    (hmount : b.mounts[a]? = some ⟨mount, false⟩) :
    b.lines (.prepared m.object) = [mount.startedText] ∧ b.lines (.unprepared m.object) = [mount.stoppedText] := by
  obtain ⟨a', ha', -, hp, hu⟩ := hw.media m hm
  obtain rfl := hw.eq_of_factory ha ha'
  simp only [lines, Emission.object, Emission.signal, hp, hu, List.filterMap_cons, List.filterMap_nil, line, hmount]
  exact ⟨trivial, trivial⟩

theorem Wired.printed_prepares (hw : b.Wired) (hp : b.Prepares i m) (ha : b.factoryOf a = some m.factory) {mount : Mount}
    (hmount : b.mounts[a]? = some ⟨mount, false⟩) : b.printed (.prepared i) = [mount.startedText] := by
  obtain ⟨hm, hprepared, hunprepared, halive⟩ := hp
  simp only [printed, hm, hprepared, hunprepared, halive]
  exact (hw.lines_medium (List.mem_of_getElem? hm) ha hmount).1

theorem Wired.printed_unprepares (hw : b.Wired) (hp : b.Unprepares i m) (ha : b.factoryOf a = some m.factory)
    {mount : Mount} (hmount : b.mounts[a]? = some ⟨mount, false⟩) : b.printed (.unprepared i) = [mount.stoppedText] := by
  obtain ⟨hm, hunprepared, halive⟩ := hp
  simp only [printed, hm, hunprepared, halive]
  exact (hw.lines_medium (List.mem_of_getElem? hm) ha hmount).2

/-- The handlers of a factory and of its media find their mount. -/
theorem Apart.mount (h : b.Apart) (ha : b.factoryOf a = some m.factory) :
    ∃ mount, b.mounts[a]? = some ⟨mount, false⟩ ∧ b.nameOf a = some mount.name := by
  have halive : b.mountAlive a = true := h.alive a (RtspProfileServer.lt_of_factoryOf ha)
  obtain ⟨mount, hmount, -⟩ := withMount_alive .onMediaPrepared (fun mount => (mount, b.gst, [])) halive
  exact ⟨mount, hmount, by rw [nameOf, hmount]; rfl⟩

/-- A medium with new flags, and the line about the signal that set them. -/
theorem Announced.set (h : b.Announced n news) (hs : SameMounts b b') {m' : Medium} {line : Bytes}
    (hi : b.media[i]? = some m) (hm : b'.media = b.media.set i m') (hfactory : m'.factory = m.factory)
    (hw : b.Wired) (ha : b.factoryOf a = some m.factory)
    (hline : ∀ mount : Mount, b.nameOf a = some mount.name → m'.news mount = m.news mount ++ [line]) :
    b'.Announced n (news ++ if some i = some n then [line] else []) := by
  by_cases hin : i = n
  · subst hin
    have hset : b'.media[i]? = some m' := by
      rw [hm, List.getElem?_set_self (List.getElem?_eq_some_iff.mp hi).1]
    obtain ⟨a', mount, hf, hname, rfl⟩ := (announced_some hi).mp h
    obtain rfl := hw.eq_of_factory ha hf
    rw [if_pos rfl, announced_some hset]
    exact ⟨a, mount, by rw [hs.factory, ha, hfactory], (hs.name a).trans hname, (hline mount hname).symm⟩
  · rw [if_neg fun heq => hin (Option.some.inj heq), List.append_nil]
    exact h.congr hs (by rw [hm, List.getElem?_set_ne hin])

/-- What was printed so far, and what is printed now. -/
theorem Apart.step_announced (h : b.Apart) (e : BridgeEvent) (hn : b.Announced n news) :
    (b.step e).Announced n (news ++ if e.medium? = some n then b.printed e else []) := by
  have hquiet : ∀ {b' : Bridge} {lines : List Bytes}, SameMounts b b' → b'.media[n]? = b.media[n]? → lines = [] →
      b'.Announced n (news ++ lines) := by
    rintro b' lines hs hm rfl
    rw [List.append_nil]
    exact hn.congr hs hm
  have hsame := (@Aligned.refl b).toSameMounts
  cases e with
  | newSample sink pulled =>
    obtain ⟨hran, -⟩ := @Bridge.step_newSample b sink pulled
    exact hquiet hran.aligned.toSameMounts (by rw [hran.media]) rfl
  | configure f =>
    rcases h.wired.step_configure f with ⟨-, heq⟩ | ⟨a, ha, -, heq⟩
    · rw [heq]
      exact hquiet hsame rfl rfl
    · obtain ⟨haligned, -, hmedia, -⟩ :=
        onMediaConfigure_alive f (h.alive a (RtspProfileServer.lt_of_factoryOf ha))
      rw [heq]
      rcases Nat.lt_trichotomy n b.media.length with hlt | rfl | hgt
      · exact hquiet haligned.toSameMounts (by rw [hmedia, List.getElem?_append_left hlt]) rfl
      · -- the medium is new, and nothing was printed about it yet
        obtain rfl := (announced_none (List.getElem?_eq_none (Nat.le_refl _))).mp hn
        obtain ⟨mount, -, hname⟩ := h.mount (m := b.newMedium f) ha
        refine (announced_some (by rw [hmedia, List.getElem?_concat_length])).mpr ⟨a, mount, ?_, ?_, rfl⟩
        · exact (haligned.factory a).trans ha
        · exact (haligned.name a).trans hname
      · refine hquiet haligned.toSameMounts ?_ rfl
        rw [hmedia, List.getElem?_eq_none (by rw [List.length_append, List.length_singleton]; omega),
          List.getElem?_eq_none (Nat.le_of_lt hgt)]
  | prepared i =>
    rcases h.wired.step_prepared i with ⟨hp, heq⟩ | ⟨m, a, hp, ha, heq⟩
    · rw [heq, printed_prepared hp]
      exact hquiet hsame rfl (ite_self _)
    · obtain ⟨mount, hmount, hname⟩ := h.mount ha
      obtain ⟨haligned, -, hmedia⟩ := (onMediaPrepared_ran (b := b.withMedium i { m with prepared := true })
        (a := a)).withMedium
      rw [heq, h.wired.printed_prepares hp ha hmount]
      refine hn.set haligned.toSameMounts hp.1 hmedia rfl h.wired ha fun mount' hname' => ?_
      have htext : mount'.startedText = mount.startedText := by
        rw [Mount.startedText, Mount.startedText, Option.some.inj (hname'.symm.trans hname)]
      simp [Medium.news, hp.2.1, hp.2.2.1, htext]
  | unprepared i =>
    rcases h.wired.step_unprepared i with ⟨hp, heq⟩ | ⟨m, a, hp, ha, heq⟩
    · rw [heq, printed_unprepared hp]
      exact hquiet hsame rfl (ite_self _)
    · obtain ⟨mount, hmount, hname⟩ := h.mount ha
      obtain ⟨haligned, -, hmedia⟩ := (onMediaUnprepared_ran (b := b.withMedium i { m with unprepared := true })
        (a := a)).withMedium
      rw [heq, h.wired.printed_unprepares hp ha hmount]
      refine hn.set haligned.toSameMounts hp.1 hmedia rfl h.wired ha fun mount' hname' => ?_
      have htext : mount'.stoppedText = mount.stoppedText := by
        rw [Mount.stoppedText, Mount.stoppedText, Option.some.inj (hname'.symm.trans hname)]
      simp [Medium.news, hp.2.1, htext]

end

end Bridge

end CameraPlatform
