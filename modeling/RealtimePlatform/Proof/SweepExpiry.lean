import RealtimePlatform.Backend.PresenceTasks
import RealtimePlatform.Proof.Handling

namespace RealtimePlatform.Proof.SweepExpiry
open Library Backend PresenceTasks SampleToken Sample
open PresenceService (isExpired)

def Began (now : Clock) : SweepPhase → Prop
  | .collecting began _ | .removing began _ _ => began = now
  | .announcing _ => False

def Awaits (now : Clock) (s : SessionId) : SweepPhase → Prop
  | .collecting began ids | .removing began ids _ => began = now ∧ s ∈ ids
  | .announcing _ => False

def Renews (s : SessionId) (t : PresenceTasks) : TaskEvent → Prop
  | .heartbeat q _ => q = s ∧ (∃ now, Awaits now s t.sweep) ∧ (t.entryOf s).isSome = true
  | .register _ q _ _ => q = s ∧ ∃ now, Awaits now s t.sweep
  | _ => False

def IsNext (s : SessionId) (t : PresenceTasks) : Prop :=
  ∃ now rest removed, t.sweep = .removing now (s :: rest) removed

def Takes (s : SessionId) (t : PresenceTasks) : TaskEvent → Prop
  | .leave q => q = s
  | .remove => IsNext s t
  | _ => False

def Renewed (ctx : RealtimeContext) (timeout : Nat) (s : SessionId) (es : List TaskEvent) : Prop :=
  step.SinceAt (Renews s) (Takes s) (start ctx timeout) es

def OnlyExpired (timeout : Nat) (t : PresenceTasks) : Prop :=
  ∀ r ∈ t.removals, ∀ now, r.remover = .sweep now → isExpired now timeout r.entry = true

def KeepsRenewed (ctx : RealtimeContext) (timeout : Nat) (es : List TaskEvent) : Prop :=
  ∀ ds u u' s, ds ++ [.remove] <+: es → step.run (start ctx timeout) ds = some u → IsNext s u →
    Renewed ctx timeout s ds → step u .remove = some u' → (u'.entryOf s).isSome = true

/-- Whenever the sweep comes to a session, its entry has not been renewed since it was collected. -/
def ComesInTime (ctx : RealtimeContext) (timeout : Nat) (es : List TaskEvent) : Prop :=
  ∀ ds u s, ds ++ [.remove] <+: es → step.run (start ctx timeout) ds = some u → IsNext s u →
    ¬ Renewed ctx timeout s ds

structure Watched (timeout : Nat) (renewed : Prop) (s : SessionId) (t : PresenceTasks) : Prop where
  fresh : renewed → ∃ now entry, Awaits now s t.sweep ∧ t.entryOf s = some entry ∧ now.instant ≤ entry.lastSeen
  stale : ∀ now entry, Awaits now s t.sweep → t.entryOf s = some entry → ¬ renewed →
    isExpired now timeout entry = true

structure Orderly (timeout : Nat) (t : PresenceTasks) : Prop where
  timeout : t.ctx.presence.timeout = timeout
  clock : ∀ now, Began now t.sweep → now.instant ≤ t.clock
  once : ∀ now ids removed, t.sweep = .removing now ids removed ∨ t.sweep = .collecting now ids → ids.Nodup

section
variable {timeout : Nat} {renewed : Prop} {s : SessionId} {t t' : PresenceTasks} {e : TaskEvent}

theorem began_of_awaits {now : Clock} {sweep : SweepPhase} (awaits : Awaits now s sweep) : Began now sweep := by
  cases sweep with
  | collecting => exact awaits.1
  | removing => exact awaits.1
  | announcing => exact awaits

theorem not_expired {now : Clock} {entry : PresenceEntry} (fresh : now.instant ≤ entry.lastSeen) :
    isExpired now timeout entry = false := by
  have none : now.instant - entry.lastSeen = 0 := Nat.sub_eq_zero_of_le fresh
  simp [isExpired, none]

theorem Watched.keep (watched : Watched timeout renewed s t)
    (awaits : ∀ now, Awaits now s t'.sweep ↔ Awaits now s t.sweep)
    (entries : ∃ f : PresenceEntry → PresenceEntry, t'.entryOf s = (t.entryOf s).map f ∧
      ∀ entry, (f entry).lastSeen = entry.lastSeen)
    (renews : ¬ Renews s t e) (takes : ¬ Takes s t e) :
    Watched timeout (Renews s t e ∨ renewed ∧ ¬ Takes s t e) s t' := by
  obtain ⟨f, mapped, times⟩ := entries
  have same : Renews s t e ∨ renewed ∧ ¬ Takes s t e ↔ renewed := by simp [renews, takes]
  rw [same]
  refine ⟨fun held => ?_, fun now entry' waiting found not => ?_⟩
  · obtain ⟨now, entry, waiting, found, fresh⟩ := watched.fresh held
    refine ⟨now, f entry, (awaits now).mpr waiting, by rw [mapped, found, Option.map_some], ?_⟩
    rwa [times]
  · rw [mapped] at found
    obtain ⟨entry, before, rfl⟩ := Option.map_eq_some_iff.mp found
    have late := watched.stale now entry ((awaits now).mp waiting) before not
    simpa [isExpired, times] using late

theorem watched_of_absent (absent : ∀ now, Awaits now s t.sweep → t.entryOf s = none) (never : ¬ renewed) :
    Watched timeout renewed s t := by
  refine ⟨fun held => absurd held never, fun now entry waiting found => ?_⟩
  rw [absent now waiting] at found
  cases found

theorem watched_renewed {entry : PresenceEntry} (found : t'.entryOf s = some entry) (time : t'.clock ≤ entry.lastSeen)
    (orderly : Orderly timeout t') (renewing : (∃ now, Awaits now s t'.sweep) → renewed)
    (awaited : renewed → ∃ now, Awaits now s t'.sweep) : Watched timeout renewed s t' := by
  refine ⟨fun held => ?_, fun now _ waiting _ not => absurd (renewing ⟨now, waiting⟩) not⟩
  obtain ⟨now, waiting⟩ := awaited held
  exact ⟨now, entry, waiting, found, (orderly.clock now (began_of_awaits waiting)).trans time⟩

theorem Orderly.keep (orderly : Orderly timeout t) (same : t'.ctx.presence.timeout = t.ctx.presence.timeout)
    (clock : t.clock ≤ t'.clock) (sweep : t'.sweep = t.sweep) : Orderly timeout t' := by
  refine ⟨same.trans orderly.timeout, fun now began => ?_, fun now ids removed there => ?_⟩
  · exact (orderly.clock now (sweep ▸ began)).trans clock
  · exact orderly.once now ids removed (sweep ▸ there)

theorem Orderly.narrow (orderly : Orderly timeout t) (same : t'.ctx.presence.timeout = t.ctx.presence.timeout)
    (clock : t'.clock = t.clock) (began : ∀ now, Began now t'.sweep → Began now t.sweep)
    (once : ∀ now ids removed, t'.sweep = .removing now ids removed ∨ t'.sweep = .collecting now ids → ids.Nodup) :
    Orderly timeout t' := by
  refine ⟨same.trans orderly.timeout, fun now there => ?_, once⟩
  rw [clock]
  exact orderly.clock now (began now there)

theorem sweep_take (remover : Remover) : (t.take s remover).2.sweep = t.sweep ∧ (t.take s remover).2.clock = t.clock ∧
    (t.take s remover).2.ctx.presence.timeout = t.ctx.presence.timeout := by
  cases found : t.entryOf s with
  | none => simp [take_of_none found]
  | some entry => exact take_of_some found ▸ ⟨rfl, rfl, rfl⟩

theorem sweep_leave : (t.leave s).sweep = t.sweep ∧ (t.leave s).clock = t.clock ∧
    (t.leave s).ctx.presence.timeout = t.ctx.presence.timeout := by
  cases found : t.entryOf s with
  | none => simp [leave, take_of_none found]
  | some entry =>
      simp only [leave, take_of_some found]
      exact ⟨rfl, rfl, rfl⟩

theorem orderly_step (orderly : Orderly timeout t) (taken : step t e = some t') : Orderly timeout t' := by
  cases e with
  | register tenantId s sub now =>
      obtain ⟨u, read, rfl⟩ := Option.map_eq_some_iff.mp taken
      obtain ⟨later, rfl⟩ := reads_eq_some read
      exact orderly.keep rfl later rfl
  | heartbeat s now =>
      obtain ⟨u, read, rfl⟩ := Option.map_eq_some_iff.mp taken
      obtain ⟨later, rfl⟩ := reads_eq_some read
      exact orderly.keep rfl later rfl
  | track | untrack | announce => exact Option.some.inj taken ▸ orderly.keep rfl (Nat.le_refl _) rfl
  | leave s =>
      obtain ⟨sweep, clock, same⟩ := sweep_leave (t := t) (s := s)
      exact Option.some.inj taken ▸ orderly.keep same clock.ge sweep
  | leaveNext i now =>
      simp only [step, leaveNext] at taken
      split at taken
      · exact Option.some.inj taken ▸ orderly.keep rfl (Nat.le_refl _) rfl
      · cases taken
  | tick now =>
      simp only [step, tick] at taken
      split at taken
      · obtain ⟨u, read, rfl⟩ := Option.map_eq_some_iff.mp taken
        obtain ⟨later, rfl⟩ := reads_eq_some read
        refine ⟨orderly.timeout, fun began there => there ▸ Nat.le_refl _, ?_⟩
        rintro began ids removed (there | there) <;> cases there
        exact List.nodup_nil
      · cases taken
  | collect s =>
      simp only [step, collect] at taken
      split at taken
      · rename_i began ids entry sweep found
        obtain ⟨⟨fresh, _⟩, same⟩ := Option.ite_none_right_eq_some.mp taken
        rw [← Option.some.inj same]
        refine orderly.narrow rfl rfl (fun now there => by rw [sweep]; exact there) ?_
        rintro now ids' removed (there | there) <;> cases there
        exact nodup_concat (orderly.once began ids [] (Or.inr sweep)) fresh
      · cases taken
  | collected =>
      simp only [step, collected] at taken
      split at taken
      · rename_i began ids sweep
        rw [← Option.some.inj taken]
        refine orderly.narrow rfl rfl (fun now there => by rw [sweep]; exact there) ?_
        rintro now ids' removed (there | there) <;> cases there
        exact orderly.once began ids [] (Or.inr sweep)
      · cases taken
  | remove =>
      simp only [step, remove] at taken
      split at taken
      · rename_i began s ids removed sweep
        obtain ⟨_, clock, same⟩ := sweep_take (t := t) (s := s) (.sweep began)
        rw [← Option.some.inj taken]
        refine orderly.narrow same clock (fun now there => by rw [sweep]; exact there) ?_
        · rintro now ids' removed' (there | there) <;> cases there
          exact (List.nodup_cons.mp (orderly.once began (s :: ids) removed (Or.inl sweep))).2
      · cases taken
  | removed =>
      simp only [step, PresenceTasks.removed] at taken
      split at taken
      · rw [← Option.some.inj taken]
        refine orderly.narrow rfl rfl (by rintro _ ⟨⟩) ?_
        rintro now ids' removed' (there | there) <;> cases there
      · cases taken
  | sweepNext now =>
      simp only [step, sweepNext] at taken
      split at taken
      · rw [← Option.some.inj taken]
        refine orderly.narrow rfl rfl (by rintro _ ⟨⟩) ?_
        rintro now ids' removed' (there | there) <;> cases there
      · cases taken

theorem entryOf_adjust {q : SessionId} {f : PresenceEntry → PresenceEntry}
    (sessions : t'.ctx.presence.sessions = Table.adjust q f t.ctx.presence.sessions)
    (times : ∀ entry, (f entry).lastSeen = entry.lastSeen) :
    ∃ g : PresenceEntry → PresenceEntry, t'.entryOf s = (t.entryOf s).map g ∧
      ∀ entry, (g entry).lastSeen = entry.lastSeen := by
  unfold entryOf
  rw [sessions]
  by_cases own : s = q
  · subst own
    exact ⟨f, Table.lookup_adjust _ _ _, times⟩
  · exact ⟨id, by rw [Table.lookup_adjust_ne _ _ own, Option.map_id_fun, id], fun _ => rfl⟩

theorem entryOf_same (same : t'.entryOf s = t.entryOf s) : ∃ g : PresenceEntry → PresenceEntry,
    t'.entryOf s = (t.entryOf s).map g ∧ ∀ entry, (g entry).lastSeen = entry.lastSeen :=
  ⟨id, by rw [same, Option.map_id_fun, id], fun _ => rfl⟩

theorem entryOf_take (remover : Remover) (q : SessionId) :
    (t.take q remover).2.entryOf s = if s = q then none else t.entryOf s := by
  cases found : t.entryOf q with
  | none =>
      rw [take_of_none found]
      split
      · rename_i own
        rw [own, found]
      · rfl
  | some entry =>
      rw [take_of_some found]
      show AList.lookup s (AList.erase q t.ctx.presence.sessions) = _
      split
      · rename_i own
        rw [own, AList.lookup_erase]
      · rename_i other
        exact AList.lookup_erase_ne other

theorem entryOf_leave (q : SessionId) : (t.leave q).entryOf s = if s = q then none else t.entryOf s := by
  rw [← entryOf_take .leave q]
  cases found : t.entryOf q with
  | none => simp only [leave, take_of_none found]
  | some entry =>
      simp only [leave, take_of_some found]
      rfl

theorem watched_taken (gone : t'.entryOf s = none) (renews : ¬ Renews s t e) (takes : Takes s t e) :
    Watched timeout (Renews s t e ∨ renewed ∧ ¬ Takes s t e) s t' :=
  watched_of_absent (fun _ _ => gone) fun held => held.elim renews fun still => still.2 takes

theorem watched_step (orderly : Orderly timeout t) (watched : Watched timeout renewed s t)
    (taken : step t e = some t') : Watched timeout (Renews s t e ∨ renewed ∧ ¬ Takes s t e) s t' := by
  have after := orderly_step orderly taken
  have awaited : renewed → ∃ now, Awaits now s t.sweep := fun held =>
    have ⟨now, _, waiting, _⟩ := watched.fresh held
    ⟨now, waiting⟩
  cases e with
  | register tenantId q sub now =>
      obtain ⟨u, read, rfl⟩ := Option.map_eq_some_iff.mp taken
      obtain ⟨_, rfl⟩ := reads_eq_some read
      by_cases own : q = s
      · subst own
        refine watched_renewed (AList.lookup_insert _) (Nat.le_refl _) after (fun waiting => Or.inl ⟨rfl, waiting⟩) ?_
        rintro (⟨_, waiting⟩ | ⟨held, _⟩)
        · exact waiting
        · exact awaited held
      · exact watched.keep (fun _ => Iff.rfl) (entryOf_same (AList.lookup_insert_ne (Ne.symm own)))
          (fun renews => own renews.1) id
  | heartbeat q now =>
      obtain ⟨u, read, rfl⟩ := Option.map_eq_some_iff.mp taken
      obtain ⟨_, rfl⟩ := reads_eq_some read
      by_cases own : q = s
      · subst own
        cases found : t.entryOf q with
        | none =>
            refine watched.keep (fun _ => Iff.rfl) (entryOf_same ?_) (fun renews => ?_) id
            · refine (Table.lookup_adjust _ _ _).trans ?_
              rw [show AList.lookup q t.ctx.presence.sessions = none from found, Option.map_none, found]
            · obtain ⟨_, _, there⟩ := renews
              rw [found] at there
              cases there
        | some entry =>
            have beaten : AList.lookup q t.ctx.presence.sessions = some entry := found
            refine watched_renewed ((Table.lookup_adjust _ _ _).trans (congrArg _ beaten)) (Nat.le_refl _) after
              (fun waiting => Or.inl ⟨rfl, waiting, by rw [found]; rfl⟩) ?_
            rintro (⟨_, waiting, _⟩ | ⟨held, _⟩)
            · exact waiting
            · exact awaited held
      · exact watched.keep (fun _ => Iff.rfl) (entryOf_same (Table.lookup_adjust_ne _ _ (Ne.symm own)))
          (fun renews => own renews.1) id
  | track q channelId =>
      rw [← Option.some.inj taken]
      exact watched.keep (fun _ => Iff.rfl) (entryOf_adjust rfl fun _ => rfl) id id
  | untrack q channelId =>
      rw [← Option.some.inj taken]
      exact watched.keep (fun _ => Iff.rfl) (entryOf_adjust rfl fun _ => rfl) id id
  | announce =>
      rw [← Option.some.inj taken]
      exact watched.keep (fun _ => Iff.rfl) (entryOf_same rfl) id id
  | leave q =>
      rw [← Option.some.inj taken]
      by_cases own : q = s
      · exact watched_taken ((entryOf_leave q).trans (if_pos own.symm)) id own
      · exact watched.keep (fun _ => by rw [sweep_leave.1])
          (entryOf_same ((entryOf_leave q).trans (if_neg (Ne.symm own)))) id own
  | leaveNext i now =>
      simp only [step, leaveNext] at taken
      split at taken
      · rw [← Option.some.inj taken]
        exact watched.keep (fun _ => Iff.rfl) (entryOf_same rfl) id id
      · cases taken
  | tick now =>
      simp only [step, tick] at taken
      split at taken
      · rename_i idle
        obtain ⟨u, read, rfl⟩ := Option.map_eq_some_iff.mp taken
        obtain ⟨_, rfl⟩ := reads_eq_some read
        refine watched.keep (fun began => ?_) (entryOf_same rfl) id id
        rw [idle]
        exact ⟨fun waiting => absurd waiting.2 List.not_mem_nil, False.elim⟩
      · cases taken
  | collect q =>
      simp only [step, collect] at taken
      split at taken
      · rename_i began ids entry sweep found
        obtain ⟨⟨fresh, late⟩, same⟩ := Option.ite_none_right_eq_some.mp taken
        rw [← Option.some.inj same]
        by_cases own : q = s
        · subst own
          have never : ¬ renewed := by
            intro held
            obtain ⟨now, waiting⟩ := awaited held
            rw [sweep] at waiting
            exact fresh waiting.2
          refine ⟨fun held => absurd held (by simp [Renews, never]), fun now entry' waiting there _ => ?_⟩
          obtain rfl := Option.some.inj (found.symm.trans there)
          rw [← waiting.1, ← orderly.timeout]
          exact late
        · refine watched.keep (fun now => ?_) (entryOf_same rfl) id id
          rw [sweep]
          simp [Awaits, Ne.symm own]
      · cases taken
  | collected =>
      simp only [step, collected] at taken
      split at taken
      · rename_i began ids sweep
        rw [← Option.some.inj taken]
        refine watched.keep (fun now => ?_) (entryOf_same rfl) id id
        rw [sweep]
        rfl
      · cases taken
  | remove =>
      simp only [step, PresenceTasks.remove] at taken
      split at taken
      · rename_i began q ids removed sweep
        rw [← Option.some.inj taken]
        by_cases own : q = s
        · subst own
          exact watched_taken ((entryOf_take (.sweep began) q).trans (if_pos rfl)) id ⟨began, ids, removed, sweep⟩
        · refine watched.keep (fun now => ?_)
            (entryOf_same ((entryOf_take (.sweep began) q).trans (if_neg (Ne.symm own)))) id ?_
          · rw [sweep]
            simp [Awaits, Ne.symm own]
          · rintro ⟨now, rest, others, next⟩
            rw [sweep] at next
            cases next
            exact own rfl
      · cases taken
  | removed =>
      simp only [step, PresenceTasks.removed] at taken
      split at taken
      · rename_i began removed sweep
        rw [← Option.some.inj taken]
        refine watched.keep (fun now => ?_) (entryOf_same rfl) id id
        rw [sweep]
        exact ⟨False.elim, fun waiting => absurd waiting.2 List.not_mem_nil⟩
      · cases taken
  | sweepNext now =>
      simp only [step, sweepNext] at taken
      split at taken
      · rename_i notice rest sweep
        rw [← Option.some.inj taken]
        refine watched.keep (fun now => ?_) (entryOf_same rfl) id id
        rw [sweep]
        rfl
      · cases taken

end

section
variable {ctx : RealtimeContext} {timeout : Nat} {es : List TaskEvent} {t t' : PresenceTasks} {s : SessionId}
  {e : TaskEvent}

theorem watched_run (reached : step.run (start ctx timeout) es = some t) :
    Orderly timeout t ∧ ∀ s, Watched timeout (Renewed ctx timeout s es) s t := by
  refine Step.run_induction (fun es t => Orderly timeout t ∧ ∀ s, Watched timeout (Renewed ctx timeout s es) s t)
    ⟨?_, fun s => ?_⟩ ?_ reached
  · exact ⟨rfl, nofun, fun now ids removed there => there.elim nofun nofun⟩
  · exact watched_of_absent (fun _ _ => rfl) (Step.not_sinceAt_nil _ _ _ _)
  · rintro es t e t' before ⟨orderly, watched⟩ taken
    refine ⟨orderly_step orderly taken, fun s => ?_⟩
    unfold Renewed
    rw [Step.sinceAt_concat before]
    exact watched_step orderly (watched s) taken

theorem removals_take (remover : Remover) : (t.take s remover).2.removals = t.removals ++
    ((t.entryOf s).map fun entry => Removal.mk (t.serials s) s entry remover).toList := by
  cases found : t.entryOf s with
  | none => simp [take_of_none found]
  | some entry => rw [take_of_some found]; rfl

theorem removals_leave : ∃ rs, (t.leave s).removals = t.removals ++ rs ∧ ∀ r ∈ rs, r.remover = .leave := by
  have same : (t.leave s).removals = (t.take s .leave).2.removals := by
    cases found : t.entryOf s with
    | none => simp only [leave, take_of_none found]
    | some entry => simp only [leave, take_of_some found]
  refine ⟨_, same.trans (removals_take .leave), fun r member => ?_⟩
  rw [Option.mem_toList] at member
  obtain ⟨entry, _, rfl⟩ := Option.map_eq_some_iff.mp member
  rfl

theorem removals_step (taken : step t e = some t') :
    (e ≠ .remove ∧ ∃ rs, t'.removals = t.removals ++ rs ∧ ∀ r ∈ rs, r.remover = .leave) ∨
    (e = .remove ∧ ∃ now s rest removed, t.sweep = .removing now (s :: rest) removed ∧ t'.removals = t.removals ++
      ((t.entryOf s).map fun entry => Removal.mk (t.serials s) s entry (.sweep now)).toList) := by
  have quiet : ∀ {d : TaskEvent} {u : PresenceTasks}, d ≠ .remove → u.removals = t.removals →
      d ≠ .remove ∧ ∃ rs, u.removals = t.removals ++ rs ∧ ∀ r ∈ rs, r.remover = .leave := fun other same =>
    ⟨other, [], by rw [same, List.append_nil], List.forall_mem_nil _⟩
  cases e with
  | register =>
      obtain ⟨u, read, rfl⟩ := Option.map_eq_some_iff.mp taken
      exact Or.inl (quiet (by rintro ⟨⟩) (by rw [(reads_eq_some read).2, register]))
  | heartbeat =>
      obtain ⟨u, read, rfl⟩ := Option.map_eq_some_iff.mp taken
      exact Or.inl (quiet (by rintro ⟨⟩) (by rw [(reads_eq_some read).2]))
  | track | untrack | announce => exact Or.inl (quiet (by rintro ⟨⟩) (Option.some.inj taken ▸ rfl))
  | leave q => exact Option.some.inj taken ▸ Or.inl ⟨by rintro ⟨⟩, removals_leave⟩
  | leaveNext =>
      simp only [step, leaveNext] at taken
      split at taken
      · exact Or.inl (quiet (by rintro ⟨⟩) (by rw [← Option.some.inj taken]; rfl))
      · cases taken
  | tick =>
      simp only [step, tick] at taken
      split at taken
      · obtain ⟨u, read, rfl⟩ := Option.map_eq_some_iff.mp taken
        exact Or.inl (quiet (by rintro ⟨⟩) (by rw [(reads_eq_some read).2]))
      · cases taken
  | collect =>
      simp only [step, collect] at taken
      split at taken
      · obtain ⟨_, same⟩ := Option.ite_none_right_eq_some.mp taken
        exact Or.inl (quiet (by rintro ⟨⟩) (by rw [← Option.some.inj same]))
      · cases taken
  | collected =>
      simp only [step, collected] at taken
      split at taken
      · exact Or.inl (quiet (by rintro ⟨⟩) (by rw [← Option.some.inj taken]))
      · cases taken
  | remove =>
      simp only [step, PresenceTasks.remove] at taken
      split at taken
      · rename_i now q rest removed sweep
        rw [← Option.some.inj taken]
        exact Or.inr ⟨rfl, now, q, rest, removed, sweep, removals_take (.sweep now)⟩
      · cases taken
  | removed =>
      simp only [step, PresenceTasks.removed] at taken
      split at taken
      · exact Or.inl (quiet (by rintro ⟨⟩) (by rw [← Option.some.inj taken]))
      · cases taken
  | sweepNext =>
      simp only [step, sweepNext] at taken
      split at taken
      · exact Or.inl (quiet (by rintro ⟨⟩) (by rw [← Option.some.inj taken]; rfl))
      · cases taken

theorem onlyExpired_append {rs : List Removal} (removals : t'.removals = t.removals ++ rs) :
    OnlyExpired timeout t' ↔ OnlyExpired timeout t ∧
      ∀ r ∈ rs, ∀ now, r.remover = .sweep now → isExpired now timeout r.entry = true := by
  simp only [OnlyExpired, removals, List.mem_append, or_imp, forall_and]

theorem onlyExpired_step (watched : ∀ s, Watched timeout (Renewed ctx timeout s es) s t)
    (taken : step t e = some t') :
    OnlyExpired timeout t' ↔ OnlyExpired timeout t ∧ (e = .remove → ∀ s, IsNext s t → ¬ Renewed ctx timeout s es) := by
  rcases removals_step taken with ⟨other, rs, removals, left⟩ | ⟨rfl, now, s, rest, removed, sweep, removals⟩
  · rw [onlyExpired_append removals]
    refine and_congr_right fun _ => iff_of_true (fun r member now swept => ?_) fun same => absurd same other
    rw [left r member] at swept
    cases swept
  · rw [onlyExpired_append removals]
    have next : ∀ q, IsNext q t ↔ q = s := by
      intro q
      simp [IsNext, sweep, eq_comm]
    have awaits : Awaits now s t.sweep := by
      rw [sweep]
      exact ⟨rfl, List.mem_cons_self⟩
    simp only [next, forall_eq, true_imp_iff]
    refine and_congr_right fun _ => ?_
    cases found : t.entryOf s with
    | none =>
        refine iff_of_true (by simp) fun renewed => ?_
        obtain ⟨_, entry, _, there, _⟩ := (watched s).fresh renewed
        rw [found] at there
        cases there
    | some entry =>
        have only : (∀ r ∈ ((some entry).map fun entry => Removal.mk (t.serials s) s entry (.sweep now)).toList, ∀ began,
            r.remover = .sweep began → isExpired began timeout r.entry = true) ↔
              isExpired now timeout entry = true := by
          simp
        rw [only]
        constructor
        · intro late renewed
          obtain ⟨began, other, waiting, there, fresh⟩ := (watched s).fresh renewed
          rw [sweep] at waiting
          obtain rfl := waiting.1
          obtain rfl := Option.some.inj (found.symm.trans there)
          rw [not_expired fresh] at late
          cases late
        · exact (watched s).stale now entry awaits found

theorem comesInTime_concat (reached : step.run (start ctx timeout) es = some t) :
    ComesInTime ctx timeout (es ++ [e]) ↔
      ComesInTime ctx timeout es ∧ (e = .remove → ∀ s, IsNext s t → ¬ Renewed ctx timeout s es) := by
  constructor
  · refine fun timely => ⟨fun ds u s short => timely ds u s (short.trans (List.prefix_append es [e])), ?_⟩
    rintro rfl s next
    exact timely es t s List.prefix_rfl reached next
  · rintro ⟨earlier, last⟩ ds u s short before next
    rcases List.prefix_concat_iff.mp short with whole | shorter
    · obtain ⟨rfl, same⟩ := List.append_inj' whole rfl
      obtain rfl := Option.some.inj (before.symm.trans reached)
      exact last (List.singleton_inj.mp same).symm s next
    · exact earlier ds u s shorter before next

theorem onlyExpired_iff (reached : step.run (start ctx timeout) es = some t) :
    OnlyExpired timeout t ↔ ComesInTime ctx timeout es := by
  refine Step.run_induction (fun es t => OnlyExpired timeout t ↔ ComesInTime ctx timeout es) ?_ ?_ reached
  · exact iff_of_true nofun fun ds u s short => by simp at short
  · intro es t e t' before same taken
    obtain ⟨_, watched⟩ := watched_run before
    rw [onlyExpired_step watched taken, comesInTime_concat before, same]

theorem keepsRenewed_iff : KeepsRenewed ctx timeout es ↔ ComesInTime ctx timeout es := by
  constructor
  · intro keeps ds u s short before next renewed
    obtain ⟨now, rest, removed, sweep⟩ := next
    have taken : step u .remove = some { (u.take s (.sweep now)).2 with
        sweep := .removing now rest (removed ++ (u.take s (.sweep now)).1.toList) } := by
      simp only [step, PresenceTasks.remove, sweep]
    have kept := keeps ds u _ s short before ⟨now, rest, removed, sweep⟩ renewed taken
    have gone : (u.take s (.sweep now)).2.entryOf s = none := (entryOf_take (.sweep now) s).trans (if_pos rfl)
    cases kept.symm.trans (congrArg Option.isSome gone)
  · intro timely ds u u' s short before next renewed
    exact absurd renewed (timely ds u s short before next)

end

/-- Exactly where the sweep comes to no session that a PING or an AUTH has renewed since it was collected, it removes
expired entries only, and keeps the renewed ones. -/
theorem sweeps_expired_iff {ctx : RealtimeContext} {timeout : Nat} {es : List TaskEvent} {t : PresenceTasks}
    (reached : step.run (start ctx timeout) es = some t) :
    OnlyExpired timeout t ∧ KeepsRenewed ctx timeout es ↔ ComesInTime ctx timeout es := by
  rw [onlyExpired_iff reached, keepsRenewed_iff, and_self]

def late : Clock := ⟨31000000000, 31000000000⟩

def revived : List TaskEvent :=
  [.register tenantOne sessionOne "a" epoch, .tick late, .collect sessionOne, .collected, .heartbeat sessionOne late,
    .remove]

theorem removes_revived : ¬ ∀ ctx timeout es t, step.run (start ctx timeout) es = some t →
    OnlyExpired timeout t ∧ KeepsRenewed ctx timeout es := by
  intro claim
  obtain ⟨t, reached, removals⟩ : ∃ t, step.run (start (started false).ctx 30000000000) revived = some t ∧
      t.removals = [⟨0, sessionOne, ⟨tenantOne, sessionOne, "a", [], 31000000000, 0⟩, .sweep late⟩] := ⟨_, rfl, rfl⟩
  have expired := (claim _ _ _ _ reached).1 _ (removals ▸ List.mem_singleton_self _) late rfl
  revert expired
  decide

def silent : List TaskEvent :=
  [.register tenantOne sessionOne "a" epoch, .tick late, .collect sessionOne, .collected, .remove]

theorem sweeps_expired_iff_silent : ∃ t, step.run (start (started false).ctx 30000000000) silent = some t ∧
    (OnlyExpired 30000000000 t ∧ KeepsRenewed (started false).ctx 30000000000 silent ↔
      ComesInTime (started false).ctx 30000000000 silent) :=
  ⟨_, rfl, sweeps_expired_iff rfl⟩

end RealtimePlatform.Proof.SweepExpiry
