import RealtimePlatform.Sdk.PythonConnection

namespace RealtimePlatform.Proof.PythonReconnects
open Library Sdk.Python Sdk.Python.ConnectionTask

/-- The calls that wait in the queue, or in what a flush has taken out of it. -/
def waiting (task : ConnectionTask) : List Call :=
  match task.stage with
  | .flushing call rest => call :: rest ++ task.pendingSends
  | _ => task.pendingSends

/-- A task with whether `disconnect` is what closes it, the calls that have been queued and those of them whose send
has returned. -/
structure Watch where
  task : ConnectionTask := {}
  disconnected : Bool := true
  queued : List Call := []
  delivered : List Call := []

def Excused (config : ClientConfig) (watch : Watch) : Prop :=
  watch.disconnected = true ∨ config.reconnect = false ∨ watch.task.closeCode = some wsCloseCodeAuthFailed

instance (config : ClientConfig) (watch : Watch) : Decidable (Excused config watch) :=
  inferInstanceAs (Decidable (_ ∨ _ ∨ _))

namespace Watch
variable (config : ClientConfig)

def account (watch : Watch) (task : ConnectionTask) : ConnectionEvent → Watch
  | .connect => { watch with task, disconnected := false }
  | .disconnect => { watch with task, disconnected := true }
  | .cancelled => { task, disconnected := true, queued := waiting task }
  | .call call => { watch with task, queued := if watch.task.ws then watch.queued else watch.queued ++ [call] }
  | .sent =>
    match watch.task.stage with
    | .flushing call _ => { watch with task, delivered := watch.delivered ++ [call] }
    | _ => { watch with task }
  | .raised _ | .ended =>
    if Excused config watch then { task, disconnected := watch.disconnected, queued := waiting task }
    else { watch with task }
  | _ => { watch with task }

def step : Step Watch ConnectionEvent
  | watch, e => (ConnectionTask.step config watch.task e).map fun task => watch.account config task e

end Watch

/-- The task has ended only with an excuse, one that has failed otherwise connects again after a delay, and every
call that was queued has been sent or waits. -/
structure KeepsReconnecting (config : ClientConfig) (watch : Watch) : Prop where
  ended : watch.task.stage = .idle → Excused config watch
  again : watch.task.stage = .sleeping →
    ∃ task, ConnectionTask.step config watch.task .wake = some task ∧ task.stage = .connecting
  queued : watch.queued = watch.delivered ++ waiting watch.task

/-- What is raised without an excuse is a `ConnectionClosed` or an `OSError`, its code is not 4001, and it is not
raised by a send of the queue. -/
def Survivable (config : ClientConfig) (watch : Watch) : ConnectionEvent → Prop
  | .raised err => Excused config watch ∨
      (∃ closeCode, caught err = some closeCode ∧ closeCode ≠ some wsCloseCodeAuthFailed) ∧
        ∀ call rest, watch.task.stage ≠ .flushing call rest
  | _ => True

section
variable {config : ClientConfig} {task : ConnectionTask} {watch watch' : Watch}

def Sound (watch : Watch) : Prop := watch.task.closedByUser = true → watch.disconnected = true

theorem afterTry_cases (config : ClientConfig) (closeCode : Option Nat) (task : ConnectionTask) :
    ∃ stage, afterTry config closeCode task = { task with ws := false, stage } ∧
      (stage = .idle ∧ (closeCode = some wsCloseCodeAuthFailed ∨ task.closedByUser = true ∨ config.reconnect = false) ∨
        stage = .sleeping ∧ closeCode ≠ some wsCloseCodeAuthFailed) := by
  unfold afterTry
  split
  · exact ⟨.idle, rfl, Or.inl ⟨rfl, Or.inl ‹_›⟩⟩
  · split
    · rename_i stops
      refine ⟨.idle, rfl, Or.inl ⟨rfl, Or.inr ?_⟩⟩
      rwa [Bool.or_eq_true, Bool.not_eq_true'] at stops
    · exact ⟨.sleeping, rfl, Or.inr ⟨rfl, ‹_›⟩⟩

structure Fails (task after : ConnectionTask) : Prop where
  closedByUser : after.closedByUser = task.closedByUser
  closeCode : after.closeCode = task.closeCode
  pendingSends : after.pendingSends = task.pendingSends
  stage : after.stage = .idle ∨ after.stage = .sleeping

theorem fails_afterTry (config : ClientConfig) (closeCode : Option Nat) (task : ConnectionTask) :
    Fails task (afterTry config closeCode task) := by
  obtain ⟨stage, same, cases⟩ := afterTry_cases config closeCode task
  rw [same]
  exact ⟨rfl, rfl, rfl, cases.imp And.left And.left⟩

theorem fails_raised (config : ClientConfig) (err : Exception) (task : ConnectionTask) :
    Fails task (raised config err task) := by
  unfold raised
  split
  · exact fails_afterTry config _ task
  · exact ⟨rfl, rfl, rfl, Or.inl rfl⟩

theorem waiting_of_stage (plain : ∀ call rest, task.stage ≠ .flushing call rest) : waiting task = task.pendingSends := by
  unfold waiting
  split
  · exact absurd ‹_› (plain _ _)
  · rfl

theorem Fails.waiting {after : ConnectionTask} (fails : Fails task after) :
    PythonReconnects.waiting after = task.pendingSends := by
  rw [waiting_of_stage, fails.pendingSends]
  intro call rest flushing
  rcases fails.stage with stage | stage <;> exact absurd (stage.symm.trans flushing) nofun

theorem again_of_sleeping (config : ClientConfig) (task : ConnectionTask) (asleep : task.stage = .sleeping) :
    ∃ after, ConnectionTask.step config task .wake = some after ∧ after.stage = .connecting :=
  ⟨_, if_pos asleep, rfl⟩

theorem keeps_excused {after : ConnectionTask} (excused : Excused config watch) (fails : Fails watch.task after) :
    KeepsReconnecting config { task := after, disconnected := watch.disconnected, queued := waiting after } := by
  refine ⟨fun _ => ?_, again_of_sleeping config after, rfl⟩
  rw [Excused, fails.closeCode]
  exact excused

theorem keeps_unexcused {after : ConnectionTask} (keeps : KeepsReconnecting config watch) (unexcused : ¬Excused config watch)
    (fails : Fails watch.task after) : KeepsReconnecting config { watch with task := after } ↔
      after.stage = .sleeping ∧ ∀ call rest, watch.task.stage ≠ .flushing call rest := by
  constructor
  · intro kept
    constructor
    · refine fails.stage.resolve_left fun idle => unexcused ?_
      have excused := kept.ended idle
      rwa [Excused, fails.closeCode] at excused
    · intro call rest flushing
      have before := keeps.queued
      have after' := kept.queued
      rw [fails.waiting, before, waiting, flushing] at after'
      have short := congrArg List.length after'
      simp only [List.length_append, List.length_cons] at short
      omega
  · rintro ⟨asleep, plain⟩
    refine ⟨fun idle => absurd (asleep.symm.trans idle) nofun, again_of_sleeping config after, ?_⟩
    rw [fails.waiting, ← waiting_of_stage plain]
    exact keeps.queued

theorem sleeping_afterTry (sound : Sound watch) (unexcused : ¬Excused config watch) (closeCode : Option Nat) :
    (afterTry config closeCode watch.task).stage = .sleeping ↔ closeCode ≠ some wsCloseCodeAuthFailed := by
  obtain ⟨stage, same, cases⟩ := afterTry_cases config closeCode watch.task
  rw [same]
  rcases cases with ⟨idle, rejected | user | never⟩ | ⟨asleep, survives⟩
  · exact iff_of_false (fun asleep => absurd (idle.symm.trans asleep) nofun) (not_not_intro rejected)
  · exact absurd (Or.inl (sound user)) unexcused
  · exact absurd (Or.inr (Or.inl never)) unexcused
  · exact iff_of_true asleep survives

theorem sleeping_raised (sound : Sound watch) (unexcused : ¬Excused config watch) (err : Exception) :
    (raised config err watch.task).stage = .sleeping ↔
      ∃ closeCode, caught err = some closeCode ∧ closeCode ≠ some wsCloseCodeAuthFailed := by
  unfold raised
  split
  · rename_i closeCode named
    rw [sleeping_afterTry sound unexcused, named]
    simp
  · rename_i unnamed
    rw [unnamed]
    exact iff_of_false nofun nofun

theorem waiting_flush (calls : List Call) (task : ConnectionTask) :
    waiting (flush calls task) = calls ++ task.pendingSends := by
  cases calls <;> rfl

theorem waiting_resubscribe (channelIds : List String) (task : ConnectionTask) :
    waiting (resubscribe channelIds task) = task.pendingSends := by
  cases channelIds with
  | nil => exact (waiting_flush task.pendingSends _).trans (List.append_nil _)
  | cons channelId rest => rfl

/-- Neither ended nor asleep. -/
def Active (task : ConnectionTask) : Prop := task.stage ≠ .idle ∧ task.stage ≠ .sleeping

theorem active_flush (calls : List Call) (task : ConnectionTask) : Active (flush calls task) := by
  cases calls <;> exact ⟨nofun, nofun⟩

theorem active_resubscribe (channelIds : List String) (task : ConnectionTask) : Active (resubscribe channelIds task) := by
  cases channelIds with
  | nil => exact active_flush _ _
  | cons channelId rest => exact ⟨nofun, nofun⟩

theorem keeps_active (active : Active watch.task) (queued : watch.queued = watch.delivered ++ waiting watch.task) :
    KeepsReconnecting config watch :=
  ⟨fun idle => absurd idle active.1, fun asleep => absurd asleep active.2, queued⟩

theorem keeps_still {task : ConnectionTask} {disconnected : Bool} (keeps : KeepsReconnecting config watch)
    (stage : task.stage = watch.task.stage) (pendingSends : task.pendingSends = watch.task.pendingSends)
    (excused : Excused config watch → Excused config { watch with task, disconnected }) :
    KeepsReconnecting config { watch with task, disconnected } := by
  refine ⟨fun idle => excused (keeps.ended (stage ▸ idle)), again_of_sleeping config task, ?_⟩
  rw [waiting, stage, pendingSends]
  exact keeps.queued

theorem sendOrQueue_eq (call : Call) (task : ConnectionTask) :
    sendOrQueue call task = { task with pendingSends := task.pendingSends ++ if task.ws then [] else [call] } := by
  unfold sendOrQueue
  split <;> simp

theorem waiting_append (calls : List Call) (task : ConnectionTask) :
    waiting { task with pendingSends := task.pendingSends ++ calls } = waiting task ++ calls := by
  unfold waiting
  dsimp only
  split <;> simp

theorem keeps_sent {task : ConnectionTask} (keeps : KeepsReconnecting config watch)
    (taken : watch.task.sent = some task) : KeepsReconnecting config (watch.account config task .sent) := by
  have queued := keeps.queued
  unfold sent at taken
  split at taken
  · rename_i stage
    obtain rfl := Option.some.inj taken
    rw [Watch.account, stage]
    refine keeps_active (active_resubscribe _ _) ?_
    rw [waiting_resubscribe, queued, waiting, stage]
  · rename_i stage
    obtain rfl := Option.some.inj taken
    rw [Watch.account, stage]
    refine keeps_active (active_resubscribe _ _) ?_
    rw [waiting_resubscribe, queued, waiting, stage]
  · rename_i call rest stage
    obtain rfl := Option.some.inj taken
    rw [Watch.account, stage]
    refine keeps_active (active_flush _ _) ?_
    rw [waiting_flush, queued, waiting, stage, List.append_assoc]
    rfl
  · cases taken

theorem ended_cases {task after : ConnectionTask} (taken : ConnectionTask.step config task .ended = some after) :
    ∃ code, task.stage = .receiving ∧ task.closeCode = some code ∧ after = afterTry config (some code) task := by
  simp only [ConnectionTask.step] at taken
  split at taken
  · exact ⟨_, ‹_›, ‹_›, (Option.some.inj taken).symm⟩
  · cases taken

theorem closedByUser_sent {task after : ConnectionTask} (taken : task.sent = some after) :
    after.closedByUser = task.closedByUser := by
  have flushed : ∀ calls task, (flush calls task).closedByUser = task.closedByUser := by
    intro calls task
    cases calls <;> rfl
  have resubscribed : ∀ channelIds task, (resubscribe channelIds task).closedByUser = task.closedByUser := by
    intro channelIds task
    cases channelIds with
    | nil => exact flushed _ _
    | cons channelId rest => rfl
  unfold sent at taken
  split at taken
  · exact Option.some.inj taken ▸ resubscribed _ _
  · exact Option.some.inj taken ▸ resubscribed _ _
  · exact Option.some.inj taken ▸ flushed _ _
  · cases taken

theorem sound_account {task : ConnectionTask} {e : ConnectionEvent} (sound : Sound watch)
    (taken : ConnectionTask.step config watch.task e = some task) : Sound (watch.account config task e) := by
  have settled : ∀ after : ConnectionTask, after.closedByUser = watch.task.closedByUser →
      Sound (if Excused config watch then { task := after, disconnected := watch.disconnected, queued := waiting after }
        else { watch with task := after }) := by
    intro after same
    split
    all_goals
      intro user
      exact sound (same.symm.trans user)
  cases e with
  | connect =>
      obtain ⟨_, same⟩ := Option.ite_none_right_eq_some.mp taken
      obtain rfl := Option.some.inj same
      exact nofun
  | disconnect => exact fun _ => rfl
  | cancelled => exact fun _ => rfl
  | subscribe channelId =>
      obtain rfl := Option.some.inj taken
      intro user
      refine sound ?_
      dsimp only [Watch.account] at user
      unfold ConnectionTask.subscribe at user
      split at user <;> exact user
  | unsubscribe channelId => exact Option.some.inj taken ▸ sound
  | call call =>
      obtain rfl := Option.some.inj taken
      intro user
      refine sound ?_
      dsimp only [Watch.account] at user
      unfold sendOrQueue at user
      split at user <;> exact user
  | sent =>
      have same := closedByUser_sent taken
      rw [Watch.account]
      split
      all_goals
        intro user
        exact sound (same.symm.trans user)
  | raised err =>
      obtain ⟨_, same⟩ := Option.ite_none_right_eq_some.mp taken
      obtain rfl := Option.some.inj same
      exact settled _ (fails_raised config err watch.task).closedByUser
  | ended =>
      obtain ⟨code, _, _, rfl⟩ := ended_cases taken
      exact settled _ (fails_afterTry config (some code) watch.task).closedByUser
  | connected | closes | wake =>
      obtain ⟨_, same⟩ := Option.ite_none_right_eq_some.mp taken
      exact Option.some.inj same ▸ sound

theorem exact_step {e : ConnectionEvent} (sound : Sound watch) (stepped : Watch.step config watch e = some watch') :
    Sound watch' ∧ (KeepsReconnecting config watch → (Survivable config watch e ↔ KeepsReconnecting config watch')) := by
  obtain ⟨task, taken, rfl⟩ := Option.map_eq_some_iff.mp stepped
  refine ⟨sound_account sound taken, fun keeps => ?_⟩
  cases e with
  | connect =>
      obtain ⟨idle, same⟩ := Option.ite_none_right_eq_some.mp taken
      obtain rfl := Option.some.inj same
      refine iff_of_true trivial (keeps_active ⟨nofun, nofun⟩ ?_)
      exact keeps.queued.trans (by rw [waiting, idle]; rfl)
  | disconnect =>
      obtain rfl := Option.some.inj taken
      exact iff_of_true trivial (keeps_still keeps rfl rfl fun _ => Or.inl rfl)
  | cancelled =>
      obtain ⟨_, same⟩ := Option.ite_none_right_eq_some.mp taken
      obtain rfl := Option.some.inj same
      exact iff_of_true trivial ⟨fun _ => Or.inl rfl, nofun, rfl⟩
  | subscribe channelId =>
      obtain rfl := Option.some.inj taken
      refine iff_of_true trivial (keeps_still keeps ?_ ?_ ?_)
      all_goals
        unfold ConnectionTask.subscribe
        split <;> first | rfl | exact id
  | unsubscribe channelId =>
      obtain rfl := Option.some.inj taken
      exact iff_of_true trivial (keeps_still keeps rfl rfl id)
  | call call =>
      obtain rfl := Option.some.inj taken
      refine iff_of_true trivial ?_
      have same : (watch.account config (sendOrQueue call watch.task) (.call call)).queued =
          watch.queued ++ if watch.task.ws then [] else [call] := by
        rw [Watch.account]
        split <;> simp
      refine ⟨fun idle => ?_, again_of_sleeping config _, ?_⟩
      · have kept := keeps.ended (by rw [sendOrQueue_eq] at idle; exact idle)
        rw [sendOrQueue_eq]
        exact kept
      · rw [same, keeps.queued, sendOrQueue_eq, List.append_assoc]
        exact congrArg (watch.delivered ++ ·) (waiting_append _ watch.task).symm
  | connected =>
      obtain ⟨connecting, same⟩ := Option.ite_none_right_eq_some.mp taken
      obtain rfl := Option.some.inj same
      refine iff_of_true trivial (keeps_active ⟨nofun, nofun⟩ ?_)
      exact keeps.queued.trans (by rw [waiting, connecting]; rfl)
  | sent => exact iff_of_true trivial (keeps_sent keeps taken)
  | raised err =>
      obtain ⟨_, same⟩ := Option.ite_none_right_eq_some.mp taken
      obtain rfl := Option.some.inj same
      have fails := fails_raised config err watch.task
      by_cases excused : Excused config watch
      · rw [Watch.account, if_pos excused]
        exact iff_of_true (Or.inl excused) (keeps_excused excused fails)
      · rw [Watch.account, if_neg excused, keeps_unexcused keeps excused fails, sleeping_raised sound excused err]
        exact or_iff_right excused
  | closes code =>
      obtain ⟨⟨_, unclosed⟩, same⟩ := Option.ite_none_right_eq_some.mp taken
      obtain rfl := Option.some.inj same
      refine iff_of_true trivial (keeps_still keeps rfl rfl ?_)
      rintro (user | never | rejected)
      · exact Or.inl user
      · exact Or.inr (Or.inl never)
      · rw [unclosed] at rejected
        cases rejected
  | ended =>
      obtain ⟨code, receiving, closed, rfl⟩ := ended_cases taken
      have fails := fails_afterTry config (some code) watch.task
      refine iff_of_true trivial ?_
      by_cases excused : Excused config watch
      · rw [Watch.account, if_pos excused]
        exact keeps_excused excused fails
      · rw [Watch.account, if_neg excused, keeps_unexcused keeps excused fails, sleeping_afterTry sound excused]
        refine ⟨fun rejected => excused (Or.inr (Or.inr (closed.trans rejected))), fun call rest flushing => ?_⟩
        exact absurd (receiving.symm.trans flushing) nofun
  | wake =>
      obtain ⟨asleep, same⟩ := Option.ite_none_right_eq_some.mp taken
      obtain rfl := Option.some.inj same
      refine iff_of_true trivial (keeps_active ⟨nofun, nofun⟩ ?_)
      exact keeps.queued.trans (by rw [waiting, asleep]; rfl)

end

/-- In every run, whatever is raised at each await, the task goes on reconnecting and no queued call is dropped,
exactly while every exception without an excuse is one that is caught, with a code other than 4001, and not raised by
a send of the queue. -/
theorem keeps_reconnecting_iff (config : ClientConfig) (es : List ConnectionEvent) (watch : Watch)
    (reached : (Watch.step config).run {} es = some watch) :
    (Watch.step config).Meets (Survivable config) {} es ↔
      (Watch.step config).Throughout (KeepsReconnecting config) {} es := by
  have start : KeepsReconnecting config ({} : Watch) := ⟨fun _ => Or.inl rfl, nofun, rfl⟩
  exact Step.meets_iff_throughout (fun _ _ _ sound taken => (exact_step sound taken).1)
    (fun _ _ _ sound keeps taken => (exact_step sound taken).2 keeps) reached (fun _ => rfl) start

def sample : ClientConfig := ⟨List.Vector.replicate 16 0, "token", true⟩

def refused : List ConnectionEvent := [.connect, .call ⟨.publish, "room", "hi"⟩, .raised .invalidHandshake]

theorem refused_ends : ∃ watch, (Watch.step sample).run {} refused = some watch ∧ watch.task.stage = .idle ∧
    ¬Excused sample watch ∧ watch.task.pendingSends = [⟨.publish, "room", "hi"⟩] ∧ ¬KeepsReconnecting sample watch := by
  refine ⟨_, rfl, rfl, ?_, rfl, fun keeps => ?_⟩
  · rintro (user | never | rejected)
    · cases user
    · cases never
    · cases rejected
  · rcases keeps.ended rfl with user | never | rejected
    · cases user
    · cases never
    · cases rejected

theorem keeps_reconnecting_iff_refused : (Watch.step sample).Meets (Survivable sample) {} refused ↔
    (Watch.step sample).Throughout (KeepsReconnecting sample) {} refused :=
  keeps_reconnecting_iff sample refused _ rfl

end RealtimePlatform.Proof.PythonReconnects
