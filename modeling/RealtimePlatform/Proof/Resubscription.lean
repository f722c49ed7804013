import RealtimePlatform.Proof.Handover

namespace RealtimePlatform.Proof.Resubscription
open Library Backend Backend.KeyRelay Handover

variable {α : Type*}

def Alone (r : KeyRelay α) : Prop :=
  ∀ a n h b m k, Receives r a n h → Receives r b m k → a = b

/-- Nothing waits in a receiver or in the hand of its owner. -/
def Drained (r : KeyRelay α) : Prop :=
  ∀ seq next hand, Receives r seq next hand → hand = none ∧ next = r.published.length

def HasRoom (r : KeyRelay α) : Prop :=
  ∀ seq next hand, Receives r seq next hand → r.published.length < next + channelCapacity

/-- A frame is published only while there is one receiver, which is not full, and a receiver is attached only
when nothing waits in the others. -/
def Clear (r : KeyRelay α) : SubEvent α → Prop
  | .publish _ => Alone r ∧ HasRoom r
  | .subscribe => Drained r
  | _ => True

def GoesOn : SubEvent α → Prop
  | .publish _ | .subscribe => False
  | _ => True

/-- Whatever these do next. -/
def StaysSeamless (r : KeyRelay α) : Prop :=
  ∀ es r', (∀ e ∈ es, GoesOn e) → step.run r es = some r' → Seamless r'

def previous : Nat → Option Nat
  | 0 => none
  | n + 1 => some n

def Named (r : KeyRelay α) : Prop :=
  match r.stage with
  | none => r.relayTask = previous r.attached.length
  | some (.received seq _) | some (.spawned seq) => seq + 1 = r.attached.length ∧ r.relayTask = previous seq
  | some (.replaced old) => old + 2 = r.attached.length ∧ r.relayTask = some (old + 1)

structure Orderly (r : KeyRelay α) : Prop where
  sound : Sound r
  quiet : Alone r ∨ Drained r
  caughtUp : ∀ seq next hand, Receives r seq next hand → r.published.length ≤ next + channelCapacity
  last : ∀ seq, seq + 1 = r.attached.length → (∃ next, r.stage = some (.received seq next)) ∨
    ∃ task, AList.lookup seq r.tasks = some task ∧ task.aborted = false
  named : Named r

section
variable {r r' : KeyRelay α} {seq next : Nat} {hand : Option Nat} {task : Forwarder}

theorem orderly_new : Orderly (KeyRelay.new : KeyRelay α) where
  sound := sound_new
  quiet := by
    refine Or.inl fun a n h b m k first => ?_
    cases first with
    | received stage => cases stage
    | task running => cases running
  caughtUp a n h first := by
    cases first with
    | received stage => cases stage
    | task running => cases running
  last seq counted := by cases counted
  named := rfl

theorem attached_of_receives (sound : Sound r) (receives : Receives r seq next hand) :
    seq < r.attached.length := by
  cases receives with
  | received stage => exact (List.getElem?_eq_some_iff.mp (sound.waiting seq next stage).1).1
  | task running =>
      obtain ⟨start, own, _⟩ := (sound.working seq _ running).began
      exact (List.getElem?_eq_some_iff.mp own).1

theorem exists_last (orderly : Orderly r) (nonempty : 0 < r.attached.length) :
    ∃ next hand, Receives r (r.attached.length - 1) next hand := by
  rcases orderly.last (r.attached.length - 1) (by omega) with ⟨next, stage⟩ | ⟨task, running, _⟩
  · exact ⟨next, none, .received stage⟩
  · exact ⟨task.next, task.inFlight, .task running⟩

theorem last_of_waiting (orderly : Orderly r) (receives : Receives r seq next hand)
    (waits : ¬ (hand = none ∧ next = r.published.length)) : Alone r ∧ seq + 1 = r.attached.length := by
  have alone : Alone r := orderly.quiet.resolve_right fun drained => waits (drained seq next hand receives)
  have inside := attached_of_receives orderly.sound receives
  obtain ⟨n, h, last⟩ := exists_last orderly (by omega)
  have same := alone seq next hand _ n h receives last
  exact ⟨alone, by omega⟩

theorem not_aborted_of_last (orderly : Orderly r) (running : AList.lookup seq r.tasks = some task)
    (counted : seq + 1 = r.attached.length) : task.aborted = false := by
  rcases orderly.last seq counted with ⟨next, stage⟩ | ⟨other, running', unaborted⟩
  · rw [(orderly.sound.waiting seq next stage).2.1] at running
    cases running
  · obtain rfl := Option.some.inj (running.symm.trans running')
    exact unaborted

theorem handsOver_of_orderly (orderly : Orderly r) {e : SubEvent α} (taken : step r e = some r') :
    HandsOver r e := by
  cases step_cases taken with
  | sent running holding there =>
      rename_i seq task i m
      intro task' j later running' holding' found
      obtain ⟨_, counted⟩ := last_of_waiting orderly (.task running) fun free => by
        rw [holding] at free
        cases free.1
      rw [List.getElem?_eq_none (Nat.le_of_eq counted.symm)] at found
      cases found
  | lagged running behind =>
      rename_i seq task
      intro _ _ _
      have near := orderly.caughtUp seq _ _ (.task running)
      omega
  | taken running idle waiting =>
      rename_i seq task
      intro task' running' behind
      have near := orderly.caughtUp seq _ _ (.task running')
      omega
  | dropped running aborted =>
      rename_i seq task
      have inside := attached_of_receives orderly.sound (.task running)
      have earlier : seq + 1 ≠ r.attached.length := by
        intro counted
        rw [not_aborted_of_last orderly running counted] at aborted
        cases aborted
      have further : seq + 1 < r.attached.length := by omega
      refine ⟨r.attached[seq + 1], List.getElem?_eq_getElem further, fun task' running' => ?_⟩
      have free : task'.inFlight = none ∧ task'.next = r.published.length := by
        by_contra waits
        exact earlier (last_of_waiting orderly (.task running') waits).2
      have bounded := orderly.sound.bounded _ (List.getElem_mem further)
      refine ⟨free.2 ▸ bounded, fun i held => ?_⟩
      rw [free.1] at held
      cases held
  | _ => trivial

theorem Orderly.narrow (orderly : Orderly r) (sound : Sound r')
    (fewer : ∀ a n h, Receives r' a n h → ∃ m k, Receives r a m k ∧ m ≤ n ∧
      (k = none ∧ m = r.published.length → h = none ∧ n = r.published.length))
    (published : r'.published = r.published)
    (last : ∀ seq, seq + 1 = r'.attached.length → (∃ next, r'.stage = some (.received seq next)) ∨
      ∃ task, AList.lookup seq r'.tasks = some task ∧ task.aborted = false)
    (named : Named r') : Orderly r' where
  sound := sound
  quiet := by
    rcases orderly.quiet with alone | drained
    · refine Or.inl fun a n h b m k first second => ?_
      obtain ⟨n', h', first', _⟩ := fewer a n h first
      obtain ⟨m', k', second', _⟩ := fewer b m k second
      exact alone a n' h' b m' k' first' second'
    · refine Or.inr fun a n h first => ?_
      obtain ⟨n', h', first', _, kept⟩ := fewer a n h first
      rw [published]
      exact kept (drained a n' h' first')
  caughtUp a n h first := by
    obtain ⟨n', h', first', more, _⟩ := fewer a n h first
    have near := orderly.caughtUp a n' h' first'
    rw [published]
    omega
  last := last
  named := named

theorem receives_published (m : α) :
    Receives { r with published := r.published ++ [m] } seq next hand ↔ Receives r seq next hand := by
  constructor
  · intro receives
    cases receives with
    | received stage => exact .received stage
    | task running => exact .task running
  · intro receives
    cases receives with
    | received stage => exact .received stage
    | task running => exact .task running

theorem orderly_published (orderly : Orderly r) (m : α) (clear : Alone r ∧ HasRoom r) :
    Orderly { r with published := r.published ++ [m] } := by
  refine ⟨sound_published orderly.sound m, Or.inl fun a n h b k l first second => ?_, fun a n h first => ?_,
    orderly.last, orderly.named⟩
  · exact clear.1 a n h b k l ((receives_published m).mp first) ((receives_published m).mp second)
  · have room := clear.2 a n h ((receives_published m).mp first)
    simp only [List.length_append, List.length_singleton]
    omega

theorem orderly_subscribed (orderly : Orderly r) (idle : r.stage = none) (drained : Drained r) :
    Orderly { r with
      attached := r.attached ++ [r.published.length]
      stage := some (.received r.attached.length r.published.length) } := by
  have before : ∀ a n h, Receives { r with
      attached := r.attached ++ [r.published.length]
      stage := some (.received r.attached.length r.published.length) } a n h → h = none ∧ n = r.published.length := by
    intro a n h receives
    cases receives with
    | received stage =>
        obtain ⟨rfl, rfl⟩ := SubStage.received.inj (Option.some.inj stage)
        exact ⟨rfl, rfl⟩
    | task running => exact drained _ _ _ (.task running)
  have named := orderly.named
  rw [Named, idle] at named
  refine ⟨sound_subscribed orderly.sound idle, Or.inr before, fun a n h first => ?_, fun seq counted => ?_, ?_⟩
  · rw [(before a n h first).2]
    exact Nat.le_add_right _ _
  · rw [List.length_append, List.length_singleton] at counted
    exact Or.inl ⟨r.published.length, by rw [show seq = r.attached.length by omega]⟩
  · exact ⟨by simp, named⟩

theorem orderly_spawned (orderly : Orderly r) (stage : r.stage = some (.received seq next)) :
    Orderly { r.setTask seq ⟨next, none, false⟩ with stage := some (.spawned seq) } := by
  have named := orderly.named
  rw [Named, stage] at named
  refine orderly.narrow (sound_spawned orderly.sound stage) (fun a n h receives => ?_) rfl (fun last counted => ?_) named
  · cases receives with
    | received other => cases other
    | task running =>
        by_cases own : a = seq
        · subst own
          obtain rfl := Option.some.inj ((AList.lookup_insert r.tasks).symm.trans running)
          exact ⟨next, none, .received stage, Nat.le_refl _, id⟩
        · exact ⟨_, _, .task ((AList.lookup_insert_ne own).symm.trans running), Nat.le_refl _, id⟩
  · have own : last = seq := Nat.succ.inj (counted.trans named.1.symm)
    subst own
    exact Or.inr ⟨_, AList.lookup_insert r.tasks, rfl⟩

theorem orderly_inserted (orderly : Orderly r) (stage : r.stage = some (.spawned seq)) : Orderly { r with
    relayTask := some seq
    stage := r.relayTask.map SubStage.replaced } := by
  have named := orderly.named
  rw [Named, stage] at named
  obtain ⟨counted, old⟩ := named
  have spawned : ∀ q n, r.relayTask.map SubStage.replaced ≠ some (.received q n) := by
    intro q n other
    obtain ⟨_, _, same⟩ := Option.map_eq_some_iff.mp other
    cases same
  refine orderly.narrow (sound_stage orderly.sound (fun q n other => ?_) spawned _) (fun a n h receives => ?_) rfl
    (fun last ends => ?_) ?_
  · rw [stage] at other
    cases other
  · cases receives with
    | received other => exact absurd other (spawned _ _)
    | task running => exact ⟨_, _, .task running, Nat.le_refl _, id⟩
  · rcases orderly.last last ends with ⟨n, other⟩ | current
    · rw [stage] at other
      cases other
    · exact Or.inr current
  · rw [Named, old]
    cases seq with
    | zero => exact congrArg previous counted
    | succ k => exact ⟨counted, rfl⟩

theorem orderly_aborted {old : Nat} (orderly : Orderly r) (stage : r.stage = some (.replaced old)) : Orderly { r with
    tasks := Table.adjust old (fun task => { task with aborted := true }) r.tasks
    stage := none } := by
  have named := orderly.named
  rw [Named, stage] at named
  obtain ⟨counted, current⟩ := named
  have sound := sound_stage (sound_aborted orderly.sound old) (fun q n other => by
    rw [show r.stage = _ from stage] at other
    cases other) (show ∀ q n, none ≠ some (SubStage.received q n) from fun _ _ => nofun) r.relayTask
  refine orderly.narrow sound (fun a n h receives => ?_) rfl (fun last ends => ?_) ?_
  · cases receives with
    | received other => cases other
    | task running =>
        by_cases own : a = old
        · subst own
          rw [Table.lookup_adjust] at running
          obtain ⟨task, before, rfl⟩ := Option.map_eq_some_iff.mp running
          exact ⟨_, _, .task before, Nat.le_refl _, id⟩
        · rw [Table.lookup_adjust_ne _ _ own] at running
          exact ⟨_, _, .task running, Nat.le_refl _, id⟩
  · rcases orderly.last last ends with ⟨n, other⟩ | ⟨task, running, unaborted⟩
    · rw [stage] at other
      cases other
    · have apart : last ≠ old := by
        have ends' : last + 1 = r.attached.length := ends
        omega
      exact Or.inr ⟨task, (Table.lookup_adjust_ne _ _ apart).trans running, unaborted⟩
  · exact current.trans (congrArg previous counted)

theorem Orderly.setTask (orderly : Orderly r) (running : AList.lookup seq r.tasks = some task) {task' : Forwarder}
    {put : List Nat} {outQueue : List α} (waits : ¬ (task.inFlight = none ∧ task.next = r.published.length))
    (more : task.next ≤ task'.next) (aborted : task'.aborted = task.aborted)
    (sound : Sound { r.setTask seq task' with outQueue := outQueue, put := put }) :
    Orderly { r.setTask seq task' with outQueue := outQueue, put := put } := by
  refine orderly.narrow sound (fun a n h receives => ?_) rfl (fun last ends => ?_) orderly.named
  · cases receives with
    | received stage => exact ⟨n, none, .received stage, Nat.le_refl _, id⟩
    | task there =>
        by_cases own : a = seq
        · subst own
          obtain rfl := Option.some.inj ((AList.lookup_insert r.tasks).symm.trans there)
          exact ⟨_, _, .task running, more, fun free => absurd free waits⟩
        · exact ⟨_, _, .task ((AList.lookup_insert_ne own).symm.trans there), Nat.le_refl _, id⟩
  · rcases orderly.last last ends with stage | ⟨current, there, unaborted⟩
    · exact Or.inl stage
    · by_cases own : last = seq
      · subst own
        obtain rfl := Option.some.inj (running.symm.trans there)
        exact Or.inr ⟨task', AList.lookup_insert r.tasks, aborted.trans unaborted⟩
      · exact Or.inr ⟨current, (AList.lookup_insert_ne own).trans there, unaborted⟩

theorem orderly_step {e : SubEvent α} (orderly : Orderly r) (clear : Clear r e) (taken : step r e = some r') :
    Orderly r' := by
  have sound := sound_step orderly.sound (handsOver_of_orderly orderly taken) taken
  cases step_cases taken with
  | published => exact orderly_published orderly _ clear
  | subscribed idle => exact orderly_subscribed orderly idle clear
  | spawned stage => exact orderly_spawned orderly stage
  | inserted stage => exact orderly_inserted orderly stage
  | aborted stage => exact orderly_aborted orderly stage
  | lagged running behind =>
      have near := orderly.caughtUp _ _ _ (.task running)
      omega
  | taken running idle waiting =>
      refine orderly.setTask running (fun free => ?_) (Nat.le_succ _) rfl sound
      omega
  | sent running holding _ =>
      refine orderly.setTask running (fun free => ?_) (Nat.le_refl _) rfl sound
      rw [holding] at free
      cases free.1
  | dropped running aborted =>
      rename_i seq task
      refine orderly.narrow sound (fun a n h receives => ?_) rfl (fun last ends => ?_) orderly.named
      · cases receives with
        | received stage => exact ⟨n, none, .received stage, Nat.le_refl _, id⟩
        | task there => exact ⟨_, _, .task (Table.lookup_of_lookup_erase there).2, Nat.le_refl _, id⟩
      · rcases orderly.last last ends with stage | ⟨current, there, unaborted⟩
        · exact Or.inl stage
        · have apart : last ≠ seq := by
            rintro rfl
            rw [not_aborted_of_last orderly running ends] at aborted
            cases aborted
          exact Or.inr ⟨current, (AList.lookup_erase_ne apart).trans there, unaborted⟩
  | written =>
      refine orderly.narrow sound (fun a n h receives => ?_) rfl orderly.last orderly.named
      cases receives with
      | received stage => exact ⟨n, none, .received stage, Nat.le_refl _, id⟩
      | task there => exact ⟨_, _, .task there, Nat.le_refl _, id⟩

theorem clear_of_goesOn {e : SubEvent α} (goesOn : GoesOn e) : Clear r e := by
  cases e with
  | publish | subscribe => cases goesOn
  | _ => trivial

theorem staysSeamless_of_orderly (orderly : Orderly r) : StaysSeamless r := by
  intro es r' own reached
  have clear : step.Meets Clear r es := Step.meets_of_forall (fun e member s => clear_of_goesOn (own e member)) r
  exact seamless_of_sound
    (Step.run_invariant_of_meets (fun _ _ _ => orderly_step) reached orderly clear).sound

end

section
variable {r r' : KeyRelay α} {seq next first : Nat} {hand : Option Nat} {task : Forwarder}

theorem first_le (sound : Sound r) (head : r.attached[0]? = some first) {i : Nat} (owns : Owns r.attached seq i) :
    first ≤ i := by
  obtain ⟨⟨start, own, since⟩, _⟩ := owns
  obtain ⟨inside, value⟩ := List.getElem?_eq_some_iff.mp own
  obtain ⟨zero, value'⟩ := List.getElem?_eq_some_iff.mp head
  rcases Nat.eq_zero_or_pos seq with rfl | later
  · rw [head, Option.some.injEq] at own
    omega
  · have ordered := List.pairwise_iff_getElem.mp sound.sorted 0 seq zero inside later
    omega

theorem exists_first (nonempty : 0 < r.attached.length) : ∃ first, r.attached[0]? = some first :=
  ⟨_, List.getElem?_eq_getElem nonempty⟩

theorem exists_waiting (orderly : Orderly r) (receives : Receives r seq next hand)
    (waits : ¬ (hand = none ∧ next = r.published.length)) :
    ∃ i, Owns r.attached seq i ∧ i < r.published.length ∧ i ∉ r.put ∧ (hand = some i ∨ next ≤ i) := by
  obtain ⟨_, counted⟩ := last_of_waiting orderly receives waits
  have newest : ∀ i later, r.attached[seq + 1]? = some later → i < later := by
    intro i later found
    rw [List.getElem?_eq_none (Nat.le_of_eq counted.symm)] at found
    cases found
  cases receives with
  | received stage =>
      obtain ⟨own, _, unput⟩ := orderly.sound.waiting seq next stage
      have bound := orderly.sound.bounded next (List.mem_of_getElem? own)
      have owns : Owns r.attached seq next := ⟨⟨next, own, Nat.le_refl _⟩, newest next⟩
      have behind : next ≠ r.published.length := fun same => waits ⟨rfl, same⟩
      exact ⟨next, owns, by omega, unput next owns, Or.inr (Nat.le_refl _)⟩
  | task running =>
      rename_i task
      have working := orderly.sound.working seq task running
      obtain ⟨start, own, began, held⟩ := working.began
      cases holding : task.inFlight with
      | some i =>
          have owns : Owns r.attached seq i := ⟨⟨start, own, held i holding⟩, newest i⟩
          have before := working.holding i holding
          have within := working.within
          exact ⟨i, owns, by omega, fun member => ((working.put i owns).mp member).2 holding, Or.inl rfl⟩
      | none =>
          have owns : Owns r.attached seq task.next := ⟨⟨start, own, began⟩, newest task.next⟩
          have within := working.within
          have behind : task.next ≠ r.published.length := fun same => waits ⟨holding, same⟩
          refine ⟨task.next, owns, by omega, fun member => ?_, Or.inr (Nat.le_refl _)⟩
          exact absurd ((working.put _ owns).mp member).1 (Nat.lt_irrefl _)

theorem not_seamless_of_lost {i : Nat} (head : r.attached[0]? = some first) (since : first ≤ i)
    (sent : i < r.published.length) (unput : i ∉ r.put)
    (nobody : ∀ a n h, Receives r a n h → ¬ (h = some i ∨ n ≤ i)) : ¬ Seamless r := by
  intro seamless
  rcases (seamless first i head since sent).2 with ⟨a, n, h, receives, waits⟩ | once
  · exact nobody a n h receives waits
  · rw [List.count_eq_zero_of_not_mem unput] at once
    cases once

theorem drained_of_stays (orderly : Orderly r) (idle : r.stage = none) (stays : StaysSeamless { r with
      attached := r.attached ++ [r.published.length]
      stage := some (.received r.attached.length r.published.length) }) : Drained r := by
  intro seq next hand receives
  by_contra waits
  obtain ⟨alone, counted⟩ := last_of_waiting orderly receives waits
  obtain ⟨i, owns, sent, unput, held⟩ := exists_waiting orderly receives waits
  obtain ⟨first, head⟩ := exists_first (r := r) (by omega)
  cases receives with
  | received stage =>
      rw [idle] at stage
      cases stage
  | task running =>
      rename_i task
      have named := orderly.named
      rw [Named, idle, ← counted] at named
      have older : ∀ b task', AList.lookup b r.tasks = some task' → b = seq := fun b task' there =>
        alone b _ _ seq _ _ (.task there) (.task running)
      let spawned := AList.insert r.attached.length ⟨r.published.length, none, false⟩ r.tasks
      let marked := Table.adjust seq (fun task => { task with aborted := true }) spawned
      have aborted : AList.lookup seq marked = some { task with aborted := true } := by
        rw [Table.lookup_adjust, AList.lookup_insert_ne (by omega), running]
        rfl
      have replaced : step { r.setTask r.attached.length ⟨r.published.length, none, false⟩ with
          attached := r.attached ++ [r.published.length]
          stage := some (.spawned r.attached.length) } .insert = some { r with
            attached := r.attached ++ [r.published.length]
            stage := some (.replaced seq)
            relayTask := some r.attached.length
            tasks := spawned } := by
        have old : r.relayTask.map SubStage.replaced = some (.replaced seq) := congrArg _ named
        simp only [step, insertStep, KeyRelay.setTask, old, spawned]
      have dropped : step { r with
          attached := r.attached ++ [r.published.length]
          stage := none
          relayTask := some r.attached.length
          tasks := marked } (.taskDrop seq) = some { r with
            attached := r.attached ++ [r.published.length]
            stage := none
            relayTask := some r.attached.length
            tasks := AList.erase seq marked } := by
        simp only [step, taskDropStep, aborted, Option.bind_some, if_true, KeyRelay.dropTask]
      have reached : step.run { r with
          attached := r.attached ++ [r.published.length]
          stage := some (.received r.attached.length r.published.length) }
          [.spawn, .insert, .abort, .taskDrop seq] = some { r with
            attached := r.attached ++ [r.published.length]
            stage := none
            relayTask := some r.attached.length
            tasks := AList.erase seq marked } :=
        Step.run_cons_iff.mpr ⟨_, rfl, Step.run_cons_iff.mpr ⟨_, replaced,
          Step.run_cons_iff.mpr ⟨_, rfl, Step.run_cons_iff.mpr ⟨_, dropped, rfl⟩⟩⟩⟩
      have goOn : ∀ e ∈ ([.spawn, .insert, .abort, .taskDrop seq] : List (SubEvent α)), GoesOn e := by
        simp only [List.forall_mem_cons]
        exact ⟨trivial, trivial, trivial, trivial, fun e member => absurd member List.not_mem_nil⟩
      have since := first_le orderly.sound head owns
      refine not_seamless_of_lost (r := { r with
        attached := r.attached ++ [r.published.length]
        stage := none
        relayTask := some r.attached.length
        tasks := AList.erase seq marked }) ?_ since sent unput ?_ (stays _ _ goOn reached)
      · exact (List.getElem?_append_left (List.getElem?_eq_some_iff.mp head).1).trans head
      · intro a n h receives
        cases receives with
        | received stage => cases stage
        | task there =>
            obtain ⟨apart, there⟩ := Table.lookup_of_lookup_erase there
            rw [Table.lookup_adjust_ne _ _ apart] at there
            by_cases newest : a = r.attached.length
            · subst newest
              obtain rfl := Option.some.inj ((AList.lookup_insert r.tasks).symm.trans there)
              rintro (held | behind)
              · cases held
              · exact absurd sent (Nat.not_lt.mpr behind)
            · rw [AList.lookup_insert_ne newest] at there
              exact absurd (older a _ there) apart

structure Ready (r s : KeyRelay α) : Prop where
  published : s.published = r.published
  attached : s.attached = r.attached
  put : s.put = r.put
  outQueue : s.outQueue = []
  spawned : ∀ seq next, s.stage ≠ some (.received seq next)
  receives : ∀ seq next hand, Receives r seq next hand ↔ Receives s seq next hand

theorem run_writeOut (r : KeyRelay α) :
    step.run r (List.replicate r.outQueue.length .writeOut) = some { r with outQueue := [] } := by
  induction queued : r.outQueue generalizing r with
  | nil =>
      rw [show { r with outQueue := [] } = r by rw [← queued]]
      rfl
  | cons m rest ih =>
      have taken : step r .writeOut = some { r with outQueue := rest } := by
        simp only [step, queued]
      exact Step.run_cons_iff.mpr ⟨_, taken, ih { r with outQueue := rest } rfl⟩

theorem exists_ready (r : KeyRelay α)
    (absent : ∀ seq next, r.stage = some (.received seq next) → AList.lookup seq r.tasks = none) :
    ∃ es s, (∀ e ∈ es, GoesOn e) ∧ step.run r es = some s ∧ Ready r s := by
  by_cases waiting : ∃ seq next, r.stage = some (.received seq next)
  · obtain ⟨seq, next, stage⟩ := waiting
    have taken : step r .spawn = some { r.setTask seq ⟨next, none, false⟩ with stage := some (.spawned seq) } := by
      simp only [step, spawnStep, stage]
    refine ⟨.spawn :: List.replicate r.outQueue.length .writeOut, _, ?_, Step.run_cons_iff.mpr
      ⟨_, taken, run_writeOut { r.setTask seq ⟨next, none, false⟩ with stage := some (.spawned seq) }⟩, ?_⟩
    · intro e member
      rcases List.mem_cons.mp member with rfl | later
      · trivial
      · rw [List.eq_of_mem_replicate later]
        trivial
    · refine ⟨rfl, rfl, rfl, rfl, fun q n other => (by cases other), fun q n h => ⟨fun receives => ?_,
        fun receives => ?_⟩⟩
      · cases receives with
        | received other =>
            obtain ⟨rfl, rfl⟩ := SubStage.received.inj (Option.some.inj (stage.symm.trans other))
            exact Receives.task (r := { r.setTask seq ⟨next, none, false⟩ with stage := some (.spawned seq), outQueue := [] })
              (AList.lookup_insert r.tasks)
        | task running =>
            have apart : q ≠ seq := by
              rintro rfl
              rw [absent q next stage] at running
              cases running
            exact .task ((AList.lookup_insert_ne apart).trans running)
      · cases receives with
        | received other => cases other
        | task running =>
            by_cases own : q = seq
            · subst own
              obtain rfl := Option.some.inj ((AList.lookup_insert r.tasks).symm.trans running)
              exact .received stage
            · exact .task ((AList.lookup_insert_ne own).symm.trans running)
  · refine ⟨List.replicate r.outQueue.length .writeOut, _, ?_, run_writeOut r, ?_⟩
    · intro e member
      rw [List.eq_of_mem_replicate member]
      trivial
    · refine ⟨rfl, rfl, rfl, rfl, fun q n other => waiting ⟨q, n, other⟩, fun q n h => ⟨fun receives => ?_,
        fun receives => ?_⟩⟩
      · cases receives with
        | received stage => exact .received stage
        | task running => exact .task running
      · cases receives with
        | received stage => exact .received stage
        | task running => exact .task running

theorem Ready.running {s : KeyRelay α} (ready : Ready r s) (receives : Receives r seq next hand) :
    ∃ task, AList.lookup seq s.tasks = some task ∧ task.next = next ∧ task.inFlight = hand := by
  have there := (ready.receives seq next hand).mp receives
  cases there with
  | received stage => exact absurd stage (ready.spawned _ _)
  | task running => exact ⟨_, running, rfl, rfl⟩

theorem step_send {i : Nat} {m : α} (running : AList.lookup seq r.tasks = some task) (holding : task.inFlight = some i)
    (found : r.published[i]? = some m) (room : r.outQueue.length < relayBuffer) :
    step r (.send seq) = some { r.setTask seq { task with inFlight := none } with
      outQueue := r.outQueue ++ [m]
      put := r.put ++ [i] } := by
  simp only [step, sendStep, running, Option.bind_some, holding, found, if_pos room]

theorem run_forward {i : Nat} {m : α} (running : AList.lookup seq r.tasks = some task) (idle : task.inFlight = none)
    (next : task.next = i) (found : r.published[i]? = some m) (near : r.published.length ≤ i + channelCapacity)
    (room : r.outQueue.length < relayBuffer) : ∃ s, step.run r [.recv seq, .send seq] = some s ∧
      s.published = r.published ∧ s.attached = r.attached ∧ s.put = r.put ++ [i] ∧ s.outQueue = r.outQueue ++ [m] ∧
      ∀ other, other ≠ seq → AList.lookup other s.tasks = AList.lookup other r.tasks := by
  subst next
  have inside := (List.getElem?_eq_some_iff.mp found).1
  have taken : step r (.recv seq) =
      some (r.setTask seq { task with next := task.next + 1, inFlight := some task.next }) := by
    simp only [step, recvStep, running, Option.bind_some, idle, Option.isSome_none, Bool.false_eq_true, if_false]
    rw [if_neg (by omega), if_pos inside]
  have sent := step_send (r := r.setTask seq { task with next := task.next + 1, inFlight := some task.next })
    (AList.lookup_insert r.tasks) rfl found room
  refine ⟨_, Step.run_cons_iff.mpr ⟨_, taken, Step.run_cons_iff.mpr ⟨_, sent, rfl⟩⟩, rfl, rfl, rfl, rfl, ?_⟩
  intro other apart
  exact (AList.lookup_insert_ne apart).trans (AList.lookup_insert_ne apart)

theorem alone_of_stays (orderly : Orderly r) {m : α}
    (stays : StaysSeamless { r with published := r.published ++ [m] }) : Alone r := by
  intro a n h b k l first second
  by_contra apart
  have drained : Drained r := orderly.quiet.resolve_left fun alone => apart (alone a n h b k l first second)
  obtain ⟨rfl, rfl⟩ := drained a n h first
  obtain ⟨rfl, rfl⟩ := drained b k l second
  obtain ⟨es, s, goOn, reached, ready⟩ := exists_ready { r with published := r.published ++ [m] }
    fun seq next stage => (orderly.sound.waiting seq next stage).2.1
  obtain ⟨task, running, next, idle⟩ := ready.running ((receives_published m).mpr first)
  obtain ⟨task', running', next', idle'⟩ := ready.running ((receives_published m).mpr second)
  have published : s.published = r.published ++ [m] := ready.published
  have found : s.published[r.published.length]? = some m := by rw [published, List.getElem?_concat_length]
  have near : s.published.length ≤ r.published.length + channelCapacity := by
    rw [published, List.length_append, List.length_singleton]
    exact Nat.add_le_add_left (by decide) _
  obtain ⟨t, forwarded, grown, attached, put, queued, others⟩ := run_forward running idle next found near
    (by rw [ready.outQueue]; exact Nat.zero_lt_succ _)
  obtain ⟨u, forwarded', grown', attached', put', _⟩ := run_forward ((others b (Ne.symm apart)).trans running') idle'
    next' (grown ▸ found) (grown ▸ near) (by rw [queued, ready.outQueue]; exact Nat.succ_lt_succ (Nat.zero_lt_succ _))
  have seamless : Seamless u := by
    refine stays (es ++ [.recv a, .send a] ++ [.recv b, .send b]) u (fun e member => ?_)
      (Step.run_append_iff.mpr ⟨t, Step.run_append_iff.mpr ⟨s, reached, forwarded⟩, forwarded'⟩)
    rcases List.mem_append.mp member with earlier | last
    · rcases List.mem_append.mp earlier with before | middle
      · exact goOn e before
      · rcases List.mem_pair.mp middle with rfl | rfl <;> trivial
    · rcases List.mem_pair.mp last with rfl | rfl <;> trivial
  have inside := attached_of_receives orderly.sound first
  obtain ⟨start, head⟩ := exists_first (r := r) (by omega)
  have bound := orderly.sound.bounded start (List.mem_of_getElem? head)
  have kept : u.attached[0]? = some start := by
    rw [attached', attached, ready.attached]
    exact head
  have length : r.published.length < u.published.length := by
    rw [grown', grown, published, List.length_append, List.length_singleton]
    exact Nat.lt_succ_self _
  have once := (seamless start r.published.length kept bound length).1
  rw [put', put, List.count_append, List.count_append, List.count_singleton_self] at once
  omega

theorem unput_next (orderly : Orderly r) (receives : Receives r seq next hand) (counted : seq + 1 = r.attached.length) :
    Owns r.attached seq next ∧ next ∉ r.put := by
  have owns : Owns r.attached seq next := by
    refine ⟨?_, fun later found => ?_⟩
    · cases receives with
      | received stage => exact ⟨next, (orderly.sound.waiting seq next stage).1, Nat.le_refl _⟩
      | task running =>
          obtain ⟨start, own, began, _⟩ := (orderly.sound.working seq _ running).began
          exact ⟨start, own, began⟩
    · rw [List.getElem?_eq_none (Nat.le_of_eq counted.symm)] at found
      cases found
  refine ⟨owns, ?_⟩
  cases receives with
  | received stage => exact (orderly.sound.waiting seq next stage).2.2 next owns
  | task running =>
      exact fun member => absurd (((orderly.sound.working seq _ running).put _ owns).mp member).1 (Nat.lt_irrefl _)

theorem step_lagged (running : AList.lookup seq r.tasks = some task) (idle : task.inFlight = none)
    (behind : channelCapacity < r.published.length - task.next) : step r (.recv seq) = some (r.dropTask seq) := by
  simp only [step, recvStep, running, Option.bind_some, idle, Option.isSome_none, Bool.false_eq_true, if_false,
    if_pos behind]

theorem not_seamless_dropTask (spawned : ∀ q n, r.stage ≠ some (.received q n))
    (only : ∀ q n h, Receives r q n h → q = seq) (head : r.attached[0]? = some first) (since : first ≤ next)
    (sent : next < r.published.length) (unput : next ∉ r.put) : ¬ Seamless (r.dropTask seq) := by
  refine not_seamless_of_lost (r := r.dropTask seq) head since sent unput fun q n h there => ?_
  cases there with
  | received stage => exact absurd stage (spawned _ _)
  | task running =>
      obtain ⟨apart, before⟩ := Table.lookup_of_lookup_erase running
      exact absurd (only q _ _ (.task before)) apart

theorem hasRoom_of_stays (orderly : Orderly r) {m : α} (alone : Alone r)
    (stays : StaysSeamless { r with published := r.published ++ [m] }) : HasRoom r := by
  intro seq next hand receives
  by_contra full
  have behind : r.published.length = next + channelCapacity :=
    Nat.le_antisymm (orderly.caughtUp seq next hand receives) (Nat.not_lt.mp full)
  have capacity : 0 < channelCapacity := by decide
  obtain ⟨_, counted⟩ := last_of_waiting orderly receives fun free => by omega
  obtain ⟨start, head⟩ := exists_first (r := r) (by omega)
  obtain ⟨owns, unput⟩ := unput_next orderly receives counted
  obtain ⟨es, s, goOn, reached, ready⟩ := exists_ready { r with published := r.published ++ [m] }
    fun seq next stage => (orderly.sound.waiting seq next stage).2.1
  have length : s.published.length = next + channelCapacity + 1 := by
    rw [ready.published, List.length_append, List.length_singleton, behind]
  have only : ∀ q n h, Receives s q n h → q = seq := fun q n h there =>
    alone q n h seq next hand ((receives_published m).mp ((ready.receives q n h).mpr there)) receives
  obtain ⟨task, running, same, holding⟩ := ready.running ((receives_published m).mpr receives)
  have put : s.put = r.put := ready.put
  have since := first_le orderly.sound head owns
  have kept : s.attached[0]? = some start := (congrArg (·[0]?) ready.attached).trans head
  cases hand with
  | none =>
      have lagging := step_lagged running holding (by omega)
      refine not_seamless_dropTask ready.spawned only kept since (by omega) (put ▸ unput)
        (stays (es ++ [.recv seq]) _ (fun e member => ?_) (Step.run_concat_iff.mpr ⟨s, reached, lagging⟩))
      rcases List.mem_append.mp member with before | last
      · exact goOn e before
      · rw [List.mem_singleton.mp last]
        trivial
  | some i =>
      have before : i + 1 = next := by
        generalize held : some i = hand at receives
        cases receives with
        | received stage => cases held
        | task running => exact (orderly.sound.working seq _ running).holding i held.symm
      have inside : i < s.published.length := by omega
      have sent := step_send running holding (List.getElem?_eq_getElem inside)
        (by rw [ready.outQueue]; exact Nat.zero_lt_succ _)
      obtain ⟨u, after⟩ : ∃ u, u = { s.setTask seq { task with inFlight := none } with
        outQueue := s.outQueue ++ [s.published[i]]
        put := s.put ++ [i] } := ⟨_, rfl⟩
      rw [← after] at sent
      have freed : AList.lookup seq u.tasks = some { task with inFlight := none } := by
        rw [after]
        exact AList.lookup_insert s.tasks
      have published : u.published = s.published := by rw [after]; rfl
      have lagging := step_lagged freed rfl (by rw [published]; show channelCapacity < _ - task.next; omega)
      refine not_seamless_dropTask ?_ (fun q n h there => ?_) ?_ since (by rw [published]; omega) ?_
        (stays (es ++ [.send seq, .recv seq]) _ (fun e member => ?_)
          (Step.run_append_iff.mpr ⟨s, reached, Step.run_cons_iff.mpr ⟨_, sent, Step.run_cons_iff.mpr ⟨_, lagging, rfl⟩⟩⟩))
      · rw [after]
        exact ready.spawned
      · rw [after] at there
        by_contra apart
        cases there with
        | received stage => exact absurd stage (ready.spawned _ _)
        | task other => exact apart (only q _ _ (.task ((AList.lookup_insert_ne apart).symm.trans other)))
      · rw [after]
        exact kept
      · rw [after]
        show next ∉ s.put ++ [i]
        rw [put, List.mem_append, List.mem_singleton, not_or]
        exact ⟨unput, by omega⟩
      · rcases List.mem_append.mp member with before | last
        · exact goOn e before
        · rcases List.mem_pair.mp last with rfl | rfl <;> trivial

end

/-- A SUB or a publish meets the condition exactly if, whatever the connection, its relay tasks and the writer do
next, every frame is forwarded once: the old task may neither be cut off nor forward with the new one. -/
theorem seamless_iff_clear {es : List (SubEvent α)} {r : KeyRelay α} (reached : step.run KeyRelay.new es = some r) :
    step.Throughout StaysSeamless KeyRelay.new es ↔ step.Meets Clear KeyRelay.new es := by
  refine (Step.meets_iff_throughout_of_kept (I := Orderly) (fun _ _ _ => orderly_step)
    (fun _ => staysSeamless_of_orderly) (fun s e t orderly taken stays => ?_) reached orderly_new).symm
  cases step_cases taken with
  | published =>
      have alone := alone_of_stays orderly stays
      exact ⟨alone, hasRoom_of_stays orderly alone stays⟩
  | subscribed idle => exact drained_of_stays orderly idle stays
  | _ => trivial

section Sample

def firstSub : List (SubEvent Nat) := [.subscribe, .spawn, .insert]

def secondSub : List (SubEvent Nat) := [.subscribe, .spawn, .insert, .abort]

theorem receives_single {r : KeyRelay Nat} (seq : Nat) (task : Forwarder) {a n : Nat} {h : Option Nat}
    (idle : r.stage = none) (tasks : r.tasks = AList.insert seq task ∅) (receives : Receives r a n h) :
    a = seq ∧ n = task.next ∧ h = task.inFlight := by
  cases receives with
  | received stage =>
      rw [idle] at stage
      cases stage
  | task running =>
      rw [tasks] at running
      by_cases own : a = seq
      · subst own
        obtain rfl := Option.some.inj ((AList.lookup_insert ∅).symm.trans running)
        exact ⟨rfl, rfl, rfl⟩
      · rw [AList.lookup_insert_ne own] at running
        cases running

theorem clear_publish {r : KeyRelay Nat} {m : Nat} (seq : Nat) (task : Forwarder) (idle : r.stage = none)
    (tasks : r.tasks = AList.insert seq task ∅) (few : r.published.length ≤ 1) : Clear r (.publish m) := by
  refine ⟨fun a n h b k l first second => ?_, fun a n h receives => ?_⟩
  · rw [(receives_single seq task idle tasks first).1, (receives_single seq task idle tasks second).1]
  · have capacity : 1 < channelCapacity := by decide
    omega

def inTurn : List (SubEvent Nat) :=
  firstSub ++ [.publish 5, .recv 0, .send 0] ++ secondSub ++ [.taskDrop 0, .publish 6, .recv 1, .send 1]

def handedOver : KeyRelay Nat :=
  ⟨[5, 6], [0, 1], none, some 1, AList.insert 1 ⟨2, none, false⟩ ∅, [5, 6], [0, 1]⟩

theorem run_inTurn : step.run KeyRelay.new inTurn = some handedOver := rfl

theorem seamless_inTurn : step.Throughout StaysSeamless KeyRelay.new inTurn := by
  refine (seamless_iff_clear run_inTurn).mpr ?_
  refine Step.meets_cons (fun a n h receives => ?_) rfl (Step.meets_cons trivial rfl (Step.meets_cons trivial rfl ?_))
  · cases receives with
    | received stage => cases stage
    | task running => cases running
  refine Step.meets_cons (clear_publish 0 ⟨0, none, false⟩ rfl rfl (by decide)) rfl ?_
  refine Step.meets_cons trivial rfl (Step.meets_cons trivial rfl ?_)
  refine Step.meets_cons (fun a n h receives => ?_) rfl (Step.meets_cons trivial rfl (Step.meets_cons trivial rfl ?_))
  · obtain ⟨_, rfl, rfl⟩ := receives_single 0 ⟨1, none, false⟩ rfl rfl receives
    exact ⟨rfl, rfl⟩
  refine Step.meets_cons trivial rfl (Step.meets_cons trivial rfl ?_)
  refine Step.meets_cons (clear_publish 1 ⟨1, none, false⟩ rfl rfl (by decide)) rfl ?_
  exact Step.meets_cons trivial rfl (Step.meets_cons trivial rfl trivial)

def cutOff : List (SubEvent Nat) := firstSub ++ [.publish 5] ++ secondSub ++ [.taskDrop 0]

theorem not_seamless_cutOff :
    ¬ ∀ (es : List (SubEvent Nat)) (r : KeyRelay Nat), step.run KeyRelay.new es = some r →
      Seamless r := by
  intro claim
  obtain ⟨_, pending | once⟩ := claim cutOff ⟨[5], [0, 1], none, some 1,
    AList.insert 1 ⟨1, none, false⟩ ∅, [], []⟩ rfl 0 0 rfl (Nat.le_refl 0) (by decide)
  · obtain ⟨a, n, h, receives, waits⟩ := pending
    obtain ⟨_, rfl, rfl⟩ := receives_single 1 _ rfl rfl receives
    rcases waits with held | behind
    · cases held
    · exact absurd behind (by decide)
  · exact absurd once (by decide)

example : (step.run KeyRelay.new (firstSub ++ [.subscribe, .publish 5, .recv 0, .send 0, .spawn,
    .insert, .recv 1, .send 1, .abort])).map KeyRelay.put = some [0, 0] := by decide

end Sample

end RealtimePlatform.Proof.Resubscription
